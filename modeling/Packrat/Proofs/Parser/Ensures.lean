import Packrat.Parser.Position
import Packrat.Parser.Primitive
import Packrat.Parser.Repetition

/-! What a parser ensures: in every session with an invariant it answers as a condition says, and
keeps the invariant. One rule for every way parsers are put together. -/

namespace Packrat

def Reply.map {σ ε α β : Type} (f : α → β) : Reply σ ε α → Reply σ ε β
  | .done value rest => .done (f value) rest
  | .fail error => .fail error
  | .halt cause => .halt cause

namespace Parser

variable {ι δ : Type} {M : Memory} {ε ε' α β γ : Type}

/-- In every session with the invariant the parser's reply at the cursor satisfies the condition,
and the session it leaves has the invariant. -/
def Ensures (invariant : Session ι δ M → Prop) (parser : Parser ι δ M ε α) (cursor : Cursor ι δ)
    (post : Reply (Cursor ι δ) ε α → Prop) : Prop :=
  ∀ session, invariant session →
    post (parser cursor session).1 ∧ invariant (parser cursor session).2

/-- The parser gives one and the same reply in every session with the invariant. -/
abbrev Answers (invariant : Session ι δ M → Prop) (parser : Parser ι δ M ε α)
    (cursor : Cursor ι δ) (reply : Reply (Cursor ι δ) ε α) : Prop :=
  Ensures invariant parser cursor (· = reply)

/-- The parser fails in every session with the invariant, whatever the error. -/
abbrev Fails (invariant : Session ι δ M → Prop) (parser : Parser ι δ M ε α)
    (cursor : Cursor ι δ) : Prop :=
  Ensures invariant parser cursor fun reply => ∃ error, reply = .fail error

variable {invariant : Session ι δ M → Prop} {cursor : Cursor ι δ}

theorem Ensures.weaken {parser : Parser ι δ M ε α} {post post' : Reply (Cursor ι δ) ε α → Prop}
    (ensured : Ensures invariant parser cursor post) (implies : ∀ reply, post reply → post' reply) :
    Ensures invariant parser cursor post' := fun session holds =>
  have ⟨reply, kept⟩ := ensured session holds
  ⟨implies _ reply, kept⟩

theorem ensures_constant {value : α} {post : Reply (Cursor ι δ) ε α → Prop}
    (holds : post (.done value cursor)) : Ensures invariant (constant value) cursor post :=
  fun _ kept => ⟨holds, kept⟩

theorem ensures_failWith {error : ε} {post : Reply (Cursor ι δ) ε α → Prop}
    (holds : post (.fail error)) : Ensures invariant (failWith error) cursor post :=
  fun _ kept => ⟨holds, kept⟩

theorem Ensures.handle {parser : Parser ι δ M ε α} {onValue : α → Parser ι δ M ε' β}
    {onError : ε → Parser ι δ M ε' β} {mid : Reply (Cursor ι δ) ε α → Prop}
    {post : Reply (Cursor ι δ) ε' β → Prop} (first : Ensures invariant parser cursor mid)
    (value : ∀ v rest, mid (.done v rest) → Ensures invariant (onValue v) rest post)
    (error : ∀ e, mid (.fail e) → Ensures invariant (onError e) cursor post)
    (broken : ∀ cause, mid (.halt cause) → post (.halt cause)) :
    Ensures invariant (parser.handle onValue onError) cursor post := by
  intro session holds
  obtain ⟨reply, kept⟩ := first session holds
  unfold Parser.handle
  rcases answer : parser cursor session with ⟨v, rest⟩ | e | cause <;>
    simp only [answer] at reply kept ⊢
  · exact value v rest reply _ kept
  · exact error e reply _ kept
  · exact ⟨broken cause reply, kept⟩

theorem Ensures.inspect {parser : Parser ι δ M ε α} {next : α → Parser ι δ M ε β}
    {mid : Reply (Cursor ι δ) ε α → Prop} {post : Reply (Cursor ι δ) ε β → Prop}
    (first : Ensures invariant parser cursor mid)
    (value : ∀ v rest, mid (.done v rest) → Ensures invariant (next v) rest post)
    (error : ∀ e, mid (.fail e) → post (.fail e))
    (broken : ∀ cause, mid (.halt cause) → post (.halt cause)) :
    Ensures invariant (parser.inspect next) cursor post :=
  first.handle value (fun e holds => ensures_failWith (error e holds)) broken

theorem Ensures.map {parser : Parser ι δ M ε α} {f : α → β}
    {post : Reply (Cursor ι δ) ε β → Prop}
    (first : Ensures invariant parser cursor fun reply => post (reply.map f)) :
    Ensures invariant (parser.map f) cursor post :=
  first.inspect (fun _ _ holds => ensures_constant holds) (fun _ => id) fun _ => id

theorem Ensures.located {parser : Nat → Parser ι δ M ε α}
    {post : Reply (Cursor ι δ) ε α → Prop}
    (ensured : Ensures invariant (parser cursor.position) cursor post) :
    Ensures invariant (located parser) cursor post := ensured

theorem Ensures.peek {parser : Parser ι δ M ε α} {mid post : Reply (Cursor ι δ) ε α → Prop}
    (first : Ensures invariant parser cursor mid)
    (value : ∀ v rest, mid (.done v rest) → post (.done v cursor))
    (error : ∀ e, mid (.fail e) → post (.fail e))
    (broken : ∀ cause, mid (.halt cause) → post (.halt cause)) :
    Ensures invariant parser.peek cursor post := by
  intro session holds
  obtain ⟨reply, kept⟩ := first session holds
  unfold Parser.peek
  rcases answer : parser cursor session with ⟨v, rest⟩ | e | cause <;>
    simp only [answer] at reply kept ⊢
  · exact ⟨value v rest reply, kept⟩
  · exact ⟨error e reply, kept⟩
  · exact ⟨broken cause reply, kept⟩

theorem Ensures.token {parser : Parser ι δ M ε α} {onValue : α → Nat → Nat → β}
    {onError : ε → Nat → ε'} {mid : Reply (Cursor ι δ) ε α → Prop}
    {post : Reply (Cursor ι δ) ε' β → Prop} (first : Ensures invariant parser cursor mid)
    (value : ∀ v rest, mid (.done v rest) →
      post (.done (onValue v cursor.position rest.position) rest))
    (error : ∀ e, mid (.fail e) → post (.fail (onError e cursor.position)))
    (broken : ∀ cause, mid (.halt cause) → post (.halt cause)) :
    Ensures invariant (parser.token onValue onError) cursor post :=
  Ensures.located (first.handle
    (fun v rest holds => Ensures.located (ensures_constant (value v rest holds)))
    (fun e holds => ensures_failWith (error e holds)) broken)

/-! Parsers with one reply. -/

section Answers

variable {parser : Parser ι δ M ε α} {rest : Cursor ι δ} {value : α} {error : ε}

theorem Answers.handle_done {onValue : α → Parser ι δ M ε' β} {onError : ε → Parser ι δ M ε' β}
    {post : Reply (Cursor ι δ) ε' β → Prop}
    (first : Answers invariant parser cursor (.done value rest))
    (next : Ensures invariant (onValue value) rest post) :
    Ensures invariant (parser.handle onValue onError) cursor post :=
  first.handle (fun _ _ same => by cases same; exact next) nofun nofun

theorem Answers.handle_fail {onValue : α → Parser ι δ M ε' β} {onError : ε → Parser ι δ M ε' β}
    {post : Reply (Cursor ι δ) ε' β → Prop} (first : Answers invariant parser cursor (.fail error))
    (next : Ensures invariant (onError error) cursor post) :
    Ensures invariant (parser.handle onValue onError) cursor post :=
  first.handle nofun (fun _ same => by cases same; exact next) nofun

theorem Answers.inspect_done {next : α → Parser ι δ M ε β} {post : Reply (Cursor ι δ) ε β → Prop}
    (first : Answers invariant parser cursor (.done value rest))
    (then_ : Ensures invariant (next value) rest post) :
    Ensures invariant (parser.inspect next) cursor post :=
  first.handle_done then_

theorem Answers.inspect_fail {next : α → Parser ι δ M ε β}
    (first : Answers invariant parser cursor (.fail error)) :
    Answers invariant (parser.inspect next) cursor (.fail error) :=
  first.handle_fail (ensures_failWith rfl)

theorem Answers.map_done {f : α → β} (first : Answers invariant parser cursor (.done value rest)) :
    Answers invariant (parser.map f) cursor (.done (f value) rest) :=
  first.inspect_done (ensures_constant rfl)

theorem Answers.token_done {onValue : α → Nat → Nat → β} {onError : ε → Nat → ε'}
    (first : Answers invariant parser cursor (.done value rest)) :
    Answers invariant (parser.token onValue onError) cursor
      (.done (onValue value cursor.position rest.position) rest) :=
  Ensures.token first (fun _ _ same => by cases same; rfl) nofun nofun

theorem Answers.peek_done (first : Answers invariant parser cursor (.done value rest)) :
    Answers invariant parser.peek cursor (.done value cursor) :=
  Ensures.peek first (fun _ _ same => by cases same; rfl) nofun nofun

theorem Answers.peek_fail (first : Answers invariant parser cursor (.fail error)) :
    Answers invariant parser.peek cursor (.fail error) :=
  Ensures.peek first nofun (fun _ same => by cases same; rfl) nofun

theorem Answers.fails (first : Answers invariant parser cursor (.fail error)) :
    Fails invariant parser cursor :=
  Ensures.weaken first fun _ same => ⟨error, same⟩

end Answers

/-! Parsers that fail. -/

section Fails

variable {parser : Parser ι δ M ε α} (fails : Fails invariant parser cursor)
include fails

theorem Fails.handle {onValue : α → Parser ι δ M ε' β} {onError : ε → Parser ι δ M ε' β}
    {post : Reply (Cursor ι δ) ε' β → Prop}
    (next : ∀ error, Ensures invariant (onError error) cursor post) :
    Ensures invariant (parser.handle onValue onError) cursor post :=
  Ensures.handle fails nofun (fun error _ => next error) nofun

theorem Fails.inspect {next : α → Parser ι δ M ε β} : Fails invariant (parser.inspect next) cursor :=
  Fails.handle fails fun error => ensures_failWith ⟨error, rfl⟩

theorem Fails.token {onValue : α → Nat → Nat → β} {error : Nat → ε'} :
    Answers invariant (parser.token onValue fun _ start => error start) cursor
      (.fail (error cursor.position)) :=
  Ensures.token fails nofun (fun _ _ => rfl) nofun

end Fails

/-! Loops. The budget of a loop is what the session has room for, so a loop that goes on elsewhere
is the loop that starts there: a larger budget does not change a loop that ends. -/

theorem loop_of_le {onStall : Option (Nat → Event)} {round : Parser ι δ M ε (Option α)}
    {budget larger : Nat} (enough : budget ≤ larger) {session : Session ι δ M}
    (ends : (loop onStall round budget cursor session).1 ≠ .halt .exhausted) :
    loop onStall round larger cursor session = loop onStall round budget cursor session := by
  induction budget generalizing larger cursor session with
  | zero => exact absurd rfl ends
  | succ budget ih =>
    obtain ⟨larger, rfl⟩ : ∃ n, larger = n + 1 := ⟨larger - 1, by omega⟩
    simp only [loop] at ends ⊢
    rcases answer : round cursor session with ⟨⟨_ | value, rest⟩ | error | cause, session'⟩
    · rfl
    · simp only [answer] at ends ⊢
      split at ends
      · rename_i still
        simp only [if_pos still]
      · rename_i moved
        simp only [if_neg moved]
        have inner : (loop onStall round budget rest session').1 ≠ .halt .exhausted := by
          intro exhausted
          rcases looped : loop onStall round budget rest session' with ⟨reply, session''⟩
          simp only [looped] at exhausted ends
          subst exhausted
          exact ends rfl
        rw [ih (by omega) inner]
    · rfl
    · rfl

/-- A loop whose first round moves goes on as the loop that starts where the round ends. -/
theorem rounds_of_some {onStall : Option (Nat → Event)} {round : Parser ι δ M ε (Option α)}
    {value : α} {rest : Cursor ι δ} {session later : Session ι δ M}
    (first : round cursor session = (.done (some value) rest, later))
    (level : later.reach = session.reach) (moved : cursor.position < rest.position)
    (inside : rest.position ≤ session.reach)
    (ends : (rounds onStall round rest later).1 ≠ .halt .exhausted) :
    rounds onStall round cursor session =
      ((rounds onStall round rest later).1.map (value :: ·), (rounds onStall round rest later).2) := by
  have fewer : later.reach - rest.position + 1 ≤ session.reach - cursor.position := by omega
  have onward := loop_of_le fewer ends
  unfold rounds
  generalize loop onStall round (later.reach - rest.position + 1) rest later = result at onward ⊢
  simp only [loop, first, if_neg (Nat.ne_of_gt moved), onward]
  rcases result with ⟨⟨values, last⟩ | error | cause, final⟩ <;> rfl

theorem Ensures.rounds {onStall : Option (Nat → Event)} {round : Parser ι δ M ε (Option α)}
    {room : Nat} (roomy : ∀ session, invariant session → session.reach = room)
    {mid : Reply (Cursor ι δ) ε (Option α) → Prop} {post : Reply (Cursor ι δ) ε (List α) → Prop}
    (first : Ensures invariant round cursor mid)
    (finish : ∀ rest, mid (.done none rest) → post (.done [] rest))
    (step : ∀ v rest, mid (.done (some v) rest) →
      cursor.position < rest.position ∧ rest.position ≤ room ∧
      Ensures invariant (Parser.rounds onStall round) rest fun reply =>
        reply ≠ .halt .exhausted ∧ post (reply.map (v :: ·)))
    (error : ∀ e, mid (.fail e) → post (.fail e))
    (broken : ∀ cause, mid (.halt cause) → post (.halt cause)) :
    Ensures invariant (Parser.rounds onStall round) cursor post := by
  intro session holds
  obtain ⟨reply, kept⟩ := first session holds
  rcases answer : round cursor session with ⟨⟨_ | v, rest⟩ | e | cause, session'⟩ <;>
    simp only [answer] at reply kept
  · simp only [Parser.rounds, loop, answer]
    exact ⟨finish rest reply, kept⟩
  · obtain ⟨moved, inside, onward⟩ := step v rest reply
    obtain ⟨⟨ends, holds'⟩, kept'⟩ := onward session' kept
    have level : session'.reach = session.reach := by rw [roomy session holds, roomy session' kept]
    rw [rounds_of_some answer level moved (by rwa [roomy session holds]) ends]
    exact ⟨holds', kept'⟩
  · simp only [Parser.rounds, loop, answer]
    exact ⟨error e reply, kept⟩
  · simp only [Parser.rounds, loop, answer]
    exact ⟨broken cause reply, kept⟩

end Parser

end Packrat
