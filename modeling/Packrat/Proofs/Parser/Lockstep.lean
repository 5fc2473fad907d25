import Packrat.Proofs.Parser.Ensures

/-! Two parsers in lockstep. Started on one cursor in sessions that a relation holds of, they reply
the same, and what holds of the sessions they leave is a matter of that reply. So the relation may
change on the way, other than in a coupling. One rule for every way parsers are put together. -/

namespace Packrat.Parser

variable {ι δ : Type} {M : Memory} {ε ε' α β : Type}

/-- From sessions as `before` says, both parsers reply the same at the cursor and leave sessions as
`after` says of the reply. -/
def Lockstep (before : Session ι δ M → Session ι δ M → Prop) (parser parser' : Parser ι δ M ε α)
    (cursor : Cursor ι δ) (after : Reply (Cursor ι δ) ε α → Session ι δ M → Session ι δ M → Prop) :
    Prop :=
  ∀ session session', before session session' →
    (parser cursor session).1 = (parser' cursor session').1 ∧
      after (parser cursor session).1 (parser cursor session).2 (parser' cursor session').2

/-- Where there is room for the text, the parser has this reply and leaves the session alone. -/
def Traceless (parser : Parser ι δ M ε α) (cursor : Cursor ι δ) (reply : Reply (Cursor ι δ) ε α) :
    Prop :=
  ∀ session, cursor.extent ≤ session.reach → parser cursor session = (reply, session)

variable {before : Session ι δ M → Session ι δ M → Prop} {cursor : Cursor ι δ}

theorem Lockstep.weaken {parser parser' : Parser ι δ M ε α}
    {after after' : Reply (Cursor ι δ) ε α → Session ι δ M → Session ι δ M → Prop}
    (lockstep : Lockstep before parser parser' cursor after)
    (implies : ∀ reply session session', after reply session session' →
      after' reply session session') : Lockstep before parser parser' cursor after' :=
  fun session session' holds =>
    have ⟨same, kept⟩ := lockstep session session' holds
    ⟨same, implies _ _ _ kept⟩

theorem Lockstep.of_and {fact : Prop} {parser parser' : Parser ι δ M ε α}
    {after : Reply (Cursor ι δ) ε α → Session ι δ M → Session ι δ M → Prop}
    (lockstep : fact → Lockstep before parser parser' cursor after) :
    Lockstep (fun session session' => fact ∧ before session session') parser parser' cursor after :=
  fun session session' holds => lockstep holds.1 session session' holds.2

theorem lockstep_constant {value : α}
    {after : Reply (Cursor ι δ) ε α → Session ι δ M → Session ι δ M → Prop}
    (implies : ∀ session session', before session session' →
      after (.done value cursor) session session') :
    Lockstep before (constant value) (constant value) cursor after :=
  fun session session' holds => ⟨rfl, implies session session' holds⟩

theorem lockstep_failWith {error : ε}
    {after : Reply (Cursor ι δ) ε α → Session ι δ M → Session ι δ M → Prop}
    (implies : ∀ session session', before session session' →
      after (.fail error) session session') :
    Lockstep before (failWith error) (failWith error) cursor after :=
  fun session session' holds => ⟨rfl, implies session session' holds⟩

section Handle

variable {parser parser' : Parser ι δ M ε α}
  {mid : Reply (Cursor ι δ) ε α → Session ι δ M → Session ι δ M → Prop}
  (first : Lockstep before parser parser' cursor mid)
include first

theorem Lockstep.handle {onValue onValue' : α → Parser ι δ M ε' β}
    {onError onError' : ε → Parser ι δ M ε' β}
    {after : Reply (Cursor ι δ) ε' β → Session ι δ M → Session ι δ M → Prop}
    (value : ∀ v rest, Lockstep (mid (.done v rest)) (onValue v) (onValue' v) rest after)
    (error : ∀ e, Lockstep (mid (.fail e)) (onError e) (onError' e) cursor after)
    (broken : ∀ cause session session', mid (.halt cause) session session' →
      after (.halt cause) session session') :
    Lockstep before (parser.handle onValue onError) (parser'.handle onValue' onError') cursor
      after := by
  intro session session' holds
  obtain ⟨same, kept⟩ := first session session' holds
  unfold Parser.handle
  rcases answer : parser cursor session with ⟨reply, later⟩
  rcases answer' : parser' cursor session' with ⟨reply', later'⟩
  simp only [answer, answer'] at same kept ⊢
  subst same
  rcases reply with ⟨v, rest⟩ | e | cause
  · exact value v rest later later' kept
  · exact error e later later' kept
  · exact ⟨rfl, broken cause later later' kept⟩

theorem Lockstep.inspect {next next' : α → Parser ι δ M ε β}
    {after : Reply (Cursor ι δ) ε β → Session ι δ M → Session ι δ M → Prop}
    (value : ∀ v rest, Lockstep (mid (.done v rest)) (next v) (next' v) rest after)
    (error : ∀ e session session', mid (.fail e) session session' →
      after (.fail e) session session')
    (broken : ∀ cause session session', mid (.halt cause) session session' →
      after (.halt cause) session session') :
    Lockstep before (parser.inspect next) (parser'.inspect next') cursor after :=
  first.handle value (fun e => lockstep_failWith (error e)) broken

omit first in
theorem Lockstep.map {f : α → β}
    {after : Reply (Cursor ι δ) ε β → Session ι δ M → Session ι δ M → Prop}
    (first : Lockstep before parser parser' cursor fun reply => after (reply.map f)) :
    Lockstep before (parser.map f) (parser'.map f) cursor after :=
  first.inspect (fun _ _ => lockstep_constant fun _ _ => id) (fun _ _ _ => id) fun _ _ _ => id

end Handle

/-! Parsers that leave no trace. -/

theorem traceless_of_answers {parser : Parser ι δ M ε α} {reply : Reply (Cursor ι δ) ε α}
    (answers : ∀ session, cursor.extent ≤ session.reach →
      Answers (fun later : Session ι δ M => later = session) parser cursor reply) :
    Traceless parser cursor reply := by
  intro session fits
  obtain ⟨same, kept⟩ := answers session fits session rfl
  exact Prod.ext same kept

theorem Traceless.peek_done {parser : Parser ι δ M ε α} {value : α} {rest : Cursor ι δ}
    (first : Traceless parser cursor (.done value rest)) :
    Traceless parser.peek cursor (.done value cursor) := fun session fits => by
  simp only [Parser.peek, first session fits]

theorem Traceless.peek_fail {parser : Parser ι δ M ε α} {error : ε}
    (first : Traceless parser cursor (.fail error)) :
    Traceless parser.peek cursor (.fail error) := fun session fits => by
  simp only [Parser.peek, first session fits]

section Traceless

variable {parser : Parser ι δ M ε α} {onValue onValue' : α → Parser ι δ M ε' β}
  {onError onError' : ε → Parser ι δ M ε' β}
  {after : Reply (Cursor ι δ) ε' β → Session ι δ M → Session ι δ M → Prop}
  (roomy : ∀ session session', before session session' →
    cursor.extent ≤ session.reach ∧ cursor.extent ≤ session'.reach)
include roomy

theorem Traceless.handle_done {value : α} {rest : Cursor ι δ}
    (first : Traceless parser cursor (.done value rest))
    (next : Lockstep before (onValue value) (onValue' value) rest after) :
    Lockstep before (parser.handle onValue onError) (parser.handle onValue' onError') cursor
      after := by
  intro session session' holds
  obtain ⟨fits, fits'⟩ := roomy session session' holds
  simp only [Parser.handle, first session fits, first session' fits']
  exact next session session' holds

theorem Traceless.handle_fail {error : ε} (first : Traceless parser cursor (.fail error))
    (next : Lockstep before (onError error) (onError' error) cursor after) :
    Lockstep before (parser.handle onValue onError) (parser.handle onValue' onError') cursor
      after := by
  intro session session' holds
  obtain ⟨fits, fits'⟩ := roomy session session' holds
  simp only [Parser.handle, first session fits, first session' fits']
  exact next session session' holds

theorem Traceless.lockstep {reply : Reply (Cursor ι δ) ε α}
    {after : Reply (Cursor ι δ) ε α → Session ι δ M → Session ι δ M → Prop}
    (traceless : Traceless parser cursor reply)
    (implies : ∀ session session', before session session' → after reply session session') :
    Lockstep before parser parser cursor after := by
  intro session session' holds
  obtain ⟨fits, fits'⟩ := roomy session session' holds
  rw [traceless session fits, traceless session' fits']
  exact ⟨rfl, implies session session' holds⟩

end Traceless

/-! Loops. -/

/-- Two loops stay in lockstep if their rounds do, they have the same room, and they go on in
lockstep where a round has moved. -/
theorem Lockstep.rounds {onStall : Option (Nat → Event)}
    {round round' : Parser ι δ M ε (Option α)} {room : Nat}
    {mid : Reply (Cursor ι δ) ε (Option α) → Session ι δ M → Session ι δ M → Prop}
    {after : Reply (Cursor ι δ) ε (List α) → Session ι δ M → Session ι δ M → Prop}
    (first : Lockstep before round round' cursor mid)
    (roomy : ∀ session session', before session session' →
      session.reach = room ∧ session'.reach = room)
    (finish : ∀ rest session session', mid (.done none rest) session session' →
      after (.done [] rest) session session')
    (step : ∀ v rest session session', mid (.done (some v) rest) session session' →
      cursor.position < rest.position ∧ rest.position ≤ room ∧
        session.reach = room ∧ session'.reach = room)
    (onward : ∀ v rest, Lockstep (mid (.done (some v) rest)) (Parser.rounds onStall round)
      (Parser.rounds onStall round') rest fun reply session session' =>
        reply ≠ .halt .exhausted ∧ after (reply.map (v :: ·)) session session')
    (error : ∀ e session session', mid (.fail e) session session' →
      after (.fail e) session session')
    (broken : ∀ cause session session', mid (.halt cause) session session' →
      after (.halt cause) session session') :
    Lockstep before (Parser.rounds onStall round) (Parser.rounds onStall round') cursor after := by
  intro session session' holds
  obtain ⟨same, kept⟩ := first session session' holds
  obtain ⟨reach, reach'⟩ := roomy session session' holds
  rcases answer : round cursor session with ⟨reply, later⟩
  rcases answer' : round' cursor session' with ⟨reply', later'⟩
  simp only [answer, answer'] at same kept
  subst same
  rcases reply with ⟨_ | v, rest⟩ | e | cause
  · simp only [Parser.rounds, loop, answer, answer']
    exact ⟨trivial, finish rest later later' kept⟩
  · obtain ⟨moved, inside, level, level'⟩ := step v rest later later' kept
    obtain ⟨same, ends, kept⟩ := onward v rest later later' kept
    rw [rounds_of_some answer (level.trans reach.symm) moved (reach ▸ inside) ends,
      rounds_of_some answer' (level'.trans reach'.symm) moved (reach' ▸ inside) (same ▸ ends)]
    exact ⟨congrArg (Reply.map _) same, kept⟩
  · simp only [Parser.rounds, loop, answer, answer']
    exact ⟨trivial, error e later later' kept⟩
  · simp only [Parser.rounds, loop, answer, answer']
    exact ⟨trivial, broken cause later later' kept⟩

end Packrat.Parser
