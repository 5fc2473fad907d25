import Packrat.Proofs.Parser.Coupling
import Packrat.Proofs.Parser.Ensures

/-! Steady parsers. What was parsed before has no part in the reply of a steady parser, so the reply
is a function of the cursor. The replies of parsers that are put together are told from the replies
of their parts. -/

namespace Packrat

variable {ι δ : Type} {M : Memory} {ε ε' α β : Type}

/-- What follows a reply: after a value from where it was left, after an error from elsewhere. -/
def Reply.handle {σ : Type} (reply : Reply σ ε α) (onValue : α → σ → Reply σ ε' β)
    (onError : ε → Reply σ ε' β) : Reply σ ε' β :=
  match reply with
  | .done value rest => onValue value rest
  | .fail error => onError error
  | .halt cause => .halt cause

@[simp] theorem Reply.handle_done {σ : Type} (value : α) (rest : σ)
    (onValue : α → σ → Reply σ ε' β) (onError : ε → Reply σ ε' β) :
    (done value rest : Reply σ ε α).handle onValue onError = onValue value rest := rfl

@[simp] theorem Reply.handle_fail {σ : Type} (error : ε) (onValue : α → σ → Reply σ ε' β)
    (onError : ε → Reply σ ε' β) :
    (fail error : Reply σ ε α).handle onValue onError = onError error := rfl

theorem Reply.map_eq_handle {σ : Type} (f : α → β) (reply : Reply σ ε α) :
    reply.map f = reply.handle (fun value rest => .done (f value) rest) .fail := by
  cases reply <;> rfl

theorem Reply.handle_handle {σ ε'' γ : Type} (reply : Reply σ ε α)
    (onValue : α → σ → Reply σ ε' β) (onError : ε → Reply σ ε' β)
    (onValue' : β → σ → Reply σ ε'' γ) (onError' : ε' → Reply σ ε'' γ) :
    (reply.handle onValue onError).handle onValue' onError' =
      reply.handle (fun value rest => (onValue value rest).handle onValue' onError')
        (fun error => (onError error).handle onValue' onError') := by
  cases reply <;> rfl

theorem Reply.map_eq_done_iff {σ : Type} {f : α → β} (injective : ∀ a b, f a = f b → a = b)
    {reply : Reply σ ε α} {value : α} {rest : σ} :
    reply.map f = .done (f value) rest ↔ reply = .done value rest := by
  cases reply with
  | done other last =>
    simp only [Reply.map, Reply.done.injEq]
    exact and_congr_left fun _ => ⟨injective _ _, congrArg f⟩
  | fail error => simp [Reply.map]
  | halt cause => simp [Reply.map]

/-- What holds of a cursor if it holds of all cursors further on in the same text holds of every
cursor. -/
theorem Cursor.forth_induct {motive : Cursor ι δ → Prop}
    (step : ∀ cursor, (∀ rest : Cursor ι δ, cursor.position < rest.position →
      rest.extent = cursor.extent → motive rest) → motive cursor) (cursor : Cursor ι δ) :
    motive cursor := by
  induction left : cursor.extent - cursor.position using Nat.strongRecOn generalizing cursor with
  | ind left ih =>
    apply step cursor
    intro rest further same
    have within := rest.position_le_extent
    exact ih (rest.extent - rest.position) (by omega) rest rfl

/-- A session that has parsed nothing, with room for the text of a cursor. -/
def Session.roomFor [Inhabited M.Extra] (cursor : Cursor ι δ) : Session ι δ M :=
  (new none default).makeRoom cursor

@[simp] theorem Session.reach_roomFor [Inhabited M.Extra] (cursor : Cursor ι δ) :
    (roomFor cursor : Session ι δ M).reach = cursor.extent :=
  Nat.max_eq_right (Nat.zero_le _)

namespace Parser

/-- Runs from one cursor of a text of this extent, in sessions with these rooms. -/
def steadily (extent room room' : Nat) : Coupling ι δ M where
  cursors _ cursor cursor' := cursor = cursor' ∧ cursor.extent = extent
  sessions session session' := session.reach = room ∧ session'.reach = room'
  causes _ := True
  admits _ := True
  onward := True

/-- The parser replies the same in all sessions with room for the text, and success does not go
back. -/
def Steady (parser : Parser ι δ M ε α) : Prop :=
  ∀ extent room room', extent ≤ room → extent ≤ room' →
    Coupled (steadily extent room room') [] parser parser

section Rules

variable {parser : Parser ι δ M ε α} {onValue : α → Parser ι δ M ε' β}
  {onError : ε → Parser ι δ M ε' β} {next : α → Parser ι δ M ε β}
  {cursor : Cursor ι δ} {session session' : Session ι δ M}

theorem steady_constant (value : α) : (constant value : Parser ι δ M ε α).Steady :=
  fun _ _ _ _ _ => coupled_constant value

theorem steady_failWith (error : ε) : (failWith error : Parser ι δ M ε α).Steady :=
  fun _ _ _ _ _ => coupled_failWith error

theorem Steady.handle (steady : parser.Steady) (value : ∀ v, (onValue v).Steady)
    (error : ∀ e, (onError e).Steady) : (parser.handle onValue onError).Steady :=
  fun _ _ _ fits fits' => (steady _ _ _ fits fits').handle (fun v => value v _ _ _ fits fits')
    fun e => error e _ _ _ fits fits'

theorem Steady.inspect (steady : parser.Steady) (value : ∀ v, (next v).Steady) :
    (parser.inspect next).Steady :=
  steady.handle value steady_failWith

theorem Steady.map (steady : parser.Steady) (f : α → β) : (parser.map f).Steady :=
  steady.inspect fun v => steady_constant (f v)

theorem Steady.maybe (steady : parser.Steady) :
    (parser.maybe : Parser ι δ M ε' (Option α)).Steady :=
  steady.handle (fun v => steady_constant (some v)) fun _ => steady_constant none

/-- Two runs in sessions with room for the text reply the same, and keep the room. -/
theorem Steady.two (steady : parser.Steady) (fits : cursor.extent ≤ session.reach)
    (fits' : cursor.extent ≤ session'.reach) :
    (parser cursor session).1 = (parser cursor session').1 ∧
      (parser cursor session).2.reach = session.reach := by
  obtain ⟨paired, kept⟩ := steady _ _ _ fits fits' cursor cursor session session' ⟨rfl, rfl⟩
    ⟨rfl, rfl⟩
  exact ⟨paired.eq fun _ _ ends => ends.place.1, kept.1⟩

theorem Steady.reach_eq (steady : parser.Steady) (fits : cursor.extent ≤ session.reach) :
    (parser cursor session).2.reach = session.reach :=
  (steady.two fits fits).2

variable {round : Parser ι δ M ε (Option α)} {extent room room' : Nat}

theorem grants_steadily (fits : extent ≤ room) (fits' : extent ≤ room') :
    Grants (steadily extent room room' : Coupling ι δ M) [] fun cursor cursor' budget budget' =>
      room - cursor.position < budget ∧ room' - cursor'.position < budget' := by
  apply grants_of_room trivial
  · intro cursor cursor' rest rest' place place'
    rw [place.1, place'.1]
  · intro cursor cursor' place
    obtain ⟨rfl, same⟩ := place
    have within := cursor.position_le_extent
    exact ⟨by omega, by omega⟩
  · exact fun _ _ _ _ _ shared _ => shared

theorem Steady.rounds (steady : round.Steady) (onStall : Option (Nat → Event)) :
    (rounds onStall round).Steady := by
  intro extent room room' fits fits' cursor cursor' session session' place shared
  refine (grants_steadily fits fits').loop onStall (steady _ _ _ fits fits') _ _ cursor cursor'
    session session' place shared ?_
  rw [shared.1, shared.2]
  omega

end Rules

/-! The reply of a steady parser. -/

variable [Inhabited M.Extra]

/-- The reply of a parser that has parsed nothing before. -/
def replyFrom (parser : Parser ι δ M ε α) (cursor : Cursor ι δ) : Reply (Cursor ι δ) ε α :=
  (parser cursor (.roomFor cursor)).1

@[simp] theorem replyFrom_constant (value : α) (cursor : Cursor ι δ) :
    (constant value : Parser ι δ M ε α).replyFrom cursor = .done value cursor := rfl

@[simp] theorem replyFrom_failWith (error : ε) (cursor : Cursor ι δ) :
    (failWith error : Parser ι δ M ε α).replyFrom cursor = .fail error := rfl

section Replies

variable {parser : Parser ι δ M ε α} {cursor rest : Cursor ι δ} {session : Session ι δ M}
  {value : α}

theorem Steady.replyFrom_eq (steady : parser.Steady) (fits : cursor.extent ≤ session.reach) :
    (parser cursor session).1 = parser.replyFrom cursor :=
  (steady.two fits (by simp)).1

theorem Steady.onward (steady : parser.Steady) (done : parser.replyFrom cursor = .done value rest) :
    cursor.position ≤ rest.position ∧ rest.extent = cursor.extent := by
  have fits : cursor.extent ≤ (Session.roomFor cursor : Session ι δ M).reach := by simp
  obtain ⟨paired, _⟩ := steady _ _ _ fits fits cursor cursor _ _ ⟨rfl, rfl⟩ ⟨rfl, rfl⟩
  unfold replyFrom at done
  rw [done] at paired
  cases paired with
  | done ends => exact ⟨(ends.onward trivial).1, ends.place.2⟩

variable {onValue : α → Parser ι δ M ε' β} {onError : ε → Parser ι δ M ε' β}
  {next : α → Parser ι δ M ε β}

/-- A run on a session that has parsed nothing, which keeps the room it has. -/
theorem Steady.run_eq (steady : parser.Steady) (cursor : Cursor ι δ) :
    ∃ later, parser cursor (.roomFor cursor) = (parser.replyFrom cursor, later) ∧
      later.reach = cursor.extent := by
  have fits : cursor.extent ≤ (Session.roomFor cursor : Session ι δ M).reach := by simp
  exact ⟨_, rfl, (steady.reach_eq fits).trans (Session.reach_roomFor cursor)⟩

theorem Steady.replyFrom_handle (steady : parser.Steady) (value : ∀ v, (onValue v).Steady)
    (error : ∀ e, (onError e).Steady) (cursor : Cursor ι δ) :
    (parser.handle onValue onError).replyFrom cursor =
      (parser.replyFrom cursor).handle (fun v rest => (onValue v).replyFrom rest)
        (fun e => (onError e).replyFrom cursor) := by
  obtain ⟨later, ran, room⟩ := steady.run_eq cursor
  change (parser.handle onValue onError cursor (.roomFor cursor)).1 = _
  unfold Parser.handle
  rw [ran]
  cases answer : parser.replyFrom cursor with
  | done v rest =>
    obtain ⟨_, extent⟩ := steady.onward answer
    exact (value v).replyFrom_eq (by omega)
  | fail e => exact (error e).replyFrom_eq (by omega)
  | halt cause => rfl

theorem Steady.replyFrom_inspect (steady : parser.Steady) (value : ∀ v, (next v).Steady)
    (cursor : Cursor ι δ) :
    (parser.inspect next).replyFrom cursor =
      (parser.replyFrom cursor).handle (fun v rest => (next v).replyFrom rest) .fail :=
  steady.replyFrom_handle value steady_failWith cursor

theorem Steady.replyFrom_map (steady : parser.Steady) (f : α → β) (cursor : Cursor ι δ) :
    (parser.map f).replyFrom cursor = (parser.replyFrom cursor).map f := by
  rw [Reply.map_eq_handle]
  exact steady.replyFrom_inspect (fun v => steady_constant (f v)) cursor

theorem Steady.replyFrom_maybe (steady : parser.Steady) (cursor : Cursor ι δ) :
    (parser.maybe : Parser ι δ M ε' (Option α)).replyFrom cursor =
      (parser.replyFrom cursor).handle (fun v rest => .done (some v) rest)
        (fun _ => .done none cursor) :=
  steady.replyFrom_handle (fun v => steady_constant (some v)) (fun _ => steady_constant none) cursor

/-- A loop with budget enough replies as the rounds that start where it stands. -/
theorem Steady.loop_of_room {round : Parser ι δ M ε (Option α)} (steady : round.Steady)
    (onStall : Option (Nat → Event)) (fits : cursor.extent = session.reach) {budget : Nat}
    (enough : session.reach - cursor.position < budget) :
    (loop onStall round budget cursor session).1 =
      (Parser.rounds onStall round).replyFrom cursor := by
  have least := Nat.le_refl cursor.extent
  have coupled := (grants_steadily (M := M) least least).loop onStall (steady _ _ _ least least)
    budget (cursor.extent - cursor.position + 1) cursor cursor session (.roomFor cursor)
    ⟨rfl, rfl⟩ ⟨fits.symm, by simp⟩ (by omega)
  unfold replyFrom Parser.rounds
  rw [Session.reach_roomFor]
  exact coupled.1.eq fun _ _ ends => ends.place.1

/-- One round, and the rounds after it if it has moved. -/
theorem Steady.replyFrom_rounds {round : Parser ι δ M ε (Option α)} (steady : round.Steady)
    (onStall : Option (Nat → Event)) (cursor : Cursor ι δ) :
    (Parser.rounds onStall round).replyFrom cursor =
      (round.replyFrom cursor).handle
        (fun value rest => match value with
          | none => .done [] rest
          | some value =>
            if rest.position = cursor.position then .done [] cursor
            else ((Parser.rounds onStall round).replyFrom rest).map (value :: ·))
        .fail := by
  obtain ⟨later, ran, room⟩ := steady.run_eq cursor
  change (loop onStall round _ cursor (.roomFor cursor)).1 = _
  unfold loop
  rw [ran]
  cases answer : round.replyFrom cursor with
  | done value rest =>
    obtain ⟨forth, extent⟩ := steady.onward answer
    cases value with
    | none => rfl
    | some value =>
      simp only [Reply.handle_done]
      by_cases still : rest.position = cursor.position
      · simp only [if_pos still]
        cases onStall <;> rfl
      · simp only [if_neg still, Session.reach_roomFor]
        have within := rest.position_le_extent
        have fits : rest.extent = later.reach := extent.trans room.symm
        -- The budget that is left is enough, so the loop goes on as it would start there.
        have enough : later.reach - rest.position < cursor.extent - cursor.position := by omega
        rw [← steady.loop_of_room onStall fits enough]
        rcases loop onStall round _ rest later with ⟨⟨values, last⟩ | error | cause, _⟩ <;> rfl
  | fail error => rfl
  | halt cause => rfl

/-- The event of a stall is for the log only. -/
theorem Steady.replyFrom_rounds_congr {round : Parser ι δ M ε (Option α)} (steady : round.Steady)
    (onStall onStall' : Option (Nat → Event)) (cursor : Cursor ι δ) :
    (Parser.rounds onStall round).replyFrom cursor =
      (Parser.rounds onStall' round).replyFrom cursor := by
  induction cursor using Cursor.forth_induct with
  | step cursor ih =>
    rw [steady.replyFrom_rounds, steady.replyFrom_rounds]
    cases answer : round.replyFrom cursor with
    | done value rest =>
      obtain ⟨forth, extent⟩ := steady.onward answer
      cases value with
      | none => rfl
      | some value =>
        by_cases still : rest.position = cursor.position
        · simp only [Reply.handle, if_pos still]
        · simp only [Reply.handle, if_neg still]
          rw [ih rest (by omega) extent]
    | fail error => rfl
    | halt cause => rfl

end Replies

end Parser

end Packrat
