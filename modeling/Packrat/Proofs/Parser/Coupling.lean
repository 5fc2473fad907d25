import Packrat.Parser.Choice
import Packrat.Parser.Position
import Packrat.Parser.Primitive
import Packrat.Parser.Repetition
import Packrat.Text.Place

/-! Two runs side by side. Started on corresponding cursors in corresponding sessions, two parsers
are coupled if their replies correspond and their sessions still do. One rule for every way parsers
are put together. -/

namespace Packrat

variable {ι δ : Type} {M : Memory}

/-- The violations that memoized parsers commit, and no others. -/
def Violation.OfTable : Violation → Prop
  | .finalSuccess _ => True
  | .outcomeType _ _ => True
  | _ => False

def Halt.OfTable : Halt → Prop
  | .violation cause => cause.OfTable
  | .exhausted => False

/-- What corresponds to what: cursors behind the same filters, and sessions. Runs are broken off for
none but the causes, go behind none but the filters that are admitted, and do not go back if they are
to go onward. -/
structure Coupling (ι δ : Type) (M : Memory) where
  cursors : List (Filter ι) → Cursor ι δ → Cursor ι δ → Prop
  sessions : Session ι δ M → Session ι δ M → Prop
  causes : Halt → Prop
  admits : Filter ι → Prop
  onward : Prop

/-- The cursors correspond, and where runs go onward they are not before those the runs started on. -/
structure Coupling.Ends (coupling : Coupling ι δ M) (filters : List (Filter ι))
    (cursor cursor' rest rest' : Cursor ι δ) : Prop where
  place : coupling.cursors filters rest rest'
  onward : coupling.onward → cursor.position ≤ rest.position ∧ cursor'.position ≤ rest'.position

/-- Replies that correspond: one value on corresponding cursors, one error, or one cause. -/
inductive Paired {σ ε α : Type} (places : σ → σ → Prop) (causes : Halt → Prop) :
    Reply σ ε α → Reply σ ε α → Prop where
  | done (place : places rest rest') : Paired places causes (.done value rest) (.done value rest')
  | fail : Paired places causes (.fail error) (.fail error)
  | halt (cause : causes halt) : Paired places causes (.halt halt) (.halt halt)

/-- Attempts to read that correspond: at the end, one item before corresponding cursors, or one
violation. -/
inductive Shown {σ : Type} (places : σ → σ → Prop) (causes : Halt → Prop) :
    Except Violation (Option (ι × σ)) → Except Violation (Option (ι × σ)) → Prop where
  | ended : Shown places causes (.ok none) (.ok none)
  | item (place : places rest rest') :
      Shown places causes (.ok (some (item, rest))) (.ok (some (item, rest')))
  | refused (cause : causes (.violation violation)) :
      Shown places causes (.error violation) (.error violation)

/-- Cursors before the same items read the same way show the same. -/
theorem shown_of_same {places : Cursor ι δ → Cursor ι δ → Prop} {causes : Halt → Prop}
    {cursor cursor' : Cursor ι δ} (ahead : cursor.ahead = cursor'.ahead)
    (read : ∀ item, cursor.read item = cursor'.read item)
    (refused : ∀ item violation, cursor.read item = .error violation →
      causes (.violation violation))
    (past : ∀ item rest, cursor.ahead = item :: rest →
      places (cursor.past item rest) (cursor'.past item rest)) :
    Shown places causes cursor.advance cursor'.advance := by
  unfold Cursor.advance
  rw [← ahead]
  cases cut : cursor.ahead with
  | nil => exact .ended
  | cons item rest =>
    simp only [← read item]
    cases shown : cursor.read item with
    | error violation => exact .refused (refused item violation shown)
    | ok seen => exact .item (past item rest cut)

namespace Parser

variable {ε ε' ε'' α β γ : Type}

/-- Behind these filters, the parsers keep the correspondence. -/
def Coupled (coupling : Coupling ι δ M) (filters : List (Filter ι))
    (parser parser' : Parser ι δ M ε α) : Prop :=
  ∀ cursor cursor' session session', coupling.cursors filters cursor cursor' →
    coupling.sessions session session' →
      Paired (coupling.Ends filters cursor cursor') coupling.causes (parser cursor session).1
          (parser' cursor' session').1 ∧
        coupling.sessions (parser cursor session).2 (parser' cursor' session').2

/-- At these cursors, the parsers keep the correspondence. -/
def CoupledAt (coupling : Coupling ι δ M) (filters : List (Filter ι)) (cursor cursor' : Cursor ι δ)
    (parser parser' : Parser ι δ M ε α) : Prop :=
  ∀ session session', coupling.sessions session session' →
    Paired (coupling.Ends filters cursor cursor') coupling.causes (parser cursor session).1
        (parser' cursor' session').1 ∧
      coupling.sessions (parser cursor session).2 (parser' cursor' session').2

end Parser

/-- Reading items, going behind filters and repeating parsers keep the correspondence, and show no
difference between corresponding cursors. -/
structure Coupling.Stable (coupling : Coupling ι δ M) : Prop where
  advance : coupling.cursors filters cursor cursor' →
    Shown (coupling.cursors filters) coupling.causes cursor.advance cursor'.advance
  ordinary : ¬ cause.OfTable → coupling.causes (.violation cause)
  total : (∀ item, ∃ seen, filter.image item = .ok seen) → coupling.admits filter
  filtered : coupling.cursors filters cursor cursor' → coupling.admits filter →
    coupling.cursors (filter :: filters) (cursor.filtered filter) (cursor'.filtered filter)
  unfiltered : coupling.cursors (filter :: filters) cursor cursor' →
    coupling.cursors filters cursor.unfiltered cursor'.unfiltered
  rounds {ε α : Type} {round round' : Parser ι δ M ε (Option α)} :
    Parser.Coupled coupling filters round round' → ∀ onStall,
      Parser.Coupled coupling filters (Parser.rounds onStall round) (Parser.rounds onStall round')

theorem Coupling.Ends.stay {coupling : Coupling ι δ M}
    (place : coupling.cursors filters cursor cursor') :
    coupling.Ends filters cursor cursor' cursor cursor' :=
  ⟨place, fun _ => ⟨Nat.le_refl _, Nat.le_refl _⟩⟩

theorem Coupling.Ends.trans {coupling : Coupling ι δ M}
    (first : coupling.Ends filters cursor cursor' middle middle')
    (second : coupling.Ends filters middle middle' rest rest') :
    coupling.Ends filters cursor cursor' rest rest' := by
  refine ⟨second.place, fun onward => ?_⟩
  obtain ⟨forth, forth'⟩ := first.onward onward
  obtain ⟨further, further'⟩ := second.onward onward
  exact ⟨Nat.le_trans forth further, Nat.le_trans forth' further'⟩

theorem Paired.mono {σ ε α : Type} {places places' : σ → σ → Prop} {causes : Halt → Prop}
    {reply reply' : Reply σ ε α} (paired : Paired places causes reply reply')
    (implies : ∀ rest rest', places rest rest' → places' rest rest') :
    Paired places' causes reply reply' := by
  cases paired with
  | done place => exact .done (implies _ _ place)
  | fail => exact .fail
  | halt cause => exact .halt cause

theorem Paired.eq {σ ε α : Type} {places : σ → σ → Prop} {causes : Halt → Prop}
    {reply reply' : Reply σ ε α} (paired : Paired places causes reply reply')
    (same : ∀ rest rest', places rest rest' → rest = rest') : reply = reply' := by
  cases paired with
  | done place => rw [same _ _ place]
  | fail => rfl
  | halt cause => rfl

theorem Paired.of_halt {σ ε α : Type} {places : σ → σ → Prop} {causes : Halt → Prop} {cause : Halt}
    {reply' : Reply σ ε α} (paired : Paired places causes (.halt cause) reply') : causes cause := by
  cases paired with
  | halt blamed => exact blamed

theorem Paired.of_done {σ ε α : Type} {places : σ → σ → Prop} {causes : Halt → Prop} {value : α}
    {rest : σ} {reply' : Reply σ ε α} (paired : Paired places causes (.done value rest) reply') :
    ∃ rest', places rest rest' := by
  cases paired with
  | done place => exact ⟨_, place⟩

namespace Parser

variable {coupling : Coupling ι δ M} {filters : List (Filter ι)}

theorem coupled_constant (value : α) :
    Coupled coupling filters (constant value : Parser ι δ M ε α) (constant value) :=
  fun _ _ _ _ place shared => ⟨.done (.stay place), shared⟩

theorem coupled_failWith (error : ε) :
    Coupled coupling filters (failWith error : Parser ι δ M ε α) (failWith error) :=
  fun _ _ _ _ _ shared => ⟨.fail, shared⟩

theorem coupled_halt {cause : Halt} (blamed : coupling.causes cause) :
    Coupled coupling filters (halt cause : Parser ι δ M ε α) (halt cause) :=
  fun _ _ _ _ _ shared => ⟨.halt blamed, shared⟩

theorem Coupled.handle {parser parser' : Parser ι δ M ε α}
    {onValue onValue' : α → Parser ι δ M ε' β} {onError onError' : ε → Parser ι δ M ε' β}
    (first : Coupled coupling filters parser parser')
    (value : ∀ v, Coupled coupling filters (onValue v) (onValue' v))
    (error : ∀ e, Coupled coupling filters (onError e) (onError' e)) :
    Coupled coupling filters (parser.handle onValue onError) (parser'.handle onValue' onError') := by
  intro cursor cursor' session session' place shared
  obtain ⟨paired, kept⟩ := first cursor cursor' session session' place shared
  unfold Parser.handle
  rcases answer : parser cursor session with ⟨reply, later⟩
  rcases answer' : parser' cursor' session' with ⟨reply', later'⟩
  simp only [answer, answer'] at paired kept ⊢
  cases paired with
  | done ends =>
    obtain ⟨paired, kept⟩ := value _ _ _ later later' ends.place kept
    exact ⟨paired.mono fun _ _ => ends.trans, kept⟩
  | fail => exact error _ cursor cursor' later later' place kept
  | halt blamed => exact ⟨.halt blamed, kept⟩

theorem Coupled.inspect {parser parser' : Parser ι δ M ε α} {next next' : α → Parser ι δ M ε β}
    (first : Coupled coupling filters parser parser')
    (value : ∀ v, Coupled coupling filters (next v) (next' v)) :
    Coupled coupling filters (parser.inspect next) (parser'.inspect next') :=
  first.handle value coupled_failWith

theorem Coupled.recover {parser parser' : Parser ι δ M ε α} {next next' : ε → Parser ι δ M ε' α}
    (first : Coupled coupling filters parser parser')
    (error : ∀ e, Coupled coupling filters (next e) (next' e)) :
    Coupled coupling filters (parser.recover next) (parser'.recover next') :=
  first.handle coupled_constant error

theorem Coupled.map {parser parser' : Parser ι δ M ε α} (f : α → β)
    (first : Coupled coupling filters parser parser') :
    Coupled coupling filters (parser.map f) (parser'.map f) :=
  first.inspect fun v => coupled_constant (f v)

theorem Coupled.mapError {parser parser' : Parser ι δ M ε α} (f : ε → ε')
    (first : Coupled coupling filters parser parser') :
    Coupled coupling filters (parser.mapError f) (parser'.mapError f) :=
  first.recover fun e => coupled_failWith (f e)

theorem Coupled.peek {parser parser' : Parser ι δ M ε α}
    (first : Coupled coupling filters parser parser') :
    Coupled coupling filters parser.peek parser'.peek := by
  intro cursor cursor' session session' place shared
  obtain ⟨paired, kept⟩ := first cursor cursor' session session' place shared
  unfold Parser.peek
  rcases answer : parser cursor session with ⟨reply, later⟩
  rcases answer' : parser' cursor' session' with ⟨reply', later'⟩
  simp only [answer, answer'] at paired kept ⊢
  cases paired with
  | done _ => exact ⟨.done (.stay place), kept⟩
  | fail => exact ⟨.fail, kept⟩
  | halt blamed => exact ⟨.halt blamed, kept⟩

theorem Coupled.maybe {parser parser' : Parser ι δ M ε α}
    (first : Coupled coupling filters parser parser') :
    Coupled coupling filters (parser.maybe : Parser ι δ M ε' (Option α)) parser'.maybe :=
  first.handle (fun v => coupled_constant (some v)) fun _ => coupled_constant none

theorem Coupled.softSequence {first first' : Parser ι δ M ε α} {second second' : Parser ι δ M ε' β}
    (combine : α → β → γ) (coupled : Coupled coupling filters first first')
    (coupled' : Coupled coupling filters second second') :
    Coupled coupling filters (first.softSequence second combine)
      (first'.softSequence second' combine) :=
  coupled.handle (fun _ => coupled'.map _) fun _ => coupled_constant none

theorem Coupled.negate {parser parser' : Parser ι δ M ε α}
    (first : Coupled coupling filters parser parser') :
    Coupled coupling filters parser.negate parser'.negate :=
  first.peek.handle coupled_failWith coupled_constant

/-! Loops. How many rounds a loop is granted depends on the session and on where the loop starts. -/

/-- Two loops are granted rounds so that neither is broken off alone, on cursors that tell alike
whether a round has moved. -/
structure Grants (coupling : Coupling ι δ M) (filters : List (Filter ι))
    (grants : Cursor ι δ → Cursor ι δ → Nat → Nat → Prop) : Prop where
  spent : grants cursor cursor' budget budget' →
    (budget = 0 ↔ budget' = 0) ∧ (budget = 0 → coupling.causes .exhausted)
  still_iff : coupling.cursors filters cursor cursor' →
    coupling.Ends filters cursor cursor' rest rest' →
      (rest.position = cursor.position ↔ rest'.position = cursor'.position)
  next : coupling.Ends filters cursor cursor' rest rest' → rest.position ≠ cursor.position →
    rest'.position ≠ cursor'.position → grants cursor cursor' (budget + 1) (budget' + 1) →
      grants rest rest' budget budget'
  stalled : coupling.cursors filters cursor cursor' → coupling.sessions session session' →
    ∀ event : Nat → Event, coupling.sessions (session.note (event cursor.position))
      (session'.note (event cursor'.position))

theorem Grants.loop {grants : Cursor ι δ → Cursor ι δ → Nat → Nat → Prop}
    (rule : Grants coupling filters grants) {round round' : Parser ι δ M ε (Option α)}
    (onStall : Option (Nat → Event)) (coupled : Coupled coupling filters round round')
    (budget budget' : Nat) (cursor cursor' : Cursor ι δ) (session session' : Session ι δ M)
    (place : coupling.cursors filters cursor cursor')
    (shared : coupling.sessions session session') (granted : grants cursor cursor' budget budget') :
    Paired (coupling.Ends filters cursor cursor') coupling.causes
        (Parser.loop onStall round budget cursor session).1
        (Parser.loop onStall round' budget' cursor' session').1 ∧
      coupling.sessions (Parser.loop onStall round budget cursor session).2
        (Parser.loop onStall round' budget' cursor' session').2 := by
  induction budget generalizing budget' cursor cursor' session session' with
  | zero =>
    obtain ⟨both, blamed⟩ := rule.spent granted
    rw [both.mp rfl]
    exact ⟨.halt (blamed rfl), shared⟩
  | succ budget ih =>
    obtain ⟨budget', rfl⟩ : ∃ n, budget' = n + 1 :=
      Nat.exists_eq_succ_of_ne_zero fun none => by
        have both := (rule.spent granted).1.mpr none
        omega
    obtain ⟨paired, kept⟩ := coupled cursor cursor' session session' place shared
    unfold Parser.loop
    rcases answer : round cursor session with ⟨reply, later⟩
    rcases answer' : round' cursor' session' with ⟨reply', later'⟩
    simp only [answer, answer'] at paired kept ⊢
    cases paired with
    | @done rest rest' value ends =>
      cases value with
      | none => exact ⟨.done ends, kept⟩
      | some value =>
        have alike := rule.still_iff place ends
        by_cases still : rest.position = cursor.position
        · simp only [if_pos still, if_pos (alike.mp still)]
          cases onStall with
          | none => exact ⟨.done (.stay place), kept⟩
          | some event => exact ⟨.done (.stay place), rule.stalled place kept event⟩
        · have moved := fun still' => still (alike.mpr still')
          simp only [if_neg still, if_neg moved]
          obtain ⟨paired', kept'⟩ := ih budget' rest rest' later later' ends.place kept
            (rule.next ends still moved granted)
          rcases looped : Parser.loop onStall round budget rest later with ⟨reply, last⟩
          rcases looped' : Parser.loop onStall round' budget' rest' later' with ⟨reply', last'⟩
          simp only [looped, looped'] at paired' kept' ⊢
          cases paired' with
          | done ends' => exact ⟨.done (ends.trans ends'), kept'⟩
          | fail => exact ⟨.fail, kept'⟩
          | halt blamed => exact ⟨.halt blamed, kept'⟩
    | fail => exact ⟨.fail, kept⟩
    | halt blamed => exact ⟨.halt blamed, kept⟩

/-- Loops are coupled where cursors stand at one position and sessions have equal room: they are
granted equally many rounds, and are broken off together. -/
theorem Coupled.rounds_of_level
    (level : ∀ cursor cursor', coupling.cursors filters cursor cursor' →
      cursor.position = cursor'.position)
    (reach_eq : ∀ session session', coupling.sessions session session' →
      session.reach = session'.reach)
    (note : ∀ session session', coupling.sessions session session' →
      ∀ event, coupling.sessions (session.note event) (session'.note event))
    (exhausted : coupling.causes .exhausted) {round round' : Parser ι δ M ε (Option α)}
    (coupled : Coupled coupling filters round round') (onStall : Option (Nat → Event)) :
    Coupled coupling filters (rounds onStall round) (rounds onStall round') := by
  have rule : Grants coupling filters fun _ _ budget budget' => budget = budget' := by
    constructor
    · intro _ _ budget budget' same
      exact ⟨by rw [same], fun _ => exhausted⟩
    · intro cursor cursor' rest rest' place ends
      rw [level _ _ place, level _ _ ends.place]
    · intro _ _ _ _ budget budget' _ _ _ same
      exact Nat.succ.inj same
    · intro cursor cursor' session session' place shared event
      rw [← level _ _ place]
      exact note _ _ shared _
  intro cursor cursor' session session' place shared
  refine rule.loop onStall coupled _ _ cursor cursor' session session' place shared ?_
  rw [reach_eq _ _ shared, level _ _ place]

/-- Where runs go onward and never leave the room that the sessions have, a budget that is greater
than the room left is enough. -/
theorem grants_of_room {room room' : Nat} (onward : coupling.onward)
    (still_iff : ∀ cursor cursor' rest rest', coupling.cursors filters cursor cursor' →
      coupling.cursors filters rest rest' →
        (rest.position = cursor.position ↔ rest'.position = cursor'.position))
    (within : ∀ cursor cursor', coupling.cursors filters cursor cursor' →
      cursor.position ≤ room ∧ cursor'.position ≤ room')
    (stalled : ∀ cursor cursor' session session', coupling.cursors filters cursor cursor' →
      coupling.sessions session session' → ∀ event : Nat → Event,
        coupling.sessions (session.note (event cursor.position))
          (session'.note (event cursor'.position))) :
    Grants coupling filters fun cursor cursor' budget budget' =>
      room - cursor.position < budget ∧ room' - cursor'.position < budget' := by
  constructor
  · intro cursor cursor' budget budget' enough
    exact ⟨by omega, by omega⟩
  · intro cursor cursor' rest rest' place ends
    exact still_iff _ _ _ _ place ends.place
  · intro cursor cursor' rest rest' budget budget' ends moved moved' enough
    have forth := ends.onward onward
    have inside := within _ _ ends.place
    omega
  · intro cursor cursor' session session' place shared
    exact stalled _ _ _ _ place shared

/-- Loops are coupled where runs go onward and never leave the room that the sessions have: they are
granted rounds enough, whatever their numbers. -/
theorem Coupled.rounds_of_room {room room' : Nat} (onward : coupling.onward)
    (still_iff : ∀ cursor cursor' rest rest', coupling.cursors filters cursor cursor' →
      coupling.cursors filters rest rest' →
        (rest.position = cursor.position ↔ rest'.position = cursor'.position))
    (within : ∀ cursor cursor', coupling.cursors filters cursor cursor' →
      cursor.position ≤ room ∧ cursor'.position ≤ room')
    (reach_eq : ∀ session session', coupling.sessions session session' →
      session.reach = room ∧ session'.reach = room')
    (stalled : ∀ cursor cursor' session session', coupling.cursors filters cursor cursor' →
      coupling.sessions session session' → ∀ event : Nat → Event,
        coupling.sessions (session.note (event cursor.position))
          (session'.note (event cursor'.position)))
    {round round' : Parser ι δ M ε (Option α)}
    (coupled : Coupled coupling filters round round') (onStall : Option (Nat → Event)) :
    Coupled coupling filters (rounds onStall round) (rounds onStall round') := by
  intro cursor cursor' session session' place shared
  obtain ⟨reach, reach'⟩ := reach_eq _ _ shared
  refine (grants_of_room onward still_iff within stalled).loop onStall coupled _ _ cursor cursor'
    session session' place shared ?_
  rw [reach, reach']
  omega

/-! Sequences and choices. They are broken off if they are empty, which is no matter of the table. -/

variable (stable : coupling.Stable)
include stable

omit stable in
theorem Coupled.collect {parser parser' : γ → Parser ι δ M ε α}
    (each : ∀ x, Coupled coupling filters (parser x) (parser' x)) (xs : List γ) :
    Coupled coupling filters (collect (xs.map parser)) (collect (xs.map parser')) := by
  induction xs with
  | nil => exact coupled_constant []
  | cons x xs ih => exact (each x).inspect fun v => ih.map (v :: ·)

theorem Coupled.sequence {parser parser' : γ → Parser ι δ M ε α}
    (each : ∀ x, Coupled coupling filters (parser x) (parser' x)) (xs : List γ) :
    Coupled coupling filters (sequence (xs.map parser)) (sequence (xs.map parser')) := by
  cases xs with
  | nil => exact coupled_halt (stable.ordinary nofun)
  | cons x xs => exact Coupled.collect each (x :: xs)

theorem Coupled.times {parser parser' : Parser ι δ M ε α} (count : Nat)
    (coupled : Coupled coupling filters parser parser') :
    Coupled coupling filters (parser.times count) (parser'.times count) := by
  have spread (parser : Parser ι δ M ε α) :
      List.replicate count parser = (List.replicate count ()).map fun _ => parser := by
    rw [List.map_replicate]
  unfold Parser.times
  split
  · rw [spread parser, spread parser']
    exact Coupled.sequence stable (fun _ => coupled) _
  · exact coupled_halt (stable.ordinary nofun)

theorem Coupled.orderedChoice {parser parser' : γ → Parser ι δ M ε α}
    (each : ∀ x, Coupled coupling filters (parser x) (parser' x)) (xs : List γ) :
    Coupled coupling filters (orderedChoice (xs.map parser)) (orderedChoice (xs.map parser')) := by
  induction xs with
  | nil => exact coupled_halt (stable.ordinary nofun)
  | cons x xs ih =>
    cases xs with
    | nil => exact each x
    | cons y xs => exact (each x).recover fun _ => ih

theorem Coupled.predictiveChoice {lookahead lookahead' : γ → Parser ι δ M ε α}
    {continuation continuation' : γ → Parser ι δ M ε β}
    (looks : ∀ x, Coupled coupling filters (lookahead x) (lookahead' x))
    (goes : ∀ x, Coupled coupling filters (continuation x) (continuation' x)) (xs : List γ) :
    Coupled coupling filters
      (predictiveChoice (xs.map fun x => (lookahead x, continuation x)))
      (predictiveChoice (xs.map fun x => (lookahead' x, continuation' x))) := by
  induction xs with
  | nil => exact coupled_halt (stable.ordinary nofun)
  | cons x xs ih =>
    cases xs with
    | nil => exact (looks x).inspect fun _ => goes x
    | cons y xs => exact (looks x).handle (fun _ => goes x) fun _ => ih

/-! Positions. They are observed where corresponding cursors stand at the same one. -/

section Positions

variable (level : ∀ cursor cursor', coupling.cursors filters cursor cursor' →
  cursor.position = cursor'.position)
include level
omit stable

theorem Coupled.located {parser parser' : Nat → Parser ι δ M ε α}
    (each : ∀ position, Coupled coupling filters (parser position) (parser' position)) :
    Coupled coupling filters (located parser) (located parser') := by
  intro cursor cursor' session session' place shared
  unfold Parser.located
  rw [← level cursor cursor' place]
  exact each cursor.position cursor cursor' session session' place shared

theorem coupled_position :
    Coupled coupling filters (position : Parser ι δ M ε Nat) position :=
  Coupled.located level coupled_constant

theorem Coupled.withPosition {parser parser' : Parser ι δ M ε α}
    (first : Coupled coupling filters parser parser') :
    Coupled coupling filters parser.withPosition parser'.withPosition :=
  Coupled.located level fun _ =>
    first.handle (fun _ => coupled_constant _) fun _ => coupled_failWith _

theorem Coupled.token {parser parser' : Parser ι δ M ε α} (onValue : α → Nat → Nat → β)
    (onError : ε → Nat → ε') (first : Coupled coupling filters parser parser') :
    Coupled coupling filters (parser.token onValue onError) (parser'.token onValue onError) :=
  Coupled.located level fun _ =>
    first.handle (fun _ => Coupled.located level fun _ => coupled_constant _)
      fun _ => coupled_failWith _

theorem coupled_lineColumn (table : Text.LineTable) :
    Coupled coupling filters (Text.lineColumn table : Parser ι δ M _ _)
      (Text.lineColumn table) := by
  apply Coupled.located level
  intro offset
  cases table.locate offset with
  | ok location => exact coupled_constant location
  | error error => exact coupled_failWith _

end Positions

/-! Parsers that read items, the payload or filters. -/

theorem coupled_anyItem [OfStreamError ε] :
    Coupled coupling filters (anyItem : Parser ι δ M ε ι) anyItem := by
  intro cursor cursor' session session' place shared
  have shown := stable.advance place
  unfold anyItem
  generalize advanced : cursor.advance = next, advanced' : cursor'.advance = next' at shown ⊢
  cases shown with
  | ended => exact ⟨.fail, shared⟩
  | item place' =>
    have forth := Nat.le_of_lt (Cursor.position_lt_of_advance advanced)
    have forth' := Nat.le_of_lt (Cursor.position_lt_of_advance advanced')
    exact ⟨.done ⟨place', fun _ => ⟨forth, forth'⟩⟩, shared⟩
  | refused cause => exact ⟨.halt cause, shared⟩

theorem coupled_satisfy [OfStreamError ε] (accepts : ι → Bool) (error : ε) :
    Coupled coupling filters (satisfy accepts error : Parser ι δ M ε ι) (satisfy accepts error) := by
  apply (coupled_anyItem stable).inspect
  intro item
  cases accepts item with
  | true => exact coupled_constant item
  | false => exact coupled_failWith error

theorem coupled_endOfInput [OfStreamError ε] :
    Coupled coupling filters (endOfInput : Parser ι δ M ε Unit) endOfInput := by
  intro cursor cursor' session session' place shared
  have same : cursor.isAtEnd = cursor'.isAtEnd := by
    have shown := stable.advance place
    rw [Bool.eq_iff_iff, cursor.isAtEnd_iff_advance, cursor'.isAtEnd_iff_advance]
    generalize cursor.advance = next, cursor'.advance = next' at shown
    cases shown <;> simp
  unfold endOfInput
  rw [← same]
  cases cursor.isAtEnd with
  | true => exact ⟨.done (.stay place), shared⟩
  | false => exact ⟨.fail, shared⟩

theorem Coupled.terminated [OfStreamError ε] {parser parser' : Parser ι δ M ε α}
    (first : Coupled coupling filters parser parser') :
    Coupled coupling filters parser.terminated parser'.terminated :=
  first.inspect fun _ => (coupled_endOfInput stable).map _

omit stable in
theorem coupled_getData (same : ∀ cursor cursor', coupling.cursors filters cursor cursor' →
    cursor.data = cursor'.data) :
    Coupled coupling filters (getData : Parser ι δ M ε δ) getData := by
  intro cursor cursor' session session' place shared
  unfold getData
  rw [← same cursor cursor' place]
  exact ⟨.done (.stay place), shared⟩

omit stable in
theorem coupled_setData {data : δ} (covered : ∀ cursor cursor',
    coupling.cursors filters cursor cursor' →
      coupling.cursors filters (cursor.withData data) (cursor'.withData data)) :
    Coupled coupling filters (setData data : Parser ι δ M ε Unit) (setData data) :=
  fun cursor cursor' _ _ place shared =>
    ⟨.done ⟨covered cursor cursor' place, fun _ => ⟨Nat.le_refl _, Nat.le_refl _⟩⟩, shared⟩

omit stable in
theorem coupled_modifyData {f : δ → Except Violation δ}
    (same : ∀ cursor cursor', coupling.cursors filters cursor cursor' → cursor.data = cursor'.data)
    (blamed : ∀ data violation, f data = .error violation → coupling.causes (.violation violation))
    (covered : ∀ cursor cursor' data, coupling.cursors filters cursor cursor' →
      coupling.cursors filters (cursor.withData data) (cursor'.withData data)) :
    Coupled coupling filters (modifyData f : Parser ι δ M ε δ) (modifyData f) := by
  intro cursor cursor' session session' place shared
  unfold modifyData
  rw [← same cursor cursor' place]
  cases changed : f cursor.data with
  | error violation => exact ⟨.halt (blamed _ _ changed), shared⟩
  | ok data =>
    exact ⟨.done ⟨covered cursor cursor' data place, fun _ => ⟨Nat.le_refl _, Nat.le_refl _⟩⟩,
      shared⟩

theorem Coupled.withFilter {parser parser' : Parser ι δ M ε α} {filter : Filter ι}
    (admitted : coupling.admits filter)
    (coupled : Coupled coupling (filter :: filters) parser parser') :
    Coupled coupling filters (parser.withFilter filter) (parser'.withFilter filter) := by
  intro cursor cursor' session session' place shared
  obtain ⟨paired, kept⟩ := coupled (cursor.filtered filter) (cursor'.filtered filter) session
    session' (stable.filtered place admitted) shared
  unfold Parser.withFilter
  rcases answer : parser (cursor.filtered filter) session with ⟨reply, later⟩
  rcases answer' : parser' (cursor'.filtered filter) session' with ⟨reply', later'⟩
  simp only [answer, answer'] at paired kept ⊢
  cases paired with
  | done ends => exact ⟨.done ⟨stable.unfiltered ends.place, ends.onward⟩, kept⟩
  | fail => exact ⟨.fail, kept⟩
  | halt blamed => exact ⟨.halt blamed, kept⟩

/-! Loops. -/

theorem Coupled.many {parser parser' : Parser ι δ M ε α}
    (coupled : Coupled coupling filters parser parser') :
    Coupled coupling filters (many parser : Parser ι δ M ε' (List α)) (many parser') :=
  stable.rounds coupled.maybe _

theorem Coupled.oneOrMore {parser parser' : Parser ι δ M ε α}
    (coupled : Coupled coupling filters parser parser') :
    Coupled coupling filters (oneOrMore parser) (oneOrMore parser') :=
  coupled.inspect fun v => (Coupled.many stable coupled).map (v :: ·)

theorem Coupled.repeatWhile {condition condition' : Parser ι δ M ε' β}
    {body body' : Parser ι δ M ε α} (coupled : Coupled coupling filters condition condition')
    (coupled' : Coupled coupling filters body body') :
    Coupled coupling filters (repeatWhile condition body) (repeatWhile condition' body') :=
  stable.rounds (coupled.handle (fun _ => coupled'.map some) fun _ => coupled_constant none) _

theorem Coupled.separatedBy {element element' : Parser ι δ M ε α}
    {separator separator' : Parser ι δ M ε' β} (form : ListForm)
    (coupled : Coupled coupling filters element element')
    (coupled' : Coupled coupling filters separator separator') :
    Coupled coupling filters (separatedBy form element separator)
      (separatedBy form element' separator') := by
  apply coupled.handle
  · intro first
    refine Coupled.map (first :: ·) (stable.rounds (coupled'.handle (fun _ => ?_) ?_) none)
    · apply coupled.handle
      · exact fun v => coupled_constant (some v)
      · intro error
        cases form.allowTrailing with
        | true => exact coupled_constant none
        | false => exact coupled_failWith error
    · exact fun _ => coupled_constant none
  · intro error
    cases form.allowZero with
    | true => exact coupled_constant []
    | false => exact coupled_failWith error

end Parser

end Packrat
