import Packrat.Parser.Choice

/-! A record of runs. Beside what a session remembers it can keep a list of the parsers that were
run and of the cursors they were run on. The parsers see nothing of it, so whatever holds of parsers
in every memory can be read off a memory with a record. -/

namespace Packrat

/-- What sessions remember, and a record of runs `ρ` beside it. -/
abbrev Memory.recording (M : Memory) (ρ : Type) : Memory := ⟨M.Failure, M.Value, M.Extra × List ρ⟩

variable {ι δ ν ρ : Type} {M : Memory} {ε α : Type}

namespace Session

def bare (session : Session ι δ (M.recording ρ)) : Session ι δ M :=
  ⟨session.table, session.log, session.reach, session.extra.1⟩

def withRecord (session : Session ι δ M) (record : List ρ) : Session ι δ (M.recording ρ) :=
  ⟨session.table, session.log, session.reach, session.extra, record⟩

end Session

namespace Parser

/-- The parser with each of its runs put on record, under a name and with the cursor it is run
on. -/
def recorded (name : ν) (parser : Parser ι δ M ε α) :
    Parser ι δ (M.recording (ν × Cursor ι δ)) ε α := fun cursor session =>
  let (reply, after) := parser cursor session.bare
  (reply, after.withRecord (session.extra.2 ++ [(name, cursor)]))

/-- Parsers with their runs put on record, each under the name of its place in the list. -/
def recordEach (name : Nat → ν) (parsers : List (Parser ι δ M ε α)) :
    List (Parser ι δ (M.recording (ν × Cursor ι δ)) ε α) :=
  parsers.mapIdx fun place parser => parser.recorded (name place)

/-- Runs of the first parsers of a list, by the cursors they were run on. -/
def runsOn (name : Nat → ν) (starts : List (Cursor ι δ)) : List (ν × Cursor ι δ) :=
  starts.mapIdx fun place start => (name place, start)

/-- One parser does what the other does and puts `runs` on record, whatever is there already. -/
def Records (recording : Parser ι δ (M.recording ρ) ε α) (parser : Parser ι δ M ε α)
    (cursor : Cursor ι δ) (session : Session ι δ M) (runs : List ρ) : Prop :=
  ∀ past, recording cursor (session.withRecord past) =
    ((parser cursor session).1, (parser cursor session).2.withRecord (past ++ runs))

/-- The parsers are run on one cursor and fail, each in the session that the one before it left. -/
inductive FailInTurn (cursor : Cursor ι δ) :
    List (Parser ι δ M ε α) → Session ι δ M → Session ι δ M → Prop where
  | nil : FailInTurn cursor [] session session
  | cons (first : parser cursor session = (.fail error, before))
      (more : FailInTurn cursor parsers before after) :
      FailInTurn cursor (parser :: parsers) session after

/-- The parsers are run one behind the other and succeed: the cursors they are run on, their values,
and what is left. -/
inductive DoneInTurn : List (Parser ι δ M ε α) → Cursor ι δ → Session ι δ M → List (Cursor ι δ) →
    List α → Cursor ι δ → Session ι δ M → Prop where
  | nil : DoneInTurn [] cursor session [] [] cursor session
  | cons (first : parser cursor session = (.done value middle, before))
      (more : DoneInTurn parsers middle before starts values rest after) :
      DoneInTurn (parser :: parsers) cursor session (cursor :: starts) (value :: values) rest after

variable {cursor rest : Cursor ι δ} {session before after : Session ι δ M} {error : ε}
  {value : α} {parser : Parser ι δ M ε α} {parsers : List (Parser ι δ M ε α)}

theorem recorded_run (name : ν) (parser : Parser ι δ M ε α) (cursor : Cursor ι δ)
    (session : Session ι δ M) : Records (parser.recorded name) parser cursor session
      [(name, cursor)] := fun _ => rfl

theorem recorded_of_eq {reply : Reply (Cursor ι δ) ε α} (name : ν)
    (run : parser cursor session = (reply, after)) (past : List (ν × Cursor ι δ)) :
    parser.recorded name cursor (session.withRecord past) =
      (reply, after.withRecord (past ++ [(name, cursor)])) := by
  rw [recorded_run, run]

@[simp] theorem runsOn_nil (name : Nat → ν) : runsOn name ([] : List (Cursor ι δ)) = [] := rfl

@[simp] theorem runsOn_cons (name : Nat → ν) (start : Cursor ι δ) (starts : List (Cursor ι δ)) :
    runsOn name (start :: starts) =
      (name 0, start) :: runsOn (fun place => name (place + 1)) starts :=
  List.mapIdx_cons

theorem runsOn_append (name : Nat → ν) (starts starts' : List (Cursor ι δ)) :
    runsOn name (starts ++ starts') =
      runsOn name starts ++ runsOn (fun place => name (place + starts.length)) starts' :=
  List.mapIdx_append

@[simp] theorem recordEach_nil (name : Nat → ν) :
    recordEach name ([] : List (Parser ι δ M ε α)) = [] := rfl

@[simp] theorem recordEach_cons (name : Nat → ν) (parser : Parser ι δ M ε α)
    (parsers : List (Parser ι δ M ε α)) :
    recordEach name (parser :: parsers) =
      parser.recorded (name 0) :: recordEach (fun place => name (place + 1)) parsers :=
  List.mapIdx_cons

theorem recordEach_append (name : Nat → ν) (front back : List (Parser ι δ M ε α)) :
    recordEach name (front ++ back) =
      recordEach name front ++ recordEach (fun place => name (place + front.length)) back :=
  List.mapIdx_append

theorem length_recordEach (name : Nat → ν) (parsers : List (Parser ι δ M ε α)) :
    (recordEach name parsers).length = parsers.length :=
  List.length_mapIdx

/-! Parsers that fail one after the other, all on one cursor. -/

theorem FailInTurn.recordEach (failed : FailInTurn cursor parsers session after) (name : Nat → ν)
    (past : List (ν × Cursor ι δ)) :
    FailInTurn cursor (recordEach name parsers) (session.withRecord past)
      (after.withRecord (past ++ runsOn name (.replicate parsers.length cursor))) := by
  induction failed generalizing name past with
  | nil => simpa using FailInTurn.nil
  | cons first _ ih =>
    rw [recordEach_cons, List.length_cons, List.replicate_succ, runsOn_cons, List.append_cons]
    exact .cons (recorded_of_eq _ first past) (ih _ _)

/-- Some parser of a list is the first that does not fail, or the last of all. -/
theorem exists_settling (some : parsers ≠ []) (cursor : Cursor ι δ) (session : Session ι δ M) :
    ∃ front parser back before, parsers = front ++ parser :: back ∧
      FailInTurn cursor front session before ∧
      (back = [] ∨ ∀ error after, parser cursor before ≠ (.fail error, after)) := by
  induction parsers generalizing session with
  | nil => exact absurd rfl some
  | cons parser parsers ih =>
    cases parsers with
    | nil => exact ⟨[], parser, [], session, rfl, .nil, .inl rfl⟩
    | cons next later =>
      rcases run : parser cursor session with ⟨value, rest⟩ | error | cause
      · exact ⟨[], parser, _, session, rfl, .nil, .inr fun error after => by simp [run]⟩
      · obtain ⟨front, winner, back, before, split, failed, settles⟩ := ih nofun _
        exact ⟨parser :: front, winner, back, before, by rw [split, List.cons_append],
          .cons run failed, settles⟩
      · exact ⟨[], parser, _, session, rfl, .nil, .inr fun error after => by simp [run]⟩

/-! Parsers that succeed one after the other, each on what the one before it left. -/

theorem DoneInTurn.recordEach {starts : List (Cursor ι δ)} {values : List α}
    (done : DoneInTurn parsers cursor session starts values rest after) (name : Nat → ν)
    (past : List (ν × Cursor ι δ)) :
    DoneInTurn (recordEach name parsers) cursor (session.withRecord past) starts values rest
      (after.withRecord (past ++ runsOn name starts)) := by
  induction done generalizing name past with
  | nil => simpa using DoneInTurn.nil
  | cons first _ ih =>
    rw [recordEach_cons, runsOn_cons, List.append_cons]
    exact .cons (recorded_of_eq _ first past) (ih _ _)

theorem DoneInTurn.length_starts {starts : List (Cursor ι δ)} {values : List α}
    (done : DoneInTurn parsers cursor session starts values rest after) :
    starts.length = parsers.length := by
  induction done with
  | nil => rfl
  | cons _ _ ih => simp [ih]

/-- Some parser of a list is the first that does not succeed, or they all do. -/
theorem exists_stopping (parsers : List (Parser ι δ M ε α)) (cursor : Cursor ι δ)
    (session : Session ι δ M) :
    (∃ starts values rest after, DoneInTurn parsers cursor session starts values rest after) ∨
    ∃ front parser back starts values rest before, parsers = front ++ parser :: back ∧
      DoneInTurn front cursor session starts values rest before ∧
      ∀ value middle after, parser rest before ≠ (.done value middle, after) := by
  induction parsers generalizing cursor session with
  | nil => exact .inl ⟨[], [], cursor, session, .nil⟩
  | cons parser parsers ih =>
    rcases run : parser cursor session with ⟨⟨value, middle⟩ | error | cause, before⟩
    · obtain ⟨starts, values, rest, after, done⟩ |
        ⟨front, stopper, back, starts, values, rest, last, split, done, stops⟩ := ih middle before
      · exact .inl ⟨_, _, _, _, .cons run done⟩
      · exact .inr ⟨parser :: front, stopper, back, _, _, _, _, by rw [split, List.cons_append],
          .cons run done, stops⟩
    · exact .inr ⟨[], parser, parsers, [], [], cursor, session, rfl, .nil,
        fun _ _ _ => by simp [run]⟩
    · exact .inr ⟨[], parser, parsers, [], [], cursor, session, rfl, .nil,
        fun _ _ _ => by simp [run]⟩

end Parser

end Packrat
