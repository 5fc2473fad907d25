import Packrat.Proofs.Parser.Record

/-! Sequences and choices of any length: which of their parsers run, on which cursors and in which
order, and that it makes no difference how a long one is put together from short ones. -/

namespace Packrat.Parser

variable {ι δ : Type} {M : Memory} {ε α β : Type}

/-- The course of a choice: how many of its parsers are run, all on the same cursor, and what comes
of it. -/
inductive Chosen (parsers : List (Parser ι δ M ε α)) (cursor : Cursor ι δ)
    (session : Session ι δ M) : Nat → Reply (Cursor ι δ) ε α × Session ι δ M → Prop where
  /-- A parser succeeds, and those in front of it have failed. -/
  | won (split : parsers = front ++ parser :: back)
      (failed : FailInTurn cursor front session before)
      (succeeds : parser cursor before = (.done value rest, after)) :
      Chosen parsers cursor session (front.length + 1) (.done value rest, after)
  /-- They all fail, and the error is that of the last one. -/
  | exhausted (split : parsers = front ++ [parser])
      (failed : FailInTurn cursor front session before)
      (last : parser cursor before = (.fail error, after)) :
      Chosen parsers cursor session (front.length + 1) (.fail error, after)
  /-- A parser is broken off, and those in front of it have failed. -/
  | broken (split : parsers = front ++ parser :: back)
      (failed : FailInTurn cursor front session before)
      (halts : parser cursor before = (.halt cause, after)) :
      Chosen parsers cursor session (front.length + 1) (.halt cause, after)

/-- The course of a sequence: the cursors on which its parsers are run, from the first of them on,
and what comes of it. -/
inductive Sequenced (parsers : List (Parser ι δ M ε α)) (cursor : Cursor ι δ)
    (session : Session ι δ M) :
    List (Cursor ι δ) → Reply (Cursor ι δ) ε (List α) × Session ι δ M → Prop where
  /-- They all succeed. -/
  | completed (done : DoneInTurn parsers cursor session starts values rest after) :
      Sequenced parsers cursor session starts (.done values rest, after)
  /-- A parser fails, and those in front of it have succeeded. -/
  | failed (split : parsers = front ++ parser :: back)
      (done : DoneInTurn front cursor session starts values rest before)
      (fails : parser rest before = (.fail error, after)) :
      Sequenced parsers cursor session (starts ++ [rest]) (.fail error, after)
  /-- A parser is broken off, and those in front of it have succeeded. -/
  | broken (split : parsers = front ++ parser :: back)
      (done : DoneInTurn front cursor session starts values rest before)
      (halts : parser rest before = (.halt cause, after)) :
      Sequenced parsers cursor session (starts ++ [rest]) (.halt cause, after)

/-- The parts of a predictive choice, by the places of the pairs they belong to. -/
inductive Role where
  | lookahead (place : Nat)
  | continuation (place : Nat)
  deriving DecidableEq, Repr

/-- The course of a predictive choice: its runs in order, and what comes of it. -/
inductive Predicted (pairs : List (Parser ι δ M ε α × Parser ι δ M ε β)) (cursor : Cursor ι δ)
    (session : Session ι δ M) :
    List (Role × Cursor ι δ) → Reply (Cursor ι δ) ε β × Session ι δ M → Prop where
  /-- A lookahead succeeds, and those in front of it have failed: its continuation has the last
  word. -/
  | committed (split : pairs = front ++ (lookahead, continuation) :: back)
      (failed : FailInTurn cursor (front.map Prod.fst) session before)
      (succeeds : lookahead cursor before = (.done value rest, between)) :
      Predicted pairs cursor session
        (runsOn .lookahead (.replicate (front.length + 1) cursor) ++
          [(.continuation front.length, rest)])
        (continuation rest between)
  /-- All lookaheads fail, and the error is that of the last one. -/
  | refused (split : pairs = front ++ [(lookahead, continuation)])
      (failed : FailInTurn cursor (front.map Prod.fst) session before)
      (last : lookahead cursor before = (.fail error, after)) :
      Predicted pairs cursor session (runsOn .lookahead (.replicate (front.length + 1) cursor))
        (.fail error, after)
  /-- A lookahead is broken off, and those in front of it have failed. -/
  | broken (split : pairs = front ++ (lookahead, continuation) :: back)
      (failed : FailInTurn cursor (front.map Prod.fst) session before)
      (halts : lookahead cursor before = (.halt cause, after)) :
      Predicted pairs cursor session (runsOn .lookahead (.replicate (front.length + 1) cursor))
        (.halt cause, after)

/-- The lookaheads of a predictive choice, each with its continuation for a value. -/
def promises (pairs : List (Parser ι δ M ε α × Parser ι δ M ε β)) :
    List (Parser ι δ M ε (Parser ι δ M ε β)) :=
  pairs.map fun pair => pair.1.map fun _ => pair.2

/-- The pairs of a predictive choice with the runs of both their parts put on record. -/
def recordPairs (pairs : List (Parser ι δ M ε α × Parser ι δ M ε β)) :
    List (Parser ι δ (M.recording (Role × Cursor ι δ)) ε α ×
      Parser ι δ (M.recording (Role × Cursor ι δ)) ε β) :=
  pairs.mapIdx fun place pair =>
    (pair.1.recorded (.lookahead place), pair.2.recorded (.continuation place))

/-- A nested choice or sequence: how its parsers are grouped in twos. -/
inductive Grouping (π : Type) where
  | one (parser : π)
  | two (left right : Grouping π)

namespace Grouping

variable (grouping : Grouping (Parser ι δ M ε α))

def members {π : Type} : Grouping π → List π
  | one parser => [parser]
  | two left right => left.members ++ right.members

def choice : Grouping (Parser ι δ M ε α) → Parser ι δ M ε α
  | one parser => parser
  | two left right => orElse left.choice right.choice

def sequence : Grouping (Parser ι δ M ε α) → Parser ι δ M ε (List α)
  | one parser => parser.map fun value => [value]
  | two left right => (andThen left.sequence right.sequence).map fun values => values.1 ++ values.2

end Grouping

/-! Laws of the ways to put parsers together, by which nested ones are brought into one form. -/

section

variable {ε' γ : Type} {parser : Parser ι δ M ε α}

theorem handle_inspect {onValue : α → Parser ι δ M ε' β} {onError : ε → Parser ι δ M ε' β}
    {next : β → Parser ι δ M ε' γ} :
    (parser.handle onValue onError).inspect next =
      parser.handle (fun value => (onValue value).inspect next)
        fun error => (onError error).inspect next := by
  funext cursor session
  rcases run : parser cursor session with ⟨_ | _ | _, _⟩ <;>
    simp [inspect, handle, run, failWith]

theorem inspect_inspect {next : α → Parser ι δ M ε β} {next' : β → Parser ι δ M ε γ} :
    (parser.inspect next).inspect next' = parser.inspect fun value => (next value).inspect next' :=
  handle_inspect

theorem constant_inspect {value : α} {next : α → Parser ι δ M ε β} :
    (constant value : Parser ι δ M ε α).inspect next = next value := rfl

theorem inspect_constant : parser.inspect constant = parser := by
  funext cursor session
  rcases run : parser cursor session with ⟨_ | _ | _, _⟩ <;>
    simp [inspect, handle, run, constant, failWith]

theorem recover_recover {next : ε → Parser ι δ M ε' α} {next' : ε' → Parser ι δ M ε' α} :
    (parser.recover next).recover next' =
      parser.recover fun error => (next error).recover next' := by
  funext cursor session
  rcases run : parser cursor session with ⟨_ | _ | _, _⟩ <;>
    simp [recover, handle, run, constant]

theorem map_recover {f : α → β} {next : ε → Parser ι δ M ε' β} :
    (parser.map f).recover next = parser.handle (fun value => constant (f value)) next := by
  funext cursor session
  rcases run : parser cursor session with ⟨_ | _ | _, _⟩ <;>
    simp [recover, map, inspect, handle, run, constant, failWith]

theorem map_map {f : α → β} {g : β → γ} :
    (parser.map f).map g = parser.map fun value => g (f value) :=
  inspect_inspect

end

section

variable {cursor rest : Cursor ι δ} {session before after : Session ι δ M} {value : α} {error : ε}
  {cause : Halt} {parser : Parser ι δ M ε α} {parsers front back : List (Parser ι δ M ε α)}

/-! Runs of the parsers that a sequence or a choice is made of. -/

theorem inspect_of_done {next : α → Parser ι δ M ε β}
    (run : parser cursor session = (.done value rest, after)) :
    parser.inspect next cursor session = next value rest after := by
  simp only [inspect, handle, run]

theorem inspect_of_fail {next : α → Parser ι δ M ε β}
    (run : parser cursor session = (.fail error, after)) :
    parser.inspect next cursor session = (.fail error, after) := by
  simp only [inspect, handle, run, failWith]

theorem inspect_of_halt {next : α → Parser ι δ M ε β}
    (run : parser cursor session = (.halt cause, after)) :
    parser.inspect next cursor session = (.halt cause, after) := by
  simp only [inspect, handle, run]

theorem map_of_eq {parser' : Parser ι δ M ε α} {f : α → β}
    (same : parser cursor session = parser' rest after) :
    parser.map f cursor session = parser'.map f rest after := by
  simp only [map, inspect, handle, same]
  rfl

theorem orderedChoice_cons (some : parsers ≠ []) :
    orderedChoice (parser :: parsers) = parser.recover fun _ => orderedChoice parsers := by
  cases parsers with
  | nil => exact absurd rfl some
  | cons => rfl

/-- Parsers that fail are passed over. -/
theorem FailInTurn.orderedChoice (failed : FailInTurn cursor front session after)
    (some : back ≠ []) :
    orderedChoice (front ++ back) cursor session = orderedChoice back cursor after := by
  induction failed with
  | nil => rfl
  | cons first _ ih =>
    rw [List.cons_append, orderedChoice_cons (by simp [some]), recover, handle, first]
    exact ih

/-- Behind parsers that succeed a sequence goes on. -/
theorem DoneInTurn.collect {starts : List (Cursor ι δ)} {values : List α}
    (done : DoneInTurn front cursor session starts values rest after) :
    collect (front ++ back) cursor session = (collect back).map (values ++ ·) rest after := by
  induction done with
  | nil => simp only [List.nil_append, map, inspect_constant]
  | cons first _ ih =>
    rw [List.cons_append, Parser.collect, inspect_of_done first, map_of_eq ih, map_map]
    rfl

theorem collect_append (xs ys : List (Parser ι δ M ε α)) :
    Parser.collect (xs ++ ys) =
      (andThen (Parser.collect xs) (Parser.collect ys)).map
        fun values => values.1 ++ values.2 := by
  induction xs with
  | nil =>
    simp only [List.nil_append, Parser.collect, andThen, pair, map, inspect_inspect,
      constant_inspect, inspect_constant]
  | cons x xs ih =>
    simp only [List.cons_append, Parser.collect, ih, andThen, pair, map, inspect_inspect,
      constant_inspect]

theorem sequence_of_ne_nil (some : parsers ≠ []) :
    sequence parsers = Parser.collect parsers := by
  cases parsers with
  | nil => exact absurd rfl some
  | cons => rfl

theorem orderedChoice_append {xs ys : List (Parser ι δ M ε α)} (some : xs ≠ [])
    (some' : ys ≠ []) :
    Parser.orderedChoice (xs ++ ys) =
      orElse (Parser.orderedChoice xs) (Parser.orderedChoice ys) := by
  induction xs with
  | nil => exact absurd rfl some
  | cons x xs ih =>
    rw [List.cons_append, orderedChoice_cons (by simp [some'])]
    cases xs with
    | nil => rfl
    | cons next xs =>
      rw [ih (List.cons_ne_nil _ _)]
      exact recover_recover.symm

end

/-! The courses. Each is told of one list in every memory, so the run of the recorded parsers is
the run of the parsers with the same course. -/

section

variable {ν : Type} {cursor rest : Cursor ι δ} {session after : Session ι δ M} {error : ε}
  {parser : Parser ι δ M ε α} {parsers back : List (Parser ι δ M ε α)}

theorem recordEach_split {front : List (Parser ι δ M ε α)}
    (split : parsers = front ++ parser :: back) (name : Nat → ν) :
    recordEach name parsers =
      recordEach name front ++ parser.recorded (name front.length) ::
        recordEach (fun place => name (place + 1 + front.length)) back := by
  rw [split, recordEach_append, recordEach_cons, Nat.zero_add]

theorem runsOn_concat (name : Nat → ν) (starts : List (Cursor ι δ)) (start : Cursor ι δ) :
    runsOn name (starts ++ [start]) = runsOn name starts ++ [(name starts.length, start)] := by
  rw [runsOn_append, runsOn_cons, runsOn_nil, Nat.zero_add]

theorem map_snd_runsOn (name : Nat → ν) (starts : List (Cursor ι δ)) :
    (runsOn name starts).map Prod.snd = starts := by
  apply List.ext_getElem <;> simp [runsOn]

theorem runsOn_replicate_succ (name : Nat → ν) (count : Nat) (start : Cursor ι δ) :
    runsOn name (.replicate (count + 1) start) =
      runsOn name (.replicate count start) ++ [(name count, start)] := by
  rw [List.replicate_succ', runsOn_concat, List.length_replicate]

/-- Behind so many runs on a cursor one more is put on record. -/
theorem recorded_next (name : Nat → ν) {count : Nat} {reply : Reply (Cursor ι δ) ε α}
    (run : parser cursor session = (reply, after)) (past : List (ν × Cursor ι δ)) :
    parser.recorded (name count) cursor
        (session.withRecord (past ++ runsOn name (.replicate count cursor))) =
      (reply, after.withRecord (past ++ runsOn name (.replicate (count + 1) cursor))) := by
  rw [recorded_of_eq _ run, runsOn_replicate_succ, List.append_assoc]

/-! Choices. -/

variable {count : Nat} {result : Reply (Cursor ι δ) ε α × Session ι δ M}

theorem orderedChoice_of_settles (run : parser cursor session = result)
    (settles : back = [] ∨ ∀ error, result.1 ≠ .fail error) :
    orderedChoice (parser :: back) cursor session = result := by
  cases back with
  | nil => exact run
  | cons next back =>
    rw [orderedChoice_cons (List.cons_ne_nil _ _), recover, handle, run]
    rcases result with ⟨_ | error | _, _⟩
    · rfl
    · simp at settles
    · rfl

theorem exists_chosen (some : parsers ≠ []) (cursor : Cursor ι δ) (session : Session ι δ M) :
    ∃ count result, Chosen parsers cursor session count result := by
  obtain ⟨front, parser, back, before, split, failed, settles⟩ :=
    exists_settling some cursor session
  rcases run : parser cursor before with ⟨value, rest⟩ | error | cause
  · exact ⟨_, _, .won split failed run⟩
  · rcases settles with rfl | still
    · exact ⟨_, _, .exhausted split failed run⟩
    · exact absurd run (still _ _)
  · exact ⟨_, _, .broken split failed run⟩

theorem Chosen.orderedChoice (chosen : Chosen parsers cursor session count result) :
    orderedChoice parsers cursor session = result := by
  cases chosen with
  | won split failed succeeds =>
    rw [split, failed.orderedChoice (List.cons_ne_nil _ _)]
    exact orderedChoice_of_settles succeeds (.inr nofun)
  | exhausted split failed last =>
    rw [split, failed.orderedChoice (List.cons_ne_nil _ _)]
    exact orderedChoice_of_settles last (.inl rfl)
  | broken split failed halts =>
    rw [split, failed.orderedChoice (List.cons_ne_nil _ _)]
    exact orderedChoice_of_settles halts (.inr nofun)

theorem Chosen.recordEach (chosen : Chosen parsers cursor session count result) (name : Nat → ν)
    (past : List (ν × Cursor ι δ)) :
    Chosen (recordEach name parsers) cursor (session.withRecord past) count
      (result.1, result.2.withRecord (past ++ runsOn name (.replicate count cursor))) := by
  cases chosen with
  | won split failed succeeds =>
    have won := Chosen.won (recordEach_split split name) (failed.recordEach name past)
      (recorded_next name succeeds past)
    rwa [length_recordEach] at won
  | exhausted split failed last =>
    have exhausted := Chosen.exhausted (recordEach_split split name) (failed.recordEach name past)
      (recorded_next name last past)
    rwa [length_recordEach] at exhausted
  | broken split failed halts =>
    have broken := Chosen.broken (recordEach_split split name) (failed.recordEach name past)
      (recorded_next name halts past)
    rwa [length_recordEach] at broken

/-! Sequences. -/

variable {starts : List (Cursor ι δ)}
  {results : Reply (Cursor ι δ) ε (List α) × Session ι δ M}

theorem exists_sequenced (parsers : List (Parser ι δ M ε α)) (cursor : Cursor ι δ)
    (session : Session ι δ M) :
    ∃ starts result, Sequenced parsers cursor session starts result := by
  obtain ⟨starts, values, rest, after, done⟩ |
    ⟨front, parser, back, starts, values, rest, before, split, done, stops⟩ :=
    exists_stopping parsers cursor session
  · exact ⟨_, _, .completed done⟩
  · rcases run : parser rest before with ⟨_ | error | cause, after⟩
    · exact absurd run (stops _ _ _)
    · exact ⟨_, _, .failed split done run⟩
    · exact ⟨_, _, .broken split done run⟩

theorem Sequenced.collect (sequenced : Sequenced parsers cursor session starts results) :
    collect parsers cursor session = results := by
  cases sequenced with
  | completed done =>
    rw [← List.append_nil parsers, done.collect]
    simp [Parser.collect, map, constant_inspect, constant]
  | failed split done fails =>
    rw [split, done.collect, Parser.collect, map, inspect_inspect, inspect_of_fail fails]
  | broken split done halts =>
    rw [split, done.collect, Parser.collect, map, inspect_inspect, inspect_of_halt halts]

theorem Sequenced.recordEach (sequenced : Sequenced parsers cursor session starts results)
    (name : Nat → ν) (past : List (ν × Cursor ι δ)) :
    Sequenced (recordEach name parsers) cursor (session.withRecord past) starts
      (results.1, results.2.withRecord (past ++ runsOn name starts)) := by
  cases sequenced with
  | completed done => exact .completed (done.recordEach name past)
  | failed split done fails =>
    rw [runsOn_concat, ← List.append_assoc, done.length_starts]
    exact .failed (recordEach_split split name) (done.recordEach name past)
      (recorded_of_eq _ fails _)
  | broken split done halts =>
    rw [runsOn_concat, ← List.append_assoc, done.length_starts]
    exact .broken (recordEach_split split name) (done.recordEach name past)
      (recorded_of_eq _ halts _)

end

/-! Predictive choices. -/

section

variable {cursor rest : Cursor ι δ} {session after : Session ι δ M} {value : α} {error : ε}
  {cause : Halt} {lookahead : Parser ι δ M ε α} {continuation : Parser ι δ M ε β}
  {pairs front back : List (Parser ι δ M ε α × Parser ι δ M ε β)}
  {runs : List (Role × Cursor ι δ)} {result : Reply (Cursor ι δ) ε β × Session ι δ M}

theorem predictiveChoice_cons (some : back ≠ []) :
    predictiveChoice ((lookahead, continuation) :: back) =
      lookahead.handle (fun _ => continuation) fun _ => predictiveChoice back := by
  cases back with
  | nil => exact absurd rfl some
  | cons => rfl

/-- Lookaheads that fail are passed over. -/
theorem FailInTurn.predictiveChoice (failed : FailInTurn cursor (front.map Prod.fst) session after)
    (some : back ≠ []) :
    predictiveChoice (front ++ back) cursor session = predictiveChoice back cursor after := by
  induction front generalizing session with
  | nil =>
    cases failed
    rfl
  | cons pair front ih =>
    cases failed with
    | cons first more =>
      rw [List.cons_append, predictiveChoice_cons (by simp [some]), handle, first]
      exact ih more

/-- Lookaheads that fail without a trace are passed over. -/
theorem predictiveChoice_append (some : back ≠ [])
    (fails : ∀ pair ∈ front, ∃ error, pair.1 cursor session = (.fail error, session)) :
    predictiveChoice (front ++ back) cursor session = predictiveChoice back cursor session := by
  have failed : FailInTurn cursor (front.map Prod.fst) session session := by
    induction front with
    | nil => exact .nil
    | cons pair front ih =>
      obtain ⟨error, first⟩ := fails pair List.mem_cons_self
      exact .cons first (ih fun pair member => fails pair (List.mem_cons_of_mem _ member))
  exact failed.predictiveChoice some

theorem predictiveChoice_of_done
    (done : lookahead cursor session = (.done value rest, after)) :
    predictiveChoice ((lookahead, continuation) :: back) cursor session =
      continuation rest after := by
  cases back with
  | nil => simp [predictiveChoice, inspect, handle, done]
  | cons next pairs => simp [predictiveChoice, handle, done]

theorem predictiveChoice_of_fail (failed : lookahead cursor session = (.fail error, after)) :
    predictiveChoice [(lookahead, continuation)] cursor session = (.fail error, after) :=
  inspect_of_fail failed

theorem predictiveChoice_of_halt (halted : lookahead cursor session = (.halt cause, after)) :
    predictiveChoice ((lookahead, continuation) :: back) cursor session = (.halt cause, after) := by
  cases back with
  | nil => exact inspect_of_halt halted
  | cons next pairs => simp [predictiveChoice, handle, halted]

/-- Prediction is a choice of continuations, and the one that was chosen is run behind it. -/
theorem predictiveChoice_eq (some : pairs ≠ []) :
    predictiveChoice pairs = (orderedChoice (promises pairs)).inspect id := by
  induction pairs with
  | nil => exact absurd rfl some
  | cons pair pairs ih =>
    cases pairs with
    | nil =>
      change pair.1.inspect (fun _ => pair.2) = (pair.1.map fun _ => pair.2).inspect id
      rw [map, inspect_inspect]
      rfl
    | cons next pairs =>
      rw [predictiveChoice_cons (List.cons_ne_nil _ _), ih (List.cons_ne_nil _ _)]
      change _ = (orderedChoice
        (pair.1.map (fun _ => pair.2) :: promises (next :: pairs))).inspect id
      rw [orderedChoice_cons (by simp [promises]), map_recover, handle_inspect]
      rfl

theorem exists_predicted (some : pairs ≠ []) (cursor : Cursor ι δ) (session : Session ι δ M) :
    ∃ runs result, Predicted pairs cursor session runs result := by
  have lookaheads : pairs.map Prod.fst ≠ [] := by simp [some]
  obtain ⟨_, _, _, before, cut, failed, settles⟩ := exists_settling lookaheads cursor session
  obtain ⟨front, _, split, rfl, cut'⟩ := List.map_eq_append_iff.mp cut
  obtain ⟨⟨lookahead, continuation⟩, back, rfl, rfl, rfl⟩ := List.map_eq_cons_iff.mp cut'
  rcases run : lookahead cursor before with ⟨value, rest⟩ | error | cause
  · exact ⟨_, _, .committed split failed run⟩
  · rcases settles with last | still
    · exact ⟨_, _, .refused (by rw [split, List.map_eq_nil_iff.mp last]) failed run⟩
    · exact absurd run (still _ _)
  · exact ⟨_, _, .broken split failed run⟩

theorem Predicted.predictiveChoice (predicted : Predicted pairs cursor session runs result) :
    predictiveChoice pairs cursor session = result := by
  cases predicted with
  | committed split failed succeeds =>
    rw [split, failed.predictiveChoice (List.cons_ne_nil _ _), predictiveChoice_of_done succeeds]
  | refused split failed last =>
    rw [split, failed.predictiveChoice (List.cons_ne_nil _ _), predictiveChoice_of_fail last]
  | broken split failed halts =>
    rw [split, failed.predictiveChoice (List.cons_ne_nil _ _), predictiveChoice_of_halt halts]

theorem recordPairs_split (split : pairs = front ++ (lookahead, continuation) :: back) :
    recordPairs pairs =
      recordPairs front ++ (lookahead.recorded (.lookahead front.length),
        continuation.recorded (.continuation front.length)) ::
      back.mapIdx fun place pair =>
        (pair.1.recorded (.lookahead (place + 1 + front.length)),
          pair.2.recorded (.continuation (place + 1 + front.length))) := by
  rw [split, recordPairs, List.mapIdx_append, List.mapIdx_cons, Nat.zero_add]
  rfl

theorem map_fst_recordPairs (pairs : List (Parser ι δ M ε α × Parser ι δ M ε β)) :
    (recordPairs pairs).map Prod.fst = recordEach .lookahead (pairs.map Prod.fst) := by
  apply List.ext_getElem <;> simp [recordPairs, recordEach]

theorem length_recordPairs (pairs : List (Parser ι δ M ε α × Parser ι δ M ε β)) :
    (recordPairs pairs).length = pairs.length :=
  List.length_mapIdx

theorem FailInTurn.recordPairs (failed : FailInTurn cursor (front.map Prod.fst) session after)
    (past : List (Role × Cursor ι δ)) :
    FailInTurn cursor ((recordPairs front).map Prod.fst) (session.withRecord past)
      (after.withRecord (past ++ runsOn .lookahead (.replicate front.length cursor))) := by
  have recorded := failed.recordEach .lookahead past
  rwa [List.length_map, ← map_fst_recordPairs] at recorded

theorem Predicted.recordPairs (predicted : Predicted pairs cursor session runs result)
    (past : List (Role × Cursor ι δ)) :
    Predicted (recordPairs pairs) cursor (session.withRecord past) runs
      (result.1, result.2.withRecord (past ++ runs)) := by
  cases predicted with
  | committed split failed succeeds =>
    have committed := Predicted.committed (recordPairs_split split) (failed.recordPairs past)
      (recorded_next .lookahead succeeds past)
    rwa [length_recordPairs, recorded_run, List.append_assoc] at committed
  | refused split failed last =>
    have refused := Predicted.refused (recordPairs_split split) (failed.recordPairs past)
      (recorded_next .lookahead last past)
    rwa [length_recordPairs] at refused
  | broken split failed halts =>
    have broken := Predicted.broken (recordPairs_split split) (failed.recordPairs past)
      (recorded_next .lookahead halts past)
    rwa [length_recordPairs] at broken

/-- A predictive choice is a choice of continuations with the one that was chosen run behind it:
they run the same parsers on the same cursors in the same order, and leave the same. Behind the
first lookahead that succeeds only its continuation is run, and where none does the error is that of
the last. -/
theorem predictiveChoice_commits (some : pairs ≠ []) :
    predictiveChoice pairs = (orderedChoice (promises pairs)).inspect id ∧
    ∀ cursor session, ∃ runs,
      Predicted pairs cursor session runs (predictiveChoice pairs cursor session) ∧
      Records (predictiveChoice (Parser.recordPairs pairs)) (predictiveChoice pairs)
        cursor session runs ∧
      Records ((orderedChoice (promises (Parser.recordPairs pairs))).inspect id)
        ((orderedChoice (promises pairs)).inspect id) cursor session runs := by
  have some' : Parser.recordPairs pairs ≠ [] := by simp [Parser.recordPairs, some]
  rw [← predictiveChoice_eq some, ← predictiveChoice_eq some']
  refine ⟨rfl, fun cursor session => ?_⟩
  obtain ⟨runs, result, predicted⟩ := exists_predicted some cursor session
  have recorded : Records (predictiveChoice (Parser.recordPairs pairs)) (predictiveChoice pairs)
      cursor session runs := fun past => by
    rw [(predicted.recordPairs past).predictiveChoice, predicted.predictiveChoice]
  exact ⟨runs, predicted.predictiveChoice.symm ▸ predicted, recorded, recorded⟩

/-- Pairs of which the second is committed to, though its continuation fails. -/
def signs : List (Parser Char Unit ⟨Unit, Unit, Unit⟩ Nat Char ×
    Parser Char Unit ⟨Unit, Unit, Unit⟩ Nat Char) :=
  [(failWith 0, constant 'a'), (constant '+', failWith 1), (constant '+', constant 'c')]

theorem predictiveChoice_commits_signs :
    signs ≠ [] ∧
    Predicted signs (.ofList .utf8 ['+'] ()) (.new none ())
      [(.lookahead 0, .ofList .utf8 ['+'] ()), (.lookahead 1, .ofList .utf8 ['+'] ()),
        (.continuation 1, .ofList .utf8 ['+'] ())]
      (.fail 1, .new none ()) := by
  have some : signs ≠ [] := nofun
  obtain ⟨runs, predicted, recorded, _⟩ :=
    (predictiveChoice_commits some).2 (.ofList .utf8 ['+'] ()) (.new none ())
  obtain rfl : _ = runs := congrArg (fun result => result.2.extra.2) (recorded [])
  exact ⟨some, predicted⟩

end

/-! Groupings. -/

namespace Grouping

theorem members_ne_nil {π : Type} (grouping : Grouping π) : grouping.members ≠ [] := by
  induction grouping with
  | one parser => exact List.cons_ne_nil _ _
  | two left right leftSome _ => simp [members, leftSome]

theorem choice_eq (grouping : Grouping (Parser ι δ M ε α)) :
    grouping.choice = orderedChoice grouping.members := by
  induction grouping with
  | one parser => rfl
  | two left right ih ih' =>
    rw [choice, members, orderedChoice_append left.members_ne_nil right.members_ne_nil, ih, ih']

theorem sequence_eq (grouping : Grouping (Parser ι δ M ε α)) :
    grouping.sequence = Parser.sequence grouping.members := by
  rw [sequence_of_ne_nil grouping.members_ne_nil]
  induction grouping with
  | one parser => rfl
  | two left right ih ih' => rw [sequence, members, collect_append, ih, ih']

end Grouping

/-- However the parsers of a long choice or sequence are grouped, it is the same parser. A choice
tries its parsers on one cursor up to the first that succeeds, and the last has the last word; a
sequence runs them one behind the other up to the first that fails. -/
theorem orderedChoice_and_sequence_regroup {xs ys : List (Parser ι δ M ε α)} (some : xs ≠ [])
    (some' : ys ≠ []) :
    orderedChoice (xs ++ ys) = orElse (orderedChoice xs) (orderedChoice ys) ∧
    sequence (xs ++ ys) =
      (andThen (sequence xs) (sequence ys)).map (fun values => values.1 ++ values.2) ∧
    (∀ grouping : Grouping (Parser ι δ M ε α),
      grouping.choice = orderedChoice grouping.members ∧
      grouping.sequence = sequence grouping.members) ∧
    ∀ cursor session,
      (∃ count, Chosen xs cursor session count (orderedChoice xs cursor session) ∧
        Records (orderedChoice (recordEach id xs)) (orderedChoice xs) cursor session
          (runsOn id (.replicate count cursor))) ∧
      ∃ starts, Sequenced xs cursor session starts (sequence xs cursor session) ∧
        Records (sequence (recordEach id xs)) (sequence xs) cursor session (runsOn id starts) := by
  have recordedSome : recordEach id xs ≠ [] := by simp [recordEach, some]
  rw [sequence_of_ne_nil some, sequence_of_ne_nil some', sequence_of_ne_nil recordedSome,
    sequence_of_ne_nil (by simp [some])]
  refine ⟨orderedChoice_append some some', collect_append xs ys,
    fun grouping => ⟨grouping.choice_eq, grouping.sequence_eq⟩, fun cursor session => ⟨?_, ?_⟩⟩
  · obtain ⟨count, result, chosen⟩ := exists_chosen some cursor session
    refine ⟨count, chosen.orderedChoice.symm ▸ chosen, fun past => ?_⟩
    rw [(chosen.recordEach id past).orderedChoice, chosen.orderedChoice]
  · obtain ⟨starts, result, sequenced⟩ := exists_sequenced xs cursor session
    refine ⟨starts, sequenced.collect.symm ▸ sequenced, fun past => ?_⟩
    rw [(sequenced.recordEach id past).collect, sequenced.collect]

/-- Parsers of which the second fails. -/
def steps : List (Parser Char Unit ⟨Unit, Unit, Unit⟩ Nat Char) :=
  [constant 'a', failWith 1, constant 'c']

theorem orderedChoice_and_sequence_regroup_steps :
    steps ≠ [] ∧ sequence (steps ++ steps) =
      (andThen (sequence steps) (sequence steps)).map (fun values => values.1 ++ values.2) ∧
    Sequenced steps (.ofList .utf8 ['+'] ()) (.new none ())
      [.ofList .utf8 ['+'] (), .ofList .utf8 ['+'] ()] (.fail 1, .new none ()) := by
  have some : steps ≠ [] := nofun
  obtain ⟨_, appended, _, runs⟩ := orderedChoice_and_sequence_regroup some some
  obtain ⟨_, starts, sequenced, recorded⟩ := runs (.ofList .utf8 ['+'] ()) (.new none ())
  have listed : _ = runsOn id starts := congrArg (fun result => result.2.extra.2) (recorded [])
  obtain rfl : _ = starts := map_snd_runsOn id starts ▸ congrArg (List.map Prod.snd) listed
  exact ⟨some, appended, sequenced⟩

end Packrat.Parser
