import Packrat.Proofs.Parser.Memoization

/-! The history of one key. Whatever parsers are memoized under it, whatever they come to from one
run to the next and whatever they call meanwhile, what happens at a position is a matter of the calls
there: they run until one outcome settles, and all later ones are answered with it. -/

namespace Packrat

variable {ι δ : Type} {M : Memory}

/-- The reply is final where it is cached: a value, or an error that is not to be replaced. -/
def Reply.Settles {σ ε α : Type} (replace : Bool) : Reply σ ε α → Prop
  | .done _ _ => True
  | .fail _ => replace = false
  | .halt _ => False

namespace Parser

/-- A call of a memoized parser: where it was made, what the parser replied if it ran for it, and what
the call came to. -/
structure Call (ι δ : Type) (M : Memory) where
  position : Nat
  ran : Option (Reply (Cursor ι δ) M.Failure M.Value)
  reply : Reply (Cursor ι δ) M.Failure M.Value

/-- A call that made the parser run, and came to what the parser replied. -/
abbrev Call.run (position : Nat) (reply : Reply (Cursor ι δ) M.Failure M.Value) : Call ι δ M :=
  ⟨position, some reply, reply⟩

/-- A call for which nothing ran. -/
abbrev Call.hit (position : Nat) (reply : Reply (Cursor ι δ) M.Failure M.Value) : Call ι δ M :=
  ⟨position, none, reply⟩

def callsAt (position : Nat) (calls : List (Call ι δ M)) : List (Call ι δ M) :=
  calls.filter fun call => call.position = position

@[simp] theorem callsAt_nil (position : Nat) : callsAt position ([] : List (Call ι δ M)) = [] := rfl

@[simp] theorem callsAt_append (position : Nat) (calls more : List (Call ι δ M)) :
    callsAt position (calls ++ more) = callsAt position calls ++ callsAt position more :=
  List.filter_append ..

theorem callsAt_here (call : Call ι δ M) : callsAt call.position [call] = [call] := by
  simp [callsAt]

theorem callsAt_elsewhere {position : Nat} {call : Call ι δ M} (other : call.position ≠ position) :
    callsAt position [call] = [] := by
  simp [callsAt, other]

theorem callsAt_of_apart {position : Nat} {calls : List (Call ι δ M)}
    (apart : ∀ call ∈ calls, call.position ≠ position) : callsAt position calls = [] := by
  simpa [callsAt] using apart

/-- The calls at one position, in order, with the reply that settled them, if one did: runs until
then, and hits from then on. -/
inductive Progress (replace : Bool) (position : Nat) :
    List (Call ι δ M) → Option (Reply (Cursor ι δ) M.Failure M.Value) → Prop where
  | empty : Progress replace position [] none
  | run (progress : Progress replace position calls none) (early : ¬ reply.Settles replace) :
      Progress replace position (calls ++ [.run position reply]) none
  | settle (progress : Progress replace position calls none) (settles : reply.Settles replace) :
      Progress replace position (calls ++ [.run position reply]) (some reply)
  | hit (progress : Progress replace position calls (some reply)) :
      Progress replace position (calls ++ [.hit position reply]) (some reply)

section

variable (reaches : δ → Bool) (key : Memo.Key) (replace : Bool)

/-- The call is answered from the table: whatever parser is memoized, it makes no difference. -/
def Answered (cursor : Cursor ι δ) (session : Session ι δ M) : Prop :=
  ∀ body other : Parser ι δ M M.Failure M.Value,
    memoize reaches key replace body cursor session =
      memoize reaches key replace other cursor session

/-- The session in which the parser runs if the call is not answered. -/
def entrance (cursor : Cursor ι δ) (session : Session ι δ M) : Session ι δ M :=
  if (session.recalled cursor.position key).isSome then
    session.note (.failureReplaced key cursor.position)
  else session

/-- What happens to a session: calls under a key on views of one type, stores under other keys,
and all that leaves the table alone. While the parser of a call runs, anything of this may happen but
calls at its own position. The parser may be another one each time, so it may have any state. -/
inductive History (view : ViewType) :
    Session ι δ M → List (Call ι δ M) → Session ι δ M → Prop where
  | start : History view session [] session
  | aside (history : History view start calls session) (same : later.table = session.table) :
      History view start calls later
  | stored (history : History view start calls session) (other : name ≠ key)
      (shared : session.table = some table)
      (accepted : table.store position name type outcome = .ok changed) :
      History view start calls { session with table := some changed }
  | answered (body : Parser ι δ M M.Failure M.Value) (cursor : Cursor ι δ)
      (history : History view start calls session)
      (reached : reaches cursor.data) (level : cursor.type = view)
      (answered : Answered reaches key replace cursor session) :
      History view start
        (calls ++ [⟨cursor.position, none, (memoize reaches key replace body cursor session).1⟩])
        (memoize reaches key replace body cursor session).2
  | asked (body : Parser ι δ M M.Failure M.Value) (cursor : Cursor ι δ)
      (history : History view start calls session)
      (reached : reaches cursor.data) (level : cursor.type = view)
      (asked : ¬ Answered reaches key replace cursor session)
      (meanwhile : History view (entrance key cursor session) within
        (body cursor (entrance key cursor session)).2)
      (apart : ∀ call ∈ within, call.position ≠ cursor.position) :
      History view start
        (calls ++ within ++ [⟨cursor.position, some (body cursor (entrance key cursor session)).1,
          (memoize reaches key replace body cursor session).1⟩])
        (memoize reaches key replace body cursor session).2

end

variable {reaches : δ → Bool} {key : Memo.Key} {replace : Bool} {view : ViewType} {position : Nat}
  {start later session : Session ι δ M} {calls past : List (Call ι δ M)} {cursor : Cursor ι δ}
  {body : Parser ι δ M M.Failure M.Value} {reply : Reply (Cursor ι δ) M.Failure M.Value}

@[simp] theorem table_entrance (key : Memo.Key) (cursor : Cursor ι δ) (session : Session ι δ M) :
    (entrance key cursor session).table = session.table := by
  unfold entrance
  split <;> rfl

@[simp] theorem recalled_entrance (position : Nat) (name key : Memo.Key) (cursor : Cursor ι δ)
    (session : Session ι δ M) :
    (entrance key cursor session).recalled position name = session.recalled position name :=
  congrArg (·.bind fun table => table.find? position name) (table_entrance key cursor session)

/-! A call is answered, or the parser runs from the entrance and its outcome is stored. -/

theorem table_memoize_halt (cause : Halt) :
    (memoize reaches key replace (halt cause) cursor session).2.table = session.table := by
  unfold memoize runAndStore
  split
  · rfl
  · split
    · rfl
    · rfl
    · split <;> rfl

/-- A call that is answered leaves the table alone. -/
theorem Answered.table_eq (answered : Answered reaches key replace cursor session) :
    (memoize reaches key replace body cursor session).2.table = session.table := by
  rw [answered body (halt .exhausted)]
  exact table_memoize_halt .exhausted

/-- Where a parser runs, it makes a difference which. -/
theorem not_answered (runs : ∀ body : Parser ι δ M M.Failure M.Value,
      memoize reaches key replace body cursor session =
        runAndStore key body cursor (entrance key cursor session)) :
    ¬ Answered reaches key replace cursor session := by
  intro answered
  have same := answered (halt .exhausted) (halt (.violation .overflow))
  rw [runs, runs] at same
  cases congrArg Prod.fst same

theorem memoize_of_asked (asked : ¬ Answered reaches key replace cursor session)
    (live : ∃ table, session.table = some table) (reached : reaches cursor.data)
    (body : Parser ι δ M M.Failure M.Value) :
    memoize reaches key replace body cursor session =
      runAndStore key body cursor (entrance key cursor session) := by
  unfold entrance
  cases held : session.recalled cursor.position key with
  | none => exact memoize_of_nothing reached live held
  | some entry =>
    by_cases type : entry.type = cursor.type
    · cases trusted : Memo.succeeded entry.outcome || !replace with
      | true =>
        refine absurd (fun body other => ?_) asked
        rw [memoize_of_trusted reached held type trusted,
          memoize_of_trusted reached held type trusted]
      | false =>
        obtain ⟨failed, replacing⟩ := Bool.or_eq_false_iff.mp trusted
        obtain rfl : replace = true := by simpa using replacing
        exact memoize_of_failure reached held type failed
    · refine absurd (fun body other => ?_) asked
      obtain ⟨table, shared, found⟩ := Session.table_of_recalled held
      simp [memoize, reached, shared, Memo.Table.lookup, found, type]

/-- Running and storing keeps a table, and changes what is held under the key at the position
only. -/
theorem runAndStore_elsewhere {name : Memo.Key}
    (other : ¬ (position = cursor.position ∧ name = key)) :
    (runAndStore key body cursor session).2.recalled position name =
      (body cursor session).2.recalled position name := by
  have caches := caches_runAndStore key body cursor session
  generalize body cursor session = ran at caches ⊢
  generalize runAndStore key body cursor session = result at caches ⊢
  cases caches with
  | halted => rfl
  | tableless none => rfl
  | stored shared accepted => rw [Session.recalled_store shared accepted, if_neg other]
  | refused shared rejected => rfl

theorem runAndStore_live (live : ∃ table, (body cursor session).2.table = some table) :
    ∃ table, (runAndStore key body cursor session).2.table = some table := by
  have caches := caches_runAndStore key body cursor session
  generalize body cursor session = ran at caches live
  generalize runAndStore key body cursor session = result at caches ⊢
  cases caches with
  | halted => exact live
  | tableless none => exact live
  | stored shared accepted => exact ⟨_, rfl⟩
  | refused shared rejected => exact live

/-! The table stays, and what it holds at a position changes by calls there only. -/

theorem History.live (history : History reaches key replace view start calls later)
    (live : ∃ table, start.table = some table) : ∃ table, later.table = some table := by
  induction history with
  | start => exact live
  | aside history same ih => rw [same]; exact ih live
  | stored => exact ⟨_, rfl⟩
  | answered body cursor history reached level answered ih => rw [answered.table_eq]; exact ih live
  | asked body cursor history reached level asked meanwhile apart ih ih' =>
    have held := ih live
    rw [memoize_of_asked asked held reached]
    exact runAndStore_live (ih' (by rwa [table_entrance]))

theorem History.recalled_of_apart (history : History reaches key replace view start calls later)
    (live : ∃ table, start.table = some table) (apart : ∀ call ∈ calls, call.position ≠ position) :
    later.recalled position key = start.recalled position key := by
  induction history with
  | start => rfl
  | aside history same ih =>
    rw [Session.recalled, same]
    exact ih live apart
  | stored history other shared accepted ih =>
    rw [Session.recalled_store shared accepted, if_neg fun same => other same.2.symm]
    exact ih live apart
  | answered body cursor history reached level answered ih =>
    rw [Session.recalled, answered.table_eq]
    exact ih live fun call member => apart call (List.mem_append_left _ member)
  | asked body cursor history reached level asked meanwhile _ ih ih' =>
    have held := history.live live
    have elsewhere := apart _ (List.mem_append_right _ List.mem_cons_self)
    rw [memoize_of_asked asked held reached,
      runAndStore_elsewhere fun same => elsewhere same.1.symm, ih' (by rwa [table_entrance]),
      recalled_entrance, ih live]
    · exact fun call member => apart call (List.mem_append_left _ (List.mem_append_left _ member))
    · exact fun call member => apart call (List.mem_append_left _ (List.mem_append_right _ member))

/-! What is held at a position, told from the calls there. -/

/-- What is held before the calls at a position have settled: nothing, or a failure that is to be
replaced. Afterwards it is what settled them. -/
def Holding (replace : Bool) (view : ViewType)
    (held : Option (Memo.Entry ViewType M.Failure (M.Value × Cursor ι δ))) :
    Option (Reply (Cursor ι δ) M.Failure M.Value) → Prop
  | none => ∀ entry, held = some entry →
      entry.type = view ∧ Memo.succeeded entry.outcome = false ∧ replace = true
  | some reply => ∃ entry, held = some entry ∧ entry.type = view ∧
      reply = .ofOutcome entry.outcome ∧ (Memo.succeeded entry.outcome || !replace) = true

theorem settles_ofOutcome {outcome : Except M.Failure (M.Value × Cursor ι δ)} :
    (Reply.ofOutcome outcome).Settles replace ↔ (Memo.succeeded outcome || !replace) = true := by
  cases outcome <;> simp [Reply.ofOutcome, Reply.Settles, Memo.succeeded]

/-- Once a reply settled the calls at a position, they are answered with it. -/
theorem Holding.answers (holding : Holding replace view (session.recalled cursor.position key)
    (some reply)) (reached : reaches cursor.data) (level : cursor.type = view) :
    Answered reaches key replace cursor session ∧
      ∀ body, (memoize reaches key replace body cursor session).1 = reply := by
  obtain ⟨entry, held, type, rfl, trusted⟩ := holding
  have hit (body : Parser ι δ M M.Failure M.Value) :
      memoize reaches key replace body cursor session =
        (.ofOutcome entry.outcome, session.note (.memoHit key cursor.position)) :=
    memoize_of_trusted reached held (type.trans level.symm) trusted
  constructor
  · intro body other
    rw [hit, hit]
  · intro body
    rw [hit]

/-- Until then, the parser runs. -/
theorem Holding.asks (holding : Holding replace view (session.recalled cursor.position key) none)
    (live : ∃ table, session.table = some table) (reached : reaches cursor.data)
    (level : cursor.type = view) : ¬ Answered reaches key replace cursor session := by
  apply not_answered
  intro body
  unfold entrance
  cases held : session.recalled cursor.position key with
  | none => exact memoize_of_nothing reached live held
  | some entry =>
    obtain ⟨type, failed, rfl⟩ := holding entry held
    exact memoize_of_failure reached held (type.trans level.symm) failed

/-- The outcome of a run is held from then on, and settles the calls at the position or does not. -/
theorem Holding.runAndStore
    (holding : Holding replace view (session.recalled cursor.position key) none)
    (live : ∃ table, (body cursor session).2.table = some table) (level : cursor.type = view)
    (frame : (body cursor session).2.recalled cursor.position key =
      session.recalled cursor.position key)
    (progress : Progress replace cursor.position past none) :
    (Parser.runAndStore key body cursor session).1 = (body cursor session).1 ∧ ∃ settled,
      Progress replace cursor.position (past ++ [.run cursor.position (body cursor session).1])
          settled ∧
        Holding replace view
          ((Parser.runAndStore key body cursor session).2.recalled cursor.position key) settled := by
  have caches := caches_runAndStore key body cursor session
  rw [← frame] at holding
  generalize body cursor session = ran at caches live holding ⊢
  generalize Parser.runAndStore key body cursor session = result at caches ⊢
  cases caches with
  | halted => exact ⟨rfl, none, progress.run id, holding⟩
  | tableless none =>
    obtain ⟨table, shared⟩ := live
    rw [none] at shared
    cases shared
  | @stored session outcome table changed shared accepted =>
    have held := Session.recalled_store shared accepted cursor.position key
    rw [if_pos ⟨rfl, rfl⟩] at held
    cases trusted : Memo.succeeded outcome || !replace with
    | true =>
      exact ⟨rfl, _, progress.settle (settles_ofOutcome.mpr trusted), _, held, level, rfl, trusted⟩
    | false =>
      have early : ¬ (Reply.ofOutcome outcome).Settles replace := by
        rw [settles_ofOutcome, trusted]
        nofun
      refine ⟨rfl, none, progress.run early, fun entry found => ?_⟩
      obtain rfl := Option.some.inj (held.symm.trans found)
      obtain ⟨failed, replacing⟩ := Bool.or_eq_false_iff.mp trusted
      exact ⟨level, failed, by simpa using replacing⟩
  | refused shared rejected =>
    -- Only a success is in the way of an outcome, and none is held.
    obtain ⟨entry, found, succeeded⟩ := success_of_refused shared rejected
    rw [(holding entry found).2.1] at succeeded
    cases succeeded

/-- From one call to the next: what is held at a position tells how the calls there go on, and tells
so again after them. -/
theorem History.progress (history : History reaches key replace view start calls later)
    (live : ∃ table, start.table = some table) (progress : Progress replace position past settled)
    (holding : Holding replace view (start.recalled position key) settled) :
    ∃ settled', Progress replace position (past ++ callsAt position calls) settled' ∧
      Holding replace view (later.recalled position key) settled' := by
  induction history generalizing past settled with
  | start => exact ⟨settled, by simpa using progress, holding⟩
  | aside history same ih =>
    obtain ⟨settled', progress, holding⟩ := ih live progress holding
    exact ⟨settled', progress, by rwa [Session.recalled, same]⟩
  | stored history other shared accepted ih =>
    obtain ⟨settled', progress, holding⟩ := ih live progress holding
    refine ⟨settled', progress, ?_⟩
    rwa [Session.recalled_store shared accepted, if_neg fun same => other same.2.symm]
  | @answered start calls session body cursor history reached level answered ih =>
    obtain ⟨settled', progress, holding⟩ := ih live progress holding
    rw [callsAt_append, ← List.append_assoc, Session.recalled, answered.table_eq]
    by_cases here : cursor.position = position
    · subst here
      cases settled' with
      | none => exact absurd answered (holding.asks (history.live live) reached level)
      | some reply =>
        have same := (holding.answers reached level).2 body
        rw [callsAt_here ⟨cursor.position, none, _⟩, same]
        exact ⟨some reply, progress.hit, holding⟩
    · rw [callsAt_elsewhere here, List.append_nil]
      exact ⟨settled', progress, holding⟩
  | @asked start calls session within body cursor history reached level asked meanwhile apart ih ih' =>
    obtain ⟨settled', progress, holding⟩ := ih live progress holding
    have held := history.live live
    have entered : ∃ table, (entrance key cursor session).table = some table := by
      rwa [table_entrance]
    rw [callsAt_append, callsAt_append, ← List.append_assoc, ← List.append_assoc,
      memoize_of_asked asked held reached]
    by_cases here : cursor.position = position
    · subst here
      cases settled' with
      | some reply => exact absurd (holding.answers reached level).1 asked
      | none =>
        have frame := meanwhile.recalled_of_apart entered apart
        rw [← recalled_entrance cursor.position key key cursor session] at holding
        obtain ⟨same, settled', progress, holding⟩ :=
          holding.runAndStore (meanwhile.live entered) level frame progress
        rw [callsAt_of_apart apart, List.append_nil, same, callsAt_here (.run cursor.position _)]
        exact ⟨settled', progress, holding⟩
    · rw [← recalled_entrance position key key cursor session] at holding
      obtain ⟨settled', progress, holding⟩ := ih' entered progress holding
      rw [callsAt_elsewhere here, List.append_nil,
        runAndStore_elsewhere fun same => here same.1.symm]
      exact ⟨settled', progress, holding⟩

/-- The calls at a position are runs that settle nothing, one that settles them, and hits. -/
theorem Progress.shape {settled : Option (Reply (Cursor ι δ) M.Failure M.Value)}
    (progress : Progress replace position calls settled) :
    ∃ early : List (Reply (Cursor ι δ) M.Failure M.Value),
      (∀ reply ∈ early, ¬ reply.Settles replace) ∧
        (settled = none ∧ calls = early.map (.run position) ∨
          ∃ reply hits, settled = some reply ∧ reply.Settles replace ∧ calls =
            early.map (.run position) ++ .run position reply ::
              .replicate hits (.hit position reply)) := by
  induction progress with
  | empty => exact ⟨[], nofun, .inl ⟨rfl, rfl⟩⟩
  | @run calls reply progress unsettled ih =>
    obtain ⟨early, unsettled', ⟨_, rfl⟩ | ⟨_, _, none, _⟩⟩ := ih
    · refine ⟨early ++ [reply], ?_, .inl ⟨rfl, by simp⟩⟩
      intro other member
      rcases List.mem_append.mp member with member | member
      · exact unsettled' other member
      · rwa [List.mem_singleton.mp member]
    · cases none
  | settle progress settles ih =>
    obtain ⟨early, unsettled, ⟨_, rfl⟩ | ⟨_, _, none, _⟩⟩ := ih
    · exact ⟨early, unsettled, .inr ⟨_, 0, rfl, settles, rfl⟩⟩
    · cases none
  | hit progress ih =>
    obtain ⟨early, unsettled, ⟨some, _⟩ | ⟨_, hits, same, settles, rfl⟩⟩ := ih
    · cases some
    · cases same
      exact ⟨early, unsettled, .inr ⟨_, hits + 1, rfl, settles, by simp [List.replicate_succ']⟩⟩

/-- Whatever happens to a session in which nothing is held under a key: where failures are trusted,
the calls at a position make one run that is not broken off, and have its outcome from then on; where
they are replaced, the calls make runs up to the first success, and have that from then on. -/
theorem runs_until_settled (history : History reaches key replace view start calls later)
    (live : ∃ table, start.table = some table)
    (fresh : ∀ position, start.recalled position key = none) (position : Nat) :
    (replace = false → ∃ broken : List (Reply (Cursor ι δ) M.Failure M.Value),
      (∀ reply ∈ broken, ∃ cause, reply = .halt cause) ∧
        (callsAt position calls = broken.map (.run position) ∨
          ∃ outcome hits, callsAt position calls =
            broken.map (.run position) ++ .run position (.ofOutcome outcome) ::
              .replicate hits (.hit position (.ofOutcome outcome)))) ∧
    (replace = true → ∃ early : List (Reply (Cursor ι δ) M.Failure M.Value),
      (∀ reply ∈ early, ∀ value rest, reply ≠ .done value rest) ∧
        (callsAt position calls = early.map (.run position) ∨
          ∃ value rest hits, callsAt position calls =
            early.map (.run position) ++ .run position (.done value rest) ::
              .replicate hits (.hit position (.done value rest)))) := by
  have nothing : Holding replace view (start.recalled position key) none := by
    intro entry held
    rw [fresh] at held
    cases held
  obtain ⟨settled, progress, _⟩ := history.progress live .empty nothing
  obtain ⟨early, unsettled, shape⟩ := progress.shape
  rw [List.nil_append] at shape
  constructor
  · intro trusting
    refine ⟨early, fun reply member => ?_, ?_⟩
    · have unsettled := unsettled reply member
      cases reply with
      | done value rest => exact absurd trivial unsettled
      | fail error => exact absurd trusting unsettled
      | halt cause => exact ⟨cause, rfl⟩
    · rcases shape with ⟨_, shape⟩ | ⟨reply, hits, _, settles, shape⟩
      · exact .inl shape
      · rcases reply.outcome_or_halt with ⟨outcome, rfl⟩ | ⟨cause, rfl⟩
        · exact .inr ⟨outcome, hits, shape⟩
        · exact settles.elim
  · intro replacing
    refine ⟨early, fun reply member value rest done => ?_, ?_⟩
    · exact unsettled reply member (done ▸ trivial)
    · rcases shape with ⟨_, shape⟩ | ⟨reply, hits, _, settles, shape⟩
      · exact .inl shape
      · cases reply with
        | done value rest => exact .inr ⟨value, rest, hits, shape⟩
        | fail error => exact absurd (replacing.symm.trans settles) nofun
        | halt cause => exact settles.elim

abbrev Counter : Memory := ⟨Unit, Nat, Nat⟩

/-- A parser with a state: its first run fails, and the later ones say how many there were before. -/
def fickle : Parser Char Unit Counter Unit Nat := fun cursor session =>
  (if session.extra = 0 then .fail () else .done session.extra cursor,
    { session with extra := session.extra + 1 })

/-- Calls at the start of a text: two make the parser run, a third does not. -/
def fickleCalls : List (Call Char Unit Counter) :=
  [.run 0 (.fail ()), .run 0 (.done (1 : Nat) (.ofList .utf8 ['a'] ())),
    .hit 0 (.done (1 : Nat) (.ofList .utf8 ['a'] ()))]

/-- The calls are made with a store under another key after the first. -/
theorem runs_until_settled_fickle :
    ∃ start later : Session Char Unit Counter,
      History (fun _ => true) (.named "fickle") true [] start fickleCalls later ∧
      (∃ table, start.table = some table) ∧
      (∀ position, start.recalled position (.named "fickle") = none) ∧
      ∃ early : List (Reply (Cursor Char Unit) Counter.Failure Counter.Value),
        (∀ reply ∈ early, ∀ value rest, reply ≠ .done value rest) ∧
          (callsAt 0 fickleCalls = early.map (.run 0) ∨
            ∃ value rest hits, callsAt 0 fickleCalls =
              early.map (.run 0) ++ .run 0 (.done value rest) ::
                .replicate hits (.hit 0 (.done value rest))) := by
  let start : Session Char Unit Counter := .new (some .empty) (0 : Nat)
  let cursor : Cursor Char Unit := .ofList .utf8 ['a'] ()
  let call := memoize (fun _ : Unit => true) (.named "fickle") true fickle cursor
  have live : ∃ table, start.table = some table := ⟨_, rfl⟩
  have fresh (position : Nat) : start.recalled position (.named "fickle") = none := rfl
  have first : History (fun _ => true) (.named "fickle") true [] start [.run 0 (.fail ())]
      (call start).2 :=
    .asked fickle cursor .start rfl rfl (not_answered fun _ => rfl) (.aside .start rfl) nofun
  have other : Memo.Key.named "other" ≠ .named "fickle" := by decide
  let failed : Memo.Entry ViewType Counter.Failure (Counter.Value × Cursor Char Unit) :=
    ⟨.named "fickle", [], .error ()⟩
  let table : Memo.Table ViewType Counter.Failure (Counter.Value × Cursor Char Unit) :=
    ⟨Std.ExtTreeMap.insert ∅ 0 (Memo.Bucket.single failed)⟩
  let changed : Memo.Table ViewType Counter.Failure (Counter.Value × Cursor Char Unit) :=
    ⟨table.buckets.insert 0 (Memo.Bucket.chain [failed, { failed with key := .named "other" }])⟩
  have accepted : table.store 0 (.named "other") [] (.error ()) = .ok changed := rfl
  have aside := first.stored other rfl accepted
  have second :=
    aside.asked fickle cursor rfl rfl (not_answered fun _ => rfl) (.aside .start rfl) nofun
  have third := second.answered fickle cursor rfl rfl fun _ _ => rfl
  exact ⟨start, _, third, live, fresh, (runs_until_settled third live fresh 0).2 rfl⟩

end Parser

end Packrat
