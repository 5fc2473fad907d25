import Packrat.Parser.Memoized
import Packrat.Proofs.Memo.Table

/-! All that a memoized parser can do: run without a table, meet an entry of another type, answer
what is cached, or run and have its outcome cached, be it the first or in place of a failure. -/

namespace Packrat

variable {ι δ : Type} {M : Memory}

def Session.recalled (session : Session ι δ M) (position : Nat) (key : Memo.Key) :
    Option (Memo.Entry ViewType M.Failure (M.Value × Cursor ι δ)) :=
  session.table.bind fun table => table.find? position key

@[simp] theorem Reply.outcome?_ofOutcome {σ ε α : Type} (outcome : Except ε (α × σ)) :
    (Reply.ofOutcome outcome).outcome? = some outcome := by
  cases outcome <;> rfl

theorem Reply.ofOutcome_eq_done {σ ε α : Type} {outcome : Except ε (α × σ)} {value : α} {rest : σ} :
    Reply.ofOutcome outcome = .done value rest ↔ outcome = .ok (value, rest) := by
  rcases outcome with error | ⟨value', rest'⟩ <;> simp [Reply.ofOutcome]

theorem Reply.ofOutcome_ne_halt {σ ε α : Type} (outcome : Except ε (α × σ)) (cause : Halt) :
    Reply.ofOutcome outcome ≠ .halt cause := by
  rcases outcome with error | ⟨value, rest⟩ <;> nofun

theorem Reply.ofOutcome_inj {σ ε α : Type} {outcome outcome' : Except ε (α × σ)}
    (same : Reply.ofOutcome outcome = .ofOutcome outcome') : outcome = outcome' := by
  simpa using congrArg Reply.outcome? same

theorem Reply.outcome_or_halt {σ ε α : Type} (reply : Reply σ ε α) :
    (∃ outcome, reply = .ofOutcome outcome) ∨ ∃ cause, reply = .halt cause := by
  cases reply with
  | done value rest => exact .inl ⟨.ok (value, rest), rfl⟩
  | fail error => exact .inl ⟨.error error, rfl⟩
  | halt cause => exact .inr ⟨cause, rfl⟩

section Recalled

variable {session : Session ι δ M}
  {table stored : Memo.Table ViewType M.Failure (M.Value × Cursor ι δ)}

theorem Session.recalled_of_table (shared : session.table = some table) (position : Nat)
    (key : Memo.Key) : session.recalled position key = table.find? position key := by
  rw [recalled, shared, Option.bind_some]

theorem Session.table_of_recalled {entry : Memo.Entry ViewType M.Failure (M.Value × Cursor ι δ)}
    (found : session.recalled position key = some entry) :
    ∃ table, session.table = some table ∧ table.find? position key = some entry :=
  Option.bind_eq_some_iff.mp found

/-- With an outcome stored, a session recalls it and what it recalled under other keys. -/
theorem Session.recalled_store {outcome : Except M.Failure (M.Value × Cursor ι δ)}
    (shared : session.table = some table)
    (accepted : table.store position key type outcome = .ok stored) (at' : Nat) (name : Memo.Key) :
    { session with table := some stored }.recalled at' name =
      if at' = position ∧ name = key then some ⟨key, type, outcome⟩
      else session.recalled at' name := by
  rw [recalled_of_table shared]
  exact Memo.Table.find?_store accepted at' name

end Recalled

namespace Parser

/-- What caching makes of the reply and the session that a run left. -/
inductive Caches (key : Memo.Key) (cursor : Cursor ι δ) :
    Reply (Cursor ι δ) M.Failure M.Value × Session ι δ M →
      Reply (Cursor ι δ) M.Failure M.Value × Session ι δ M → Prop where
  | halted : Caches key cursor (.halt cause, session) (.halt cause, session)
  | tableless (none : session.table = none) : Caches key cursor (reply, session) (reply, session)
  | stored (shared : session.table = some table)
      (accepted : table.store cursor.position key cursor.type outcome = .ok stored) :
      Caches key cursor (.ofOutcome outcome, session)
        (.ofOutcome outcome, { session with table := some stored })
  | refused (shared : session.table = some table)
      (rejected : table.store cursor.position key cursor.type outcome = .error violation) :
      Caches key cursor (.ofOutcome outcome, session) (.halt (.violation violation), session)

/-- What a memoized parser does at a cursor in a session. -/
inductive Memoizes (key : Memo.Key) (replace : Bool) (parser : Parser ι δ M M.Failure M.Value)
    (cursor : Cursor ι δ) (session : Session ι δ M) :
    Reply (Cursor ι δ) M.Failure M.Value × Session ι δ M → Prop where
  | unreachable :
      Memoizes key replace parser cursor session
        (parser cursor (session.note (.tableUnreachable key)))
  | mismatched (found : session.recalled cursor.position key = some entry)
      (other : entry.type ≠ cursor.type) :
      Memoizes key replace parser cursor session
        (.halt (.violation (.outcomeType key cursor.position)), session)
  | hit (found : session.recalled cursor.position key = some entry)
      (same : entry.type = cursor.type) :
      Memoizes key replace parser cursor session
        (.ofOutcome entry.outcome, session.note (.memoHit key cursor.position))
  | missed (absent : session.recalled cursor.position key = none)
      (caches : Caches key cursor (parser cursor session) result) :
      Memoizes key replace parser cursor session result
  | replaced (found : session.recalled cursor.position key = some entry)
      (failed : Memo.succeeded entry.outcome = false) (replacing : replace = true)
      (caches : Caches key cursor
        (parser cursor (session.note (.failureReplaced key cursor.position))) result) :
      Memoizes key replace parser cursor session result

theorem Caches.recalled_other {key name : Memo.Key} (caches : Caches key cursor run result)
    (other : name ≠ key) (position : Nat) :
    result.2.recalled position name = run.2.recalled position name := by
  cases caches with
  | halted => rfl
  | tableless none => rfl
  | stored shared accepted =>
    rw [Session.recalled_store shared accepted, if_neg fun same => other same.2]
  | refused shared rejected => rfl

theorem Caches.extra_eq {key : Memo.Key} (caches : Caches key cursor run result) :
    result.2.extra = run.2.extra := by
  cases caches <;> rfl

/-- An outcome that is the reply of caching is cached. -/
theorem Caches.recalled {key : Memo.Key} (caches : Caches key cursor run result)
    (live : run.2.table.isSome) (answer : result.1 = .ofOutcome outcome) :
    result.2.recalled cursor.position key = some ⟨key, cursor.type, outcome⟩ := by
  cases caches with
  | halted => exact (Reply.ofOutcome_ne_halt _ _ answer.symm).elim
  | tableless none => rw [none] at live; cases live
  | stored shared accepted =>
    obtain rfl := Reply.ofOutcome_inj answer
    rw [Session.recalled_store shared accepted, if_pos ⟨rfl, rfl⟩]
  | refused shared rejected => exact (Reply.ofOutcome_ne_halt _ _ answer.symm).elim

/-- Caching is refused only if a success is held already. -/
theorem success_of_refused {table : Memo.Table ViewType M.Failure (M.Value × Cursor ι δ)}
    {outcome : Except M.Failure (M.Value × Cursor ι δ)} {session : Session ι δ M}
    (shared : session.table = some table)
    (rejected : table.store position key type outcome = .error violation) :
    ∃ entry, session.recalled position key = some entry ∧ Memo.succeeded entry.outcome := by
  rw [Session.recalled_of_table shared]
  exact Memo.Table.success_of_rejected rejected

/-- A refused outcome leaves the session as the run had left it. -/
theorem runAndStore_eq (key : Memo.Key) (parser : Parser ι δ M M.Failure M.Value)
    (cursor : Cursor ι δ) (session : Session ι δ M) :
    runAndStore key parser cursor session =
      let (reply, later) := parser cursor session
      match reply.outcome?, later.table with
      | some outcome, some table =>
        match table.store cursor.position key cursor.type outcome with
        | .ok stored => (reply, { later with table := some stored })
        | .error violation => (.halt (.violation violation), later)
      | _, _ => (reply, later) := by
  unfold runAndStore
  rcases parser cursor session with ⟨reply, later⟩
  cases answer : reply.outcome? with
  | none => simp only [answer]
  | some outcome =>
    cases shared : later.table with
    | none => simp only [answer, shared]
    | some table =>
      have kept : { later with table := some table } = later := by rw [← shared]
      simp only [answer, shared, Memo.Table.write_eq_store]
      cases table.store cursor.position key cursor.type outcome with
      | ok stored => rfl
      | error violation => simp only [kept]

theorem caches_runAndStore (key : Memo.Key) (parser : Parser ι δ M M.Failure M.Value)
    (cursor : Cursor ι δ) (session : Session ι δ M) :
    Caches key cursor (parser cursor session) (runAndStore key parser cursor session) := by
  rw [runAndStore_eq]
  rcases parser cursor session with ⟨reply, later⟩
  cases shared : later.table with
  | none => cases reply <;> simp only [Reply.outcome?, shared] <;> exact .tableless shared
  | some table =>
    rcases reply.outcome_or_halt with ⟨outcome, rfl⟩ | ⟨cause, rfl⟩
    · cases accepted : table.store cursor.position key cursor.type outcome with
      | ok stored =>
        simp only [Reply.outcome?_ofOutcome, shared, accepted]
        exact .stored shared accepted
      | error violation =>
        simp only [Reply.outcome?_ofOutcome, shared, accepted]
        exact .refused shared accepted
    · exact .halted

/-- An outcome that the table accepts is stored. -/
theorem runAndStore_of_store {key : Memo.Key} {parser : Parser ι δ M M.Failure M.Value}
    {cursor : Cursor ι δ} {session later : Session ι δ M}
    {table stored : Memo.Table ViewType M.Failure (M.Value × Cursor ι δ)}
    {outcome : Except M.Failure (M.Value × Cursor ι δ)}
    (run : parser cursor session = (.ofOutcome outcome, later)) (shared : later.table = some table)
    (accepted : table.store cursor.position key cursor.type outcome = .ok stored) :
    runAndStore key parser cursor session =
      (.ofOutcome outcome, { later with table := some stored }) := by
  simp only [runAndStore_eq, run, Reply.outcome?_ofOutcome, shared, accepted]

theorem memoizes_memoize (reaches : δ → Bool) (key : Memo.Key) (replace : Bool)
    (parser : Parser ι δ M M.Failure M.Value) (cursor : Cursor ι δ) (session : Session ι δ M) :
    Memoizes key replace parser cursor session
      (memoize reaches key replace parser cursor session) := by
  unfold memoize
  cases reached : (if reaches cursor.data then session.table else none) with
  | none => exact .unreachable
  | some table =>
    have shared : session.table = some table := (Option.ite_none_right_eq_some.mp reached).2
    have held := Session.recalled_of_table shared cursor.position key
    cases found : table.find? cursor.position key with
    | none =>
      simp only [Memo.Table.lookup_of_absent found]
      exact .missed (held.trans found) (caches_runAndStore ..)
    | some entry =>
      have recalled := held.trans found
      by_cases same : entry.type = cursor.type
      · simp only [Memo.Table.lookup_of_present found same]
        split
        · exact .hit recalled same
        · rename_i unused
          simp only [Bool.or_eq_true, Bool.not_eq_true', not_or, Bool.not_eq_true,
            Bool.not_eq_false] at unused
          exact .replaced recalled unused.1 unused.2 (caches_runAndStore ..)
      · simp only [Memo.Table.lookup, found, if_neg same]
        exact .mismatched recalled same

/-- Memoization keeps what its parser keeps of the grammar's own state. -/
theorem Memoizes.extra (property : M.Extra → Prop) {key : Memo.Key} {replace : Bool}
    {parser : Parser ι δ M M.Failure M.Value} {cursor : Cursor ι δ} {session : Session ι δ M}
    (memoizes : Memoizes key replace parser cursor session result)
    (kept : property session.extra)
    (runs : ∀ log, property (parser cursor { session with log := log }).2.extra) :
    property result.2.extra := by
  cases memoizes with
  | unreachable => exact runs _
  | mismatched found other => exact kept
  | hit found same => exact kept
  | missed absent caches => exact caches.extra_eq ▸ runs session.log
  | replaced found failed replacing caches => exact caches.extra_eq ▸ runs _

/-! The three cases of a call that reaches a table and meets no other type. -/

section Cases

variable {reaches : δ → Bool} {key : Memo.Key} {replace : Bool}
  {parser : Parser ι δ M M.Failure M.Value} {cursor : Cursor ι δ} {session : Session ι δ M}

/-- Where nothing is held, the parser runs. -/
theorem memoize_of_nothing (reached : reaches cursor.data)
    (live : ∃ table, session.table = some table)
    (absent : session.recalled cursor.position key = none) :
    memoize reaches key replace parser cursor session = runAndStore key parser cursor session := by
  obtain ⟨table, shared⟩ := live
  rw [Session.recalled_of_table shared] at absent
  simp [memoize, reached, shared, Memo.Table.lookup_of_absent absent]

/-- A success, and a failure that is not to be replaced, is the reply. -/
theorem memoize_of_trusted {entry : Memo.Entry ViewType M.Failure (M.Value × Cursor ι δ)}
    (reached : reaches cursor.data) (held : session.recalled cursor.position key = some entry)
    (type : entry.type = cursor.type) (trusted : (Memo.succeeded entry.outcome || !replace) = true) :
    memoize reaches key replace parser cursor session =
      (.ofOutcome entry.outcome, session.note (.memoHit key cursor.position)) := by
  obtain ⟨table, shared, found⟩ := Session.table_of_recalled held
  simp only [memoize, reached, shared, Memo.Table.lookup_of_present found type, trusted, if_true]

/-- A failure that is to be replaced makes the parser run again. -/
theorem memoize_of_failure {entry : Memo.Entry ViewType M.Failure (M.Value × Cursor ι δ)}
    (reached : reaches cursor.data) (held : session.recalled cursor.position key = some entry)
    (type : entry.type = cursor.type) (failed : Memo.succeeded entry.outcome = false) :
    memoize reaches key true parser cursor session =
      runAndStore key parser cursor (session.note (.failureReplaced key cursor.position)) := by
  obtain ⟨table, shared, found⟩ := Session.table_of_recalled held
  simp [memoize, reached, shared, Memo.Table.lookup_of_present found type, failed]

/-- Where a table is reached and not given up, an outcome that is the reply is cached in the end. -/
theorem recalled_of_outcome {outcome : Except M.Failure (M.Value × Cursor ι δ)}
    (reached : reaches cursor.data) (live : session.table.isSome)
    (keeps : ∀ log, (parser cursor { session with log := log }).2.table.isSome)
    (answer : (memoize reaches key replace parser cursor session).1 = .ofOutcome outcome) :
    (memoize reaches key replace parser cursor session).2.recalled cursor.position key =
      some ⟨key, cursor.type, outcome⟩ := by
  cases held : session.recalled cursor.position key with
  | none =>
    have same : memoize reaches key replace parser cursor session =
        runAndStore key parser cursor session :=
      memoize_of_nothing reached (Option.isSome_iff_exists.mp live) held
    rw [same] at answer ⊢
    exact (caches_runAndStore ..).recalled (keeps session.log) answer
  | some entry =>
    by_cases type : entry.type = cursor.type
    · cases trusted : Memo.succeeded entry.outcome || !replace with
      | true =>
        rw [memoize_of_trusted reached held type trusted] at answer ⊢
        obtain ⟨_, _, found⟩ := Session.table_of_recalled held
        refine held.trans (congrArg some ?_)
        rw [← Memo.Table.key_of_find? found, ← type, ← Reply.ofOutcome_inj answer]
      | false =>
        obtain ⟨failed, replacing⟩ := by simpa using trusted
        subst replacing
        rw [memoize_of_failure reached held type failed] at answer ⊢
        exact (caches_runAndStore ..).recalled (keeps _) answer
    · obtain ⟨table, shared, found⟩ := Session.table_of_recalled held
      simp only [memoize, reached, if_true, shared, Memo.Table.lookup, found, if_neg type] at answer
      exact (Reply.ofOutcome_ne_halt _ _ answer.symm).elim

end Cases

end Parser

end Packrat
