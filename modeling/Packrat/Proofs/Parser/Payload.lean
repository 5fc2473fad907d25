import Packrat.Proofs.Parser.Memoization
import Packrat.Proofs.Standing

/-! What memoization makes of the payload. A cached success is kept with the cursor it ended on, and
that cursor carries the payload of the call that was cached. A later call at the same position ends
with that payload and not with its own. -/

namespace Packrat

variable {ι δ : Type} {M : Memory} {ε α : Type}

def Reply.carrying (data : δ) : Reply (Cursor ι δ) ε α → Reply (Cursor ι δ) ε α
  | .done value rest => .done value (rest.withData data)
  | .fail error => .fail error
  | .halt cause => .halt cause

/-- The first of the cursors that stands at a position. -/
def Cursor.earliest (position : Nat) (cursors : List (Cursor ι δ)) : Option (Cursor ι δ) :=
  cursors.find? fun cursor => cursor.position = position

namespace Parser

/-- The replies to one call after the other, in the session that the earlier calls leave. -/
def successive (parser : Parser ι δ M ε α) :
    List (Cursor ι δ) → Session ι δ M → List (Reply (Cursor ι δ) ε α)
  | [], _ => []
  | cursor :: cursors, session =>
    let (reply, later) := parser cursor session
    reply :: successive parser cursors later

/-- The parser neither sees nor changes the payload or the table. -/
structure Oblivious (parser : Parser ι δ M ε α) : Prop where
  reply_eq : ∀ cursor data session session', session.reach = session'.reach →
    (parser (cursor.withData data) session').1 = (parser cursor session).1.carrying data
  table_eq : ∀ cursor session, (parser cursor session).2.table = session.table
  reach_eq : ∀ cursor session, (parser cursor session).2.reach = session.reach

variable {parser : Parser ι δ M M.Failure M.Value} {reaches : δ → Bool} {key : Memo.Key}
  {cursor first : Cursor ι δ} {session start : Session ι δ M} {past : List (Cursor ι δ)}

theorem Oblivious.carrying_self (oblivious : Oblivious parser) (cursor : Cursor ι δ)
    (session : Session ι δ M) :
    (parser cursor session).1.carrying cursor.data = (parser cursor session).1 :=
  (oblivious.reply_eq cursor cursor.data session session rfl).symm

/-- To put a payload on a reply changes nothing if and only if a success had this payload. -/
theorem Oblivious.carrying_eq_iff (oblivious : Oblivious parser) :
    (parser cursor session).1.carrying data = (parser cursor session).1 ↔
      ((∃ value rest, (parser cursor session).1 = .done value rest) → cursor.data = data) := by
  have self := oblivious.carrying_self cursor session
  cases reply : (parser cursor session).1 with
  | done value rest =>
    rw [reply] at self
    simp only [Reply.carrying, Reply.done.injEq, true_and] at self ⊢
    constructor
    · intro same _
      have equal : (rest.withData cursor.data).data = (rest.withData data).data := by
        rw [self, same]
      exact equal
    · intro equal
      rw [← equal ⟨value, rest, rfl, rfl⟩, self]
  | fail error => simp [Reply.carrying]
  | halt cause => simp [Reply.carrying]

/-- The session recalls, under the key and at every position, the outcome of the first call
there. -/
structure Remembers (parser : Parser ι δ M M.Failure M.Value) (key : Memo.Key)
    (start : Session ι δ M) (past : List (Cursor ι δ)) (session : Session ι δ M) : Prop where
  live : ∃ table, session.table = some table
  reach_eq : start.reach = session.reach
  recalled_eq : ∀ position, session.recalled position key =
    (Cursor.earliest position past).bind fun first =>
      (parser first start).1.outcome?.map fun outcome => ⟨key, first.type, outcome⟩

theorem earliest_append (position : Nat) (past : List (Cursor ι δ)) (cursor : Cursor ι δ) :
    Cursor.earliest position (past ++ [cursor]) =
      if cursor.position = position then some ((Cursor.earliest position past).getD cursor)
      else Cursor.earliest position past := by
  unfold Cursor.earliest
  rw [List.find?_append]
  by_cases here : cursor.position = position
  · cases past.find? fun cursor => cursor.position = position <;> simp [here]
  · simp [here]

/-- What a call leaves is remembered as before if an earlier call at its position was cached, or if
its reply is no outcome. -/
theorem Remembers.extend (remembers : Remembers parser key start past session)
    {later : Session ι δ M} (table : later.table = session.table)
    (reach : later.reach = session.reach)
    (none : Cursor.earliest cursor.position past = none → (parser cursor start).1.outcome? = none) :
    Remembers parser key start (past ++ [cursor]) later := by
  constructor
  · rw [table]
    exact remembers.live
  · rw [reach]
    exact remembers.reach_eq
  · intro position
    have recalled := remembers.recalled_eq position
    rw [Session.recalled, table, ← Session.recalled, recalled, earliest_append]
    by_cases here : cursor.position = position
    · subst here
      cases found : Cursor.earliest cursor.position past with
      | none => simp [none found]
      | some first => simp
    · rw [if_neg here]

/-- The same where the call's outcome is stored, as the first one at its position. -/
theorem Remembers.store (remembers : Remembers parser key start past session)
    {later : Session ι δ M} {table stored : Memo.Table ViewType M.Failure (M.Value × Cursor ι δ)}
    (shared : later.table = some table) (same : later.table = session.table)
    (reach : later.reach = session.reach)
    (none : Cursor.earliest cursor.position past = none)
    (reply : (parser cursor start).1 = .ofOutcome outcome)
    (accepted : table.store cursor.position key cursor.type outcome = .ok stored) :
    Remembers parser key start (past ++ [cursor]) { later with table := some stored } := by
  constructor
  · exact ⟨stored, rfl⟩
  · rw [remembers.reach_eq, ← reach]
  · intro position
    have recalled := remembers.recalled_eq position
    rw [Session.recalled_store shared accepted, earliest_append]
    by_cases here : cursor.position = position
    · subst here
      simp [none, reply]
    · rw [if_neg here, if_neg fun place => here place.1.symm, Session.recalled, same,
        ← Session.recalled, recalled]

theorem Reply.eq_ofOutcome_iff {reply : Reply (Cursor ι δ) ε α}
    {outcome : Except ε (α × Cursor ι δ)} :
    reply.outcome? = some outcome ↔ reply = .ofOutcome outcome := by
  constructor
  · intro same
    cases reply <;> cases same <;> rfl
  · rintro rfl
    exact Reply.outcome?_ofOutcome outcome

/-- The result of one more call: the parser's own reply, but with the payload of the first call at
the position, in a session that remembers this call too. -/
structure Served (parser : Parser ι δ M M.Failure M.Value) (key : Memo.Key) (start : Session ι δ M)
    (past : List (Cursor ι δ)) (cursor : Cursor ι δ)
    (result : Reply (Cursor ι δ) M.Failure M.Value × Session ι δ M) : Prop where
  reply : result.1 = (parser cursor start).1.carrying
    ((Cursor.earliest cursor.position past).getD cursor).data
  remembers : Remembers parser key start (past ++ [cursor]) result.2

section Call

variable (oblivious : Oblivious parser) (remembers : Remembers parser key start past session)
  (alike : ∀ first ∈ past, first.position = cursor.position → first = cursor.withData first.data)

include oblivious alike in
/-- An earlier call at the position had the same reply up to the payload. -/
theorem earlier_reply (found : Cursor.earliest cursor.position past = some first) :
    first = cursor.withData first.data ∧
      (parser first start).1 = (parser cursor start).1.carrying first.data := by
  have level : first.position = cursor.position := by simpa using List.find?_some found
  have like := alike first (List.mem_of_find?_eq_some found) level
  exact ⟨like, like ▸ oblivious.reply_eq cursor first.data start start rfl⟩

include oblivious remembers in
theorem Remembers.reply_eq : (parser cursor session).1 = (parser cursor start).1 :=
  (oblivious.reply_eq cursor cursor.data start session remembers.reach_eq).trans
    (oblivious.carrying_self cursor start)

include oblivious remembers alike in
/-- What is held at the position is what the first call there came to. -/
theorem Remembers.of_recalled {entry : Memo.Entry ViewType M.Failure (M.Value × Cursor ι δ)}
    (held : session.recalled cursor.position key = some entry) :
    entry.type = cursor.type ∧ ∃ first, Cursor.earliest cursor.position past = some first ∧
      .ofOutcome entry.outcome = (parser cursor start).1.carrying first.data := by
  rw [remembers.recalled_eq] at held
  obtain ⟨first, found, kept⟩ := Option.bind_eq_some_iff.mp held
  obtain ⟨outcome, replied, rfl⟩ := Option.map_eq_some_iff.mp kept
  obtain ⟨like, carried⟩ := earlier_reply oblivious alike found
  refine ⟨?_, first, found, ?_⟩
  · rw [like]
    rfl
  · exact (Reply.eq_ofOutcome_iff.mp replied).symm.trans carried

include oblivious remembers alike in
/-- Where nothing is held, a call that comes to an outcome is the first one at its position. -/
theorem Remembers.earliest_eq_none (absent : session.recalled cursor.position key = none)
    (done : (parser cursor start).1 = .ofOutcome outcome) :
    Cursor.earliest cursor.position past = none := by
  rw [remembers.recalled_eq] at absent
  cases found : Cursor.earliest cursor.position past with
  | none => rfl
  | some first =>
    rw [found, Option.bind_some, (earlier_reply oblivious alike found).2, done] at absent
    cases outcome <;> cases absent

include oblivious remembers alike in
theorem Remembers.served_runAndStore (absent : session.recalled cursor.position key = none) :
    Served parser key start past cursor (runAndStore key parser cursor session) := by
  have reply : (parser cursor session).1 = (parser cursor start).1 := remembers.reply_eq oblivious
  have table_eq := oblivious.table_eq cursor session
  have reach_eq := oblivious.reach_eq cursor session
  have caches := caches_runAndStore key parser cursor session
  generalize parser cursor session = ran at reply table_eq reach_eq caches
  generalize runAndStore key parser cursor session = result at caches ⊢
  cases caches with
  | halted =>
    constructor
    · rw [← reply]
      rfl
    · refine remembers.extend table_eq reach_eq ?_
      rw [← reply]
      exact fun _ => rfl
  | tableless none =>
    obtain ⟨table, shared⟩ := remembers.live
    rw [← table_eq, none] at shared
    cases shared
  | stored shared accepted =>
    have none := remembers.earliest_eq_none oblivious alike absent reply.symm
    constructor
    · rw [none, Option.getD_none, oblivious.carrying_self]
      exact reply
    · exact remembers.store shared table_eq reach_eq none reply.symm accepted
  | refused shared rejected =>
    obtain ⟨entry, found, _⟩ := success_of_refused shared rejected
    rw [Session.recalled, table_eq, ← Session.recalled, absent] at found
    cases found

include oblivious remembers alike in
theorem Remembers.served_memoize (reached : reaches cursor.data) :
    Served parser key start past cursor (memoize reaches key false parser cursor session) := by
  cases held : session.recalled cursor.position key with
  | none =>
    rw [memoize_of_nothing reached remembers.live held]
    exact remembers.served_runAndStore oblivious alike held
  | some entry =>
    obtain ⟨type, first, found, reply⟩ := remembers.of_recalled oblivious alike held
    rw [memoize_of_trusted reached held type (Bool.or_true _)]
    constructor
    · rw [found]
      exact reply
    · refine remembers.extend rfl rfl ?_
      intro none
      rw [none] at found
      cases found

end Call

/-- Any number of calls, one after the other. -/
theorem Remembers.calls (oblivious : Oblivious parser)
    (remembers : Remembers parser key start past session) (cursors : List (Cursor ι δ))
    (reached : ∀ cursor ∈ cursors, reaches cursor.data)
    (alike : ∀ first ∈ past ++ cursors, ∀ cursor ∈ cursors, first.position = cursor.position →
      first = cursor.withData first.data) :
    successive (memoize reaches key false parser) cursors session =
      cursors.map fun cursor => (parser cursor start).1.carrying
        ((Cursor.earliest cursor.position (past ++ cursors)).getD cursor).data := by
  induction cursors generalizing past session with
  | nil => rfl
  | cons cursor cursors ih =>
    obtain ⟨reply, remembers⟩ := remembers.served_memoize oblivious
      (fun first member => alike first (List.mem_append_left _ member) cursor List.mem_cons_self)
      (reached cursor List.mem_cons_self)
    have split : past ++ cursor :: cursors = (past ++ [cursor]) ++ cursors := by simp
    rw [split] at alike ⊢
    have rest := ih remembers (fun later member => reached later (List.mem_cons_of_mem _ member))
      fun first member later among => alike first member later (List.mem_cons_of_mem _ among)
    have here : (Cursor.earliest cursor.position (past ++ [cursor] ++ cursors)).getD cursor =
        (Cursor.earliest cursor.position past).getD cursor := by
      have found := earliest_append cursor.position past cursor
      rw [if_pos rfl] at found
      unfold Cursor.earliest at found ⊢
      rw [List.find?_append, found]
      rfl
    rw [List.map_cons, here, ← reply, ← rest]
    rfl

theorem earliest_of_mem {cursors : List (Cursor ι δ)} (member : cursor ∈ cursors) :
    ∃ first ∈ cursors, first.position = cursor.position ∧
      Cursor.earliest cursor.position cursors = some first := by
  cases found : Cursor.earliest cursor.position cursors with
  | none => simpa using List.find?_eq_none.mp found cursor member
  | some first =>
    have level : first.position = cursor.position := by simpa using List.find?_some found
    exact ⟨first, List.mem_of_find?_eq_some found, level, rfl⟩

/-- With the payload of the first at each position, the replies to the cursors are what they are
without if and only if those that succeed at one position have one payload. -/
theorem Oblivious.map_carrying_eq_iff (oblivious : Oblivious parser) {cursors : List (Cursor ι δ)}
    (alike : ∀ first ∈ cursors, ∀ cursor ∈ cursors, first.position = cursor.position →
      first = cursor.withData first.data) :
    (cursors.map fun cursor => (parser cursor session).1.carrying
        ((Cursor.earliest cursor.position cursors).getD cursor).data) =
        cursors.map (fun cursor => (parser cursor session).1) ↔
      ∀ cursor ∈ cursors, ∀ other ∈ cursors, cursor.position = other.position →
        (∃ value rest, (parser cursor session).1 = .done value rest) →
          cursor.data = other.data := by
  rw [List.map_inj_left]
  constructor
  · intro same cursor member other among level
    obtain ⟨first, _, _, found⟩ := earliest_of_mem member
    have here := same cursor member
    have there := same other among
    rw [found, Option.getD_some, oblivious.carrying_eq_iff] at here
    rw [← level, found, Option.getD_some, oblivious.carrying_eq_iff] at there
    rintro ⟨value, rest, done⟩
    have done' : (parser other session).1 = .done value (rest.withData other.data) := by
      rw [alike other among cursor member level.symm,
        oblivious.reply_eq cursor _ session session rfl, done]
      rfl
    exact (here ⟨value, rest, done⟩).trans (there ⟨value, _, done'⟩).symm
  · intro equal cursor member
    obtain ⟨first, earlier, level, found⟩ := earliest_of_mem member
    rw [found, Option.getD_some, oblivious.carrying_eq_iff]
    exact equal cursor member first earlier level.symm

end Parser

end Packrat
