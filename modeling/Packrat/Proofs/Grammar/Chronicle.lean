import Packrat.Proofs.Grammar.Onward
import Packrat.Proofs.Grammar.Roster

/-! The chronicle of a bench: which deferred parsers were built and which outcomes cached, one deed
after the other. It tells all that a session has in its workshop and in its table. -/

namespace Packrat.Grammar

variable {ι Leaf : Type}

/-- What is done to the parsers built and to the outcomes cached. -/
inductive Deed (ι Leaf : Type) where
  /-- The reference with this identity has its rule built. -/
  | built (id : Nat) (parser : Built ι Leaf)
  /-- A run that began with this number of deeds behind it has its outcome cached. -/
  | stored (begun position : Nat) (entry : Memo.Entry ViewType Failure (Value × Cursor ι Payload))
  /-- The table is emptied. -/
  | cleared
  /-- The table is given up. -/
  | dropped

/-- The deed is done by a run that has no fewer deeds behind it than this. -/
def Deed.Since (start : Nat) : Deed ι Leaf → Prop
  | .built _ _ => True
  | .stored begun _ _ => start ≤ begun
  | .cleared | .dropped => False

def Deed.instance? : Deed ι Leaf → Option Nat
  | .built id _ => some id
  | _ => none

/-! What a list of deeds, latest first, tells of the workshop and of the table. -/

def parserOf : List (Deed ι Leaf) → (id : Nat) → Option (Built ι Leaf)
  | [], _ => none
  | .built other parser :: past, id => if other = id then some parser else parserOf past id
  | _ :: past, id => parserOf past id

def entryOf : List (Deed ι Leaf) → (position : Nat) → (key : Memo.Key) →
    Option (Memo.Entry ViewType Failure (Value × Cursor ι Payload))
  | [], _, _ => none
  | .stored _ there entry :: past, here, key =>
    if here = there ∧ key = entry.key then some entry else entryOf past here key
  | .built _ _ :: past, here, key => entryOf past here key
  | .cleared :: _, _, _ | .dropped :: _, _, _ => none

/-- The parsers of a bench: its own, and those built since, in order. -/
def Bench.parsers (bench : Bench ι Leaf) : List (Deed ι Leaf) → List (Built ι Leaf)
  | [] => [bench.parser]
  | .built _ parser :: past => bench.parsers past ++ [parser]
  | _ :: past => bench.parsers past

/-- The node stands in one of the parsers of the bench. -/
def Bench.Stands (bench : Bench ι Leaf) (deeds : List (Deed ι Leaf)) (node : Built ι Leaf) : Prop :=
  ∃ parser ∈ bench.parsers deeds, ∃ filters, Part parser filters node

/-- The deeds go on from earlier ones by runs that had no fewer deeds behind them than this. -/
def Continues (start : Nat) (past deeds : List (Deed ι Leaf)) : Prop :=
  ∃ more, deeds = more ++ past ∧ ∀ deed ∈ more, deed.Since start

section

variable [Lexicon ι Leaf]

/-- What may be done one after the other: an instance that is not built has its rule built with the
next identities, and a node has an outcome cached where it found nothing that it was to trust and
where no success is held by now. -/
inductive Bench.Course (bench : Bench ι Leaf) : List (Deed ι Leaf) → (next : Nat) → Prop where
  | start : bench.Course [] bench.session.extra.nextId
  | built {past : List (Deed ι Leaf)} {next last id : Nat} {rule : String} {parser : Built ι Leaf}
      (course : bench.Course past next) (stands : bench.Stands past (.reference ⟨id, rule⟩))
      (unbuilt : parserOf past id = none)
      (building : bench.library.buildRule rule next = .ok (parser, last)) :
      bench.Course (.built id parser :: past) last
  | stored {past more begun : List (Deed ι Leaf)} {next position : Nat} {type : ViewType}
      {key : Memo.Key} {replace : Bool} {inner : Built ι Leaf} {outcome : Except Failure (Value × Cursor ι Payload)}
      (course : bench.Course past next) (inside : past = more ++ begun)
      (stands : bench.Stands begun (.memoize replace key inner))
      (sought : ∀ entry, entryOf begun position key = some entry →
        Memo.succeeded entry.outcome = false ∧ replace = true)
      (unsettled : ∀ entry, entryOf past position key = some entry →
        Memo.succeeded entry.outcome = false) :
      bench.Course (.stored begun.length position ⟨key, type, outcome⟩ :: past) next
  | cleared (course : bench.Course past next) : bench.Course (.cleared :: past) next
  | dropped (course : bench.Course past next) : bench.Course (.dropped :: past) next

/-- The session in which a reference runs the parser that it has just built. -/
def raised (session : Session ι Payload (Recall ι Leaf)) (id : Nat) (parser : Built ι Leaf)
    (next : Nat) : Session ι Payload (Recall ι Leaf) :=
  { session.note .deferredBuilt with
    extra :=
      { session.extra with nextId := next, built := session.extra.built.insert id parser } }

/-- The session is as the deeds tell. -/
structure Bench.Records (bench : Bench ι Leaf) (deeds : List (Deed ι Leaf))
    (session : Session ι Payload (Recall ι Leaf)) : Prop where
  course : bench.Course deeds session.extra.nextId
  built : ∀ id, session.extra.built[id]? = parserOf deeds id
  recalled : ∀ position key, session.recalled position key = entryOf deeds position key
  live : session.table.isSome ↔ bench.session.table.isSome ∧ .dropped ∉ deeds

end

variable {bench : Bench ι Leaf} {past deeds later : List (Deed ι Leaf)} {start : Nat}

theorem Continues.refl (start : Nat) (past : List (Deed ι Leaf)) : Continues start past past :=
  ⟨[], rfl, nofun⟩

theorem Deed.Since.mono {deed : Deed ι Leaf} {start earlier : Nat} (since : deed.Since start)
    (le : earlier ≤ start) : deed.Since earlier := by
  cases deed with
  | stored => exact Nat.le_trans le since
  | _ => exact since

theorem Continues.length_le (continues : Continues start past deeds) :
    past.length ≤ deeds.length := by
  obtain ⟨more, rfl, _⟩ := continues
  simp

theorem Continues.trans (first : Continues start past deeds)
    (second : Continues deeds.length deeds later) (le : start ≤ deeds.length) :
    Continues start past later := by
  obtain ⟨more, rfl, since⟩ := first
  obtain ⟨more', rfl, since'⟩ := second
  refine ⟨more' ++ more, (List.append_assoc ..).symm, fun deed member => ?_⟩
  rcases List.mem_append.mp member with member | member
  · exact (since' deed member).mono le
  · exact since deed member

theorem Continues.deed (continues : Continues start past deeds) {deed : Deed ι Leaf}
    (since : deed.Since start) : Continues start past (deed :: deeds) := by
  obtain ⟨more, rfl, others⟩ := continues
  exact ⟨deed :: more, rfl, List.forall_mem_cons.mpr ⟨since, others⟩⟩

theorem Bench.mem_parsers_append {parser : Built ι Leaf} (member : parser ∈ bench.parsers past)
    (more : List (Deed ι Leaf)) : parser ∈ bench.parsers (more ++ past) := by
  induction more with
  | nil => exact member
  | cons deed more ih =>
    cases deed with
    | built => exact List.mem_append_left _ ih
    | _ => exact ih

theorem Bench.parser_mem_parsers (deeds : List (Deed ι Leaf)) :
    bench.parser ∈ bench.parsers deeds := by
  have first : bench.parser ∈ bench.parsers [] := List.mem_cons_self
  exact List.append_nil deeds ▸ mem_parsers_append first deeds

theorem Bench.mem_parsers_of_parserOf {id : Nat} {parser : Built ι Leaf}
    (found : parserOf deeds id = some parser) : parser ∈ bench.parsers deeds := by
  induction deeds with
  | nil => cases found
  | cons deed deeds ih =>
    cases deed with
    | built other held =>
      unfold parserOf at found
      split at found
      · cases found
        exact List.mem_append_right _ (List.mem_singleton.mpr rfl)
      · exact List.mem_append_left _ (ih found)
    | _ => exact ih found

theorem Bench.Stands.append {node : Built ι Leaf} (stands : bench.Stands past node)
    (more : List (Deed ι Leaf)) : bench.Stands (more ++ past) node := by
  obtain ⟨parser, member, stands⟩ := stands
  exact ⟨parser, mem_parsers_append member more, stands⟩

theorem Bench.Stands.continues {node : Built ι Leaf} (stands : bench.Stands past node)
    (continues : Continues start past deeds) : bench.Stands deeds node := by
  obtain ⟨more, rfl, _⟩ := continues
  exact stands.append more

/-- A grammar all of whose parts stand among the parsers. -/
def Bench.Knows (bench : Bench ι Leaf) (deeds : List (Deed ι Leaf)) (grammar : Built ι Leaf) :
    Prop :=
  ∀ filters node, Part grammar filters node → bench.Stands deeds node

theorem Bench.knows_of_mem {parser : Built ι Leaf} (member : parser ∈ bench.parsers deeds) :
    bench.Knows deeds parser :=
  fun filters _ part => ⟨parser, member, filters, part⟩

theorem Bench.Stands.child {grammar : Built ι Leaf} {child : List (Filter ι) × Built ι Leaf}
    (stands : bench.Stands deeds grammar) (among : child ∈ grammar.children) :
    bench.Stands deeds child.2 := by
  obtain ⟨parser, member, filters, part⟩ := stands
  exact ⟨parser, member, _, part.trans (.inside among .here)⟩

theorem Bench.Stands.knows {grammar : Built ι Leaf} (stands : bench.Stands deeds grammar) :
    bench.Knows deeds grammar := by
  obtain ⟨parser, member, filters, part⟩ := stands
  exact fun _ _ inside => ⟨parser, member, _, part.trans inside⟩

theorem Bench.Knows.continues {grammar : Built ι Leaf} (knows : bench.Knows past grammar)
    (continues : Continues start past deeds) : bench.Knows deeds grammar :=
  fun _ _ part => (knows _ _ part).continues continues

variable [Lexicon ι Leaf] {session other : Session ι Payload (Recall ι Leaf)}

namespace Bench.Records

theorem congr (records : bench.Records deeds session) (table : other.table = session.table)
    (built : other.extra.built = session.extra.built)
    (nextId : other.extra.nextId = session.extra.nextId) : bench.Records deeds other where
  course := nextId ▸ records.course
  built id := built ▸ records.built id
  recalled position key := by
    rw [← records.recalled, Session.recalled, Session.recalled, table]
  live := table ▸ records.live

theorem note (records : bench.Records deeds session) (event : Event) :
    bench.Records deeds (session.note event) := records.congr rfl rfl rfl

/-- A rule is built under an identity that is not built. -/
theorem raise (records : bench.Records deeds session) {id next : Nat} {rule : String}
    {parser : Built ι Leaf} (stands : bench.Stands deeds (.reference ⟨id, rule⟩))
    (unbuilt : session.extra.built[id]? = none)
    (building : bench.library.buildRule rule session.extra.nextId = .ok (parser, next)) :
    bench.Records (.built id parser :: deeds) (raised session id parser next) where
  course := .built records.course stands (records.built id ▸ unbuilt) building
  built other := by
    change (session.extra.built.insert id parser)[other]? = _
    rw [Std.TreeMap.getElem?_insert, parserOf, ← records.built other]
    simp only [Nat.compare_eq_eq]
  recalled := records.recalled
  live := records.live.trans (by simp)

/-- An outcome is cached by a node that found none to trust. -/
theorem store (records : bench.Records later session) (continues : Continues start past later)
    {table stored : Memo.Table ViewType Failure (Value × Cursor ι Payload)} {position : Nat}
    {type : ViewType}
    {key : Memo.Key} {replace : Bool} {inner : Built ι Leaf}
    {outcome : Except Failure (Value × Cursor ι Payload)}
    (stands : bench.Stands past (.memoize replace key inner))
    (sought : ∀ entry, entryOf past position key = some entry →
      Memo.succeeded entry.outcome = false ∧ replace = true)
    (shared : session.table = some table)
    (accepted : table.store position key type outcome = .ok stored) :
    bench.Records (.stored past.length position ⟨key, type, outcome⟩ :: later)
      { session with table := some stored } := by
  obtain ⟨more, inside, _⟩ := continues
  refine ⟨.stored records.course inside stands sought ?_, records.built, ?_, ?_⟩
  · intro entry held
    rw [← records.recalled, Session.recalled_of_table shared] at held
    cases success : Memo.succeeded entry.outcome with
    | false => rfl
    | true => rw [Memo.Table.store_of_success held success] at accepted; cases accepted
  · intro place name
    rw [Session.recalled_store shared accepted, records.recalled]
    rfl
  · refine Iff.trans ?_ (records.live.trans (by simp))
    simp [shared]

end Bench.Records

end Packrat.Grammar
