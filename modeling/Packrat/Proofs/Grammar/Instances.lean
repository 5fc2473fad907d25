import Packrat.Proofs.Grammar.Contract
import Packrat.Proofs.Grammar.Watch

/-! Deferred parsers over the whole life of a bench. Each is built at most once and stays what it was
built as, so the memoized nodes inside keep identities of their own, and what one of them has cached
is found by its later runs. -/

namespace Packrat.Grammar

variable {ι Leaf : Type} {bench : Bench ι Leaf} {deeds past more : List (Deed ι Leaf)} {id : Nat}
  {parser : Built ι Leaf}

/-! What was built. -/

theorem mem_instances : id ∈ deeds.filterMap Deed.instance? ↔ ∃ parser, .built id parser ∈ deeds := by
  rw [List.mem_filterMap]
  constructor
  · rintro ⟨deed, member, same⟩
    cases deed with
    | built other parser => cases same; exact ⟨parser, member⟩
    | _ => cases same
  · rintro ⟨parser, member⟩
    exact ⟨_, member, rfl⟩

theorem parserOf_eq_none : parserOf deeds id = none ↔ ∀ parser, .built id parser ∉ deeds := by
  induction deeds with
  | nil => simp [parserOf]
  | cons deed deeds ih =>
    cases deed with
    | built other held =>
      by_cases same : other = id
      · subst same
        simp only [parserOf, if_true, reduceCtorEq, false_iff, not_forall, not_not]
        exact ⟨held, List.mem_cons_self⟩
      · simp [parserOf, same, ih, Ne.symm same]
    | _ => simp [parserOf, ih]

variable [Lexicon ι Leaf] {next : Nat}

/-- No instance is built twice. -/
theorem Bench.Course.once (course : bench.Course deeds next) :
    (deeds.filterMap Deed.instance?).Nodup := by
  induction course with
  | start => exact List.nodup_nil
  | built course stands unbuilt building ih =>
    refine List.nodup_cons.mpr ⟨fun member => ?_, ih⟩
    obtain ⟨parser, member⟩ := mem_instances.mp member
    exact parserOf_eq_none.mp unbuilt parser member
  | stored _ _ _ _ _ ih => exact ih
  | cleared _ ih => exact ih
  | dropped _ ih => exact ih

theorem Bench.Course.parserOf_of_mem (course : bench.Course deeds next)
    (member : .built id parser ∈ deeds) : parserOf deeds id = some parser := by
  induction course with
  | start => cases member
  | @built past _ _ other _ held course stands unbuilt building ih =>
    rcases List.mem_cons.mp member with same | member
    · cases same
      simp [parserOf]
    · have apart : other ≠ id := by
        rintro rfl
        exact parserOf_eq_none.mp unbuilt parser member
      simp [parserOf, apart, ih member]
  | stored _ _ _ _ _ ih => exact ih (by simpa using member)
  | cleared _ ih => exact ih (by simpa using member)
  | dropped _ ih => exact ih (by simpa using member)

/-- Parsers are enrolled in the order in which they are built. -/
theorem Bench.Course.enrolled {start : Nat} (course : bench.Course deeds next)
    (below : Below start (sharedRoster bench.library.shared))
    (enrolled : Enrolled (sharedRoster bench.library.shared) start bench.session.extra.nextId
      (roster bench.parser)) :
    Enrolled (sharedRoster bench.library.shared) start next (rosters (bench.parsers deeds)) := by
  induction course with
  | start => simpa [Bench.parsers, rosters] using enrolled
  | built course stands unbuilt building ih =>
    simpa [Bench.parsers, rosters] using Library.enrolled_buildRule below ih building
  | stored _ _ _ _ _ ih => exact ih
  | cleared _ ih => exact ih
  | dropped _ ih => exact ih

/-! What was cached. -/

variable {position : Nat} {key : Memo.Key}
  {entry : Memo.Entry ViewType Failure (Value × Cursor ι Payload)}

omit [Lexicon ι Leaf] in
/-- As long as the table is neither emptied nor given up, a key that has an entry keeps one. -/
theorem entryOf_append (kept : ∀ deed ∈ more, deed.Since 0)
    (held : entryOf past position key = some entry) :
    ∃ entry, entryOf (more ++ past) position key = some entry := by
  induction more with
  | nil => exact ⟨entry, held⟩
  | cons deed more ih =>
    obtain ⟨since, others⟩ := List.forall_mem_cons.mp kept
    obtain ⟨earlier, found⟩ := ih others
    cases deed with
    | built => exact ⟨earlier, found⟩
    | stored begun place new =>
      rw [List.cons_append, entryOf]
      split
      · exact ⟨new, rfl⟩
      · exact ⟨earlier, found⟩
    | cleared => cases since
    | dropped => cases since

/-- What is held stays, unless it is a failure and was replaced: by a node that replaces failures, or
by a run that began before it was held. -/
theorem Bench.Course.entryOf_append (course : bench.Course (more ++ past) next)
    (kept : ∀ deed ∈ more, deed.Since 0) (held : entryOf past position key = some entry) :
    ∃ later, entryOf (more ++ past) position key = some later ∧
      (later = entry ∨ Memo.succeeded entry.outcome = false ∧
        ∃ begun, .stored begun position later ∈ more ∧ (begun < past.length ∨
          ∃ inner, bench.Stands (more ++ past) (.memoize true key inner))) := by
  induction more generalizing next with
  | nil => exact ⟨entry, held, .inl rfl⟩
  | cons deed more ih =>
    obtain ⟨since, others⟩ := List.forall_mem_cons.mp kept
    have earlier {next} (course : bench.Course (more ++ past) next) :
        ∃ later, entryOf (more ++ past) position key = some later ∧
          (later = entry ∨ Memo.succeeded entry.outcome = false ∧
            ∃ begun, .stored begun position later ∈ deed :: more ∧ (begun < past.length ∨
              ∃ inner, bench.Stands (deed :: (more ++ past)) (.memoize true key inner))) := by
      obtain ⟨later, found, same | ⟨failed, begun, member, reason⟩⟩ := ih course others
      · exact ⟨later, found, .inl same⟩
      · refine ⟨later, found, .inr ⟨failed, begun, List.mem_cons_of_mem _ member, ?_⟩⟩
        exact reason.imp_right fun ⟨inner, stands⟩ => ⟨inner, stands.append [deed]⟩
    rw [List.cons_append] at course ⊢
    cases course with
    | built course => exact earlier course
    | @stored _ front begun _ place _ name replace inner outcome course inside stands sought
        unsettled =>
      obtain ⟨later, found, origin⟩ := earlier course
      by_cases here : position = place ∧ key = name
      · obtain ⟨rfl, rfl⟩ := here
        refine ⟨_, if_pos ⟨rfl, rfl⟩, .inr ⟨?_, begun.length, List.mem_cons_self, ?_⟩⟩
        · rcases origin with rfl | ⟨failed, _⟩
          · exact unsettled later found
          · exact failed
        · rcases Nat.lt_or_ge begun.length past.length with before | after
          · exact .inl before
          -- A run that began when there was an entry to trust would not have stored another.
          · obtain ⟨mid, rfl⟩ := List.suffix_of_suffix_length_le ⟨more, rfl⟩ ⟨front, inside.symm⟩ after
            rw [← List.append_assoc] at inside
            cases List.append_cancel_right inside
            obtain ⟨trusted, present⟩ := Grammar.entryOf_append
              (fun deed member => others deed (List.mem_append_right _ member)) held
            obtain ⟨_, rfl⟩ := sought trusted present
            exact .inr ⟨inner, List.append_assoc front mid past ▸ stands.append (_ :: front)⟩
      · exact ⟨later, (if_neg here).trans found, origin⟩
    | cleared => cases since
    | dropped => cases since

/-! What the deeds say of a session. -/

/-- What becomes of references in a session that the deeds tell of. -/
structure Bench.Instances (bench : Bench ι Leaf) (deeds : List (Deed ι Leaf))
    (session : Session ι Payload (Recall ι Leaf)) : Prop where
  /-- No instance is built twice. -/
  once : (deeds.filterMap Deed.instance?).Nodup
  /-- A run that is broken off where it comes to an instance leaves the instance as it was. -/
  waits (id : Nat) : ∀ depth grammar cursor cause,
    (runWatched bench.library (avoiding id) cause depth grammar cursor session).2.extra.built[id]? =
      session.extra.built[id]?
  /-- An instance that is built runs as the parser it was built as. -/
  built {id : Nat} {parser : Built ι Leaf} : .built id parser ∈ deeds → ∀ rule depth cursor,
    runWithin bench.library (depth + 1) (.reference ⟨id, rule⟩) cursor session =
      runWithin bench.library depth parser cursor session
  /-- An instance that is not built is built now, and runs as the parser it is built as. -/
  first {id next : Nat} {rule : String} {parser : Built ι Leaf} :
    bench.Stands deeds (.reference ⟨id, rule⟩) → (∀ parser, .built id parser ∉ deeds) →
      bench.library.buildRule rule session.extra.nextId = .ok (parser, next) → ∀ depth cursor,
      ∃ begun, bench.Records (.built id parser :: deeds) begun ∧
        begun.log = .deferredBuilt :: session.log ∧
        runWithin bench.library (depth + 1) (.reference ⟨id, rule⟩) cursor session =
          runWithin bench.library depth parser cursor begun
  /-- If its rule is refused, the parse is broken off and the instance is not built. -/
  refused {id : Nat} {rule : String} {violation : Violation} : (∀ parser, .built id parser ∉ deeds) →
    bench.library.buildRule rule session.extra.nextId = .error violation → ∀ depth cursor,
      runWithin bench.library (depth + 1) (.reference ⟨id, rule⟩) cursor session =
        (.halt (.violation violation), session.note .deferredBuilt)

/-- How the parsers that are built share identities. -/
structure Bench.Identities (bench : Bench ι Leaf) (deeds : List (Deed ι Leaf)) : Prop where
  /-- No two places have one identity, but for places in shared parsers. -/
  apart : Apart (sharedRoster bench.library.shared) (rosters (bench.parsers deeds))
  /-- In shared parsers no two have, but for places in parsers that were shared before. -/
  shelved : Shelved bench.library.shared
  /-- One identity is the identity of one node everywhere. -/
  determined : Determined (sharedRoster bench.library.shared ++ rosters (bench.parsers deeds))

/-- What becomes of memoized nodes in a session that the deeds tell of. -/
structure Bench.Outcomes (bench : Bench ι Leaf) (deeds : List (Deed ι Leaf))
    (session : Session ι Payload (Recall ι Leaf)) : Prop where
  /-- A node that reaches the table has its outcome there when it is done. -/
  stored {replace : Bool} {key : Memo.Key} {inner : Built ι Leaf} {depth : Nat}
    {cursor : Cursor ι Payload} {outcome : Except Failure (Value × Cursor ι Payload)} :
    bench.Stands deeds (.memoize replace key inner) → cursor.data.linked = true →
      session.table.isSome →
      (runWithin bench.library depth (.memoize replace key inner) cursor session).1 =
        .ofOutcome outcome →
      (runWithin bench.library depth (.memoize replace key inner) cursor session).2.recalled
        cursor.position key = some ⟨key, cursor.type, outcome⟩
  /-- A node that reaches the table and finds an outcome there to trust answers with it. -/
  found {replace : Bool} {key : Memo.Key} {cursor : Cursor ι Payload}
    {entry : Memo.Entry ViewType Failure (Value × Cursor ι Payload)} : cursor.data.linked = true →
      session.recalled cursor.position key = some entry → entry.type = cursor.type →
      (Memo.succeeded entry.outcome || !replace) = true → ∀ depth inner,
      runWithin bench.library depth (.memoize replace key inner) cursor session =
        (.ofOutcome entry.outcome, session.note (.memoHit key cursor.position))
  /-- A node that replaces failures and finds one runs again. -/
  replaced {key : Memo.Key} {cursor : Cursor ι Payload}
    {entry : Memo.Entry ViewType Failure (Value × Cursor ι Payload)} : cursor.data.linked = true →
      session.recalled cursor.position key = some entry → entry.type = cursor.type →
      Memo.succeeded entry.outcome = false → ∀ depth inner,
      runWithin bench.library depth (.memoize true key inner) cursor session =
        Parser.runAndStore key (runWithin bench.library depth inner) cursor
          (session.note (.failureReplaced key cursor.position))
  /-- Unless the table is emptied or given up, what a node has in it stays there. A failure may make
  room for a later outcome of the node, if the node replaces failures or was running already. -/
  kept {replace : Bool} {number position : Nat} {inner : Built ι Leaf}
    {entry : Memo.Entry ViewType Failure (Value × Cursor ι Payload)} {more : List (Deed ι Leaf)}
    {later : Session ι Payload (Recall ι Leaf)} :
    bench.Stands deeds (.memoize replace (.parser number) inner) →
      session.recalled position (.parser number) = some entry → (∀ deed ∈ more, deed.Since 0) →
      bench.Records (more ++ deeds) later →
      ∃ last, later.recalled position (.parser number) = some last ∧
        (last = entry ∨ Memo.succeeded entry.outcome = false ∧
          ∃ begun, .stored begun position last ∈ more ∧ (begun < deeds.length ∨ replace = true))

variable {session : Session ι Payload (Recall ι Leaf)}

theorem Bench.Records.instances [LawfulLexicon ι Leaf] (records : bench.Records deeds session) :
    bench.Instances deeds session := by
  have vacant {id : Nat} (unbuilt : ∀ parser, .built id parser ∉ deeds) :
      session.extra.built[id]? = none := (records.built id).trans (parserOf_eq_none.mpr unbuilt)
  constructor
  · exact records.course.once
  · intro id depth grammar cursor cause
    exact (runWatched_leaving bench.library id _ cause depth grammar [] cursor session session trivial
      ⟨rfl, rfl⟩).2.1.2
  · intro id parser member rule depth cursor
    have found := (records.built id).trans (records.course.parserOf_of_mem member)
    exact Library.resolve_built found cursor
  · intro id next rule parser stands unbuilt building depth cursor
    exact ⟨_, records.raise stands (vacant unbuilt) building, rfl,
      Library.resolve_first (vacant unbuilt) building cursor⟩
  · intro id rule violation unbuilt refused depth cursor
    exact Library.resolve_refused (vacant unbuilt) refused cursor

theorem Bench.Records.identities (records : bench.Records deeds session)
    (assembled : Bench.assemble rules shared blueprint table = .ok bench) :
    bench.Identities deeds := by
  obtain ⟨shelved, determined, start, below, enrolled⟩ := enrolled_assemble assembled
  have whole := records.course.enrolled below enrolled
  exact ⟨whole.apart, shelved, whole.determined below determined⟩

omit [Lexicon ι Leaf] in
theorem Bench.Identities.replace_eq (identities : bench.Identities deeds) {replace replace' : Bool}
    {number : Nat} {inner inner' : Built ι Leaf}
    (stands : bench.Stands deeds (.memoize replace (.parser number) inner))
    (stands' : bench.Stands deeds (.memoize replace' (.parser number) inner')) :
    replace = replace' := by
  have enlisted {replace} {inner : Built ι Leaf}
      (stands : bench.Stands deeds (.memoize replace (.parser number) inner)) :
      (number, .memoize replace (.parser number) inner) ∈
        sharedRoster bench.library.shared ++ rosters (bench.parsers deeds) := by
    obtain ⟨parser, member, filters, part⟩ := stands
    refine List.mem_append_right _ (List.mem_flatMap.mpr ⟨parser, member, ?_⟩)
    exact part.mem_roster List.mem_cons_self
  cases identities.determined _ (enlisted stands) _ (enlisted stands') rfl
  rfl

theorem Bench.Records.outcomes [LawfulLexicon ι Leaf] (records : bench.Records deeds session)
    (assembled : Bench.assemble rules shared blueprint table = .ok bench) :
    bench.Outcomes deeds session := by
  constructor
  · intro replace key inner depth cursor outcome stands linked live answer
    rw [runWithin_memoize] at answer ⊢
    refine Parser.recalled_of_outcome linked live (fun log => ?_) answer
    have noted : bench.Records deeds { session with log := log } := records.congr rfl rfl rfl
    exact (noted.run (stands.child List.mem_cons_self) depth cursor).1.live noted live
  · intro replace key cursor entry linked held type trusted depth inner
    rw [runWithin_memoize]
    exact Parser.memoize_of_trusted linked held type trusted
  · intro key cursor entry linked held type failed depth inner
    rw [runWithin_memoize]
    exact Parser.memoize_of_failure linked held type failed
  · intro replace number position inner entry more later stands held kept records'
    rw [records.recalled] at held
    obtain ⟨last, found, origin⟩ := records'.course.entryOf_append kept held
    refine ⟨last, (records'.recalled ..).trans found, origin.imp_right ?_⟩
    rintro ⟨failed, begun, member, reason⟩
    refine ⟨failed, begun, member, reason.imp_right fun ⟨_, stands'⟩ => ?_⟩
    exact (records'.identities assembled).replace_eq (stands.append more) stands'

/-! From one text to the next. -/

variable {now : Bench ι Leaf}

theorem Bench.records_assemble
    (assembled : Bench.assemble rules shared blueprint table = .ok bench) :
    bench.Records [] bench.session := by
  refine ⟨.start, fun id => ?_, recalled_assemble assembled, by simp⟩
  obtain ⟨_, _, _, _, _, _, rfl⟩ := assemble_ok assembled
  simp [Session.new, parserOf]

theorem Bench.perform_same (now : Bench ι Leaf) (step : Bench.Step ι) :
    (now.perform step).library = now.library ∧ (now.perform step).parser = now.parser := by
  cases step <;> exact ⟨rfl, rfl⟩

theorem Bench.steps_same (steps : List (Bench.Step ι)) (now : Bench ι Leaf) :
    (steps.foldl Bench.perform now).library = now.library ∧
      (steps.foldl Bench.perform now).parser = now.parser := by
  induction steps generalizing now with
  | nil => exact ⟨rfl, rfl⟩
  | cons step steps ih =>
    obtain ⟨library, parser⟩ := ih (now.perform step)
    obtain ⟨library', parser'⟩ := now.perform_same step
    exact ⟨library.trans library', parser.trans parser'⟩

section Steps

variable [LawfulLexicon ι Leaf] (same : now.library = bench.library ∧ now.parser = bench.parser)
include same

omit [LawfulLexicon ι Leaf] in
theorem Bench.parse_eq (cursor : Cursor ι Payload) :
    runWithin bench.library recursionLimit bench.parser cursor (now.session.makeRoom cursor) =
      ((now.parse cursor).1, (now.parse cursor).2.session) := by
  unfold Bench.parse
  rw [same.1, same.2]

theorem Bench.Records.parse (records : bench.Records deeds now.session) (cursor : Cursor ι Payload) :
    bench.Recorded deeds (now.parse cursor).2.session := by
  have roomy : bench.Records deeds (now.session.makeRoom cursor) := records.congr rfl rfl rfl
  have stands : bench.Stands deeds bench.parser :=
    ⟨bench.parser, parser_mem_parsers deeds, [], .here⟩
  have recorded := (roomy.run stands recursionLimit cursor).1
  rwa [Bench.parse_eq same] at recorded

theorem Bench.Records.perform (records : bench.Records deeds now.session) (step : Bench.Step ι) :
    ∃ more, bench.Records (more ++ deeds) (now.perform step).session ∧
      ((∃ cursor, step = .parse cursor) → ∀ deed ∈ more, deed.Since deeds.length) := by
  cases step with
  | parse cursor =>
    obtain ⟨_, ⟨more, rfl, since⟩, later⟩ := records.parse same cursor
    exact ⟨more, later, fun _ => since⟩
  | clear =>
    refine ⟨[.cleared], ⟨.cleared records.course, records.built, fun position key => ?_, ?_⟩, nofun⟩
    · change now.clearTable.session.recalled position key = none
      unfold Session.recalled clearTable
      cases now.session.table with
      | none => rfl
      | some table => exact Memo.Table.find?_empty position key
    · have tabled : now.clearTable.session.table.isSome = now.session.table.isSome := Option.isSome_map
      change now.clearTable.session.table.isSome ↔ _
      rw [tabled, records.live]
      simp
  | drop =>
    exact ⟨[.dropped], ⟨.dropped records.course, records.built, fun _ _ => rfl,
      nofun, fun kept => absurd List.mem_cons_self kept.2⟩, nofun⟩

theorem Bench.Records.steps (records : bench.Records deeds now.session)
    (steps : List (Bench.Step ι)) :
    ∃ more, bench.Records (more ++ deeds) (steps.foldl Bench.perform now).session ∧
      ((∀ step ∈ steps, ∃ cursor, step = .parse cursor) →
        ∀ deed ∈ more, deed.Since deeds.length) := by
  induction steps generalizing now deeds with
  | nil => exact ⟨[], records, fun _ => nofun⟩
  | cons step steps ih =>
    obtain ⟨first, records, since⟩ := records.perform same step
    have same' := now.perform_same step
    obtain ⟨rest, records, since'⟩ := ih ⟨same'.1.trans same.1, same'.2.trans same.2⟩ records
    refine ⟨rest ++ first, List.append_assoc .. ▸ records, fun parses deed member => ?_⟩
    obtain ⟨parse, parses⟩ := List.forall_mem_cons.mp parses
    rcases List.mem_append.mp member with member | member
    · exact (since' parses deed member).mono (by simp)
    · exact since parse deed member

end Steps

/-- Whatever texts are parsed, every instance of a deferred parser is built at most once, when a run
first comes to it, and every later run of the instance is a run of the parser built then. So each
memoized node in there keeps the identity it has, which no other node has, and an outcome that it
has in the table is there for its later runs as long as the table is neither emptied nor given up.

The deeds say what was built and what was cached so far. A bench starts with none, and steps add to
them. A parse is a run of the bench's parser; a run, watched at the nodes it comes to, shows nothing
but what deeds tell of, and these go on from the deeds of what it has shown before. -/
theorem deferred_built_once [LawfulLexicon ι Leaf]
    (assembled : Bench.assemble rules shared blueprint table = .ok bench) :
    bench.Records [] bench.session ∧
    (∀ (earlier : List (Bench.Step ι)) deeds,
      let now := earlier.foldl Bench.perform bench
      bench.Records deeds now.session →
        (∀ steps : List (Bench.Step ι), ∃ more,
          bench.Records (more ++ deeds) (steps.foldl Bench.perform now).session ∧
            ((∀ step ∈ steps, ∃ cursor, step = .parse cursor) →
              ∀ deed ∈ more, deed.Since deeds.length)) ∧
        ∀ cursor,
          bench.Records deeds (now.session.makeRoom cursor) ∧ bench.Stands deeds bench.parser ∧
            runWithin bench.library recursionLimit bench.parser cursor
              (now.session.makeRoom cursor) = ((now.parse cursor).1, (now.parse cursor).2.session)) ∧
    ∀ deeds session, bench.Records deeds session →
      bench.Instances deeds session ∧ bench.Identities deeds ∧ bench.Outcomes deeds session ∧
        ∀ grammar, bench.Stands deeds grammar → ∀ depth cursor,
          let run := runWithin bench.library depth grammar cursor session
          bench.Recorded deeds run.2 ∧
            ∀ property cause,
              let watched :=
                runWatched bench.library (bench.gate property deeds) cause depth grammar cursor
                  (unseen session)
              watched.1 = run.1 ∧ watched.2.table = run.2.table ∧
                watched.2.extra = run.2.extra := by
  refine ⟨Bench.records_assemble assembled, ?_, ?_⟩
  · intro earlier deeds now records
    have same := Bench.steps_same earlier bench
    exact ⟨records.steps same, fun cursor => ⟨records.congr rfl rfl rfl,
      ⟨bench.parser, Bench.parser_mem_parsers deeds, [], .here⟩, Bench.parse_eq same cursor⟩⟩
  · intro deeds session records
    exact ⟨records.instances, records.identities assembled, records.outcomes assembled,
      fun grammar stands depth cursor => records.run stands depth cursor⟩

/-- A word and perhaps another behind it, both by one rule that is memoized. -/
theorem deferred_built_once_words :
    ∃ bench, Bench.assemble [("word", .memoize false .byParser (.many (.leaf TextLeaf.letter)))] []
        (.softSequence (.reference (.rule "word")) (.reference (.rule "word"))) true = .ok bench ∧
      ∀ steps : List (Bench.Step Char), ∃ deeds,
        bench.Records deeds (steps.foldl Bench.perform bench).session ∧
          (deeds.filterMap Deed.instance?).Nodup := by
  let bench : Bench Char TextLeaf :=
    ⟨⟨[("word", .memoize false .byParser (.many (.leaf .letter)))], []⟩,
      .softSequence (.reference ⟨0, "word"⟩) (.reference ⟨1, "word"⟩),
      .new (some .empty) ⟨2, ∅, []⟩⟩
  have assembled : Bench.assemble [("word", .memoize false .byParser (.many (.leaf .letter)))] []
    (.softSequence (.reference (.rule "word")) (.reference (.rule "word"))) true = .ok bench := rfl
  refine ⟨bench, assembled, fun steps => ?_⟩
  obtain ⟨start, steady, holds⟩ := deferred_built_once assembled
  obtain ⟨more, records, _⟩ := (steady [] [] start).1 steps
  exact ⟨_, records, (holds _ _ records).1.once⟩

end Packrat.Grammar
