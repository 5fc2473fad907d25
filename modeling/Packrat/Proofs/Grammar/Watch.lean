import Packrat.Proofs.Grammar.Chronicle

/-! Runs that are watched. A watched run shows its session whenever it comes to a memoized node or a
reference and whenever it leaves one, and is broken off if the session is not as expected. What is
expected here is a session that the chronicle tells of, and that what the run showed before is told
of by the same chronicle at an earlier time. -/

namespace Packrat.Grammar

variable {ι Leaf : Type} {bench : Bench ι Leaf} {past deeds later origin : List (Deed ι Leaf)}

/-! Watched runs. -/

inductive Visit where
  | memoized (replace : Bool) (key : Memo.Key)
  | deferred (target : Deferred)

/-- Which sessions a run may show, and from which it goes on then. -/
abbrev Gate (ι Leaf : Type) :=
  Visit → Session ι Payload (Recall ι Leaf) → Option (Session ι Payload (Recall ι Leaf))

/-- The rule, broken off with `cause` if its first or its last session may not be shown. -/
def watch (gate : Gate ι Leaf) (cause : Halt) (visit : Visit) (rule : Rule ι Leaf) : Rule ι Leaf :=
  fun cursor session =>
    match gate visit session with
    | none => (.halt cause, session)
    | some session =>
      let (reply, session) := rule cursor session
      match gate visit session with
      | none => (.halt cause, session)
      | some session => (reply, session)

variable [Lexicon ι Leaf] {session session' : Session ι Payload (Recall ι Leaf)}

/-- What a reference runs, given how built parsers run. -/
def Library.resolve (library : Library ι Leaf) (run : Built ι Leaf → Rule ι Leaf)
    (target : Deferred) : Rule ι Leaf := fun cursor session =>
  match session.extra.built[target.id]? with
  | some parser => run parser cursor session
  | none =>
    let session := session.note .deferredBuilt
    match library.buildRule target.rule session.extra.nextId with
    | .error violation => (.halt (.violation violation), session)
    | .ok (parser, nextId) =>
      run parser cursor
        { session with
          extra :=
            { session.extra with
              nextId := nextId
              built := session.extra.built.insert target.id parser } }

section

variable {library : Library ι Leaf} {run : Built ι Leaf → Rule ι Leaf} {target : Deferred}
  {parser : Built ι Leaf} {next : Nat} {violation : Violation}

theorem Library.resolve_built (found : session.extra.built[target.id]? = some parser)
    (cursor : Cursor ι Payload) :
    library.resolve run target cursor session = run parser cursor session := by
  simp only [resolve, found]

theorem Library.resolve_first (unbuilt : session.extra.built[target.id]? = none)
    (building : library.buildRule target.rule session.extra.nextId = .ok (parser, next))
    (cursor : Cursor ι Payload) :
    library.resolve run target cursor session =
      run parser cursor (raised session target.id parser next) := by
  have started : library.buildRule target.rule (session.note .deferredBuilt).extra.nextId =
    .ok (parser, next) := building
  simp only [resolve, unbuilt, started]
  rfl

theorem Library.resolve_refused (unbuilt : session.extra.built[target.id]? = none)
    (refused : library.buildRule target.rule session.extra.nextId = .error violation)
    (cursor : Cursor ι Payload) :
    library.resolve run target cursor session =
      (.halt (.violation violation), session.note .deferredBuilt) := by
  have started : library.buildRule target.rule (session.note .deferredBuilt).extra.nextId =
    .error violation := refused
  simp only [resolve, unbuilt, started]

end

theorem runWithin_memoize (library : Library ι Leaf) (depth : Nat) (replace : Bool) (key : Memo.Key)
    (inner : Built ι Leaf) :
    runWithin library depth (.memoize replace key inner) =
      cached replace key (runWithin library depth inner) := by
  cases depth <;> rfl

/-- The run of a grammar, watched at its memoized nodes and at its references. -/
def runWatched (library : Library ι Leaf) (gate : Gate ι Leaf) (cause : Halt) :
    (depth : Nat) → Built ι Leaf → Rule ι Leaf
  | 0, grammar =>
    grammar.runWith
      (fun replace key rule => watch gate cause (.memoized replace key) (cached replace key rule))
      fun target => watch gate cause (.deferred target) (Parser.halt .exhausted)
  | depth + 1, grammar =>
    grammar.runWith
      (fun replace key rule => watch gate cause (.memoized replace key) (cached replace key rule))
      fun target => watch gate cause (.deferred target)
        (library.resolve (runWatched library gate cause depth) target)

/-! What a watched run remembers is in the oldest line of its log, which no parser touches. -/

/-- The session with nothing in its log, to remember that nothing was shown yet. -/
def unseen (session : Session ι Payload (Recall ι Leaf)) : Session ι Payload (Recall ι Leaf) :=
  { session with log := [.tableSummary 0 0] }

/-- The session with nothing in its log, to remember that something was shown. -/
def seen (session : Session ι Payload (Recall ι Leaf)) : Session ι Payload (Recall ι Leaf) :=
  { session with log := [.tableSummary 1 0] }

/-- The session remembers that something was shown. -/
def Remembers (session : Session ι Payload (Recall ι Leaf)) : Prop :=
  session.log.getLast? = some (.tableSummary 1 0)

/-- The sessions differ in their logs at most, and the second one's is not empty. -/
structure Shadows (session session' : Session ι Payload (Recall ι Leaf)) : Prop where
  table_eq : session'.table = session.table
  reach_eq : session'.reach = session.reach
  extra_eq : session'.extra = session.extra
  logged : session'.log ≠ []

omit [Lexicon ι Leaf] in
theorem remembers_note (logged : session.log ≠ []) (event : Event) :
    Remembers (session.note event) ↔ Remembers session := by
  unfold Remembers Session.note
  cases log : session.log with
  | nil => exact absurd log logged
  | cons first rest => rw [List.getLast?_cons_cons]

omit [Lexicon ι Leaf] in
theorem Shadows.note (shadows : Shadows session session') (event : Event) :
    Shadows (session.note event) (session'.note event) :=
  ⟨shadows.table_eq, shadows.reach_eq, shadows.extra_eq, nofun⟩

omit [Lexicon ι Leaf] in
theorem Shadows.raise (shadows : Shadows session session') (id : Nat) (parser : Built ι Leaf)
    (next : Nat) : Shadows (raised session id parser next) (raised session' id parser next) :=
  ⟨shadows.table_eq, shadows.reach_eq, by simp only [raised, shadows.extra_eq], nofun⟩

/-- The deeds tell of the session, and if it remembers that a session with the property was shown,
they go on from deeds that tell of such a session. -/
structure Bench.Tells (bench : Bench ι Leaf) (property : Session ι Payload (Recall ι Leaf) → Prop)
    (deeds : List (Deed ι Leaf)) (session : Session ι Payload (Recall ι Leaf)) : Prop where
  records : bench.Records deeds session
  after : Remembers session → ∃ earlier begun, property earlier ∧ bench.Records begun earlier ∧
    Continues 0 begun deeds

def Bench.Hosts (bench : Bench ι Leaf) (deeds : List (Deed ι Leaf)) : Visit → Prop
  | .memoized replace key => ∃ inner, bench.Stands deeds (.memoize replace key inner)
  | .deferred target => bench.Stands deeds (.reference target)

omit [Lexicon ι Leaf] in
theorem Bench.Hosts.continues {start : Nat} {visit : Visit} (hosts : bench.Hosts past visit)
    (continues : Continues start past deeds) : bench.Hosts deeds visit := by
  cases visit with
  | memoized => exact hosts.imp fun _ stands => stands.continues continues
  | deferred => exact Bench.Stands.continues hosts continues

open Classical in
/-- At a node among the parsers a run may show what the deeds tell, if they go on from those in the
past and from those of a session with the property that was shown before. -/
noncomputable def Bench.gate (bench : Bench ι Leaf)
    (property : Session ι Payload (Recall ι Leaf) → Prop) (past : List (Deed ι Leaf)) : Gate ι Leaf :=
  fun visit session =>
    if ∃ deeds, Continues past.length past deeds ∧ bench.Tells property deeds session ∧
      bench.Hosts deeds visit then
      some (if property session then seen session else session)
    else none

variable {property : Session ι Payload (Recall ι Leaf) → Prop} {visit : Visit}
  {rule rule' : Rule ι Leaf}

namespace Bench.Tells

theorem congr (tells : bench.Tells property deeds session) (table : session'.table = session.table)
    (extra : session'.extra = session.extra) (remembers : Remembers session' ↔ Remembers session) :
    bench.Tells property deeds session' :=
  ⟨tells.records.congr table (congrArg Workshop.built extra) (congrArg Workshop.nextId extra),
    fun remembered => tells.after (remembers.mp remembered)⟩

theorem note (tells : bench.Tells property deeds session) (logged : session.log ≠ [])
    (event : Event) : bench.Tells property deeds (session.note event) :=
  tells.congr rfl rfl (remembers_note logged event)

/-- A deed of a run goes on from whatever came before. -/
theorem deed {deed : Deed ι Leaf} (tells : bench.Tells property deeds session)
    (records : bench.Records (deed :: deeds) session') (since : deed.Since 0)
    (log : session'.log = session.log) : bench.Tells property (deed :: deeds) session' := by
  refine ⟨records, fun remembers => ?_⟩
  obtain ⟨earlier, begun, shown, told, continues⟩ := tells.after (by rwa [Remembers, ← log])
  exact ⟨earlier, begun, shown, told, continues.deed since⟩

/-- What the deeds tell may be shown, and they tell from where the run goes on. -/
theorem passes (tells : bench.Tells property deeds session)
    (continues : Continues origin.length origin deeds) (hosts : bench.Hosts deeds visit) :
    ∃ next, bench.gate property origin visit session = some next ∧
      bench.Tells property deeds next ∧ (session.log ≠ [] → Shadows session next) := by
  refine ⟨_, if_pos ⟨deeds, continues, tells, hosts⟩, ?_⟩
  split
  · rename_i shown
    refine ⟨⟨tells.records.congr rfl rfl rfl, fun _ => ?_⟩, fun _ => ⟨rfl, rfl, rfl, nofun⟩⟩
    exact ⟨session, deeds, shown, tells.records, .refl ..⟩
  · exact ⟨tells, fun logged => ⟨rfl, rfl, rfl, logged⟩⟩

end Bench.Tells

omit [Lexicon ι Leaf] in
theorem Shadows.trans {session'' : Session ι Payload (Recall ι Leaf)}
    (first : Shadows session session') (second : Shadows session' session'') :
    Shadows session session'' :=
  ⟨second.table_eq.trans first.table_eq, second.reach_eq.trans first.reach_eq,
    second.extra_eq.trans first.extra_eq, second.logged⟩

/-- From sessions that differ in their logs at most, of which the deeds tell, both rules reply the
same and end in such sessions. -/
def Bench.Follow (bench : Bench ι Leaf) (property : Session ι Payload (Recall ι Leaf) → Prop)
    (deeds : List (Deed ι Leaf)) (rule rule' : Rule ι Leaf) : Prop :=
  ∀ cursor session session', Shadows session session' → bench.Tells property deeds session' →
    (rule cursor session).1 = (rule' cursor session').1 ∧
      Shadows (rule cursor session).2 (rule' cursor session').2 ∧
      ∃ later, Continues deeds.length deeds later ∧
        bench.Tells property later (rule' cursor session').2

/-- Sessions that differ in their logs at most, told of by deeds that go on from the past. -/
def telling (bench : Bench ι Leaf) (property : Session ι Payload (Recall ι Leaf) → Prop)
    (past : List (Deed ι Leaf)) : Accord ι Payload (Recall ι Leaf) where
  cursors _ _ := True
  sessions session session' := Shadows session session' ∧
    ∃ deeds, Continues past.length past deeds ∧ bench.Tells property deeds session'

theorem Bench.follow_of_agree {filters : List (Filter ι)}
    (agree : Parser.Agree (telling bench property deeds) filters rule rule') :
    bench.Follow property deeds rule rule' := by
  intro cursor session session' shadows tells
  obtain ⟨same, shadows, _⟩ :=
    agree cursor session session' trivial ⟨shadows, deeds, .refl .., tells⟩
  exact ⟨same, shadows⟩

theorem Bench.agree_of_follow {filters : List (Filter ι)}
    (follow : ∀ deeds, Continues past.length past deeds → bench.Follow property deeds rule rule') :
    Parser.Agree (telling bench property past) filters rule rule' := by
  rintro cursor session session' _ ⟨shadows, deeds, continues, tells⟩
  obtain ⟨same, shadows, later, further, told⟩ :=
    follow deeds continues cursor session session' shadows tells
  exact ⟨same, ⟨shadows, later, continues.trans further continues.length_le, told⟩,
    fun _ _ _ => trivial⟩

namespace Bench.Follow

/-- Watching the second rule makes no difference. -/
theorem watch (follow : bench.Follow property deeds rule rule')
    (continues : Continues origin.length origin deeds) (hosts : bench.Hosts deeds visit)
    (cause : Halt) :
    bench.Follow property deeds rule (watch (bench.gate property origin) cause visit rule') := by
  intro cursor session session' shadows tells
  obtain ⟨first, entered, told, shadows'⟩ := tells.passes continues hosts
  obtain ⟨same, shadows, later, further, tells⟩ :=
    follow cursor session first (shadows.trans (shadows' shadows.logged)) told
  have hosts' := hosts.continues further
  obtain ⟨last, left, told, shadows'⟩ :=
    tells.passes (continues.trans further continues.length_le) hosts'
  simp only [Grammar.watch, entered, left]
  exact ⟨same, shadows.trans (shadows' shadows.logged), later, further, told⟩

section Memoized

variable {key : Memo.Key} {replace : Bool} {inner : Built ι Leaf}
  (stands : bench.Stands past (.memoize replace key inner))
include stands

theorem runAndStore (follow : bench.Follow property past rule rule') (cursor : Cursor ι Payload)
    (shadows : Shadows session session') (tells : bench.Tells property past session')
    (sought : ∀ entry, entryOf past cursor.position key = some entry →
      Memo.succeeded entry.outcome = false ∧ replace = true) :
    let run := Parser.runAndStore (M := Recall ι Leaf) key rule cursor session
    let run' := Parser.runAndStore (M := Recall ι Leaf) key rule' cursor session'
    run.1 = run'.1 ∧ Shadows run.2 run'.2 ∧
      ∃ later, Continues past.length past later ∧ bench.Tells property later run'.2 := by
  obtain ⟨same, shadows, later, further, tells⟩ := follow cursor session session' shadows tells
  simp only [Parser.runAndStore_eq]
  generalize rule cursor session = run, rule' cursor session' = run' at same shadows tells ⊢
  obtain ⟨reply, last⟩ := run
  obtain ⟨_, last'⟩ := run'
  cases same
  cases caught : reply.outcome? with
  | none =>
    exact ⟨rfl, shadows, later, further, tells⟩
  | some outcome =>
    cases held : last.table with
    | none =>
      have held' : last'.table = none := shadows.table_eq.trans held
      simp only [held']
      exact ⟨trivial, shadows, later, further, tells⟩
    | some table =>
      have held' : last'.table = some table := shadows.table_eq.trans held
      simp only [held']
      cases accepted : table.store cursor.position key cursor.type outcome with
      | error violation => exact ⟨rfl, shadows, later, further, tells⟩
      | ok stored =>
        have told := tells.records.store further stands sought held' accepted
        have grown : Continues past.length past
            (.stored past.length cursor.position ⟨key, cursor.type, outcome⟩ :: later) :=
          further.deed (Nat.le_refl past.length)
        exact ⟨rfl, ⟨rfl, shadows.reach_eq, shadows.extra_eq, shadows.logged⟩, _, grown,
          tells.deed told (Nat.zero_le past.length) rfl⟩

/-- Two memoized nodes follow each other as what they memoize does. -/
theorem cached (follow : bench.Follow property past rule rule') :
    bench.Follow property past (cached replace key rule) (cached replace key rule') := by
  intro cursor session session' shadows tells
  have recalled := tells.records.recalled cursor.position key
  have noted event := tells.note shadows.logged event
  simp only [Grammar.cached, Parser.memoize, shadows.table_eq]
  cases reached : (if cursor.data.linked then session.table else none) with
  | none => exact follow cursor _ _ (shadows.note _) (noted _)
  | some table =>
    have shared : session'.table = some table :=
      shadows.table_eq.trans (Option.ite_none_right_eq_some.mp reached).2
    rw [Session.recalled_of_table shared] at recalled
    simp only [Memo.Table.lookup]
    cases found : table.find? cursor.position key with
    | none =>
      refine follow.runAndStore stands cursor shadows tells fun entry held => ?_
      rw [← recalled, found] at held
      cases held
    | some entry =>
      simp only
      by_cases type : entry.type = cursor.type
      · simp only [if_pos type]
        cases trusted : Memo.succeeded entry.outcome || !replace with
        | true => exact ⟨rfl, shadows.note _, past, .refl .., noted _⟩
        | false =>
          refine follow.runAndStore stands cursor (shadows.note _) (noted _) fun other held => ?_
          rw [← recalled, found] at held
          cases held
          simpa using trusted
      · simp only [if_neg type]
        exact ⟨trivial, shadows, past, .refl .., tells⟩

end Memoized

/-- Two references follow each other as the parsers do. -/
theorem resolve {run run' : Built ι Leaf → Rule ι Leaf} {target : Deferred}
    (stands : bench.Stands past (.reference target))
    (follow : ∀ parser deeds, Continues past.length past deeds → parser ∈ bench.parsers deeds →
      bench.Follow property deeds (run parser) (run' parser)) :
    bench.Follow property past (bench.library.resolve run target)
      (bench.library.resolve run' target) := by
  intro cursor session session' shadows tells
  cases found : session.extra.built[target.id]? with
  | some parser =>
    have found' : session'.extra.built[target.id]? = some parser := shadows.extra_eq ▸ found
    have known : parser ∈ bench.parsers past :=
      Bench.mem_parsers_of_parserOf ((tells.records.built _).symm.trans found')
    rw [Library.resolve_built found, Library.resolve_built found']
    exact follow parser past (.refl ..) known cursor session session' shadows tells
  | none =>
    have found' : session'.extra.built[target.id]? = none := shadows.extra_eq ▸ found
    have noted := tells.note shadows.logged .deferredBuilt
    cases building : bench.library.buildRule target.rule session.extra.nextId with
    | error violation =>
      have building' : bench.library.buildRule target.rule session'.extra.nextId =
        .error violation := shadows.extra_eq ▸ building
      rw [Library.resolve_refused found building, Library.resolve_refused found' building']
      exact ⟨rfl, shadows.note _, past, .refl .., noted⟩
    | ok built =>
      obtain ⟨parser, next⟩ := built
      have building' : bench.library.buildRule target.rule session'.extra.nextId =
        .ok (parser, next) := shadows.extra_eq ▸ building
      rw [Library.resolve_first found building, Library.resolve_first found' building']
      have grown : Continues past.length past (.built target.id parser :: past) :=
        (Continues.refl ..).deed trivial
      have known : parser ∈ bench.parsers (.built target.id parser :: past) :=
        List.mem_append_right _ List.mem_cons_self
      have told := noted.deed (tells.records.raise stands found' building') trivial rfl
      obtain ⟨same, shadows, later, further, tells⟩ := follow parser _ grown known cursor _ _
        (shadows.raise target.id parser next) told
      exact ⟨same, shadows, later, grown.trans further grown.length_le, tells⟩

end Bench.Follow

variable [LawfulLexicon ι Leaf]

/-- A run of what stands among the parsers is followed by the run that is watched. -/
theorem runWithin_follow (origin : List (Deed ι Leaf)) (cause : Halt) (depth : Nat) :
    ∀ grammar deeds, Continues origin.length origin deeds → bench.Knows deeds grammar →
      bench.Follow property deeds (runWithin bench.library depth grammar)
        (runWatched bench.library (bench.gate property origin) cause depth grammar) := by
  have supports {grammar : Built ι Leaf} {resolve resolve' : Deferred → Rule ι Leaf}
      (reference : ∀ target deeds, Continues origin.length origin deeds →
        bench.Stands deeds (.reference target) →
          bench.Follow property deeds (resolve target) (resolve' target)) :
      Supports
        (fun past : { past // Continues origin.length origin past ∧ bench.Knows past grammar } =>
          telling bench property past.1)
        cached
        (fun replace key rule =>
          watch (bench.gate property origin) cause (.memoized replace key) (cached replace key rule))
        resolve (fun target => watch (bench.gate property origin) cause (.deferred target)
          (resolve' target))
        [] grammar := by
    constructor
    · exact fun _ => ⟨fun shared => shared.1.reach_eq.symm,
        fun ⟨shadows, deeds, continues, tells⟩ event =>
          ⟨shadows.note event, deeds, continues, tells.note shadows.logged event⟩,
        fun _ _ => trivial, fun _ _ => trivial, fun _ => trivial⟩
    · rintro _ session session' ⟨shadows, deeds, continues, tells⟩ name
      exact ⟨⟨shadows.table_eq, shadows.reach_eq, by simp only [shadows.extra_eq], shadows.logged⟩,
        deeds, continues, tells.records.congr rfl rfl rfl, tells.after⟩
    · exact fun _ _ _ _ => trivial
    · exact fun _ _ _ _ _ => trivial
    · rintro more replace key inner part agree ⟨past, continues, knows⟩
      refine Bench.agree_of_follow fun deeds further => ?_
      have continues' := continues.trans further continues.length_le
      have stands := (knows _ _ part).continues further
      have inside := Bench.follow_of_agree (agree ⟨deeds, continues', knows.continues further⟩)
      have hosts : bench.Hosts deeds (.memoized replace key) := ⟨inner, stands⟩
      exact (inside.cached stands).watch continues' hosts cause
    · rintro more target part ⟨past, continues, knows⟩
      refine Bench.agree_of_follow fun deeds further => ?_
      have continues' := continues.trans further continues.length_le
      have stands := (knows _ _ part).continues further
      have hosts : bench.Hosts deeds (.deferred target) := stands
      exact (reference target deeds continues' stands).watch continues' hosts cause
  induction depth with
  | zero =>
    intro grammar deeds continues knows
    refine Bench.follow_of_agree (runWith_agree grammar [] (supports fun _ _ _ _ => ?_)
      ⟨deeds, continues, knows⟩)
    exact fun _ _ _ shadows tells => ⟨rfl, shadows, _, .refl .., tells⟩
  | succ depth ih =>
    intro grammar deeds continues knows
    refine Bench.follow_of_agree (runWith_agree grammar []
      (supports fun target past before stands => ?_) ⟨deeds, continues, knows⟩)
    exact Bench.Follow.resolve stands fun parser deeds further known =>
      ih parser deeds (before.trans further before.length_le) (bench.knows_of_mem known)

/-- The session is told of by deeds that runs have added to those in the past. -/
def Bench.Recorded (bench : Bench ι Leaf) (past : List (Deed ι Leaf))
    (session : Session ι Payload (Recall ι Leaf)) : Prop :=
  ∃ deeds, Continues past.length past deeds ∧ bench.Records deeds session

omit [LawfulLexicon ι Leaf] in
/-- Runs do not give the table up. -/
theorem Bench.Recorded.live (recorded : bench.Recorded past session')
    (records : bench.Records past session) (live : session.table.isSome) :
    session'.table.isSome := by
  obtain ⟨_, ⟨more, rfl, since⟩, later⟩ := recorded
  obtain ⟨tabled, kept⟩ := records.live.mp live
  refine later.live.mpr ⟨tabled, fun member => ?_⟩
  rcases List.mem_append.mp member with dropped | dropped
  · exact since _ dropped
  · exact kept dropped

/-- From a session that is told of, a run of what stands among the parsers ends in such a session.
Watched, it shows nothing that is not told of, and in order. -/
theorem Bench.Records.run (records : bench.Records deeds session) {grammar : Built ι Leaf}
    (stands : bench.Stands deeds grammar) (depth : Nat) (cursor : Cursor ι Payload) :
    let run := runWithin bench.library depth grammar cursor session
    bench.Recorded deeds run.2 ∧
      ∀ property cause,
        let watched :=
          runWatched bench.library (bench.gate property deeds) cause depth grammar cursor
            (unseen session)
        watched.1 = run.1 ∧ watched.2.table = run.2.table ∧ watched.2.extra = run.2.extra := by
  intro run
  have follow (property : Session ι Payload (Recall ι Leaf) → Prop) (cause : Halt) :=
    runWithin_follow deeds cause depth grammar deeds (.refl ..) stands.knows cursor session
      (unseen session) ⟨rfl, rfl, rfl, nofun⟩
      (⟨records.congr rfl rfl rfl, nofun⟩ : bench.Tells property deeds (unseen session))
  constructor
  · obtain ⟨_, shadows, later, continues, tells⟩ := follow (fun _ => False) .exhausted
    exact ⟨later, continues, tells.records.congr shadows.table_eq.symm
      (congrArg Workshop.built shadows.extra_eq.symm)
      (congrArg Workshop.nextId shadows.extra_eq.symm)⟩
  · intro property cause
    obtain ⟨same, shadows, _⟩ := follow property cause
    exact ⟨same.symm, shadows.table_eq, shadows.extra_eq⟩

/-! Instances that a run does not come to. -/

/-- A run may show everything except at one instance. -/
def avoiding (id : Nat) : Gate ι Leaf := fun visit session =>
  match visit with
  | .memoized _ _ => some session
  | .deferred target => if target.id = id then none else some session

omit [Lexicon ι Leaf] [LawfulLexicon ι Leaf] in
theorem watch_of_open {gate : Gate ι Leaf} (opened : ∀ session, gate visit session = some session)
    (cause : Halt) (rule : Rule ι Leaf) : watch gate cause visit rule = rule := by
  funext cursor session
  simp only [watch, opened]

omit [Lexicon ι Leaf] [LawfulLexicon ι Leaf] in
theorem watch_of_shut {gate : Gate ι Leaf} (shut : ∀ session, gate visit session = none)
    (cause : Halt) (rule : Rule ι Leaf) : watch gate cause visit rule = Parser.halt cause := by
  funext cursor session
  simp only [watch, shut]
  rfl

/-- One session, with this built under the identity. -/
def leaving (id : Nat) (held : Option (Built ι Leaf)) : Accord ι Payload (Recall ι Leaf) where
  cursors _ _ := True
  sessions session session' := session = session' ∧ session.extra.built[id]? = held

omit [Lexicon ι Leaf] [LawfulLexicon ι Leaf] in
theorem agree_cached_leaving {id : Nat} {held : Option (Built ι Leaf)} {filters : List (Filter ι)}
    (agree : Parser.Agree (leaving id held) filters rule rule) (replace : Bool) (key : Memo.Key) :
    Parser.Agree (leaving id held) filters (cached replace key rule) (cached replace key rule) := by
  rintro cursor session _ _ ⟨rfl, same⟩
  have runs log : (rule cursor { session with log := log }).2.extra.built[id]? = held :=
    (agree cursor { session with log := log } _ trivial ⟨rfl, same⟩).2.1.2
  have memoizes :=
    Parser.memoizes_memoize (M := Recall ι Leaf) Payload.linked key replace rule cursor session
  have left := memoizes.extra (fun extra : Workshop ι Leaf => extra.built[id]? = held) same runs
  exact ⟨rfl, ⟨rfl, left⟩, fun _ _ _ => trivial⟩

/-- A run that is broken off where it comes to an instance leaves the instance as it was. -/
theorem runWatched_leaving (library : Library ι Leaf) (id : Nat) (held : Option (Built ι Leaf))
    (cause : Halt) (depth : Nat) : ∀ grammar filters,
      let watched := runWatched library (avoiding id) cause depth grammar
      Parser.Agree (leaving id held) filters watched watched := by
  have supports {grammar : Built ι Leaf} {filters} {resolve : Deferred → Rule ι Leaf}
      (reference : ∀ target filters, target.id ≠ id →
        Parser.Agree (leaving id held) filters (resolve target) (resolve target)) :
      let memoize replace key rule :=
        watch (avoiding id) cause (.memoized replace key) (cached replace key rule)
      let refer target := watch (avoiding id) cause (.deferred target) (resolve target)
      Supports (fun _ : Unit => leaving id held) memoize memoize refer refer filters grammar := by
    constructor
    · exact fun _ => ⟨fun shared => congrArg Session.reach shared.1,
        fun shared event => ⟨congrArg (Session.note · event) shared.1, shared.2⟩,
        fun _ _ => trivial, fun _ _ => trivial, fun _ => trivial⟩
    · rintro _ session _ ⟨rfl, same⟩ name
      exact ⟨rfl, same⟩
    · exact fun _ _ _ _ => trivial
    · exact fun _ _ _ _ _ => trivial
    · intro more replace key inner part agree _
      have opened (session : Session ι Payload (Recall ι Leaf)) :
        avoiding id (.memoized replace key) session = some session := rfl
      rw [watch_of_open opened]
      exact agree_cached_leaving (agree ()) replace key
    · intro more target part _
      by_cases here : target.id = id
      · have shut (session : Session ι Payload (Recall ι Leaf)) :
          avoiding id (.deferred target) session = none := if_pos here
        rw [watch_of_shut shut]
        exact Parser.agree_halt cause
      · have opened (session : Session ι Payload (Recall ι Leaf)) :
          avoiding id (.deferred target) session = some session := if_neg here
        rw [watch_of_open opened]
        exact reference target _ here
  induction depth with
  | zero =>
    intro grammar filters
    exact runWith_agree grammar filters (supports fun _ _ _ => Parser.agree_halt _) ()
  | succ depth ih =>
    intro grammar filters
    refine runWith_agree grammar filters (supports fun target filters other => ?_) ()
    rintro cursor session _ _ ⟨rfl, same⟩
    cases found : session.extra.built[target.id]? with
    | some parser =>
      rw [Library.resolve_built found]
      exact ih parser filters cursor session session trivial ⟨rfl, same⟩
    | none =>
      cases building : library.buildRule target.rule session.extra.nextId with
      | error violation =>
        rw [Library.resolve_refused found building]
        exact ⟨rfl, ⟨rfl, same⟩, nofun⟩
      | ok built =>
        rw [Library.resolve_first found building]
        refine ih built.1 filters cursor _ _ trivial ⟨rfl, ?_⟩
        change (session.extra.built.insert target.id built.1)[id]? = held
        rw [Std.TreeMap.getElem?_insert, if_neg (by simpa using other)]
        exact same

end Packrat.Grammar
