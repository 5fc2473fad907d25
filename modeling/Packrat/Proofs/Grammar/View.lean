import Packrat.Proofs.Grammar.Deferral
import Packrat.Text.Cursor

/-! What a parser reads. Without memoization a parser tells cursors apart by the items that their
filters show and by the payload, and by positions only where it observes them. -/

namespace Packrat

open Packrat.Parser

variable {ι δ : Type} {M : Memory}

/-- One filter after another, as one function of a type of its own. -/
def Filter.andThen (outer inner : Filter ι) (type : String) : Filter ι :=
  ⟨type, fun item => (outer.image item).bind inner.image⟩

/-- An item as filters show it, the last of them first. -/
def look (filters : List (Filter ι)) (item : ι) : Except Violation ι :=
  filters.foldr (fun filter seen => seen.bind filter.image) (.ok item)

theorem look_append (front back : List (Filter ι)) (item : ι) :
    look (front ++ back) item = (look back item).bind (look front) := by
  induction front with
  | nil =>
    change look back item = _
    cases look back item <;> rfl
  | cons filter front ih =>
    change (look (front ++ back) item).bind filter.image = _
    rw [ih]
    cases look back item <;> rfl

/-- The reply with what is left of the input taken to another place. -/
def Reply.moved {σ σ' ε α : Type} (move : σ → σ') : Reply σ ε α → Reply σ' ε α
  | .done value rest => .done value (move rest)
  | .fail error => .fail error
  | .halt cause => .halt cause

theorem Reply.moved_id {σ ε α : Type} (reply : Reply σ ε α) : reply.moved id = reply := by
  cases reply <;> rfl

theorem Reply.moved_moved {σ σ' σ'' ε α : Type} (first : σ → σ') (second : σ' → σ'')
    (reply : Reply σ ε α) :
    (reply.moved first).moved second = reply.moved (fun rest => second (first rest)) := by
  cases reply <;> rfl

theorem Paired.moved {σ ε α : Type} {places places' : σ → σ → Prop} {causes : Halt → Prop}
    {move move' : σ → σ} {reply reply' : Reply σ ε α} (paired : Paired places causes reply reply')
    (implies : ∀ rest rest', places rest rest' → places' (move rest) (move' rest')) :
    Paired places' causes (reply.moved move) (reply'.moved move') := by
  cases paired with
  | done place => exact .done (implies _ _ place)
  | fail => exact .fail
  | halt cause => exact .halt cause

theorem Parser.withFilter_fst {ε α : Type} (filter : Filter ι) (parser : Parser ι δ M ε α)
    (cursor : Cursor ι δ) (session : Session ι δ M) :
    (withFilter filter parser cursor session).1 =
      (parser (cursor.filtered filter) session).1.moved Cursor.unfiltered := by
  unfold withFilter
  rcases parser (cursor.filtered filter) session with ⟨reply, later⟩
  cases reply <;> rfl

/-- Where a cursor stands: in items of a metric, behind filters. -/
structure Ground (ι : Type) where
  metric : Metric ι
  items : List ι
  filters : List (Filter ι)

/-- The items of the ground that are still to be read, as its filters show them. -/
def Ground.show (ground : Ground ι) (items : List ι) : List (Except Violation ι) :=
  items.map (look ground.filters)

namespace Cursor

/-- The cursor stands on the ground, behind more filters. -/
structure On (ground : Ground ι) (more : List (Filter ι)) (cursor : Cursor ι δ) : Prop where
  lies : cursor.Over ground.metric ground.items
  filters_eq : cursor.filters = more ++ ground.filters

/-- Each cursor stands on its ground, and behind the same filters more they have the same to read and
the same payload. -/
structure Abreast (ground ground' : Ground ι) (more : List (Filter ι))
    (cursor cursor' : Cursor ι δ) : Prop where
  on : cursor.On ground more
  on' : cursor'.On ground' more
  show_eq : ground.show cursor.ahead = ground'.show cursor'.ahead
  data_eq : cursor.data = cursor'.data

/-- In one sequence, cursors with equally many items ahead stand at one position. -/
theorem Over.position_eq_iff {metric : Metric ι} {items : List ι} {cursor other : Cursor ι δ}
    (lies : cursor.Over metric items) (lies' : other.Over metric items) :
    cursor.position = other.position ↔ cursor.ahead.length = other.ahead.length := by
  constructor
  · intro level
    rw [(lies.same_cut lies' level).2]
  · intro long
    have whole := lies.source_eq.trans lies'.source_eq.symm
    obtain ⟨front, _⟩ := List.append_inj' whole long
    rw [lies.cut.2, lies'.cut.2, front]

namespace Abreast

variable {ground ground' : Ground ι} {more : List (Filter ι)} {cursor cursor' : Cursor ι δ}

theorem length_eq (abreast : Abreast ground ground' more cursor cursor') :
    cursor.ahead.length = cursor'.ahead.length := by
  simpa [Ground.show] using congrArg List.length abreast.show_eq

theorem past {item item' : ι} {rest rest' : List ι}
    (abreast : Abreast ground ground' more cursor cursor') (ahead : cursor.ahead = item :: rest)
    (ahead' : cursor'.ahead = item' :: rest') (show_eq : ground.show rest = ground'.show rest') :
    Abreast ground ground' more (cursor.past item rest) (cursor'.past item' rest') :=
  ⟨⟨abreast.on.lies.past ahead, abreast.on.filters_eq⟩,
    ⟨abreast.on'.lies.past ahead', abreast.on'.filters_eq⟩, show_eq, abreast.data_eq⟩

theorem withData (abreast : Abreast ground ground' more cursor cursor') (data : δ) :
    Abreast ground ground' more (cursor.withData data) (cursor'.withData data) :=
  ⟨⟨⟨abreast.on.lies.metric_eq, abreast.on.lies.source_eq⟩, abreast.on.filters_eq⟩,
    ⟨⟨abreast.on'.lies.metric_eq, abreast.on'.lies.source_eq⟩, abreast.on'.filters_eq⟩,
    abreast.show_eq, rfl⟩

theorem filtered (abreast : Abreast ground ground' more cursor cursor') (filter : Filter ι) :
    Abreast ground ground' (filter :: more) (cursor.filtered filter) (cursor'.filtered filter) :=
  ⟨⟨⟨abreast.on.lies.metric_eq, abreast.on.lies.source_eq⟩,
      congrArg (filter :: ·) abreast.on.filters_eq⟩,
    ⟨⟨abreast.on'.lies.metric_eq, abreast.on'.lies.source_eq⟩,
      congrArg (filter :: ·) abreast.on'.filters_eq⟩,
    abreast.show_eq, abreast.data_eq⟩

theorem unfiltered {filter : Filter ι}
    (abreast : Abreast ground ground' (filter :: more) cursor cursor') :
    Abreast ground ground' more cursor.unfiltered cursor'.unfiltered :=
  ⟨⟨⟨abreast.on.lies.metric_eq, abreast.on.lies.source_eq⟩,
      congrArg List.tail abreast.on.filters_eq⟩,
    ⟨⟨abreast.on'.lies.metric_eq, abreast.on'.lies.source_eq⟩,
      congrArg List.tail abreast.on'.filters_eq⟩,
    abreast.show_eq, abreast.data_eq⟩

/-- Cursors abreast read the same, and are abreast behind what they have read. -/
theorem advance {causes : Halt → Prop} (blamed : ∀ violation, causes (.violation violation))
    (abreast : Abreast ground ground' more cursor cursor') :
    Shown (Abreast ground ground' more) causes cursor.advance cursor'.advance := by
  have shown := abreast.show_eq
  unfold Cursor.advance
  cases ahead : cursor.ahead with
  | nil =>
    cases ahead' : cursor'.ahead with
    | nil => exact .ended
    | cons item' rest' => simp [Ground.show, ahead, ahead'] at shown
  | cons item rest =>
    cases ahead' : cursor'.ahead with
    | nil => simp [Ground.show, ahead, ahead'] at shown
    | cons item' rest' =>
      simp only [Ground.show, ahead, ahead', List.map_cons, List.cons.injEq] at shown
      have read : cursor.read item = cursor'.read item' := by
        change look cursor.filters item = look cursor'.filters item'
        rw [abreast.on.filters_eq, abreast.on'.filters_eq, look_append, look_append, shown.1]
      simp only [read]
      cases cursor'.read item' with
      | error violation => exact .refused (blamed violation)
      | ok seen => exact .item (abreast.past ahead ahead' shown.2)

end Abreast

end Cursor

namespace Parser

/-- Cursors abreast on two grounds, and sessions with room for the items of the grounds. -/
def view (ground ground' : Ground ι) (room room' : Nat) : Coupling ι δ M where
  cursors := Cursor.Abreast ground ground'
  sessions session session' := session.reach = room ∧ session'.reach = room'
  causes _ := True
  admits _ := True
  onward := True

variable {ground ground' : Ground ι} {room room' : Nat}

theorem view_stable (fits : ground.metric.span ground.items ≤ room)
    (fits' : ground'.metric.span ground'.items ≤ room') :
    (view ground ground' room room' : Coupling ι δ M).Stable where
  advance abreast := abreast.advance fun _ => trivial
  ordinary _ := trivial
  total _ := trivial
  filtered abreast _ := abreast.filtered _
  unfiltered abreast := abreast.unfiltered
  rounds coupled := by
    apply coupled.rounds_of_room trivial
    · intro cursor cursor' rest rest' abreast abreast'
      rw [abreast'.on.lies.position_eq_iff abreast.on.lies,
        abreast'.on'.lies.position_eq_iff abreast.on'.lies, abreast.length_eq, abreast'.length_eq]
    · intro cursor cursor' abreast
      exact ⟨Nat.le_trans abreast.on.lies.position_le fits,
        Nat.le_trans abreast.on'.lies.position_le fits'⟩
    · exact fun _ _ shared => shared
    · exact fun _ _ _ _ _ shared _ => shared

end Parser

namespace Grammar

variable {ι Leaf : Type} [Lexicon ι Leaf] [UniformLexicon ι Leaf] {ground ground' : Ground ι}
  {room room' : Nat}

/-- Positions are observed only if cursors abreast stand at the same one. -/
def Discreet {κ ρ : Type} (ground ground' : Ground ι) (grammar : Grammar ι Leaf κ ρ) : Prop :=
  ∀ filters node, Part grammar filters node → node.Observes →
    ∀ more (cursor cursor' : Cursor ι Payload), Cursor.Abreast ground ground' more cursor cursor' →
      cursor.position = cursor'.position

theorem coupled_meaning {resolve : String → Rule ι Leaf} {grammar : Built ι Leaf}
    (fits : ground.metric.span ground.items ≤ room)
    (fits' : ground'.metric.span ground'.items ≤ room') (discreet : Discreet ground ground' grammar)
    (filters : List (Filter ι))
    (coupled : ∀ rule filters, Coupled (view ground ground' room room') filters (resolve rule)
      (resolve rule)) :
    Coupled (view ground ground' room room') filters (meaning resolve grammar)
      (meaning resolve grammar) := by
  have upholds : Upholds (fun _ : Unit => view ground ground' room room') uncached uncached
      (fun deferred : Deferred => resolve deferred.rule) (fun deferred => resolve deferred.rule)
      filters grammar := by
    constructor
    · exact fun _ => view_stable fits fits'
    · exact fun _ _ _ shared _ => shared
    · exact fun _ => UniformLexicon.coupled _ (view_stable fits fits')
    · exact fun part observes _ cursor cursor' => discreet _ _ part observes _ cursor cursor'
    · exact fun _ _ => coupled_getData fun _ _ abreast => abreast.data_eq
    · exact fun _ _ => coupled_setData fun _ _ abreast => abreast.withData _
    · exact fun _ _ => coupled_modifyData (fun _ _ abreast => abreast.data_eq)
        (fun _ _ _ => trivial) fun _ _ data abreast => abreast.withData data
    · exact fun _ _ => trivial
    · exact fun _ coupled _ => coupled ()
    · exact fun _ _ => coupled _ _
  exact runWith_coupled grammar filters upholds ()

theorem coupled_rule {library : Library ι Leaf} (fits : ground.metric.span ground.items ≤ room)
    (fits' : ground'.metric.span ground'.items ≤ room')
    (rules : ∀ rule start parser next, library.buildRule rule start = .ok (parser, next) →
      Discreet ground ground' parser) (depth : Nat) :
    ∀ rule filters, Coupled (view ground ground' room room') filters (library.parser depth rule)
      (library.parser depth rule) := by
  induction depth with
  | zero => exact fun _ _ => coupled_halt trivial
  | succ depth ih =>
    intro rule filters
    unfold Library.parser
    split
    · exact coupled_halt trivial
    · rename_i parser next built
      exact coupled_meaning fits fits' (rules _ _ _ _ built) filters ih

section Benches

variable {rules shared : List (String × Blueprint ι Leaf)} {blueprint : Blueprint ι Leaf}
  {table : Bool} {bench : Bench ι Leaf} {cursor cursor' : Cursor ι Payload}

/-- Runs from cursors abreast end abreast. -/
theorem afresh_abreast (discreet : bench.Throughout (Discreet ground ground'))
    (abreast : Cursor.Abreast ground ground' [] cursor cursor')
    {session session' : Session ι Payload (Recall ι Leaf)} (fits : cursor.extent ≤ session.reach)
    (fits' : cursor'.extent ≤ session'.reach) :
    Paired (Cursor.Abreast ground ground' []) (fun _ => True)
      (afresh bench.library recursionLimit bench.parser cursor session).1
      (afresh bench.library recursionLimit bench.parser cursor' session').1 := by
  rw [abreast.on.lies.extent_eq] at fits
  rw [abreast.on'.lies.extent_eq] at fits'
  have rule := coupled_rule fits fits' discreet.rules recursionLimit
  obtain ⟨paired, _⟩ := coupled_meaning fits fits' discreet.parser [] rule cursor cursor' session
    session' abreast ⟨rfl, rfl⟩
  exact paired.mono fun _ _ ends => ends.place

/-- The cursors have the same items to read, behind no filters, and the same payload. They may stand
anywhere in any sequences of any metrics. -/
structure Alike (cursor cursor' : Cursor ι Payload) : Prop where
  ahead_eq : cursor.ahead = cursor'.ahead
  data_eq : cursor.data = cursor'.data
  bare : cursor.filters = []
  bare' : cursor'.filters = []

def Blind {κ ρ : Type} (grammar : Grammar ι Leaf κ ρ) : Prop :=
  ∀ filters node, Part grammar filters node → ¬ node.Observes

/-- Where nothing is memoized and no position observed, the reply depends on the items still to be
read and the payload alone, and so does all that can be read after it. Neither the rest of the
sequence counts, nor its metric, nor what was parsed before. -/
theorem parse_alike (assembled : Bench.assemble rules shared blueprint table = .ok bench)
    (unmemoized : bench.Throughout Unmemoized) (blind : bench.Throughout Blind)
    (steps steps' : List (Bench.Step ι)) (alike : Alike cursor cursor') :
    Paired Alike (fun _ => True) ((steps.foldl Bench.perform bench).parse cursor).1
      ((steps'.foldl Bench.perform bench).parse cursor').1 := by
  have plain {metric : Metric ι} {items : List ι} (rest : List ι) :
      Ground.show ⟨metric, items, []⟩ rest = rest.map .ok := rfl
  let ground : Ground ι := ⟨cursor.metric, cursor.source, []⟩
  let ground' : Ground ι := ⟨cursor'.metric, cursor'.source, []⟩
  have abreast : Cursor.Abreast ground ground' [] cursor cursor' := by
    refine ⟨⟨⟨rfl, rfl⟩, alike.bare⟩, ⟨⟨rfl, rfl⟩, alike.bare'⟩, ?_, alike.data_eq⟩
    rw [plain, plain, alike.ahead_eq]
  have discreet : bench.Throughout (Discreet ground ground') := by
    constructor
    · exact fun _ _ part observes => absurd observes (blind.parser _ _ part)
    · exact fun _ _ _ _ built _ _ part observes =>
        absurd observes (blind.rules _ _ _ _ built _ _ part)
  obtain ⟨session, fits, runs⟩ := parse_afresh assembled unmemoized steps cursor
  obtain ⟨session', fits', runs'⟩ := parse_afresh assembled unmemoized steps' cursor'
  rw [runs, runs']
  refine (afresh_abreast discreet abreast fits fits').mono ?_
  intro rest rest' ends
  refine ⟨?_, ends.data_eq, ends.on.filters_eq, ends.on'.filters_eq⟩
  have shown := ends.show_eq
  rw [plain, plain] at shown
  exact (List.map_inj_right fun _ _ => Except.ok.inj).mp shown

def Bench.behind (bench : Bench ι Leaf) (filter : Filter ι) : Bench ι Leaf :=
  { bench with parser := .withFilter filter bench.parser }

omit [UniformLexicon ι Leaf] in
theorem assemble_withFilter (assembled : Bench.assemble rules shared blueprint table = .ok bench)
    (filter : Filter ι) :
    Bench.assemble rules shared (.withFilter filter blueprint) table =
      .ok (bench.behind filter) := by
  obtain ⟨built, next, parser, last, first, second, rfl⟩ := assemble_ok assembled
  have wrapped : (Grammar.withFilter filter blueprint).build built next =
      .ok (.withFilter filter parser, last) := by
    change (blueprint.build built next >>= _) = _
    rw [second]
    rfl
  unfold Bench.assemble
  rw [first]
  change ((Grammar.withFilter filter blueprint).build built next >>= _) = _
  rw [wrapped]
  rfl

omit [UniformLexicon ι Leaf] in
theorem Bench.Throughout.behind (unmemoized : bench.Throughout Unmemoized) (filter : Filter ι) :
    (bench.behind filter).Throughout Unmemoized := by
  refine ⟨fun filters replace mark inner part => ?_, unmemoized.rules⟩
  rcases part.around rfl with ⟨_, same⟩ | ⟨_, _, part⟩
  · cases same
  · exact unmemoized.parser _ _ _ _ part

/-- In the units of slices, a view through a filter is the sequence of the images. -/
theorem abreast_images {filter : Filter ι} {items images : List ι}
    (shown : items.map filter.image = images.map .ok) (index : Nat) (data : Payload) :
    Cursor.Abreast ⟨.unit, items, [filter]⟩ ⟨.unit, images, []⟩ []
      (((Cursor.ofList .unit items data).skip index).filtered filter)
      ((Cursor.ofList .unit images data).skip index) := by
  have stands (items : List ι) :=
    (Cursor.Beside.refl (Cursor.ofList .unit items data)).skip index
  refine ⟨⟨⟨(stands items).lies.metric_eq, (stands items).lies.source_eq⟩, ?_⟩,
    ⟨(stands images).lies, (stands images).filters_eq⟩, ?_,
    (stands items).data_eq.trans (stands images).data_eq.symm⟩
  · exact congrArg (filter :: ·) (stands items).filters_eq
  · change List.map filter.image ((Cursor.ofList .unit items data).skip index).ahead =
      List.map .ok ((Cursor.ofList .unit images data).skip index).ahead
    rw [Cursor.ahead_skip, Cursor.ahead_skip, List.map_drop, List.map_drop]
    exact congrArg (List.drop index) shown

/-- Positions are the same in both. -/
theorem level_images {filter : Filter ι} {items images : List ι}
    (shown : items.map filter.image = images.map .ok) {more : List (Filter ι)}
    (abreast : Cursor.Abreast ⟨.unit, items, [filter]⟩ ⟨.unit, images, []⟩ more cursor cursor') :
    cursor.position = cursor'.position := by
  have count := congrArg List.length shown
  rw [List.length_map, List.length_map] at count
  have place := abreast.on.lies.position_unit.1
  have place' := abreast.on'.lies.position_unit.1
  have long := abreast.length_eq
  dsimp only at place place'
  omega

/-- A view through two filters is the view through the second after the first. -/
theorem abreast_after (outer inner : Filter ι) (type : String) (cursor : Cursor ι Payload) :
    Cursor.Abreast ⟨cursor.metric, cursor.source, inner :: outer :: cursor.filters⟩
      ⟨cursor.metric, cursor.source, outer.andThen inner type :: cursor.filters⟩ []
      ((cursor.filtered outer).filtered inner) (cursor.filtered (outer.andThen inner type)) := by
  refine ⟨⟨⟨rfl, rfl⟩, rfl⟩, ⟨⟨rfl, rfl⟩, rfl⟩, ?_, rfl⟩
  have same : look (inner :: outer :: cursor.filters) =
      look (outer.andThen inner type :: cursor.filters) := by
    funext item
    change ((look cursor.filters item).bind outer.image).bind inner.image =
      (look cursor.filters item).bind _
    cases look cursor.filters item <;> rfl
  simp only [Ground.show, same]
  rfl

omit [UniformLexicon ι Leaf] in
theorem afresh_behind (bench : Bench ι Leaf) (filter : Filter ι) (cursor : Cursor ι Payload)
    (session : Session ι Payload (Recall ι Leaf)) :
    (afresh bench.library recursionLimit (bench.behind filter).parser cursor session).1 =
      (afresh bench.library recursionLimit bench.parser (cursor.filtered filter) session).1.moved
        Cursor.unfiltered :=
  withFilter_fst ..

/-- Behind a filter a bench replies as it does on the images of the items. -/
theorem parse_images (assembled : Bench.assemble rules shared blueprint table = .ok bench)
    (unmemoized : bench.Throughout Unmemoized) (steps steps' : List (Bench.Step ι))
    {filter : Filter ι} {items images : List ι} (shown : items.map filter.image = images.map .ok)
    (index : Nat) (data : Payload) :
    Paired (fun rest rest' => rest.position = rest'.position ∧ rest.data = rest'.data ∧
        rest.filters = [] ∧ rest.ahead = items.drop rest.position) (fun _ => True)
      ((steps.foldl Bench.perform (bench.behind filter)).parse
        ((Cursor.ofList .unit items data).skip index)).1
      ((steps'.foldl Bench.perform bench).parse
        ((Cursor.ofList .unit images data).skip index)).1 := by
  obtain ⟨session, fits, runs⟩ := parse_afresh (assemble_withFilter assembled filter)
    (unmemoized.behind filter) steps ((Cursor.ofList .unit items data).skip index)
  obtain ⟨session', fits', runs'⟩ :=
    parse_afresh assembled unmemoized steps' ((Cursor.ofList .unit images data).skip index)
  have discreet : bench.Throughout (Discreet ⟨.unit, items, [filter]⟩ ⟨.unit, images, []⟩) :=
    ⟨fun _ _ _ _ _ _ _ => level_images shown, fun _ _ _ _ _ _ _ _ _ _ _ _ => level_images shown⟩
  have paired := afresh_abreast discreet (abreast_images shown index data) fits fits'
  rw [runs, runs']
  change Paired _ _ (afresh bench.library _ _ _ _).1 _
  rw [afresh_behind, ← Reply.moved_id (afresh _ _ bench.parser (Cursor.skip _ _) _).1]
  refine paired.moved fun rest rest' ends => ?_
  have level : rest.position = rest'.position := level_images shown ends
  exact ⟨level, ends.data_eq, congrArg List.tail ends.on.filters_eq, ends.on.lies.position_unit.2⟩

/-- Two filters one behind the other are their composition. -/
theorem parse_after (assembled : Bench.assemble rules shared blueprint table = .ok bench)
    (unmemoized : bench.Throughout Unmemoized) (steps steps' : List (Bench.Step ι))
    (outer inner : Filter ι) (type : String) (cursor : Cursor ι Payload) :
    ((steps.foldl Bench.perform ((bench.behind inner).behind outer)).parse cursor).1 =
      ((steps'.foldl Bench.perform (bench.behind (outer.andThen inner type))).parse cursor).1 := by
  obtain ⟨session, fits, runs⟩ :=
    parse_afresh (assemble_withFilter (assemble_withFilter assembled inner) outer)
      ((unmemoized.behind inner).behind outer) steps cursor
  obtain ⟨session', fits', runs'⟩ := parse_afresh (assemble_withFilter assembled _)
    (unmemoized.behind (outer.andThen inner type)) steps' cursor
  let ground : Ground ι := ⟨cursor.metric, cursor.source, inner :: outer :: cursor.filters⟩
  let ground' : Ground ι :=
    ⟨cursor.metric, cursor.source, outer.andThen inner type :: cursor.filters⟩
  have level {more : List (Filter ι)} {rest rest' : Cursor ι Payload}
      (abreast : Cursor.Abreast ground ground' more rest rest') : rest.position = rest'.position :=
    (abreast.on.lies.position_eq_iff abreast.on'.lies).mpr abreast.length_eq
  have discreet : bench.Throughout (Discreet ground ground') :=
    ⟨fun _ _ _ _ _ _ _ => level, fun _ _ _ _ _ _ _ _ _ _ _ _ => level⟩
  have paired := afresh_abreast discreet (abreast_after outer inner type cursor) fits fits'
  have unwrapped : (afresh bench.library recursionLimit ((bench.behind inner).behind outer).parser
      cursor session).1 = _ :=
    (afresh_behind (bench.behind inner) outer cursor session).trans <|
      (congrArg (Reply.moved _) (afresh_behind bench inner _ session)).trans (Reply.moved_moved ..)
  rw [runs, runs']
  refine unwrapped.trans (Eq.trans ?_ (afresh_behind bench _ cursor session').symm)
  have same (rest rest' : Cursor ι Payload) (ends : Cursor.Abreast ground ground' [] rest rest') :
      rest.unfiltered.unfiltered = rest'.unfiltered := by
    have beside : rest'.unfiltered.Beside [] rest.unfiltered.unfiltered := by
      refine ⟨⟨?_, ?_⟩, ?_, ends.data_eq⟩
      · exact ends.on.lies.metric_eq.trans ends.on'.lies.metric_eq.symm
      · exact ends.on.lies.source_eq.trans ends.on'.lies.source_eq.symm
      · have filters := congrArg (List.tail ∘ List.tail) ends.on.filters_eq
        have filters' := congrArg List.tail ends.on'.filters_eq
        exact filters.trans filters'.symm
    have here : rest.position = rest'.position := level ends
    exact beside.eq_of_position (.refl _) here
  exact (paired.moved same).eq fun _ _ same => same

/-- Behind a filter a grammar replies as it does on the images of the items, at the same position and
with the same payload, and what follows reads the items themselves again from there. So two filters
one behind the other are their composition. -/
theorem parse_withFilter (assembled : Bench.assemble rules shared blueprint table = .ok bench)
    (unmemoized : bench.Throughout Unmemoized) (steps steps' : List (Bench.Step ι)) :
    (∀ filter,
      Bench.assemble rules shared (.withFilter filter blueprint) table = .ok (bench.behind filter)) ∧
    (∀ filter (items images : List ι), items.map filter.image = images.map .ok → ∀ index data,
      Paired (fun rest rest' => rest.position = rest'.position ∧ rest.data = rest'.data ∧
          rest.filters = [] ∧ rest.ahead = items.drop rest.position) (fun _ => True)
        ((steps.foldl Bench.perform (bench.behind filter)).parse
          ((Cursor.ofList .unit items data).skip index)).1
        ((steps'.foldl Bench.perform bench).parse
          ((Cursor.ofList .unit images data).skip index)).1) ∧
    ∀ outer inner type cursor,
      ((steps.foldl Bench.perform ((bench.behind inner).behind outer)).parse cursor).1 =
        ((steps'.foldl Bench.perform (bench.behind (outer.andThen inner type))).parse cursor).1 :=
  ⟨assemble_withFilter assembled,
    fun _ _ _ shown => parse_images assembled unmemoized steps steps' shown,
    parse_after assembled unmemoized steps steps'⟩

end Benches

def lettersLater : Bench Char TextLeaf :=
  ⟨⟨[("letters", .many (.leaf .letter))], []⟩, .reference ⟨0, "letters"⟩, .new none ⟨1, ∅, []⟩⟩

theorem assemble_lettersLater :
    Bench.assemble [("letters", .many (.leaf .letter))] [] (.reference (.rule "letters")) false =
      .ok lettersLater := rfl

/-- It builds one rule, and nothing stands in it but a loop of letters. -/
theorem lettersLater_throughout {property : Built Char TextLeaf → Prop}
    (reference : property (.reference ⟨0, "letters"⟩)) (letters : property (.many (.leaf .letter))) :
    lettersLater.Throughout property := by
  refine ⟨reference, fun rule start parser next built => ?_⟩
  unfold Library.buildRule at built
  split at built
  · rename_i blueprint found
    obtain ⟨_, _, cut, _⟩ := List.lookup_eq_some_iff.mp found
    have member : (rule, blueprint) ∈ lettersLater.library.rules := by simp [cut]
    cases List.mem_singleton.mp member
    cases built
    exact letters
  · cases built

/-- The parts of the loop are itself and the letter. -/
theorem part_letters {filters : List (Filter Char)} {node : Built Char TextLeaf}
    (part : Part (.many (.leaf .letter)) filters node) :
    node = .many (.leaf .letter) ∨ node = .leaf .letter := by
  rcases part.around rfl with ⟨_, same⟩ | ⟨_, _, part⟩
  · exact .inl same
  · exact .inr (part.alone rfl).2

theorem lettersLater_unmemoized : lettersLater.Throughout Unmemoized := by
  apply lettersLater_throughout
  · intro filters replace mark inner part
    cases (part.alone rfl).2
  · intro filters replace mark inner part
    rcases part_letters part with same | same <;> cases same

theorem lettersLater_blind : lettersLater.Throughout Blind := by
  apply lettersLater_throughout
  · intro filters node part
    cases (part.alone rfl).2
    exact id
  · intro filters node part
    rcases part_letters part with rfl | rfl <;> exact id

/-- The end of a text in bytes and a slice of characters. -/
theorem parse_alike_letters :
    Alike ((Cursor.ofText "éab" ⟨false, 0⟩).skip 1) (.ofList .unit ['a', 'b'] ⟨false, 0⟩) ∧
      Paired Alike (fun _ => True) (lettersLater.parse ((Cursor.ofText "éab" ⟨false, 0⟩).skip 1)).1
        (lettersLater.parse (.ofList .unit ['a', 'b'] ⟨false, 0⟩)).1 := by
  have alike : Alike ((Cursor.ofText "éab" ⟨false, 0⟩).skip 1)
      (.ofList .unit ['a', 'b'] ⟨false, 0⟩) := ⟨rfl, rfl, rfl, rfl⟩
  exact ⟨alike, parse_alike assemble_lettersLater lettersLater_unmemoized lettersLater_blind [] []
    alike⟩

/-- Small letters read as capital ones, from the second on. -/
theorem parse_withFilter_letters :
    Paired (fun rest rest' => rest.position = rest'.position ∧ rest.data = rest'.data ∧
        rest.filters = [] ∧ rest.ahead = ['a', 'b', '1'].drop rest.position) (fun _ => True)
      ((lettersLater.behind (charFunction Char.toUpper)).parse
        ((Cursor.ofList .unit ['a', 'b', '1'] ⟨false, 0⟩).skip 1)).1
      (lettersLater.parse ((Cursor.ofList .unit ['A', 'B', '1'] ⟨false, 0⟩).skip 1)).1 := by
  have capital : ['a', 'b', '1'].map (charFunction Char.toUpper).image =
      ['A', 'B', '1'].map .ok := rfl
  exact (parse_withFilter assemble_lettersLater lettersLater_unmemoized [] []).2.1 _ _ _ capital 1 _

end Grammar

end Packrat
