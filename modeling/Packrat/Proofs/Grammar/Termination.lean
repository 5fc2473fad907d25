import Packrat.Proofs.Grammar.Erasure
import Packrat.Proofs.Grammar.Onward
import Packrat.Proofs.Parser.Ensures

/-! Termination. A loop goes on as long as its rounds move. A cached success may move it into another
text, so the bound on its rounds is the longest text among the input and those that cached cursors
stand in. -/

namespace Packrat

open Packrat.Parser

variable {ι δ : Type} {M : Memory}

/-- A success in the session's table ends on the cursor. -/
def Session.Caches (session : Session ι δ M) (rest : Cursor ι δ) : Prop :=
  ∃ table position entry value, session.table = some table ∧ entry ∈ table.bucket position ∧
    entry.outcome = .ok (value, rest)

def Session.withReach (session : Session ι δ M) (reach : Nat) : Session ι δ M :=
  { session with reach := reach }

theorem Session.onward_of_caches {property : Cursor ι δ → Prop} {session : Session ι δ M}
    (onward : session.Onward fun _ => True) (cached : ∀ rest, session.Caches rest → property rest) :
    session.Onward property := by
  intro table shared position entry member value rest success
  have forth := (onward table shared position entry member value rest success).1
  exact ⟨forth, cached rest ⟨table, position, entry, value, shared, member, success⟩⟩

theorem Session.caches_of_onward {property : Cursor ι δ → Prop} {session : Session ι δ M}
    (onward : session.Onward property) {rest : Cursor ι δ} (caches : session.Caches rest) :
    property rest := by
  obtain ⟨table, position, entry, value, shared, member, success⟩ := caches
  exact (onward table shared position entry member value rest success).2

theorem Cursor.lasting_extent (room : Nat) :
    Cursor.Lasting fun cursor : Cursor ι δ => cursor.extent ≤ room where
  past fits ahead := (Cursor.extent_past ahead).symm ▸ fits
  filtered fits _ := fits
  unfiltered fits := fits
  withData fits _ := fits

namespace Parser

variable {ε ε' α β : Type}

theorem halt_of_handle {parser : Parser ι δ M ε α} {onValue : α → Parser ι δ M ε' β}
    {onError : ε → Parser ι δ M ε' β} {cause : Halt}
    (broken : (parser cursor session).1 = .halt cause) :
    (parser.handle onValue onError cursor session).1 = .halt cause := by
  unfold handle
  rcases answer : parser cursor session with ⟨reply, later⟩
  rw [answer] at broken
  subst broken
  rfl

theorem handle_of_done {parser : Parser ι δ M ε α} {onValue : α → Parser ι δ M ε' β}
    {onError : ε → Parser ι δ M ε' β}
    (first : parser cursor session = (.done value rest, later)) :
    parser.handle onValue onError cursor session = onValue value rest later := by
  unfold handle
  rw [first]

/-- A loop that nothing stops but its rounds: where it starts, how many rounds it makes, and what
comes of them. -/
inductive Repeats (onStall : Option (Nat → Event)) (round : Parser ι δ M ε (Option α)) :
    Cursor ι δ → Session ι δ M → Nat → Reply (Cursor ι δ) ε (List α) × Session ι δ M → Prop where
  | over (ran : round cursor session = (.done none rest, later)) :
      Repeats onStall round cursor session 1 (.done [] rest, later)
  | stalled (ran : round cursor session = (.done (some value) rest, later))
      (still : rest.position = cursor.position) :
      Repeats onStall round cursor session 1
        (.done [] cursor, onStall.elim later fun event => later.note (event cursor.position))
  | failed (ran : round cursor session = (.fail error, later)) :
      Repeats onStall round cursor session 1 (.fail error, later)
  | halted (ran : round cursor session = (.halt cause, later)) :
      Repeats onStall round cursor session 1 (.halt cause, later)
  | again (ran : round cursor session = (.done (some value) rest, later))
      (moved : rest.position ≠ cursor.position)
      (more : Repeats onStall round rest later n (reply, last)) :
      Repeats onStall round cursor session (n + 1) (reply.map (value :: ·), last)

/-- A loop that is not broken off does no more rounds than it was granted, and would do the same
without a budget. -/
theorem repeats_of_loop {onStall : Option (Nat → Event)} {round : Parser ι δ M ε (Option α)}
    {budget : Nat} {cursor : Cursor ι δ} {session : Session ι δ M}
    (ends : (loop onStall round budget cursor session).1 ≠ .halt .exhausted) :
    ∃ n, n ≤ budget ∧
      Repeats onStall round cursor session n (loop onStall round budget cursor session) := by
  induction budget generalizing cursor session with
  | zero => exact absurd rfl ends
  | succ budget ih =>
    unfold loop at ends ⊢
    rcases ran : round cursor session with ⟨reply, later⟩
    simp only [ran] at ends ⊢
    cases reply with
    | done value rest =>
      cases value with
      | none => exact ⟨1, Nat.le_add_left .., .over ran⟩
      | some value =>
        by_cases still : rest.position = cursor.position
        · simp only [if_pos still]
          refine ⟨1, Nat.le_add_left .., ?_⟩
          cases onStall with
          | none => exact .stalled ran still
          | some event => exact .stalled ran still
        · simp only [if_neg still] at ends ⊢
          have inner : (loop onStall round budget rest later).1 ≠ .halt .exhausted := by
            intro exhausted
            rcases looped : loop onStall round budget rest later with ⟨reply, last⟩
            simp only [looped] at exhausted ends
            subst exhausted
            exact ends rfl
          obtain ⟨n, few, more⟩ := ih inner
          refine ⟨n + 1, Nat.succ_le_succ few, ?_⟩
          generalize loop onStall round budget rest later = result at more ⊢
          obtain ⟨reply, last⟩ := result
          cases reply <;> exact .again ran still more
    | fail error => exact ⟨1, Nat.le_add_left .., .failed ran⟩
    | halt cause => exact ⟨1, Nat.le_add_left .., .halted ran⟩

/-- One cursor in a text that fits into the first room, and sessions that differ in their room. No
longer text is cached in their one table. -/
def ample (room room' : Nat) : Coupling ι δ M where
  cursors _ cursor cursor' := cursor = cursor' ∧ cursor.extent ≤ room
  sessions session session' := session.reach = room ∧ session' = session.withReach room' ∧
    session.Onward fun rest => rest.extent ≤ room
  causes cause := cause ≠ .exhausted
  admits _ := True
  onward := True

variable {room room' : Nat} {filters : List (Filter ι)}

theorem ample_stable (larger : room ≤ room') :
    (ample room room' : Coupling ι δ M).Stable where
  advance place := by
    obtain ⟨rfl, fits⟩ := place
    exact shown_of_same rfl (fun _ => rfl) nofun fun item rest ahead =>
      ⟨rfl, (Cursor.lasting_extent room).past fits ahead⟩
  ordinary _ := nofun
  total _ := trivial
  filtered place _ := ⟨congrArg (Cursor.filtered · _) place.1, place.2⟩
  unfiltered place := ⟨congrArg Cursor.unfiltered place.1, place.2⟩
  rounds coupled := by
    apply coupled.rounds_of_room trivial
    · rintro cursor _ rest _ ⟨rfl, _⟩ ⟨rfl, _⟩
      rfl
    · rintro cursor _ ⟨rfl, fits⟩
      have inside := Nat.le_trans cursor.position_le_extent fits
      exact ⟨inside, Nat.le_trans inside larger⟩
    · rintro session _ ⟨reach, rfl, _⟩
      exact ⟨reach, rfl⟩
    · rintro cursor _ session _ ⟨rfl, _⟩ ⟨reach, rfl, kept⟩ event
      exact ⟨reach, rfl, kept⟩

theorem CoupledAt.runAndStore_ample {parser parser' : Parser ι δ M M.Failure M.Value}
    {cursor : Cursor ι δ} (coupled : CoupledAt (ample room room') filters cursor cursor parser parser')
    (key : Memo.Key) :
    CoupledAt (ample room room') filters cursor cursor (runAndStore key parser)
      (runAndStore key parser') := by
  intro session session' shared
  obtain ⟨paired, reach, same, kept⟩ := coupled session session' shared
  have proceeds : Proceeds (fun rest => rest.extent ≤ room) cursor.position
      (parser cursor session) := by
    refine ⟨fun value rest success => ?_, kept⟩
    rw [success] at paired
    obtain ⟨rest', ends⟩ := paired.of_done
    exact ⟨(ends.onward trivial).1, ends.place.2⟩
  have stored := (proceeds.caches (caches_runAndStore key parser cursor session)).2
  rw [runAndStore_eq] at stored
  simp only [runAndStore_eq]
  rcases answer : parser cursor session with ⟨reply, later⟩
  rcases answer' : parser' cursor session' with ⟨reply', later'⟩
  simp only [answer, answer'] at paired reach same kept stored ⊢
  subst same
  obtain rfl := paired.eq fun _ _ ends => ends.place.1
  have alike : (later.withReach room').table = later.table := rfl
  rw [alike]
  cases caught : reply.outcome? with
  | none => exact ⟨paired, reach, rfl, kept⟩
  | some outcome =>
    cases held : later.table with
    | none => exact ⟨paired, reach, rfl, kept⟩
    | some table =>
      simp only [caught, held] at stored ⊢
      cases accepted : table.store cursor.position key cursor.type outcome with
      | error violation => exact ⟨.halt nofun, reach, rfl, kept⟩
      | ok table =>
        simp only [accepted] at stored
        exact ⟨paired, reach, rfl, stored⟩

theorem CoupledAt.memoize_ample {reaches : δ → Bool} {key : Memo.Key} {replace : Bool}
    {parser parser' : Parser ι δ M M.Failure M.Value} {cursor : Cursor ι δ}
    (coupled : CoupledAt (ample room room') filters cursor cursor parser parser') :
    CoupledAt (ample room room') filters cursor cursor (memoize reaches key replace parser)
      (memoize reaches key replace parser') := by
  have stores := coupled.runAndStore_ample key
  rintro session _ ⟨reach, rfl, kept⟩
  have alike : (session.withReach room').table = session.table := rfl
  unfold memoize
  rw [alike]
  cases reached : (if reaches cursor.data then session.table else none) with
  | none => exact coupled _ _ ⟨reach, rfl, kept⟩
  | some table =>
    have held : session.table = some table := (Option.ite_none_right_eq_some.mp reached).2
    simp only
    cases found : table.lookup cursor.position key cursor.type with
    | error violation => exact ⟨.halt (Halt.noConfusion ·), reach, rfl, kept⟩
    | ok outcome =>
      cases outcome with
      | none => exact stores _ _ ⟨reach, rfl, kept⟩
      | some outcome =>
        simp only
        split
        · refine ⟨?_, reach, rfl, kept⟩
          obtain ⟨entry, member, rfl⟩ := Memo.Table.mem_bucket_of_lookup found
          cases success : entry.outcome with
          | error failure => exact .fail
          | ok ended =>
            obtain ⟨forth, fits'⟩ := kept table held _ entry member _ _ success
            exact .done ⟨⟨rfl, fits'⟩, fun _ => ⟨forth, forth⟩⟩
        · exact stores _ _ ⟨reach, rfl, kept⟩

theorem Coupled.memoize_ample {reaches : δ → Bool} {key : Memo.Key} {replace : Bool}
    {parser : Parser ι δ M M.Failure M.Value}
    (coupled : Coupled (ample room room') filters parser parser) :
    Coupled (ample room room') filters (memoize reaches key replace parser)
      (memoize reaches key replace parser) := by
  rintro cursor _ session session' ⟨rfl, fits⟩ shared
  have here : CoupledAt (ample room room') filters cursor cursor parser parser :=
    fun _ _ => coupled _ _ _ _ ⟨rfl, fits⟩
  exact here.memoize_ample session session' shared

end Parser

namespace Grammar

variable {ι Leaf : Type} [Lexicon ι Leaf]

/-- Sessions as earlier parses leave them: in their tables is nothing, or what parses of any texts
by any grammars have put there. Parts of a parse are parses too, so this includes the sessions in
which the later parts of a parse start. -/
inductive Inherited : Session ι Payload (Recall ι Leaf) → Prop where
  | fresh (empty : ∀ table, session.table = some table → table = .empty) : Inherited session
  | parsed (inherited : Inherited session) (library : Library ι Leaf) (depth : Nat)
      (grammar : Built ι Leaf) (cursor : Cursor ι Payload) :
      Inherited (runWithin library depth grammar cursor session).2
  | kept (inherited : Inherited session) (same : later.table = session.table) : Inherited later

/-- The loop that a node of a grammar starts: what marks its stall, its round, and where the first
of its rounds starts. The loops of one or more and of lists come after the first element. -/
inductive Starts (run : Built ι Leaf → Rule ι Leaf) (cursor : Cursor ι Payload)
    (session : Session ι Payload (Recall ι Leaf)) : Built ι Leaf → Option (Nat → Event) →
      Parser ι Payload (Recall ι Leaf) Failure (Option Value) → Cursor ι Payload →
        Session ι Payload (Recall ι Leaf) → Prop where
  | many : Starts run cursor session (.many element) (some .repetitionStalled) (run element).maybe
      cursor session
  | oneOrMore (first : run element cursor session = (.done value rest, later)) :
      Starts run cursor session (.oneOrMore element) (some .repetitionStalled) (run element).maybe
        rest later
  | repeatWhile :
      Starts run cursor session (.repeatWhile condition body) (some .loopStalled)
        ((run condition).handle (fun _ => (run body).map some) fun _ => Parser.constant none)
        cursor session
  | separatedBy (first : run element cursor session = (.done value rest, later)) :
      Starts run cursor session (.separatedBy form element separator) none
        ((run separator).handle
          (fun _ => (run element).handle (fun value => Parser.constant (some value)) fun error =>
            if form.allowTrailing then Parser.constant none else Parser.failWith error)
          fun _ => Parser.constant none)
        rest later

/-- A run of the context comes to what fills its hole, at a place in a session: any parser that
breaks off there, and does elsewhere as that one does, breaks off the whole. -/
def Enters (context : Built ι Leaf) (hole : Rule ι Leaf) (cursor : Cursor ι Payload)
    (session : Session ι Payload (Recall ι Leaf)) (place : Cursor ι Payload)
    (entered : Session ι Payload (Recall ι Leaf)) : Prop :=
  ∀ (other : Rule ι Leaf) (cause : Halt), (other place entered).1 = .halt cause →
    (∀ cursor session, (cursor, session) ≠ (place, entered) →
      other cursor session = hole cursor session) →
    (context.run (fun _ => other) cursor session).1 = .halt cause

variable {cursor place start : Cursor ι Payload}
  {session entered begun : Session ι Payload (Recall ι Leaf)}
  {grammar context node : Built ι Leaf} {filters : List (Filter ι)} {onStall : Option (Nat → Event)}
  {round : Parser ι Payload (Recall ι Leaf) Failure (Option Value)} {room room' : Nat}

/-- A loop that is broken off breaks off the node that started it. -/
theorem Starts.halts {resolve : Deferred → Rule ι Leaf} {cause : Halt}
    (starts : Starts (run resolve) cursor session grammar onStall round start begun)
    (broken : (rounds onStall round start begun).1 = .halt cause) :
    (grammar.run resolve cursor session).1 = .halt cause := by
  cases starts with
  | many => exact halt_of_handle broken
  | oneOrMore first =>
    apply halt_of_handle
    exact (congrArg Prod.fst (handle_of_done first)).trans (halt_of_handle broken)
  | repeatWhile => exact halt_of_handle broken
  | separatedBy first =>
    apply halt_of_handle
    exact (congrArg Prod.fst (handle_of_done first)).trans (halt_of_handle broken)

/-- What fills a hole breaks off the whole, if it is broken off where a run comes to it. -/
theorem Enters.halts {resolve : Deferred → Rule ι Leaf} {cause : Halt}
    (enters : Enters context (node.run resolve) cursor session place entered)
    (broken : (node.run resolve place entered).1 = .halt cause) :
    ((context.fill node).run resolve cursor session).1 = .halt cause := by
  unfold run
  rw [runWith_fill]
  exact enters _ cause broken fun _ _ _ => rfl

theorem Inherited.onward [LawfulLexicon ι Leaf] (inherited : Inherited session) :
    session.Onward fun _ => True := by
  induction inherited with
  | fresh empty => exact onward_of_empty empty
  | @parsed session inherited library depth grammar cursor ih =>
    have lasting : Cursor.Lasting fun _ : Cursor ι Payload => True := by constructor <;> simp
    obtain ⟨_, kept, _⟩ := runWithin_onward lasting library depth grammar [] cursor.position cursor
      session session ⟨Nat.le_refl _, trivial⟩ ⟨rfl, ih⟩
    exact kept.2
  | kept inherited same ih => exact fun table shared => ih table (same ▸ shared)

variable [UniformLexicon ι Leaf]

/-- With room for all texts in reach, more room makes no difference, and no loop is broken off. -/
theorem coupled_ample {resolve : Deferred → Rule ι Leaf} (larger : room ≤ room')
    (references : ∀ {more target}, Part grammar more (.reference target) →
      Coupled (ample room room') (more ++ filters) (resolve target) (resolve target)) :
    Coupled (ample room room') filters (grammar.run resolve) (grammar.run resolve) := by
  have upholds : Upholds (fun _ : Unit => ample room room') cached cached resolve resolve filters
      grammar := by
    constructor
    · exact fun _ => ample_stable larger
    · rintro _ session _ ⟨reach, rfl, kept⟩ name
      exact ⟨reach, rfl, kept⟩
    · exact fun _ => UniformLexicon.coupled _ (ample_stable larger)
    · exact fun _ _ _ _ _ place => congrArg Cursor.position place.1
    · exact fun _ _ => coupled_getData fun _ _ place => congrArg Cursor.data place.1
    · exact fun _ _ => coupled_setData fun _ _ place =>
        ⟨congrArg (Cursor.withData · _) place.1, place.2⟩
    · exact fun _ _ => coupled_modifyData (fun _ _ place => congrArg Cursor.data place.1) nofun
        fun _ _ _ place => ⟨congrArg (Cursor.withData · _) place.1, place.2⟩
    · exact fun _ _ => trivial
    · exact fun _ coupled _ => (coupled ()).memoize_ample
    · exact fun part _ => references part
  exact runWith_coupled grammar filters upholds ()

theorem Closed.coupled_ample (resolve : Deferred → Rule ι Leaf) (closed : Closed grammar)
    (larger : room ≤ room') (filters : List (Filter ι)) :
    Coupled (ample room room') filters (grammar.run resolve) (grammar.run resolve) :=
  Grammar.coupled_ample larger fun part => absurd part (closed _ _)

/-- With room for all texts in reach, a run of a closed grammar is not broken off, and it ends in one
of them. -/
theorem Closed.ends (resolve : Deferred → Rule ι Leaf) (closed : Closed grammar)
    (fits : cursor.extent ≤ room) (reach : session.reach = room)
    (kept : session.Onward fun rest => rest.extent ≤ room) :
    (grammar.run resolve cursor session).1 ≠ .halt .exhausted ∧
      ∀ value rest later, grammar.run resolve cursor session = (.done value rest, later) →
        rest.extent ≤ room ∧ later.reach = room := by
  obtain ⟨paired, reach, _⟩ := closed.coupled_ample resolve (Nat.le_refl room) []
    cursor cursor session _ ⟨rfl, fits⟩ ⟨reach, rfl, kept⟩
  constructor
  · intro exhausted
    rw [exhausted] at paired
    exact paired.of_halt rfl
  · intro value rest later first
    simp only [first] at paired reach
    obtain ⟨_, ends⟩ := paired.of_done
    exact ⟨ends.place.2, reach⟩

/-- The loops of a node start in a text of a length as the node does, with room for it. -/
theorem Starts.fits {resolve : Deferred → Rule ι Leaf}
    (starts : Starts (run resolve) cursor session grammar onStall round start begun)
    (closed : Closed grammar) (fits : cursor.extent ≤ room) (reach : session.reach = room)
    (kept : session.Onward fun rest => rest.extent ≤ room) :
    start.extent ≤ room ∧ begun.reach = room := by
  cases starts with
  | many => exact ⟨fits, reach⟩
  | oneOrMore first => exact ((closed.child List.mem_cons_self).ends _ fits reach kept).2 _ _ _ first
  | repeatWhile => exact ⟨fits, reach⟩
  | separatedBy first =>
    exact ((closed.child List.mem_cons_self).ends _ fits reach kept).2 _ _ _ first

/-- A closed grammar comes to its parts in texts in reach only, with room for them all. Were it to
come to one anywhere else, that part could exhaust a room that suffices everywhere before. -/
theorem Enters.fits {resolve : Deferred → Rule ι Leaf}
    (enters : Enters context (node.run resolve) cursor session place entered)
    (closed : Closed (context.fill node)) (fits : cursor.extent ≤ room)
    (reach : session.reach = room) (kept : session.Onward fun rest => rest.extent ≤ room) :
    Closed node ∧ place.extent ≤ room ∧ entered.reach = room ∧
      entered.Onward fun rest => rest.extent ≤ room := by
  classical
  apply Classical.byContradiction
  intro outside
  let other : Rule ι Leaf := fun cursor session =>
    if (cursor, session) = (place, entered) then (.halt .exhausted, session)
    else node.run resolve cursor session
  have broken : (other place entered).1 = .halt .exhausted := by simp [other]
  have elsewhere (cursor : Cursor ι Payload) (session : Session ι Payload (Recall ι Leaf))
      (apart : (cursor, session) ≠ (place, entered)) :
      other cursor session = node.run resolve cursor session := if_neg apart
  have holes {filters target} (part : Part context filters (.reference target)) :
      Coupled (ample room room) (filters ++ []) other other := by
    have inner : Closed node := fun _ _ inside => closed _ _ (part.fill inside)
    rintro cursor _ session _ ⟨rfl, fits⟩ ⟨reach, rfl, kept⟩
    have apart : (cursor, session) ≠ (place, entered) := by
      rintro ⟨⟩
      exact outside ⟨inner, fits, reach, kept⟩
    have same : session.withReach room = session := by rw [← reach]; rfl
    rw [same, elsewhere cursor session apart]
    exact inner.coupled_ample resolve (Nat.le_refl room) _ _ _ _ _ ⟨rfl, fits⟩
      ⟨reach, same.symm, kept⟩
  have paired := (coupled_ample (Nat.le_refl room) holes cursor cursor session _ ⟨rfl, fits⟩
    ⟨reach, rfl, kept⟩).1
  rw [enters other .exhausted broken elsewhere] at paired
  exact paired.of_halt rfl

/-- A parse without references ends, whatever earlier parses have left in the table: in every
session that has room for the input and the texts of cached cursors, with the same reply. Every loop
that it comes to, in whatever context the loop stands, makes at most one round and one for every
position behind its start in the longest of these texts. -/
theorem parse_terminates (library : Library ι Leaf) (depth : Nat) (closed : Closed grammar)
    {longest : Nat} (inherited : Inherited session) (fits : cursor.extent ≤ longest)
    (fitting : ∀ rest, session.Caches rest → rest.extent ≤ longest) :
    ∃ reply, ∃ later : Session ι Payload (Recall ι Leaf), reply ≠ .halt .exhausted ∧
      (∀ reach, longest ≤ reach →
        runWithin library depth grammar cursor (session.withReach reach) =
          (reply, later.withReach reach)) ∧
      ∀ context node place entered onStall round start begun, grammar = context.fill node →
        Enters context (runWithin library depth node) cursor (session.withReach longest) place
          entered →
        Starts (runWithin library depth) place entered node onStall round start begun →
        ∃ n, start.position + n ≤ longest + 1 ∧
          Repeats onStall round start begun n (rounds onStall round start begun) := by
  obtain ⟨resolve, runs⟩ := runWithin_eq_run library depth
  rw [funext runs]
  have onward : (session.withReach longest).Onward fun rest => rest.extent ≤ longest :=
    Session.onward_of_caches inherited.onward fitting
  obtain ⟨finished, _⟩ := closed.ends resolve fits rfl onward
  refine ⟨_, (grammar.run resolve cursor (session.withReach longest)).2, finished, ?_, ?_⟩
  · intro reach larger
    obtain ⟨paired, _, same, _⟩ := closed.coupled_ample resolve larger [] cursor cursor
      (session.withReach longest) _ ⟨rfl, fits⟩ ⟨rfl, rfl, onward⟩
    exact Prod.ext (paired.eq fun _ _ ends => ends.place.1).symm same
  · rintro context node place entered onStall round start begun rfl enters starts
    obtain ⟨closed', fits', room, onward'⟩ := enters.fits closed fits rfl onward
    obtain ⟨extent, reach⟩ := starts.fits closed' fits' room onward'
    obtain ⟨n, few, repeats⟩ :=
      repeats_of_loop fun broken => finished (enters.halts (starts.halts broken))
    refine ⟨n, ?_, repeats⟩
    have inside := Nat.le_trans start.position_le_extent extent
    rw [reach] at few
    omega

def afterWord : Session Char Payload (Recall Char TextLeaf) :=
  (runWithin ⟨[], []⟩ 0 (.memoize false (.named "word") (.many (.leaf .letter)))
    (Cursor.ofText "abc" ⟨true, 0⟩) (.new (some .empty) ⟨0, ∅, []⟩)).2

def letterOrWord : Built Char TextLeaf := .memoize false (.named "word") (.leaf .letter)

/-- The text has one letter, but the word at its start is known to end behind the third, in the
earlier text. The loop has room for both, where it stands inside another parser. -/
theorem parse_terminates_after_word :
    ∃ reply, ∃ later : Session Char Payload (Recall Char TextLeaf), reply ≠ .halt .exhausted ∧
      (∀ reach, 3 ≤ reach →
        runWithin ⟨[], []⟩ 0 (.maybe (.many letterOrWord)) (Cursor.ofText "a" ⟨true, 0⟩)
            (afterWord.withReach reach) = (reply, later.withReach reach)) ∧
      ∃ n, n ≤ 4 ∧ ∃ result : Reply (Cursor Char Payload) Failure (List Value) × _,
        Repeats (some .repetitionStalled) (runWithin ⟨[], []⟩ 0 letterOrWord).maybe
          (Cursor.ofText "a" ⟨true, 0⟩) (afterWord.withReach 3) n result := by
  have empty : ∀ table, (Session.new (some .empty) ⟨0, ∅, []⟩ :
      Session Char Payload (Recall Char TextLeaf)).table = some table → table = .empty :=
    fun _ present => (Option.some.inj present).symm
  have inherited : Inherited afterWord := .parsed (.fresh empty) ..
  have short : (Cursor.ofText "a" (⟨true, 0⟩ : Payload)).extent ≤ 3 := by decide
  have fitting (rest : Cursor Char Payload) (caches : afterWord.Caches rest) : rest.extent ≤ 3 := by
    have kept := runWithin_onward (Cursor.lasting_extent 3) ⟨[], []⟩ 0
      (.memoize false (.named "word") (.many (.leaf .letter))) [] 0 (Cursor.ofText "abc" ⟨true, 0⟩)
      _ _ ⟨Nat.zero_le _, by decide⟩ ⟨rfl, onward_of_empty empty⟩
    exact Session.caches_of_onward kept.2.1.2 caches
  have closed : Closed (.maybe (.many letterOrWord)) := by
    intro filters target part
    obtain ⟨_, same⟩ | ⟨_, _, part⟩ := part.around rfl
    · cases same
    obtain ⟨_, same⟩ | ⟨_, _, part⟩ := part.around rfl
    · cases same
    obtain ⟨_, same⟩ | ⟨_, _, part⟩ := part.around rfl
    · cases same
    cases (part.alone rfl).2
  obtain ⟨reply, later, finished, alike, counted⟩ :=
    parse_terminates ⟨[], []⟩ 0 closed inherited short fitting
  have enters : Enters (.maybe (.reference ⟨0, "loop"⟩))
      (runWithin ⟨[], []⟩ 0 (.many letterOrWord)) (Cursor.ofText "a" ⟨true, 0⟩)
      (afterWord.withReach 3) (Cursor.ofText "a" ⟨true, 0⟩) (afterWord.withReach 3) :=
    fun _ _ broken _ => halt_of_handle (halt_of_handle broken)
  obtain ⟨n, few, repeats⟩ := counted _ _ _ _ _ _ _ _ rfl enters .many
  exact ⟨reply, later, finished, alike, n, (Nat.zero_add n).symm ▸ few, _, repeats⟩

end Grammar

end Packrat
