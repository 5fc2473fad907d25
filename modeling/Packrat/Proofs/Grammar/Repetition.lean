import Packrat.Proofs.Grammar.Direct
import Packrat.Proofs.Parser.Repetition

/-! Repetition in grammars whose calls are direct. A repetition takes the longest chain of runs that
move, and does not take it twice. The four kinds of lists with separators are sequences of an
element and a repetition. -/

namespace Packrat

/-- The list with one more value in front, from a sequence of that value and the list; what comes
after the two is dropped. -/
def Value.prepend : Value → Value
  | .list (first :: .list rest :: _) => .list (first :: rest)
  | value => value

theorem Value.prepend_list (value : Value) (values more : List Value) :
    prepend (.list (value :: .list values :: more)) = .list (value :: values) := rfl

namespace Grammar

variable {ι Leaf κ ρ : Type}

/-- A sequence of a value, a list and more, as the list with the value in front. -/
def prepended (parts : List (Grammar ι Leaf κ ρ)) : Grammar ι Leaf κ ρ :=
  .map Value.prepend (sequenceOf parts)

/-! What sequences reply. -/

section Sequences

variable {first second : Rule ι Leaf} {others : List (Rule ι Leaf)}

/-- A value taken from what a sequence yields. -/
theorem replyFrom_sequence (f : Value → Value) (steady : first.Steady)
    (steadies : ∀ other ∈ others, other.Steady) (cursor : Cursor ι Payload) :
    (Parser.map f (Parser.map .list (Parser.sequence (first :: others)))).replyFrom cursor =
      (first.replyFrom cursor).handle
        (fun value rest => ((Parser.collect others).replyFrom rest).map fun values =>
          f (.list (value :: values))) .fail := by
  have whole := Parser.steady_collect (List.forall_mem_cons.mpr ⟨steady, steadies⟩)
  change (Parser.map f (Parser.map .list (Parser.collect (first :: others)))).replyFrom cursor = _
  rw [(whole.map Value.list).replyFrom_map, whole.replyFrom_map,
    Parser.replyFrom_collect steady steadies]
  simp only [Reply.map_eq_handle, Reply.handle_handle, Reply.handle_done, Reply.handle_fail]

theorem replyFrom_prepended {more : Parser ι Payload (Recall ι Leaf) Failure (List Value)}
    (steady : first.Steady) (steady' : more.Steady) (steadies : ∀ other ∈ others, other.Steady)
    (cursor : Cursor ι Payload) :
    (Parser.map Value.prepend (Parser.map .list
        (Parser.sequence (first :: Parser.map .list more :: others)))).replyFrom cursor =
      (first.replyFrom cursor).handle
        (fun value rest => (more.replyFrom rest).handle
          (fun values middle => ((Parser.collect others).replyFrom middle).map fun _ =>
            .list (value :: values)) .fail) .fail := by
  have listed := steady'.map Value.list
  rw [replyFrom_sequence _ steady (List.forall_mem_cons.mpr ⟨listed, steadies⟩)]
  simp only [Parser.replyFrom_collect listed steadies, steady'.replyFrom_map, Reply.map_eq_handle,
    Reply.handle_handle, Reply.handle_done, Reply.handle_fail, Value.prepend_list]

theorem replyFrom_skipLeft (steady : first.Steady) (steady' : second.Steady)
    (cursor : Cursor ι Payload) :
    (Parser.map (Value.item 1)
        (Parser.map .list (Parser.sequence [first, second]))).replyFrom cursor =
      (first.replyFrom cursor).handle (fun _ rest => second.replyFrom rest) .fail := by
  rw [replyFrom_sequence _ steady (List.forall_mem_singleton.mpr steady')]
  simp only [Parser.replyFrom_collect steady' (List.forall_mem_nil _), Parser.replyFrom_collect_nil]
  congr
  funext value rest
  cases second.replyFrom rest <;> rfl

end Sequences

variable [Lexicon ι Leaf]

/-! What grammars mean whose parts have a meaning. -/

section Means

variable {library : Library ι Leaf} {element separator : Blueprint ι Leaf}
  {rule rule' : Rule ι Leaf}

theorem Means.prepend (parts : List (Blueprint ι Leaf × Rule ι Leaf)) (some : parts ≠ [])
    (means : ∀ part ∈ parts, Means library part.1 part.2) :
    Means library (prepended (parts.map Prod.fst))
      (Parser.map Value.prepend (Parser.map .list (Parser.sequence (parts.map Prod.snd)))) :=
  (Means.sequenceOf parts some means).map Value.prepend

theorem Means.skipLeft (means : Means library element rule)
    (means' : Means library separator rule') :
    Means library (skipLeft element separator)
      (Parser.map (Value.item 1) (Parser.map .list (Parser.sequence [rule, rule']))) :=
  (Means.sequenceOf [(element, rule), (separator, rule')] nofun
    (List.forall_mem_cons.mpr ⟨means, List.forall_mem_singleton.mpr means'⟩)).map (Value.item 1)

end Means

/-! Repetition. -/

section Repetition

variable [UniformLexicon ι Leaf] {rules shared : List (String × Blueprint ι Leaf)}
  {library : Library ι Leaf} {element separator : Blueprint ι Leaf} {rule rule' : Rule ι Leaf}
  {cursor rest : Cursor ι Payload} {values : List Value}

theorem Means.replies_eq (shelf : Shelf rules shared library)
    (means : Means library element rule) :
    Replies rules shared element = Parser.Replies rule := by
  funext cursor reply
  exact propext (means.replies_iff shelf)

theorem Means.replies_many (shelf : Shelf rules shared library)
    (means : Means library element rule) :
    Replies rules shared (.many element) cursor (.done (.list values) rest) ↔
      (Parser.many rule : Parser _ _ _ Failure _).replyFrom cursor = .done values rest := by
  rw [means.many.replies_iff shelf, means.steady.many.replyFrom_map]
  exact Reply.map_eq_done_iff fun _ _ same => Value.list.inj same

/-- Repetition yields the values of the longest chain of runs that move, and it is left where the
element stalls. -/
theorem Means.many_done_iff (shelf : Shelf rules shared library)
    (means : Means library element rule) :
    Replies rules shared (.many element) cursor (.done (.list values) rest) ↔
      Chain (Replies rules shared element) cursor values rest ∧
        Stalls (Replies rules shared element) rest := by
  rw [means.replies_eq shelf, means.replies_many shelf]
  exact means.steady.many_done_iff

/-- It never fails, and is broken off only if the element is, behind a chain of runs that move. -/
theorem Means.many_ends (shelf : Shelf rules shared library) (means : Means library element rule)
    (cursor : Cursor ι Payload) :
    (∃ values rest, Replies rules shared (.many element) cursor (.done (.list values) rest)) ∨
      ∃ values rest cause, Chain (Replies rules shared element) cursor values rest ∧
        Replies rules shared element rest (.halt cause) ∧
        Replies rules shared (.many element) cursor (.halt cause) := by
  rw [means.replies_eq shelf]
  have steady := means.steady
  obtain ⟨values, rest, chain, stalls | ⟨cause, broken⟩⟩ := steady.exists_chain cursor
  · exact .inl ⟨values, rest, (means.replies_many shelf).mpr (steady.many_done chain stalls)⟩
  · refine .inr ⟨values, rest, cause, chain, broken, ?_⟩
    rw [means.many.replies_iff shelf, steady.many.replyFrom_map, steady.many_halt chain broken]
    rfl

/-- What was repeated as often as it goes is not repeated once more. -/
theorem Means.many_many (shelf : Shelf rules shared library) (means : Means library element rule)
    (replies : Replies rules shared (.many element) cursor (.done (.list values) rest)) :
    Replies rules shared (.many element) rest (.done (.list []) rest) ∧
      (values ≠ [] →
        Replies rules shared (.many (.many element)) cursor (.done (.list [.list values]) rest)) ∧
      (values = [] →
        Replies rules shared (.many (.many element)) cursor (.done (.list []) cursor)) := by
  have steady : (Parser.many rule : Parser _ _ _ Failure _).Steady := means.steady.many
  have listed := steady.map Value.list
  obtain ⟨chain, stalls⟩ := means.steady.many_done_iff.mp ((means.replies_many shelf).mp replies)
  have once : Replies rules shared (.many element) rest (.done (.list []) rest) :=
    (means.replies_many shelf).mpr (means.steady.many_of_stalls stalls)
  have replied := (means.many.replies_iff shelf).mp replies
  have stays := (means.many.replies_iff shelf).mp once
  refine ⟨once, ?_, ?_⟩
  · intro some
    apply (means.many.replies_many shelf).mpr
    have moves := chain.position_lt some
    exact listed.many_done (.cons replied moves .nil) (.inr ⟨_, rest, stays, rfl⟩)
  · intro none
    apply (means.many.replies_many shelf).mpr
    subst none
    cases chain
    exact listed.many_of_stalls (.inr ⟨_, cursor, replied, rfl⟩)

theorem Means.oneOrMore_concur (shelf : Shelf rules shared library)
    (means : Means library element rule) (cursor : Cursor ι Payload) :
    Concur rules shared (.oneOrMore element) (prepended [element, .many element]) cursor := by
  have steady := means.steady
  have sequence : Means library (prepended [element, .many element]) _ :=
    .prepend [(element, rule), (.many element, Parser.map .list (Parser.many rule))]
      nofun (List.forall_mem_cons.mpr ⟨means, List.forall_mem_singleton.mpr means.many⟩)
  apply means.oneOrMore.concur shelf sequence
  rw [steady.oneOrMore.replyFrom_map, steady.replyFrom_oneOrMore]
  refine Eq.trans ?_ (replyFrom_prepended steady steady.many (List.forall_mem_nil _) cursor).symm
  simp only [Parser.replyFrom_collect_nil, Reply.map_eq_handle, Reply.handle_handle,
    Reply.handle_done, Reply.handle_fail]

/-- A repetition takes the longest chain of runs that move; a last run that stalls leaves no trace.
It is not broken off unless the element is, and taken once more it takes nothing. One or more are
the element and a repetition. -/
theorem many_takes_chain (direct : Direct rules shared element) :
    (∀ cursor values rest,
      Replies rules shared (.many element) cursor (.done (.list values) rest) ↔
        Chain (Replies rules shared element) cursor values rest ∧
          Stalls (Replies rules shared element) rest) ∧
    (∀ cursor,
      (∃ values rest, Replies rules shared (.many element) cursor (.done (.list values) rest)) ∨
        ∃ values rest cause, Chain (Replies rules shared element) cursor values rest ∧
          Replies rules shared element rest (.halt cause) ∧
          Replies rules shared (.many element) cursor (.halt cause)) ∧
    (∀ cursor values rest,
      Replies rules shared (.many element) cursor (.done (.list values) rest) →
        Replies rules shared (.many element) rest (.done (.list []) rest) ∧
          (values ≠ [] → Replies rules shared (.many (.many element)) cursor
            (.done (.list [.list values]) rest)) ∧
          (values = [] → Replies rules shared (.many (.many element)) cursor
            (.done (.list []) cursor))) ∧
    ∀ cursor,
      Concur rules shared (.oneOrMore element) (prepended [element, .many element]) cursor := by
  obtain ⟨library, rule, shelf, means⟩ := direct.means
  exact ⟨fun _ _ _ => means.many_done_iff shelf, means.many_ends shelf,
    fun _ _ _ => means.many_many shelf, means.oneOrMore_concur shelf⟩

def alone (basic : TextLeaf) : Blueprint Char TextLeaf := .leaf basic

theorem direct_alone {basic : TextLeaf}
    (assembled : Bench.assemble [] [] (alone basic) false =
      .ok ⟨⟨[], []⟩, .leaf basic, .new none ⟨0, ∅, []⟩⟩) :
    Direct [] [] (alone basic) := by
  refine ⟨_, assembled, ?_, nofun⟩
  intro filters replace mark inner part
  cases (part.alone rfl).2

theorem shelf_empty : Shelf [] [] (⟨[], []⟩ : Library Char TextLeaf) := ⟨rfl, ⟨0, rfl⟩, nofun⟩

/-- It means what the parser itself does. -/
theorem means_alone {basic : TextLeaf} (sound : basic.defect = none) :
    Means (⟨[], []⟩ : Library Char TextLeaf) (alone basic) basic.parser := by
  intro start
  refine ⟨.leaf basic, start, ?_, ?_, rfl⟩
  · change (Construction.refuse basic.defect >>= fun _ => pure (Grammar.leaf basic)) start = _
    rw [sound]
    rfl
  · intro filters replace mark inner part
    cases (part.alone rfl).2

/-- It replies what the parser itself replies. -/
theorem replies_alone {basic : TextLeaf} (sound : basic.defect = none)
    {cursor : Cursor Char Payload} {reply : Reply (Cursor Char Payload) Failure Value} :
    Replies [] [] (alone basic) cursor reply ↔
      (basic.parser : Rule Char TextLeaf).replyFrom cursor = reply :=
  (means_alone sound).replies_iff shelf_empty

def lettersAndDigit : Cursor Char Payload := .ofText "ab1" ⟨false, 0⟩

theorem many_takes_chain_letters :
    Direct [] [] (alone .letter) ∧
      Chain (Replies [] [] (alone .letter)) lettersAndDigit [.char 'a', .char 'b']
        (lettersAndDigit.skip 2) ∧
      Stalls (Replies [] [] (alone .letter)) (lettersAndDigit.skip 2) ∧
      Replies [] [] (.many (alone .letter)) lettersAndDigit
        (.done (.list [.char 'a', .char 'b']) (lettersAndDigit.skip 2)) ∧
      Replies [] [] (.many (.many (alone .letter))) lettersAndDigit
        (.done (.list [.list [.char 'a', .char 'b']]) (lettersAndDigit.skip 2)) := by
  have direct : Direct [] [] (alone .letter) := direct_alone rfl
  have first : Replies [] [] (alone .letter) lettersAndDigit
      (.done (.char 'a') (lettersAndDigit.skip 1)) := (replies_alone rfl).mpr rfl
  have second : Replies [] [] (alone .letter) (lettersAndDigit.skip 1)
      (.done (.char 'b') (lettersAndDigit.skip 2)) := (replies_alone rfl).mpr rfl
  have chain := Chain.cons first (by decide) (.cons second (by decide) .nil)
  have stalls : Stalls (Replies [] [] (alone .letter)) (lettersAndDigit.skip 2) :=
    .inl ⟨.text .letterExpected, (replies_alone rfl).mpr rfl⟩
  have taken := ((many_takes_chain direct).1 _ _ _).mpr ⟨chain, stalls⟩
  exact ⟨direct, chain, stalls, taken, ((many_takes_chain direct).2.2.1 _ _ _ taken).2.1 nofun⟩

/-! Lists with separators. -/

/-- The grammars concur, save where the element fails: there the first yields an empty list and
consumes nothing. -/
def ConcurOrEmpty (rules shared : List (String × Blueprint ι Leaf))
    (element blueprint blueprint' : Blueprint ι Leaf) (cursor : Cursor ι Payload) : Prop :=
  (∀ error, Replies rules shared element cursor (.fail error) →
      Replies rules shared blueprint cursor (.done (.list []) cursor)) ∧
    ((∀ error, ¬ Replies rules shared element cursor (.fail error)) →
      Concur rules shared blueprint blueprint' cursor)

/-- A list whose element does not fail is an element and what comes further, whether it may be empty
or not. -/
theorem Means.concur_separatedBy (shelf : Shelf rules shared library)
    (means : Means library element rule) (means' : Means library separator rule')
    {blueprint : Blueprint ι Leaf} {whole : Rule ι Leaf} (sequence : Means library blueprint whole)
    (allowTrailing : Bool) (cursor : Cursor ι Payload)
    (same : whole.replyFrom cursor = (rule.replyFrom cursor).handle
      (fun value rest =>
        ((Parser.rounds none (Parser.following allowTrailing rule rule')).replyFrom rest).map
          fun values => .list (value :: values)) .fail) :
    Concur rules shared (.separatedBy ⟨false, allowTrailing⟩ element separator) blueprint cursor ∧
      ConcurOrEmpty rules shared element (.separatedBy ⟨true, allowTrailing⟩ element separator)
        blueprint cursor := by
  let further (allowTrailing : Bool) (rest : Cursor ι Payload) :
      Reply (Cursor ι Payload) Failure (List Value) :=
    (Parser.rounds none (Parser.following allowTrailing rule rule')).replyFrom rest
  have list (form : Parser.ListForm) :
      (Parser.map Value.list (Parser.separatedBy form rule rule')).replyFrom cursor =
        (rule.replyFrom cursor).handle
          (fun value rest =>
            (further form.allowTrailing rest).map fun values => .list (value :: values))
          (fun error => if form.allowZero then .done (.list []) cursor else .fail error) := by
    have steady := means.steady
    have steady' := means'.steady
    have empty (error : Failure) :
        (if form.allowZero then Reply.done [] cursor else .fail error).handle
            (fun values rest => Reply.done (Value.list values) rest) .fail =
          if form.allowZero then .done (.list []) cursor else .fail error := by
      cases form.allowZero <;> rfl
    rw [(Parser.steady_separatedBy steady steady' form).replyFrom_map,
      Parser.replyFrom_separatedBy steady steady']
    simp only [Reply.map_eq_handle, Reply.handle_handle, Reply.handle_done, Reply.handle_fail,
      empty]
    rfl
  refine ⟨?_, ?_, ?_⟩
  · apply (means.separatedBy _ means').concur shelf sequence
    rw [list, same]
    rfl
  · intro error failed
    rw [means.replies_iff shelf] at failed
    rw [(means.separatedBy _ means').replies_iff shelf, list, failed]
    rfl
  · intro never
    apply (means.separatedBy _ means').concur shelf sequence
    rw [list, same]
    cases answer : rule.replyFrom cursor with
    | done value rest => rfl
    | fail error => exact absurd ((means.replies_iff shelf).mpr answer) (never error)
    | halt cause => rfl

theorem Means.separated_concur (shelf : Shelf rules shared library)
    (means : Means library element rule) (means' : Means library separator rule')
    (cursor : Cursor ι Payload) :
    Concur rules shared (.separatedBy ⟨false, false⟩ element separator)
        (prepended [element, .repeatWhile separator element]) cursor ∧
      ConcurOrEmpty rules shared element (.separatedBy ⟨true, false⟩ element separator)
        (prepended [element, .repeatWhile separator element]) cursor := by
  have steady := means.steady
  have steady' := means'.steady
  have more := means'.repeatWhile means
  have sequence : Means library (prepended [element, .repeatWhile separator element]) _ :=
    .prepend [(element, rule), (.repeatWhile separator element, _)] nofun
      (List.forall_mem_cons.mpr ⟨means, List.forall_mem_singleton.mpr more⟩)
  apply means.concur_separatedBy shelf means' sequence
  refine (replyFrom_prepended steady (Parser.steady_repeatWhile steady steady')
    (List.forall_mem_nil _) cursor).trans ?_
  simp only [← Parser.replyFrom_repeatWhile steady steady', Reply.map_eq_handle]
  rfl

theorem Means.trailing_concur (shelf : Shelf rules shared library)
    (means : Means library element rule) (means' : Means library separator rule')
    (moves : ∀ cursor value rest, Replies rules shared element cursor (.done value rest) →
      cursor.position ≠ rest.position) (cursor : Cursor ι Payload) :
    Concur rules shared (.separatedBy ⟨false, true⟩ element separator)
        (prepended [element, .many (Grammar.skipLeft separator element), .maybe separator]) cursor ∧
      ConcurOrEmpty rules shared element (.separatedBy ⟨true, true⟩ element separator)
        (prepended [element, .many (Grammar.skipLeft separator element), .maybe separator])
        cursor := by
  have steady := means.steady
  have steady' := means'.steady
  have both := means'.skipLeft means
  have more := both.many
  have last := means'.maybe
  have sequence : Means library
      (prepended [element, .many (Grammar.skipLeft separator element), .maybe separator]) _ :=
    .prepend [(element, rule), (.many (Grammar.skipLeft separator element), _),
      (.maybe separator, _)] nofun
      (List.forall_mem_cons.mpr ⟨means, List.forall_mem_cons.mpr
        ⟨more, List.forall_mem_singleton.mpr last⟩⟩)
  have moves' (cursor : Cursor ι Payload) (value : Value) (rest : Cursor ι Payload)
      (done : rule.replyFrom cursor = .done value rest) : cursor.position ≠ rest.position :=
    moves cursor value rest ((means.replies_iff shelf).mpr done)
  have taken (cursor : Cursor ι Payload) :
      (Parser.map Value.ofOption (Parser.maybe rule') : Rule ι Leaf).replyFrom cursor =
        (rule'.replyFrom cursor).handle (fun value rest => .done (.present value) rest)
          (fun _ => .done .absent cursor) := by
    rw [steady'.maybe.replyFrom_map, steady'.replyFrom_maybe, Reply.map_eq_handle,
      Reply.handle_handle]
    rfl
  apply means.concur_separatedBy shelf means' sequence
  refine (replyFrom_prepended steady both.steady.many
    (List.forall_mem_singleton.mpr last.steady) cursor).trans ?_
  simp only [Parser.replyFrom_trailing steady steady' both.steady
      (replyFrom_skipLeft steady' steady) moves',
    Parser.replyFrom_collect last.steady (List.forall_mem_nil _), Parser.replyFrom_collect_nil,
    taken, Reply.map_eq_handle, Reply.handle_handle, Reply.handle_done, Reply.handle_fail]

/-- A list with separators is an element and as many more as separators match before, all of them
required; where the empty list is allowed, it stands for a first element that fails. With trailing
separators and elements that move, it is an element, all further ones behind a separator each, and
one more separator if there is one. -/
theorem separatedBy_concur (direct : Direct rules shared element)
    (direct' : Direct rules shared separator) :
    (∀ cursor,
      Concur rules shared (.separatedBy ⟨false, false⟩ element separator)
          (prepended [element, .repeatWhile separator element]) cursor ∧
        ConcurOrEmpty rules shared element (.separatedBy ⟨true, false⟩ element separator)
          (prepended [element, .repeatWhile separator element]) cursor) ∧
    ((∀ cursor value rest, Replies rules shared element cursor (.done value rest) →
        cursor.position ≠ rest.position) →
      ∀ cursor,
        Concur rules shared (.separatedBy ⟨false, true⟩ element separator)
            (prepended [element, .many (skipLeft separator element), .maybe separator]) cursor ∧
          ConcurOrEmpty rules shared element (.separatedBy ⟨true, true⟩ element separator)
            (prepended [element, .many (skipLeft separator element), .maybe separator])
            cursor) := by
  obtain ⟨library, rule, shelf, means⟩ := direct.means
  obtain ⟨library', rule', shelf', means'⟩ := direct'.means
  cases shelf.unique shelf'
  exact ⟨means.separated_concur shelf means', means.trailing_concur shelf means'⟩

end Repetition

/-- A letter moves. -/
theorem letter_moves {cursor rest : Cursor Char Payload} {value : Value}
    (replies : Replies [] [] (alone .letter) cursor (.done value rest)) :
    cursor.position ≠ rest.position := by
  have done := (replies_alone rfl).mp replies
  simp only [Parser.replyFrom, TextLeaf.parser, TextLeaf.lift, Text.letter, Parser.satisfy,
    Parser.mapError, Parser.map, Parser.recover, Parser.inspect, Parser.handle,
    Parser.anyItem] at done
  cases advanced : cursor.advance with
  | error violation => simp [advanced] at done
  | ok next =>
    cases next with
    | none => simp [advanced, Parser.failWith] at done
    | some step =>
      have forth := Cursor.position_lt_of_advance advanced
      cases accepted : Text.isLetter step.1 with
      | false => simp [advanced, accepted, Parser.failWith] at done
      | true =>
        obtain ⟨_, rfl⟩ : Value.char step.1 = value ∧ step.2 = rest := by
          simpa [advanced, accepted, Parser.constant] using done
        exact Nat.ne_of_lt forth

/-- Letters with commas between them, and one after them. -/
def lettersAndComma : Cursor Char Payload := .ofText "a,b," ⟨false, 0⟩

theorem separatedBy_concur_letters :
    Direct [] [] (alone .letter) ∧ Direct [] [] (alone (.char ',')) ∧
      (∀ cursor value rest, Replies [] [] (alone .letter) cursor (.done value rest) →
        cursor.position ≠ rest.position) ∧
      Concur [] [] (.separatedBy ⟨false, false⟩ (alone .letter) (alone (.char ',')))
        (prepended [alone .letter, .repeatWhile (alone (.char ',')) (alone .letter)])
        lettersAndComma ∧
      Concur [] [] (.separatedBy ⟨false, true⟩ (alone .letter) (alone (.char ',')))
        (prepended [alone .letter, .many (skipLeft (alone (.char ',')) (alone .letter)),
          .maybe (alone (.char ','))]) lettersAndComma := by
  have direct : Direct [] [] (alone .letter) := direct_alone rfl
  have direct' : Direct [] [] (alone (.char ',')) := direct_alone rfl
  have moves (cursor : Cursor Char Payload) (value : Value) (rest : Cursor Char Payload) :
      Replies [] [] (alone .letter) cursor (.done value rest) → cursor.position ≠ rest.position :=
    letter_moves
  exact ⟨direct, direct', moves, ((separatedBy_concur direct direct').1 _).1,
    ((separatedBy_concur direct direct').2 moves _).1⟩

end Grammar

end Packrat
