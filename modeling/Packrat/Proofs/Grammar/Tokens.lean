import Packrat.Proofs.Grammar.Repetition

/-! Tokens that a repetition collects. Neither what is skipped nor a token goes back, and the
repetition goes on where a token stops, so the spans of the tokens follow one another. -/

namespace Packrat

namespace Token

variable {κ α : Type}

/-- Spans that follow one another, from one position to another. What lies between them belongs to
no token. -/
inductive InLine : Nat → List (Token κ α) → Nat → Prop where
  | nil : InLine left [] left
  | cons (behind : left ≤ token.start) (forth : token.start ≤ token.stop)
      (more : InLine token.stop tokens right) : InLine left (token :: tokens) right

/-- The token spans a run of whole items. -/
def Spans {ι : Type} (metric : Metric ι) (items : List ι) (token : Token κ α) : Prop :=
  ∃ front inside back, items = front ++ (inside ++ back) ∧ token.start = metric.span front ∧
    token.stop = token.start + metric.span inside

variable {left right : Nat} {token : Token κ α} {tokens : List (Token κ α)}

theorem length_eq_ok (forth : token.start ≤ token.stop) :
    token.length = .ok (token.stop - token.start) := if_pos forth

theorem InLine.le (line : InLine left tokens right) : left ≤ right := by
  induction line with
  | nil => exact Nat.le_refl _
  | cons behind forth _ ih => omega

theorem InLine.within (line : InLine left tokens right) :
    ∀ token ∈ tokens, left ≤ token.start ∧ token.start ≤ token.stop ∧ token.stop ≤ right := by
  induction line with
  | nil => exact List.forall_mem_nil _
  | cons behind forth more ih =>
    refine List.forall_mem_cons.mpr ⟨⟨behind, forth, more.le⟩, fun token member => ?_⟩
    obtain ⟨later, forth', inside⟩ := ih token member
    exact ⟨by omega, forth', inside⟩

theorem InLine.pairwise (line : InLine left tokens right) :
    tokens.Pairwise fun earlier later => earlier.stop ≤ later.start := by
  induction line with
  | nil => exact .nil
  | cons _ _ more ih => exact .cons (fun later member => (more.within later member).1) ih

/-- A line ends where its last token stops. -/
theorem InLine.right_eq (line : InLine left tokens right) :
    right = (tokens.getLast?.map Token.stop).getD left := by
  induction line with
  | nil => rfl
  | cons _ _ _ ih =>
    rw [List.getLast?_cons, Option.map_some, Option.getD_some, ih]
    exact Option.getD_map ..

end Token

def Value.ofToken (token : Token String Value) : Value :=
  .token token.kind token.value token.start token.stop

/-- Of two cursors in one sequence, what lies between them is a run of whole items. -/
theorem Cursor.Over.between {ι δ : Type} {metric : Metric ι} {items : List ι}
    {cursor other : Cursor ι δ} (lies : cursor.Over metric items) (lies' : other.Over metric items)
    (le : cursor.position ≤ other.position) :
    ∃ inside, items = cursor.behind.reverse ++ (inside ++ other.ahead) ∧
      other.position = cursor.position + metric.span inside := by
  obtain ⟨cut, position⟩ := lies.cut
  obtain ⟨cut', position'⟩ := lies'.cut
  obtain ⟨inside, further, _⟩ | ⟨inside, back, ahead⟩ :=
    List.append_eq_append_iff.mp (cut.symm.trans cut')
  · refine ⟨inside, by rw [← List.append_assoc, ← further]; exact cut', ?_⟩
    rw [position', further, Metric.span_append, ← position]
  · -- Then nothing is between them, as it would have a width.
    have none : metric.span inside = 0 := by
      rw [position, position', back, Metric.span_append] at le
      omega
    obtain rfl := Metric.eq_nil_of_span _ none
    refine ⟨[], by rw [List.nil_append, ahead, List.nil_append]; exact cut, ?_⟩
    simp [position, position', back]

namespace Grammar

variable {ι Leaf : Type}

/-! What tokens reply. -/

section Rules

variable {skipping rule : Rule ι Leaf}

def tokenRule (kind : String) (rule : Rule ι Leaf) : Rule ι Leaf :=
  Parser.token rule (fun value start stop => .token kind value start stop)
    fun failure start => .wrapped kind start failure

def lexemeRule (skipping : Rule ι Leaf) (kind : String) (rule : Rule ι Leaf) : Rule ι Leaf :=
  Parser.map (Value.item 1) (Parser.map .list (Parser.sequence [skipping, tokenRule kind rule]))

theorem steady_token (steady : rule.Steady) (kind : String) : (tokenRule kind rule).Steady :=
  fun _ _ _ fits fits' => (steady _ _ _ fits fits').token (fun _ _ place => place.1 ▸ rfl) _ _

/-- The reply of a token is known from that of its parser. -/
theorem replyFrom_token (kind : String) (rule : Rule ι Leaf) (cursor : Cursor ι Payload) :
    (tokenRule kind rule).replyFrom cursor =
      (rule.replyFrom cursor).handle
        (fun value rest => .done (.token kind value cursor.position rest.position) rest)
        (fun failure => .fail (.wrapped kind cursor.position failure)) := by
  rcases run : rule cursor (.roomFor cursor) with ⟨_ | _ | _, _⟩ <;>
    simp [tokenRule, Parser.replyFrom, Parser.token, Parser.located, Parser.handle, run,
      Reply.handle, Parser.constant, Parser.failWith]

/-- What is skipped stops where the token starts, and the token stops where the lexeme is left. -/
theorem lexeme_done_iff (steady : skipping.Steady) (steady' : rule.Steady) {kind : String}
    {cursor rest : Cursor ι Payload} {value : Value} :
    (lexemeRule skipping kind rule).replyFrom cursor = .done value rest ↔
      ∃ skipped middle read, skipping.replyFrom cursor = .done skipped middle ∧
        rule.replyFrom middle = .done read rest ∧
        value = .ofToken ⟨kind, read, middle.position, rest.position⟩ := by
  rw [lexemeRule, replyFrom_skipLeft steady (steady_token steady' kind)]
  constructor
  · intro done
    cases first : skipping.replyFrom cursor with
    | done skipped middle =>
      rw [first, Reply.handle_done, replyFrom_token] at done
      cases second : rule.replyFrom middle with
      | done read last =>
        rw [second] at done
        cases done
        exact ⟨skipped, middle, read, rfl, second, rfl⟩
      | fail error => rw [second] at done; cases done
      | halt cause => rw [second] at done; cases done
    | fail error => rw [first] at done; cases done
    | halt cause => rw [first] at done; cases done
  · rintro ⟨skipped, middle, read, first, second, rfl⟩
    rw [first, Reply.handle_done, replyFrom_token, second]
    rfl

end Rules

section Means

variable [Lexicon ι Leaf] {library : Library ι Leaf} {q p : Blueprint ι Leaf}
  {skipping rule : Rule ι Leaf} {rules shared : List (String × Blueprint ι Leaf)}
  {cursor rest : Cursor ι Payload} {value : Value} {values : List Value} {kind : String}

theorem Means.token (means : Means library p rule) (kind : String) :
    Means library (.token kind p) (tokenRule kind rule) :=
  means.node (.token kind) (tokenRule kind) rfl (fun _ => rfl) (fun _ => rfl) fun _ => rfl

theorem Bench.fst_parse (bench : Bench ι Leaf) (cursor : Cursor ι Payload) :
    (bench.parse cursor).1 = (runWithin bench.library recursionLimit bench.parser cursor
      (bench.session.makeRoom cursor)).1 := by
  unfold Bench.parse
  -- The limit is a number too large to be computed with.
  generalize recursionLimit = depth
  rfl

variable [UniformLexicon ι Leaf]

/-- Success ends in the text it started in. -/
theorem Means.over (shelf : Shelf rules shared library) (means : Means library p rule)
    (done : rule.replyFrom cursor = .done value rest) {metric : Metric ι} {items : List ι}
    (lies : cursor.Over metric items) : rest.Over metric items := by
  obtain ⟨bench, assembled, replied⟩ := (means.replies_iff shelf).mpr done false
  have onward : bench.session.Onward fun rest => rest.Over metric items := onward_assemble assembled
  obtain ⟨_, _, within⟩ := runWithin_onward (Cursor.lasting_over metric items) bench.library
    recursionLimit bench.parser [] cursor.position cursor (bench.session.makeRoom cursor) _
    ⟨Nat.le_refl _, lies⟩ ⟨rfl, onward⟩
  exact (within value rest ((bench.fst_parse cursor).symm.trans (replied []))).2

/-- Repetition yields lists. -/
theorem many_list (shelf : Shelf rules shared library) (means : Means library p rule)
    (replies : Replies rules shared (.many p) cursor (.done value rest)) :
    ∃ values, value = .list values := by
  rw [means.many.replies_iff shelf, means.steady.many.replyFrom_map] at replies
  cases listed : (Parser.many rule : Parser _ _ _ Failure _).replyFrom cursor with
  | done values last =>
    rw [listed] at replies
    cases replies
    exact ⟨values, rfl⟩
  | fail error => rw [listed] at replies; cases replies
  | halt cause => rw [listed] at replies; cases replies

/-- The tokens of a chain of lexemes stand in line between its ends, and each spans a run of whole
items. -/
theorem tokens_of_chain (shelf : Shelf rules shared library) (means : Means library q skipping)
    (means' : Means library p rule)
    (chain : Chain (Parser.Replies (lexemeRule skipping kind rule)) cursor values rest) :
    ∃ tokens : List (Token String Value), values = tokens.map .ofToken ∧
      Token.InLine cursor.position tokens rest.position ∧
      ∀ metric items, cursor.Over metric items → ∀ token ∈ tokens, token.Spans metric items := by
  induction chain with
  | nil => exact ⟨[], rfl, .nil, fun _ _ _ => List.forall_mem_nil _⟩
  | @cons cursor value next values rest first moves more ih =>
    obtain ⟨tokens, same, line, spans⟩ := ih
    obtain ⟨skipped, middle, read, skips, reads, rfl⟩ :=
      (lexeme_done_iff means.steady means'.steady).mp first
    have behind := (means.steady.onward skips).1
    have forth := (means'.steady.onward reads).1
    refine ⟨⟨kind, read, middle.position, next.position⟩ :: tokens, by rw [same, List.map_cons],
      .cons behind forth line, fun metric items lies => ?_⟩
    have lies' := means.over shelf skips lies
    have lies'' := means'.over shelf reads lies'
    obtain ⟨inside, cut, stop⟩ := lies'.between lies'' forth
    exact List.forall_mem_cons.mpr
      ⟨⟨_, inside, _, cut, lies'.cut.2, stop⟩, spans metric items lies''⟩

/-- Tokens that a repetition collects, each behind something skipped, are ordered and disjoint, and
none stops before it starts. They lie between the cursor where the repetition starts and the one
where it ends, which is where the last of them stops, and each spans a run of whole items: in text,
its ends fall between characters. -/
theorem many_tokens_in_line (direct : Direct rules shared q) (direct' : Direct rules shared p)
    (replies : Replies rules shared (.many (skipLeft q (.token kind p))) cursor
      (.done value rest)) :
    ∃ tokens : List (Token String Value), value = .list (tokens.map .ofToken) ∧
      (∀ token ∈ tokens, token.start ≤ token.stop ∧
        token.length = .ok (token.stop - token.start)) ∧
      tokens.Pairwise (fun earlier later => earlier.stop ≤ later.start) ∧
      (∀ token ∈ tokens, cursor.position ≤ token.start ∧ token.stop ≤ rest.position) ∧
      (∀ last, tokens.getLast? = some last → rest.position = last.stop) ∧
      (tokens = [] → rest.position = cursor.position) ∧
      ∀ metric items, cursor.Over metric items → ∀ token ∈ tokens, token.Spans metric items := by
  obtain ⟨library, skipping, shelf, means⟩ := direct.means
  obtain ⟨library', rule, shelf', means'⟩ := direct'.means
  cases shelf.unique shelf'
  have element : Means library (skipLeft q (.token kind p)) (lexemeRule skipping kind rule) :=
    means.skipLeft (means'.token kind)
  obtain ⟨values, rfl⟩ := many_list shelf element replies
  have chain := (element.many_done_iff shelf).mp replies
  rw [element.replies_eq shelf] at chain
  obtain ⟨tokens, rfl, line, spans⟩ := tokens_of_chain shelf means means' chain.1
  refine ⟨tokens, rfl, fun token member => ?_, line.pairwise, fun token member => ?_, ?_, ?_, spans⟩
  · have forth := (line.within token member).2.1
    exact ⟨forth, Token.length_eq_ok forth⟩
  · obtain ⟨behind, _, inside⟩ := line.within token member
    exact ⟨behind, inside⟩
  · intro last ends
    rw [line.right_eq, ends]
    rfl
  · rintro rfl
    exact line.right_eq

end Means

def blanks : Blueprint Char TextLeaf := .many (alone .whitespace)

def twoWords : Cursor Char Payload := .ofText " x1  foo" ⟨false, 0⟩

theorem many_tokens_in_line_words :
    Direct [] [] blanks ∧ Direct [] [] (alone .identifier) ∧
    Replies [] [] (.many (skipLeft blanks (.token "word" (alone .identifier)))) twoWords
      (.done (.list [.token "word" (.text "x1") 1 3, .token "word" (.text "foo") 5 8])
        (twoWords.skip 8)) ∧
    ∃ tokens : List (Token String Value),
      .list [.token "word" (.text "x1") 1 3, .token "word" (.text "foo") 5 8] =
        Value.list (tokens.map .ofToken) ∧
      tokens.Pairwise (fun earlier later => earlier.stop ≤ later.start) ∧
      ∀ token ∈ tokens, token.Spans .utf8 " x1  foo".toList := by
  have skips : Means ⟨[], []⟩ blanks (Parser.map .list (Parser.many TextLeaf.whitespace.parser)) :=
    (means_alone rfl).many
  have reads : Means ⟨[], []⟩ (alone .identifier) TextLeaf.identifier.parser := means_alone rfl
  have direct := skips.direct shelf_empty
  have direct' := reads.direct shelf_empty
  have both : Means ⟨[], []⟩ (skipLeft blanks (.token "word" (alone .identifier))) (lexemeRule
      (Parser.map .list (Parser.many TextLeaf.whitespace.parser)) "word"
      TextLeaf.identifier.parser) := skips.skipLeft (reads.token "word")
  have first : Parser.Replies (lexemeRule _ "word" _) twoWords
      (.done (.token "word" (.text "x1") 1 3) (twoWords.skip 3)) :=
    (lexeme_done_iff skips.steady reads.steady).mpr
      ⟨.list [.char ' '], twoWords.skip 1, .text "x1", rfl, rfl, rfl⟩
  have second : Parser.Replies (lexemeRule _ "word" _) (twoWords.skip 3)
      (.done (.token "word" (.text "foo") 5 8) (twoWords.skip 8)) :=
    (lexeme_done_iff skips.steady reads.steady).mpr
      ⟨.list [.char ' ', .char ' '], twoWords.skip 5, .text "foo", rfl, rfl, rfl⟩
  have chain := Chain.cons first (by decide) (.cons second (by decide) .nil)
  rw [← both.replies_eq shelf_empty] at chain
  have stalls : Stalls (Replies [] [] (skipLeft blanks (.token "word" (alone .identifier))))
      (twoWords.skip 8) := .inl ⟨_, (both.replies_iff shelf_empty).mpr rfl⟩
  have replies := (both.many_done_iff shelf_empty).mpr ⟨chain, stalls⟩
  obtain ⟨tokens, same, _, ordered, _, _, _, spans⟩ := many_tokens_in_line direct direct' replies
  exact ⟨direct, direct', replies, tokens, same, ordered, spans _ _ ⟨rfl, rfl⟩⟩

end Grammar

end Packrat
