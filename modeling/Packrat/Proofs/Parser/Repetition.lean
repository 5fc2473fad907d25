import Packrat.Parser.Choice
import Packrat.Proofs.Parser.Steady

/-! What repetition replies. A repetition takes the longest chain of runs that move, and a list of
elements with separators is such a chain behind its first element. -/

namespace Packrat

variable {ι δ : Type} {M : Memory} {ε ε' α β : Type}

/-- Runs one after the other, each of which yields a value and moves. -/
inductive Chain (replies : Cursor ι δ → Reply (Cursor ι δ) ε α → Prop) :
    Cursor ι δ → List α → Cursor ι δ → Prop where
  | nil : Chain replies cursor [] cursor
  | cons (first : replies cursor (.done value middle))
      (moves : cursor.position < middle.position) (more : Chain replies middle values rest) :
      Chain replies cursor (value :: values) rest

/-- A run from the cursor fails, or yields a value and does not move. -/
def Stalls (replies : Cursor ι δ → Reply (Cursor ι δ) ε α → Prop) (cursor : Cursor ι δ) : Prop :=
  (∃ error, replies cursor (.fail error)) ∨
    ∃ value rest, replies cursor (.done value rest) ∧ rest.position = cursor.position

theorem Chain.position_le {replies : Cursor ι δ → Reply (Cursor ι δ) ε α → Prop}
    {cursor rest : Cursor ι δ} {values : List α} (chain : Chain replies cursor values rest) :
    cursor.position ≤ rest.position := by
  induction chain with
  | nil => exact Nat.le_refl _
  | cons _ moves _ ih => exact Nat.le_trans (Nat.le_of_lt moves) ih

theorem Chain.position_lt {replies : Cursor ι δ → Reply (Cursor ι δ) ε α → Prop}
    {cursor rest : Cursor ι δ} {values : List α} (chain : Chain replies cursor values rest)
    (some : values ≠ []) : cursor.position < rest.position := by
  cases chain with
  | nil => exact absurd rfl some
  | cons _ moves more => exact Nat.lt_of_lt_of_le moves more.position_le

namespace Parser

variable [Inhabited M.Extra] {parser : Parser ι δ M ε α} {cursor rest : Cursor ι δ}
  {values : List α}

abbrev Replies (parser : Parser ι δ M ε α) (cursor : Cursor ι δ)
    (reply : Reply (Cursor ι δ) ε α) : Prop := parser.replyFrom cursor = reply

/-- A value in front of a list of values. -/
theorem Steady.replyFrom_cons {more : Parser ι δ M ε (List α)} (steady : parser.Steady)
    (steady' : more.Steady) (cursor : Cursor ι δ) :
    (parser.inspect fun value => more.map (value :: ·)).replyFrom cursor =
      (parser.replyFrom cursor).handle
        (fun value rest => (more.replyFrom rest).map (value :: ·)) .fail := by
  rw [steady.replyFrom_inspect fun value => steady'.map (value :: ·)]
  simp only [steady'.replyFrom_map]

/-! Sequences. -/

omit [Inhabited M.Extra] in
theorem steady_collect {parsers : List (Parser ι δ M ε α)}
    (steady : ∀ parser ∈ parsers, parser.Steady) : (collect parsers).Steady := by
  induction parsers with
  | nil => exact steady_constant []
  | cons parser parsers ih =>
    have later := ih fun parser member => steady parser (List.mem_cons_of_mem _ member)
    exact (steady parser List.mem_cons_self).inspect fun value => later.map (value :: ·)

theorem replyFrom_collect_nil (cursor : Cursor ι δ) :
    (collect [] : Parser ι δ M ε (List α)).replyFrom cursor = .done [] cursor := rfl

theorem replyFrom_collect {parsers : List (Parser ι δ M ε α)} (steady : parser.Steady)
    (steady' : ∀ parser ∈ parsers, parser.Steady) (cursor : Cursor ι δ) :
    (collect (parser :: parsers)).replyFrom cursor =
      (parser.replyFrom cursor).handle
        (fun value rest => ((collect parsers).replyFrom rest).map (value :: ·)) .fail :=
  steady.replyFrom_cons (steady_collect steady') cursor

/-! Zero or more. -/

omit [Inhabited M.Extra] in
theorem Steady.many (steady : parser.Steady) :
    (many parser : Parser ι δ M ε' (List α)).Steady :=
  steady.maybe.rounds _

theorem Steady.replyFrom_many (steady : parser.Steady) (cursor : Cursor ι δ) :
    (Parser.many parser : Parser ι δ M ε' (List α)).replyFrom cursor =
      (parser.replyFrom cursor).handle
        (fun value rest =>
          if rest.position = cursor.position then .done [] cursor
          else ((Parser.many parser).replyFrom rest).map (value :: ·))
        (fun _ => .done [] cursor) := by
  unfold Parser.many
  rw [steady.maybe.replyFrom_rounds, steady.replyFrom_maybe, Reply.handle_handle]
  rfl

/-- Behind a chain of runs repetition goes on. -/
theorem Steady.many_of_chain (steady : parser.Steady)
    (chain : Chain parser.Replies cursor values rest) :
    (Parser.many parser : Parser ι δ M ε' (List α)).replyFrom cursor =
      ((Parser.many parser).replyFrom rest).map (values ++ ·) := by
  induction chain with
  | nil => cases (Parser.many parser : Parser ι δ M ε' (List α)).replyFrom _ <;> rfl
  | @cons cursor value middle values rest first moves more ih =>
    rw [steady.replyFrom_many, first]
    simp only [Reply.handle, if_neg (Nat.ne_of_gt moves), ih]
    cases (Parser.many parser : Parser ι δ M ε' (List α)).replyFrom rest <;> rfl

theorem Steady.many_of_stalls (steady : parser.Steady) (stalls : Stalls parser.Replies cursor) :
    (Parser.many parser : Parser ι δ M ε' (List α)).replyFrom cursor = .done [] cursor := by
  rw [steady.replyFrom_many]
  obtain ⟨error, failed⟩ | ⟨value, rest, done, still⟩ := stalls
  · rw [failed]
    rfl
  · rw [done]
    exact if_pos still

/-- Every chain comes to an end: the parser stalls there, or is broken off. -/
theorem Steady.exists_chain (steady : parser.Steady) (cursor : Cursor ι δ) :
    ∃ values rest, Chain parser.Replies cursor values rest ∧
      (Stalls parser.Replies rest ∨ ∃ cause, parser.Replies rest (.halt cause)) := by
  induction cursor using Cursor.forth_induct with
  | step cursor ih =>
    cases answer : parser.replyFrom cursor with
    | done value middle =>
      obtain ⟨forth, extent⟩ := steady.onward answer
      by_cases still : middle.position = cursor.position
      · exact ⟨[], cursor, .nil, .inl (.inr ⟨value, middle, answer, still⟩)⟩
      · have moves : cursor.position < middle.position := by omega
        obtain ⟨values, rest, chain, ends⟩ := ih middle moves extent
        exact ⟨value :: values, rest, .cons answer moves chain, ends⟩
    | fail error => exact ⟨[], cursor, .nil, .inl (.inl ⟨error, answer⟩)⟩
    | halt cause => exact ⟨[], cursor, .nil, .inr ⟨cause, answer⟩⟩

theorem Steady.many_done (steady : parser.Steady) (chain : Chain parser.Replies cursor values rest)
    (stalls : Stalls parser.Replies rest) :
    (Parser.many parser : Parser ι δ M ε' (List α)).replyFrom cursor = .done values rest := by
  rw [steady.many_of_chain chain, steady.many_of_stalls stalls]
  simp [Reply.map]

theorem Steady.many_halt (steady : parser.Steady) (chain : Chain parser.Replies cursor values rest)
    {cause : Halt} (broken : parser.Replies rest (.halt cause)) :
    (Parser.many parser : Parser ι δ M ε' (List α)).replyFrom cursor = .halt cause := by
  rw [steady.many_of_chain chain, steady.replyFrom_many, broken]
  rfl

/-- Repetition yields the values of the longest chain, and is left where the parser stalls. -/
theorem Steady.many_done_iff (steady : parser.Steady) :
    (Parser.many parser : Parser ι δ M ε' (List α)).replyFrom cursor = .done values rest ↔
      Chain parser.Replies cursor values rest ∧ Stalls parser.Replies rest := by
  constructor
  · intro replied
    obtain ⟨values', rest', chain, stalls | ⟨cause, broken⟩⟩ := steady.exists_chain cursor
    · rw [steady.many_done chain stalls] at replied
      cases replied
      exact ⟨chain, stalls⟩
    · rw [steady.many_halt chain broken] at replied
      cases replied
  · intro ⟨chain, stalls⟩
    exact steady.many_done chain stalls

omit [Inhabited M.Extra] in
theorem Steady.oneOrMore (steady : parser.Steady) : (oneOrMore parser).Steady :=
  steady.inspect fun value => steady.many.map (value :: ·)

theorem Steady.replyFrom_oneOrMore (steady : parser.Steady) (cursor : Cursor ι δ) :
    (Parser.oneOrMore parser).replyFrom cursor =
      (parser.replyFrom cursor).handle
        (fun value rest => ((Parser.many parser).replyFrom rest).map (value :: ·)) .fail :=
  steady.replyFrom_cons steady.many cursor

/-! Lists with separators. -/

section Separated

variable {element : Parser ι δ M ε α} {separator : Parser ι δ M ε' β}

omit [Inhabited M.Extra] in
theorem steady_allow (allowed : Bool) (value : α) (error : ε) :
    (if allowed then constant value else failWith error : Parser ι δ M ε α).Steady := by
  cases allowed with
  | true => exact steady_constant value
  | false => exact steady_failWith error

theorem replyFrom_allow (allowed : Bool) (value : α) (error : ε) (cursor : Cursor ι δ) :
    (if allowed then constant value else failWith error : Parser ι δ M ε α).replyFrom cursor =
      if allowed then .done value cursor else .fail error := by
  cases allowed <;> rfl

def following (allowTrailing : Bool) (element : Parser ι δ M ε α) (separator : Parser ι δ M ε' β) :
    Parser ι δ M ε (Option α) :=
  separator.handle
    (fun _ => element.handle (fun value => constant (some value)) fun error =>
      if allowTrailing then constant none else failWith error)
    fun _ => constant none

omit [Inhabited M.Extra] in
theorem steady_following (steady : element.Steady) (steady' : separator.Steady)
    (allowTrailing : Bool) : (following allowTrailing element separator).Steady :=
  steady'.handle
    (fun _ => steady.handle (fun v => steady_constant (some v)) (steady_allow allowTrailing none))
    fun _ => steady_constant none

theorem replyFrom_following (steady : element.Steady) (steady' : separator.Steady)
    (allowTrailing : Bool) (cursor : Cursor ι δ) :
    (following allowTrailing element separator).replyFrom cursor =
      (separator.replyFrom cursor).handle
        (fun _ middle => (element.replyFrom middle).handle
          (fun value rest => .done (some value) rest)
          fun error => if allowTrailing then .done none middle else .fail error)
        (fun _ => .done none cursor) := by
  have present (value : α) : (constant (some value) : Parser ι δ M ε (Option α)).Steady :=
    steady_constant (some value)
  have absent (error : ε) : (if allowTrailing then constant none else failWith error :
      Parser ι δ M ε (Option α)).Steady := steady_allow allowTrailing none error
  unfold following
  rw [steady'.replyFrom_handle (fun _ => steady.handle present absent)
    fun _ => steady_constant none]
  simp only [steady.replyFrom_handle present absent, replyFrom_allow, replyFrom_constant]

omit [Inhabited M.Extra] in
theorem steady_separatedBy (steady : element.Steady) (steady' : separator.Steady)
    (form : ListForm) : (separatedBy form element separator).Steady :=
  steady.handle
    (fun first =>
      ((steady_following steady steady' form.allowTrailing).rounds none).map (first :: ·))
    (steady_allow form.allowZero [])

/-- A list is its first element and what comes further, or nothing where nothing is allowed. -/
theorem replyFrom_separatedBy (steady : element.Steady) (steady' : separator.Steady)
    (form : ListForm) (cursor : Cursor ι δ) :
    (separatedBy form element separator).replyFrom cursor =
      (element.replyFrom cursor).handle
        (fun first rest =>
          ((rounds none (following form.allowTrailing element separator)).replyFrom rest).map
            (first :: ·))
        (fun error => if form.allowZero then .done [] cursor else .fail error) := by
  have more := (steady_following steady steady' form.allowTrailing).rounds none
  refine (steady.replyFrom_handle (fun first => more.map (first :: ·))
    (steady_allow form.allowZero []) cursor).trans ?_
  simp only [more.replyFrom_map, replyFrom_allow]

omit [Inhabited M.Extra] in
theorem steady_repeatWhile (steady : element.Steady) (steady' : separator.Steady) :
    (repeatWhile separator element).Steady :=
  (steady_following steady steady' false).rounds _

/-- Without trailing separators, what comes further is repeated while a separator matches. -/
theorem replyFrom_repeatWhile (steady : element.Steady) (steady' : separator.Steady)
    (cursor : Cursor ι δ) :
    (rounds none (following false element separator)).replyFrom cursor =
      (repeatWhile separator element).replyFrom cursor :=
  (steady_following steady steady' false).replyFrom_rounds_congr _ _ cursor

end Separated

/-- With trailing separators and elements that move, what comes further is repeated as often as it
goes, and one more separator is taken if it is there. -/
theorem replyFrom_trailing {element : Parser ι δ M ε α} {separator : Parser ι δ M ε β}
    {both : Parser ι δ M ε α} (steady : element.Steady) (steady' : separator.Steady)
    (paired : both.Steady)
    (both_eq : ∀ cursor, both.replyFrom cursor =
      (separator.replyFrom cursor).handle (fun _ rest => element.replyFrom rest) .fail)
    (moves : ∀ cursor value rest, element.replyFrom cursor = .done value rest →
      cursor.position ≠ rest.position) (cursor : Cursor ι δ) :
    (rounds none (following true element separator)).replyFrom cursor =
      ((many both).replyFrom cursor).handle
        (fun values rest => (separator.replyFrom rest).handle (fun _ last => .done values last)
          fun _ => .done values rest)
        .fail := by
  induction cursor using Cursor.forth_induct with
  | step cursor ih =>
    rw [(steady_following steady steady' true).replyFrom_rounds, replyFrom_following steady steady',
      paired.replyFrom_many, both_eq]
    cases separated : separator.replyFrom cursor with
    | done _ middle =>
      obtain ⟨forth, extent⟩ := steady'.onward separated
      simp only [Reply.handle]
      cases answer : element.replyFrom middle with
      | done value rest =>
        obtain ⟨forth', extent'⟩ := steady.onward answer
        have moved := moves middle value rest answer
        have further : rest.position ≠ cursor.position := by omega
        simp only [if_neg further]
        rw [ih rest (by omega) (extent'.trans extent)]
        cases (many both : Parser ι δ M ε (List α)).replyFrom rest with
        | done values last =>
          simp only [Reply.map, Reply.handle]
          cases separator.replyFrom last <;> rfl
        | fail error => rfl
        | halt cause => rfl
      | fail error => simp only [separated, if_true]
      | halt cause => rfl
    | fail error => simp only [Reply.handle, separated]
    | halt cause => rfl

end Parser

end Packrat
