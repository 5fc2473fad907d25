import Packrat.Proofs.Calculator.Language
import Packrat.Proofs.Grammar.Termination

/-! Why parsing ends. A rule comes back to a rule around it only behind a token, so every deferred
parser starts behind the rules it is nested in, and no more of them are nested than the text has
bytes. The loops move in every round but the last. -/

namespace Packrat

open Packrat.Parser

namespace Parser

variable {ι δ : Type} {M : Memory} {ε ε' α β : Type} {room room' start : Nat}
  {filters : List (Filter ι)}

/-- One cursor at `start` or behind it, in a text that fits into the first room, and sessions that
differ in their room. -/
def further (room room' start : Nat) : Coupling ι δ M where
  cursors _ cursor cursor' := cursor = cursor' ∧ cursor.extent ≤ room ∧ start ≤ cursor.position
  sessions := (ample room room').sessions
  causes cause := cause ≠ .exhausted
  admits _ := True
  onward := True

theorem further_stable (larger : room ≤ room') : (further room room' start : Coupling ι δ M).Stable where
  advance place := by
    obtain ⟨rfl, fits, behind⟩ := place
    refine shown_of_same rfl (fun _ => rfl) nofun fun item rest ahead => ⟨rfl, ?_, ?_⟩
    · exact (Cursor.lasting_extent room).past fits ahead
    · exact Nat.le_trans behind (Nat.le_of_lt (Cursor.position_lt_past ..))
  ordinary _ := nofun
  total _ := trivial
  filtered place _ := ⟨congrArg (Cursor.filtered · _) place.1, place.2⟩
  unfiltered place := ⟨congrArg Cursor.unfiltered place.1, place.2⟩
  rounds coupled := by
    apply coupled.rounds_of_room trivial
    · rintro cursor _ rest _ ⟨rfl, _⟩ ⟨rfl, _⟩
      rfl
    · rintro cursor _ ⟨rfl, fits, _⟩
      have inside := Nat.le_trans cursor.position_le_extent fits
      exact ⟨inside, Nat.le_trans inside larger⟩
    · rintro session _ ⟨reach, rfl, _⟩
      exact ⟨reach, rfl⟩
    · rintro cursor _ session _ ⟨rfl, _⟩ ⟨reach, rfl, kept⟩ event
      exact ⟨reach, rfl, kept⟩

theorem further_level {cursor cursor' : Cursor ι δ}
    (place : (further room room' start : Coupling ι δ M).cursors filters cursor cursor') :
    cursor.position = cursor'.position := congrArg Cursor.position place.1

/-- Runs that start behind a place end behind it. -/
theorem further_ends {cursor rest rest' : Cursor ι δ} (behind : start ≤ cursor.position)
    (ends : (ample room room' : Coupling ι δ M).Ends filters cursor cursor rest rest') :
    (further room room' start : Coupling ι δ M).Ends filters cursor cursor rest rest' :=
  ⟨⟨ends.place.1, ends.place.2, Nat.le_trans behind (ends.onward trivial).1⟩, ends.onward⟩

/-- To be coupled behind a place is to be coupled at every cursor behind it. -/
theorem coupled_further_iff {parser parser' : Parser ι δ M ε α} :
    Coupled (further room room' start) filters parser parser' ↔
      ∀ cursor : Cursor ι δ, cursor.extent ≤ room → start ≤ cursor.position →
        CoupledAt (ample room room') filters cursor cursor parser parser' := by
  constructor
  · intro coupled cursor fits behind session session' shared
    obtain ⟨paired, kept⟩ := coupled cursor cursor session session' ⟨rfl, fits, behind⟩ shared
    exact ⟨paired.mono fun _ _ ends => ⟨⟨ends.place.1, ends.place.2.1⟩, ends.onward⟩, kept⟩
  · rintro coupled cursor _ session session' ⟨rfl, fits, behind⟩ shared
    obtain ⟨paired, kept⟩ := coupled cursor fits behind session session' shared
    exact ⟨paired.mono fun _ _ => further_ends behind, kept⟩

/-- Behind the end of the texts there is nothing. -/
theorem coupled_beyond (beyond : room < start) (parser parser' : Parser ι δ M ε α) :
    Coupled (further room room' start) filters parser parser' :=
  coupled_further_iff.mpr fun cursor fits behind => by
    have inside := cursor.position_le_extent
    omega

theorem Coupled.memoize_further {reaches : δ → Bool} {key : Memo.Key} {replace : Bool}
    {parser parser' : Parser ι δ M M.Failure M.Value}
    (coupled : Coupled (further room room' start) filters parser parser') :
    Coupled (further room room' start) filters (memoize reaches key replace parser)
      (memoize reaches key replace parser') :=
  coupled_further_iff.mpr fun cursor fits behind =>
    (coupled_further_iff.mp coupled cursor fits behind).memoize_ample

/-- A parser made for the place where it starts need be coupled behind that place only. -/
theorem Coupled.located_further {parser : Parser ι δ M ε α} {parser' : Nat → Parser ι δ M ε α}
    (coupled : ∀ place, start ≤ place →
      Coupled (further room room' place) filters parser (parser' place)) :
    Coupled (further room room' start) filters parser (Parser.located parser') :=
  coupled_further_iff.mpr fun cursor fits behind =>
    coupled_further_iff.mp (coupled cursor.position behind) cursor fits (Nat.le_refl _)

/-! Parsers that succeed behind the cursor they start on, or at least not before it. -/

/-- The parser does not succeed before the cursor it starts on. -/
def Stays (parser : Parser ι δ M ε α) : Prop :=
  ∀ cursor session value rest, (parser cursor session).1 = .done value rest →
    cursor.position ≤ rest.position

/-- The parser succeeds behind the cursor it starts on only. -/
def Moves (parser : Parser ι δ M ε α) : Prop :=
  ∀ cursor session value rest, (parser cursor session).1 = .done value rest →
    cursor.position < rest.position

theorem Moves.stays {parser : Parser ι δ M ε α} (moves : Moves parser) : Stays parser :=
  fun _ _ _ _ success => Nat.le_of_lt (moves _ _ _ _ success)

theorem stays_constant (value : α) : Stays (constant value : Parser ι δ M ε α) := by
  intro cursor session value rest success
  cases success
  exact Nat.le_refl _

theorem moves_failWith (error : ε) : Moves (failWith error : Parser ι δ M ε α) := nofun

theorem moves_halt (cause : Halt) : Moves (halt cause : Parser ι δ M ε α) := nofun

theorem moves_anyItem [OfStreamError ε] : Moves (anyItem : Parser ι δ M ε ι) := by
  intro cursor session item rest success
  unfold anyItem at success
  split at success
  · rename_i advanced
    cases success
    exact Cursor.position_lt_of_advance advanced
  · cases success
  · cases success

/-- One part moves and the other does not go back. -/
theorem Moves.handle {parser : Parser ι δ M ε α} {onValue : α → Parser ι δ M ε' β}
    {onError : ε → Parser ι δ M ε' β} (first : Moves parser) (value : ∀ v, Stays (onValue v))
    (error : ∀ e, Moves (onError e)) : Moves (parser.handle onValue onError) := by
  intro cursor session v rest success
  unfold Parser.handle at success
  rcases answer : parser cursor session with ⟨⟨middle, after⟩ | e | cause, later⟩ <;>
    simp only [answer] at success
  · have moved := first cursor session middle after (by rw [answer])
    exact Nat.lt_of_lt_of_le moved (value _ _ _ _ _ success)
  · exact error _ _ _ _ _ success
  · cases success

theorem Stays.handle {parser : Parser ι δ M ε α} {onValue : α → Parser ι δ M ε' β}
    {onError : ε → Parser ι δ M ε' β} (first : Stays parser) (value : ∀ v, Stays (onValue v))
    (error : ∀ e, Stays (onError e)) : Stays (parser.handle onValue onError) := by
  intro cursor session v rest success
  unfold Parser.handle at success
  rcases answer : parser cursor session with ⟨⟨middle, after⟩ | e | cause, later⟩ <;>
    simp only [answer] at success
  · have stayed := first cursor session middle after (by rw [answer])
    exact Nat.le_trans stayed (value _ _ _ _ _ success)
  · exact error _ _ _ _ _ success
  · cases success

theorem Moves.token {parser : Parser ι δ M ε α} (moves : Moves parser) (onValue : α → Nat → Nat → β)
    (onError : ε → Nat → ε') : Moves (parser.token onValue onError) := by
  intro cursor
  exact Moves.handle moves (fun _ rest => stays_constant _ rest) (fun _ => moves_failWith _) cursor

theorem moves_satisfy [OfStreamError ε] (accepts : ι → Bool) (error : ε) :
    Moves (satisfy accepts error : Parser ι δ M ε ι) := by
  refine moves_anyItem.handle (fun item => ?_) moves_failWith
  split
  · exact stays_constant item
  · exact (moves_failWith error).stays

theorem stays_loop {onStall : Option (Nat → Event)} {round : Parser ι δ M ε (Option α)}
    (stays : Stays round) (budget : Nat) : Stays (loop onStall round budget) := by
  induction budget with
  | zero => exact nofun
  | succ budget ih =>
    intro cursor session values last success
    unfold loop at success
    rcases answer : round cursor session with ⟨⟨_ | value, rest⟩ | e | cause, later⟩ <;>
      simp only [answer] at success
    · cases success
      exact stays cursor session _ _ (by rw [answer])
    · have stayed := stays cursor session _ _ (congrArg Prod.fst answer)
      split at success
      · split at success <;> cases success <;> exact Nat.le_refl _
      · rcases looped : loop onStall round budget rest later with ⟨⟨more, end_⟩ | e | cause, after⟩ <;>
          simp only [looped] at success <;> cases success
        exact Nat.le_trans stayed (ih rest later _ _ (congrArg Prod.fst looped))
    · cases success
    · cases success

theorem stays_many {parser : Parser ι δ M ε α} (stays : Stays parser) :
    Stays (many parser : Parser ι δ M ε' (List α)) := fun cursor session =>
  stays_loop (stays.handle (fun _ => stays_constant _) fun _ => stays_constant _) _ cursor session

/-- Behind a parser that moves, parsers need be coupled behind a later place only. -/
theorem Coupled.handle_past {first first' : Parser ι δ M ε α}
    {onValue onValue' : α → Parser ι δ M ε' β} {onError onError' : ε → Parser ι δ M ε' β}
    (coupled : Coupled (further room room' start) filters first first') (moves : Moves first)
    (value : ∀ v, Coupled (further room room' (start + 1)) filters (onValue v) (onValue' v))
    (error : ∀ e, Coupled (further room room' start) filters (onError e) (onError' e)) :
    Coupled (further room room' start) filters (first.handle onValue onError)
      (first'.handle onValue' onError') := by
  intro cursor cursor' session session' place shared
  obtain ⟨paired, kept⟩ := coupled cursor cursor' session session' place shared
  have moved := moves cursor session
  unfold Parser.handle
  rcases answer : first cursor session with ⟨reply, later⟩
  rcases answer' : first' cursor' session' with ⟨reply', later'⟩
  simp only [answer, answer'] at paired kept moved ⊢
  cases paired with
  | done ends =>
    have onward := moved _ _ rfl
    obtain ⟨paired, kept⟩ := value _ _ _ later later'
      ⟨ends.place.1, ends.place.2.1, Nat.lt_of_le_of_lt place.2.2 onward⟩ kept
    refine ⟨paired.mono fun _ _ ends' => ends.trans ⟨?_, ends'.onward⟩, kept⟩
    exact ⟨ends'.place.1, ends'.place.2.1, Nat.le_of_succ_le ends'.place.2.2⟩
  | fail => exact error _ cursor cursor' later later' place kept
  | halt blamed => exact ⟨.halt blamed, kept⟩

end Parser

namespace Calculator

variable {room room' start : Nat} {α : Type}

/-! The rules with their deferred parsers watched. -/

/-- The rule, broken off with `cause` where it starts at `front` or before it. -/
def behind (cause : Halt) (front : Nat) (rule : Rule α) : Rule α := fun cursor session =>
  if cursor.position ≤ front then (.halt cause, session) else rule cursor session

/-- The rules, each broken off with `cause` where it starts at `front` or before it. -/
def Rules.behind (rules : Rules) (cause : Halt) (front : Nat) : Rules :=
  ⟨fun site => Calculator.behind cause front (rules.expression site),
    fun site => Calculator.behind cause front (rules.unary site),
    fun site => Calculator.behind cause front (rules.power site)⟩

/-- The rules, with every deferred parser broken off with `cause` unless it starts behind all that it
is nested in of the deferred parser around it: the operand, the power and the expression. -/
def watched (memoized : Bool) (cause : Halt) : (depth : Nat) → Rules
  | 0 => rules memoized 0
  | depth + 1 =>
    let inner := watched memoized cause depth
    ⟨fun site => Parser.located fun first => chain [.add, .subtract] <| chain [.multiply, .divide] <|
        Parser.located fun front =>
          ((inner.behind cause first).behind cause front).exponentiation memoized site,
      fun site => Parser.located fun front => (inner.behind cause front).operand memoized site,
      fun site => Parser.located fun front =>
        (inner.behind cause front).exponentiation memoized site⟩

/-! Tokens. -/

theorem moves_symbol (c : Char) (error : Nat → SyntaxError) : Moves (symbol c error) :=
  (moves_satisfy _ _).token _ _

theorem moves_trials (operators : List BinaryOp) : Moves (predictiveChoice (trials operators)) := by
  have moves (op : BinaryOp) : Moves (Text.string op.symbol : Lexeme String) := by
    rw [string_symbol]
    refine Moves.handle ?_ (fun _ => stays_constant _) fun _ => moves_failWith _
    exact (moves_satisfy _ _).handle (fun _ => stays_constant _) moves_failWith
  induction operators with
  | nil => exact moves_halt _
  | cons op operators ih =>
    cases operators with
    | nil => exact (moves op).handle (fun _ => stays_constant _) moves_failWith
    | cons next operators => exact (moves op).handle (fun _ => stays_constant _) fun _ => ih

theorem stays_skipBlanks : Stays skipBlanks :=
  (stays_many (moves_satisfy _ _).stays).handle (fun _ => stays_constant _)
    fun _ => (moves_failWith _).stays

theorem moves_operator (operators : List BinaryOp) : Moves (operator operators) := by
  obtain ⟨ordered, _, choice⟩ := stringChoice_operators operators
  rw [operator, choice]
  refine ((moves_trials ordered).token _ _).handle (fun _ => ?_) moves_failWith
  exact stays_skipBlanks.handle (fun _ => stays_constant _) fun _ => (moves_failWith _).stays

section Coupled

variable {filters : List (Filter Char)} (larger : room ≤ room')
include larger

theorem coupled_symbol (c : Char) (error : Nat → SyntaxError) :
    Coupled (further room room' start) filters (symbol c error) (symbol c error) :=
  Coupled.token (fun _ _ => further_level) _ _ (coupled_satisfy (further_stable larger) _ _)

theorem coupled_skipBlanks :
    Coupled (further room room' start) filters skipBlanks skipBlanks :=
  (Coupled.many (further_stable larger) (coupled_satisfy (further_stable larger) _ _)).map _

theorem coupled_operator (operators : List BinaryOp) :
    Coupled (further room room' start) filters (operator operators) (operator operators) := by
  have stable : (further room room' start : Coupling Char Bool Recall).Stable :=
    further_stable larger
  obtain ⟨ordered, _, choice⟩ := stringChoice_operators operators
  rw [operator, choice]
  have tried : Coupled (further room room' start) filters (predictiveChoice (trials ordered))
      (predictiveChoice (trials ordered)) :=
    Coupled.predictiveChoice stable (fun op => TextLeaf.coupled_string stable op.symbol)
      (fun op => coupled_constant op) ordered
  exact (Coupled.token (fun _ _ => further_level) _ _ tried).inspect fun _ =>
    (coupled_skipBlanks larger).map _

theorem coupled_literal : Coupled (further room room' start) filters literal literal := by
  have stable : (further room room' start : Coupling Char Bool Recall).Stable :=
    further_stable larger
  have number : Coupled (further room room' start) filters (Text.number : Lexeme String)
      Text.number :=
    (TextLeaf.coupled_integer stable).inspect fun _ =>
      ((coupled_satisfy stable _ _).softSequence _ (TextLeaf.coupled_integer stable)).map _
  exact (Coupled.token (fun _ _ => further_level) _ _ number).inspect fun _ =>
    (coupled_skipBlanks larger).map _

omit larger in
theorem coupled_deferred {rule rule' : Nat → Rule Expr}
    (coupled : ∀ number, Coupled (further room room' start) filters (rule number) (rule' number))
    (site : Nat) (turn : Turn) :
    Coupled (further room room' start) filters (deferred rule site turn)
      (deferred rule' site turn) := by
  rintro cursor _ session _ ⟨rfl, place⟩ ⟨reach, rfl, kept⟩
  have alike : (session.withReach room').extra = session.extra := rfl
  unfold deferred
  rw [alike]
  cases session.extra.find? site turn with
  | some number => exact coupled number _ _ _ _ ⟨rfl, place⟩ ⟨reach, rfl, kept⟩
  | none => exact coupled _ _ _ _ _ ⟨rfl, place⟩ ⟨reach, rfl, kept⟩

theorem Coupled.chain {operand operand' : Rule Expr} (operators : List BinaryOp)
    (coupled : Coupled (further room room' start) filters operand operand') :
    Coupled (further room room' start) filters (chain operators operand)
      (chain operators operand') := by
  have sign : Coupled (further room room' start) filters (operator operators)
      (operator operators) := coupled_operator larger operators
  exact coupled.inspect fun _ =>
    (Coupled.repeatWhile (further_stable larger) sign.peek
      (sign.inspect fun _ => coupled.map _)).map _

/-- The deferred parsers of two grammars are coupled behind a place. -/
structure Rules.Coupled (room room' start : Nat) (rules rules' : Rules) : Prop where
  expression : ∀ site, Parser.Coupled (further room room' start) [] (rules.expression site)
    (rules'.expression site)
  unary : ∀ site, Parser.Coupled (further room room' start) [] (rules.unary site)
    (rules'.unary site)
  power : ∀ site, Parser.Coupled (further room room' start) [] (rules.power site)
    (rules'.power site)

variable {inner inner' : Rules}

theorem Rules.Coupled.group (coupled : Rules.Coupled room room' (start + 1) inner inner')
    (site : Nat) :
    Parser.Coupled (further room room' start) [] (inner.group site) (inner'.group site) := by
  refine (coupled_symbol larger _ _).handle_past (moves_symbol _ _) (fun _ => ?_) coupled_failWith
  refine (coupled_skipBlanks larger).inspect fun _ => ?_
  refine (coupled_deferred coupled.expression site .group).inspect fun _ => ?_
  exact (coupled_symbol larger _ _).inspect fun _ => (coupled_skipBlanks larger).map _

theorem Rules.Coupled.negation (coupled : Rules.Coupled room room' (start + 1) inner inner')
    (site : Nat) :
    Parser.Coupled (further room room' start) [] (inner.negation site) (inner'.negation site) := by
  refine (coupled_symbol larger _ _).handle_past (moves_symbol _ _) (fun _ => ?_) coupled_failWith
  exact (coupled_skipBlanks larger).inspect fun _ =>
    (coupled_deferred coupled.unary site .negation).map _

theorem Rules.Coupled.atom (coupled : Rules.Coupled room room' (start + 1) inner inner')
    (site : Nat) :
    Parser.Coupled (further room room' start) [] (inner.atom site) (inner'.atom site) := by
  have digit : Parser.Coupled (further room room' start) [] (Text.digit : Lexeme Char) Text.digit :=
    coupled_satisfy (further_stable larger) _ _
  refine ((coupled_symbol larger _ _).peek.map _).handle (fun _ => coupled.group larger site)
    fun _ => ?_
  exact ((Parser.Coupled.token (fun _ _ => further_level) _ _ digit).peek.map _).inspect fun _ =>
    coupled_literal larger

theorem Rules.Coupled.operand (coupled : Rules.Coupled room room' (start + 1) inner inner')
    (memoized : Bool) (site : Nat) :
    Parser.Coupled (further room room' start) [] (inner.operand memoized site)
      (inner'.operand memoized site) := by
  have body : Parser.Coupled (further room room' start) [] (inner.operand false site)
      (inner'.operand false site) :=
    ((coupled_symbol larger _ _).peek.map _).handle (fun _ => coupled.negation larger site)
      fun _ => (coupled_constant ()).inspect fun _ => coupled.atom larger site
  cases memoized with
  | false => exact body
  | true => exact body.memoize_further

theorem Rules.Coupled.exponentiation (coupled : Rules.Coupled room room' (start + 1) inner inner')
    (memoized : Bool) (site : Nat) :
    Parser.Coupled (further room room' start) [] (inner.exponentiation memoized site)
      (inner'.exponentiation memoized site) := by
  refine (coupled.operand larger memoized site).inspect fun _ => Parser.Coupled.map _ ?_
  refine (coupled_operator larger _).handle_past (moves_operator _) (fun _ => ?_)
    fun _ => coupled_constant none
  exact (coupled_deferred coupled.power site .exponent).map _

omit larger in
theorem Rules.coupled_beyond (beyond : room < start) (rules rules' : Rules) :
    Rules.Coupled room room' start rules rules' :=
  ⟨fun _ => Parser.coupled_beyond beyond _ _, fun _ => Parser.coupled_beyond beyond _ _,
    fun _ => Parser.coupled_beyond beyond _ _⟩

omit larger in
/-- Behind a place that starts behind the front, nothing is broken off. -/
theorem coupled_behind {rule rule' : Rule α} {filters : List (Filter Char)} {front : Nat}
    (before : front < start)
    (coupled : Parser.Coupled (further room room' start) filters rule rule') (cause : Halt) :
    Parser.Coupled (further room room' start) filters rule (behind cause front rule') := by
  rintro cursor _ session session' ⟨rfl, place⟩ shared
  have passed : ¬ cursor.position ≤ front := by omega
  unfold behind
  rw [if_neg passed]
  exact coupled _ _ _ _ ⟨rfl, place⟩ shared

omit larger in
theorem Rules.Coupled.behind {rules rules' : Rules} {front : Nat} (before : front < start)
    (coupled : Rules.Coupled room room' start rules rules') (cause : Halt) :
    Rules.Coupled room room' start rules (rules'.behind cause front) :=
  ⟨fun site => coupled_behind before (coupled.expression site) cause,
    fun site => coupled_behind before (coupled.unary site) cause,
    fun site => coupled_behind before (coupled.power site) cause⟩

/-- The rules are coupled with the rules of another depth, if both suffice for what is left of the
texts behind the place. -/
theorem rules_coupled (memoized : Bool) (depth : Nat) : ∀ depth' start, room < start + depth →
    room < start + depth' →
      Rules.Coupled room room' start (rules memoized depth) (rules memoized depth') := by
  induction depth with
  | zero => exact fun _ _ few _ => Rules.coupled_beyond few _ _
  | succ depth ih =>
    intro depth' start enough enough'
    cases depth' with
    | zero => exact Rules.coupled_beyond enough' _ _
    | succ depth' =>
      have inner := ih depth' (start + 1) (by omega) (by omega)
      refine ⟨fun site => ?_, fun site => inner.operand larger memoized site,
        fun site => inner.exponentiation larger memoized site⟩
      exact Coupled.chain larger _ (Coupled.chain larger _
        (inner.exponentiation larger memoized site))

/-- They are coupled with the watched rules too: behind its token every deferred parser is behind
all that it is nested in. -/
theorem rules_watched (memoized : Bool) (cause : Halt) (depth : Nat) : ∀ depth' start,
    room < start + depth → room < start + depth' →
      Rules.Coupled room room' start (rules memoized depth) (watched memoized cause depth') := by
  induction depth with
  | zero => exact fun _ _ few _ => Rules.coupled_beyond few _ _
  | succ depth ih =>
    intro depth' start enough enough'
    cases depth' with
    | zero => exact Rules.coupled_beyond enough' _ _
    | succ depth' =>
      have inner (front : Nat) (le : start ≤ front) :
          Rules.Coupled room room' (front + 1) (rules memoized depth)
            ((watched memoized cause depth').behind cause front) :=
        (ih depth' (front + 1) (by omega) (by omega)).behind (Nat.lt_succ_self _) cause
      refine ⟨fun site => ?_, fun site => ?_, fun site => ?_⟩
      · refine Coupled.located_further fun first le => ?_
        refine Coupled.chain larger _ (Coupled.chain larger _ ?_)
        refine Coupled.located_further fun front le' => ?_
        have both := ((ih depth' (front + 1) (by omega) (by omega)).behind
          (Nat.lt_succ_of_le le') cause).behind (Nat.lt_succ_self _) cause
        exact both.exponentiation larger memoized site
      · exact Coupled.located_further fun front le => (inner front le).operand larger memoized site
      · exact Coupled.located_further fun front le =>
          (inner front le).exponentiation larger memoized site

end Coupled

/-! Parsing with any rules and any room. -/

/-- What becomes of the answer of the rule `expression`: nothing may be left over. -/
def conclude : Answer → Answer
  | (.done expr rest, session) =>
    if rest.isAtEnd then (.done expr rest, summarize session)
    else (.fail (.unexpectedInput rest.position), summarize session)
  | (.fail error, session) => (.fail error, session)
  | (.halt cause, session) => (.halt cause, session)

end Calculator

/-- Parses all of a text by the given rules, with the given room for loops. -/
def Calculator.parseBy (calculator : Calculator) (rules : Calculator.Rules) (room : Nat)
    (source : String) : Calculator.Answer :=
  let cursor := Cursor.ofText source calculator.memoized
  Calculator.conclude ((Calculator.skipBlanks.inspect fun _ => rules.expression 0) cursor
    ((Calculator.start calculator.memoized cursor).withReach room))

namespace Calculator

theorem reach_start (table : Bool) (cursor : Cursor Char Bool) :
    (start table cursor).reach = cursor.extent := Nat.zero_max _

theorem parse_eq_parseBy (calculator : Calculator) (source : String) :
    calculator.parse source =
      calculator.parseBy (rules calculator.memoized (Text.byteLength source + 1))
        (Text.byteLength source) source := by
  have reach : (start calculator.memoized (Cursor.ofText source calculator.memoized)).withReach
      (Text.byteLength source) =
        start calculator.memoized (Cursor.ofText source calculator.memoized) := by
    rw [← Cursor.extent_ofText source calculator.memoized, ← reach_start calculator.memoized]
    rfl
  change _ = conclude ((skipBlanks.inspect fun _ =>
      (rules calculator.memoized (Text.byteLength source + 1)).expression 0)
    (Cursor.ofText source calculator.memoized)
    ((start calculator.memoized (Cursor.ofText source calculator.memoized)).withReach _))
  rw [reach, ← Cursor.extent_ofText source calculator.memoized]
  rfl

theorem conclude_withReach (reply : Reply (Cursor Char Bool) SyntaxError Expr)
    (session : Session Char Bool Recall) (room : Nat) :
    conclude (reply, session.withReach room) =
      ((conclude (reply, session)).1, (conclude (reply, session)).2.withReach room) := by
  have summary : summarize (session.withReach room) = (summarize session).withReach room := by
    unfold summarize
    have alike : (session.withReach room).table = session.table := rfl
    rw [alike]
    cases session.table <;> rfl
  cases reply with
  | done expr rest =>
    simp only [conclude, summary]
    split <;> rfl
  | fail error => rfl
  | halt cause => rfl

theorem start_onward (table : Bool) (cursor : Cursor Char Bool)
    (property : Cursor Char Bool → Prop) : (start table cursor).Onward property := by
  intro held present position entry member
  cases table with
  | false => cases present
  | true =>
    cases present
    rw [Memo.Table.bucket_empty] at member
    cases member

/-- Rules that are coupled parse alike, in any room that suffices. -/
theorem parseBy_of_coupled (calculator : Calculator) (source : String) {rules rules' : Rules}
    (larger : Text.byteLength source ≤ room)
    (coupled : Rules.Coupled (Text.byteLength source) room 0 rules rules') :
    calculator.parseBy rules' room source =
      ((calculator.parseBy rules (Text.byteLength source) source).1,
        (calculator.parseBy rules (Text.byteLength source) source).2.withReach room) := by
  let cursor := Cursor.ofText source calculator.memoized
  let session := start calculator.memoized cursor
  have whole : Parser.Coupled (further (Text.byteLength source) room 0) []
      (skipBlanks.inspect fun _ => rules.expression 0)
      (skipBlanks.inspect fun _ => rules'.expression 0) :=
    (coupled_skipBlanks larger).inspect fun _ => coupled.expression 0
  obtain ⟨paired, reach, same, kept⟩ := whole cursor cursor
    (session.withReach (Text.byteLength source)) (session.withReach room)
    ⟨rfl, Nat.le_of_eq (Cursor.extent_ofText ..), Nat.zero_le _⟩
    ⟨rfl, rfl, start_onward calculator.memoized cursor _⟩
  have reply := paired.eq fun _ _ ends => ends.place.1
  unfold parseBy
  rw [← conclude_withReach]
  exact congrArg conclude (Prod.ext reply.symm same)

/-! The loops. -/

/-- A loop over single characters makes no more rounds than positions are left, and one. -/
theorem repeats_many (ε : Type) (accepts : Char → Bool) (error : Text.TextError)
    {cursor : Cursor Char Bool} {session : Session Char Bool Recall} (bare : cursor.filters = [])
    (inside : cursor.extent ≤ session.reach) :
    ∃ n, n ≤ session.reach - cursor.position + 1 ∧
      Repeats (some .repetitionStalled)
        (maybe (satisfy accepts error) : Parser Char Bool Recall ε (Option Char)) cursor session n
        (many (satisfy accepts error) cursor session) := by
  have answers : Answers (fun later : Session Char Bool Recall => later.reach = session.reach)
      (many (satisfy accepts error) : Parser Char Bool Recall ε (List Char)) cursor
      (.done (cursor.ahead.takeWhile accepts) (cursor.skipWhile accepts)) :=
    answers_many_satisfy (fun _ same => same) bare inside
  have ends : (many (satisfy accepts error) cursor session :
      Reply _ ε (List Char) × Session Char Bool Recall).1 ≠ .halt .exhausted := by
    rw [(answers session rfl).1]
    exact nofun
  exact repeats_of_loop ends

/-- What a sum or a product chains, with deferred parsers inside deferred parsers up to `depth`. -/
def operandRule (memoized : Bool) (depth site : Nat) : Level → Rule Expr
  | .sum => (rules memoized depth).term memoized site
  | .product => (rules memoized depth).exponentiation memoized site

theorem follows_operandRule (source : String) (data memoized : Bool) (depth site : Nat)
    (level : Level) :
    Follows source data (depth + 1) level.operand (operandRule memoized depth site level) := by
  have power : Follows source data (depth + 1) Level.product.operand
      (operandRule memoized depth site .product) := (rules_follow memoized (depth + 1)).power site
  cases level with
  | sum => exact power.chain
  | product => exact power

/-- The loop of a chain makes no more rounds than positions are left, and one. -/
theorem repeats_chain {source : String} {data : Bool} (memoized : Bool) (site : Nat)
    (level : Level) {depth front : Nat} {cursor : Cursor Char Bool}
    {session : Session Char Bool Recall} {earlier}
    (inside : In source data cursor) (short : cursor.ahead.length ≤ depth)
    (before : front ≤ cursor.position) (recalls : Recalls source data front earlier session) :
    ∃ n, n ≤ session.reach - cursor.position + 1 ∧
      Repeats (some .loopStalled)
        ((peek (operator level.operators)).handle
          (fun _ => (andThen (operator level.operators)
            (operandRule memoized depth site level)).map some) fun _ => constant none)
        cursor session n
        (repeatWhile (peek (operator level.operators)) (andThen (operator level.operators)
          (operandRule memoized depth site level)) cursor session) := by
  have follows := follows_operandRule source data memoized depth site level
  refine repeats_of_loop fun exhausted => ?_
  have describes := (ensures_tail follows inside (Nat.lt_succ_of_le short) before session
    recalls).1 (.number 0 0)
  unfold repeatWhile rounds at describes
  rw [exhausted] at describes
  exact describes

/-- Parsing ends for every text, with and without a table. It is never broken off. However deep
deferred parsers may run inside each other and whatever room loops have, it answers the same if both
suffice for the bytes of the text; and it answers the same where a deferred parser is broken off
unless it starts behind the rules it is nested in. Wherever in the text they start, the loops over
blanks, digits and operators make at most one round for each byte left, and one. -/
theorem parse_ends (calculator : Calculator) (source : String) :
    (∀ cause, (calculator.parse source).1 ≠ .halt cause) ∧
    (∀ depth room, Text.byteLength source < depth → Text.byteLength source ≤ room →
      let answer := ((calculator.parse source).1, (calculator.parse source).2.withReach room)
      calculator.parseBy (rules calculator.memoized depth) room source = answer ∧
        ∀ cause,
          calculator.parseBy (watched calculator.memoized cause depth) room source = answer) ∧
    ∀ cursor session, In source calculator.memoized cursor →
      Recalls source calculator.memoized 0 (fun _ _ => none) session →
      (∃ n, cursor.position + n ≤ Text.byteLength source + 1 ∧
        Repeats (some .repetitionStalled) (maybe Text.whitespace : Rule (Option Char)) cursor
          session n (many Text.whitespace cursor session)) ∧
      (∃ n, cursor.position + n ≤ Text.byteLength source + 1 ∧
        Repeats (some .repetitionStalled) (maybe Text.digit : Lexeme (Option Char)) cursor
          session n (many Text.digit cursor session)) ∧
      ∀ level depth site, cursor.ahead.length ≤ depth →
        ∃ n, cursor.position + n ≤ Text.byteLength source + 1 ∧
          Repeats (some .loopStalled)
            ((peek (operator level.operators)).handle
              (fun _ => (andThen (operator level.operators)
                (operandRule calculator.memoized depth site level)).map some)
              fun _ => constant none)
            cursor session n
            (repeatWhile (peek (operator level.operators)) (andThen (operator level.operators)
              (operandRule calculator.memoized depth site level)) cursor session) := by
  refine ⟨?_, ?_, ?_⟩
  · intro cause halted
    rcases parse_verdict calculator source with ⟨expr, rest, done, _⟩ | ⟨error, fail, _⟩
    · rw [halted] at done
      cases done
    · rw [halted] at fail
      cases fail
  · intro depth room enough larger answer
    simp only [answer, parse_eq_parseBy]
    constructor
    · refine parseBy_of_coupled calculator source larger ?_
      exact rules_coupled larger _ _ _ _ (by omega) (by omega)
    · intro cause
      refine parseBy_of_coupled calculator source larger ?_
      exact rules_watched larger _ _ _ _ _ (by omega) (by omega)
  · intro cursor session inside recalls
    have extent : cursor.extent = Text.byteLength source :=
      inside.extent_eq.trans (Cursor.extent_ofText ..)
    have reach : session.reach = Text.byteLength source :=
      recalls.reach_eq.trans (Cursor.extent_ofText ..)
    have within := cursor.position_le_extent
    have fits : cursor.extent ≤ session.reach := by omega
    refine ⟨?_, ?_, fun level depth site short => ?_⟩
    · obtain ⟨n, few, repeats⟩ := repeats_many SyntaxError Text.isBlank .whitespaceExpected
        inside.bare fits
      exact ⟨n, by omega, repeats⟩
    · obtain ⟨n, few, repeats⟩ := repeats_many Text.TextError Text.isDigit .digitExpected
        inside.bare fits
      exact ⟨n, by omega, repeats⟩
    · obtain ⟨n, few, repeats⟩ := repeats_chain calculator.memoized site level inside short
        (Nat.zero_le _) recalls
      exact ⟨n, by omega, repeats⟩

end Calculator

end Packrat
