import Packrat.Proofs.Calculator.Ledger
import Packrat.Proofs.Memo.Contents
import Packrat.Proofs.Parser.Lockstep

/-! No operand is read twice. The rules come upon the operands of a text from left to right, each of
them starts behind the one before, and where one fails nothing is tried in its place. So the table
is never asked for an outcome that it has, and in the end it has one for every operand of the
tree. -/

namespace Packrat.Calculator

open Packrat.Parser

/-! What a rule adds to the ledger. -/

/-- From the cursor on, up to another one, these operands start. -/
structure Stretch (source : String) (memoized : Bool) (cursor : Cursor Char Bool)
    (more : List Nat) (rest : Cursor Char Bool) : Prop where
  inside : In source memoized rest
  forth : cursor.position ≤ rest.position
  fewer : rest.ahead.length ≤ cursor.ahead.length
  within : ∀ start ∈ more, cursor.position ≤ start ∧ start < rest.position

/-- With a value the operands of the value are in the ledger, with an error some operands from the
cursor on; and none of them is under way any longer. -/
def Adds {α : Type} (source : String) (memoized : Bool) (own : α → List Nat)
    (starts pending : List Nat) (cursor : Cursor Char Bool) :
    Reply (Cursor Char Bool) SyntaxError α → Session Char Bool Recall → Session Char Bool Recall →
      Prop
  | .done value rest, session, traced =>
    Stretch source memoized cursor (own value) rest ∧
      Ledger source memoized (starts ++ own value) pending session traced
  | .fail _, session, traced =>
    ∃ more, (∀ start ∈ more, cursor.position ≤ start) ∧
      Ledger source memoized (starts ++ more) pending session traced
  | .halt _, _, _ => False

/-- Behind all operands so far, and with fewer than `bound` characters ahead, the rule and the one
that notes starts stay in lockstep and add operands to the ledger. -/
def Keeps (source : String) (memoized : Bool) (bound : Nat) (rule traced : Rule Expr) : Prop :=
  ∀ cursor, In source memoized cursor → cursor.ahead.length < bound →
    ∀ starts pending, (∀ start ∈ starts, start < cursor.position) →
      Lockstep (Ledger source memoized starts pending) rule traced cursor
        (Adds source memoized Expr.operands starts pending cursor)

variable {source : String} {memoized : Bool} {starts pending more : List Nat} {bound : Nat}
  {cursor rest : Cursor Char Bool} {α β : Type} {own : α → List Nat} {own' : β → List Nat}

namespace Stretch

theorem refl (inside : In source memoized cursor) : Stretch source memoized cursor [] cursor :=
  ⟨inside, Nat.le_refl _, Nat.le_refl _, nofun⟩

theorem trans {more' : List Nat} {last : Cursor Char Bool}
    (first : Stretch source memoized cursor more rest)
    (second : Stretch source memoized rest more' last) :
    Stretch source memoized cursor (more ++ more') last := by
  refine ⟨second.inside, Nat.le_trans first.forth second.forth,
    Nat.le_trans second.fewer first.fewer, fun start member => ?_⟩
  rcases List.mem_append.mp member with member | member
  · have placed := first.within start member
    exact ⟨placed.1, Nat.lt_of_lt_of_le placed.2 second.forth⟩
  · have placed := second.within start member
    exact ⟨Nat.le_trans first.forth placed.1, placed.2⟩

/-- Operands behind the first cursor are behind the last one. -/
theorem before (stretch : Stretch source memoized cursor more rest)
    (behind : ∀ start ∈ starts, start < cursor.position) :
    ∀ start ∈ starts ++ more, start < rest.position := by
  intro start member
  rcases List.mem_append.mp member with member | member
  · exact Nat.lt_of_lt_of_le (behind start member) stretch.forth
  · exact (stretch.within start member).2

/-- A token with the blanks behind it, where no operand starts. -/
theorem token {c : Char} {left : List Char} (inside : In source memoized cursor)
    (ahead : cursor.ahead = c :: left) :
    Stretch source memoized cursor [] ((cursor.past c left).skipWhile Text.isBlank) where
  inside := inside.token ahead
  forth := Nat.le_of_lt (position_lt_token ..)
  fewer := by
    rw [ahead, List.length_cons]
    exact Nat.le_succ_of_le (ahead_token_le ..)
  within := nofun

/-- A token makes a stretch longer. -/
theorem past {c : Char} {left : List Char} (stretch : Stretch source memoized cursor more rest)
    (ahead : rest.ahead = c :: left) :
    Stretch source memoized cursor more ((rest.past c left).skipWhile Text.isBlank) := by
  have longer := stretch.trans (token stretch.inside ahead)
  rwa [List.append_nil] at longer

/-- A token with the blanks behind it, where an operand starts. -/
theorem opening {c : Char} {left : List Char} (inside : In source memoized cursor)
    (ahead : cursor.ahead = c :: left) :
    Stretch source memoized cursor [cursor.position]
      ((cursor.past c left).skipWhile Text.isBlank) :=
  { token inside ahead with
    within := by
      intro start member
      cases List.mem_singleton.mp member
      exact ⟨Nat.le_refl _, position_lt_token ..⟩ }

end Stretch

/-- What is added behind a stretch is added to what the stretch has. -/
theorem Adds.onward {reply : Reply (Cursor Char Bool) SyntaxError β}
    {session traced : Session Char Bool Recall}
    (adds : Adds source memoized own' (starts ++ more) pending rest reply session traced)
    (stretch : Stretch source memoized cursor more rest) {f : β → α}
    (split : ∀ value, own (f value) = more ++ own' value) :
    Adds source memoized own starts pending cursor (reply.map f) session traced := by
  rcases reply with ⟨value, last⟩ | error | cause
  · obtain ⟨further, ledger⟩ := adds
    rw [List.append_assoc, ← split] at ledger
    exact ⟨split value ▸ stretch.trans further, ledger⟩
  · obtain ⟨more', behind, ledger⟩ := adds
    refine ⟨more ++ more', fun start member => ?_, List.append_assoc .. ▸ ledger⟩
    rcases List.mem_append.mp member with member | member
    · exact (stretch.within start member).1
    · exact Nat.le_trans stretch.forth (behind start member)
  · exact adds

theorem Adds.ne_halt {reply : Reply (Cursor Char Bool) SyntaxError α} {cause : Halt}
    {session traced : Session Char Bool Recall}
    (adds : Adds source memoized own starts pending cursor reply session traced) :
    reply ≠ .halt cause := by
  rintro rfl
  exact adds

theorem Adds.exists_ledger {reply : Reply (Cursor Char Bool) SyntaxError α}
    {session traced : Session Char Bool Recall}
    (adds : Adds source memoized own starts pending cursor reply session traced) :
    ∃ begun, Ledger source memoized begun pending session traced := by
  rcases reply with ⟨value, rest⟩ | error | cause
  · exact ⟨_, adds.2⟩
  · obtain ⟨more, _, ledger⟩ := adds
    exact ⟨_, ledger⟩
  · exact adds.elim

/-- What is done to every ledger is done to the one with the operands added. -/
theorem Adds.update {reply : Reply (Cursor Char Bool) SyntaxError α} {pending' : List Nat}
    {session traced later later' : Session Char Bool Recall}
    (adds : Adds source memoized own starts pending cursor reply session traced)
    (update : ∀ begun, Ledger source memoized begun pending session traced →
      Ledger source memoized begun pending' later later') :
    Adds source memoized own starts pending' cursor reply later later' := by
  rcases reply with ⟨value, rest⟩ | error | cause
  · exact ⟨adds.1, update _ adds.2⟩
  · obtain ⟨more, behind, ledger⟩ := adds
    exact ⟨more, behind, update _ ledger⟩
  · exact adds

theorem In.roomy (inside : In source memoized cursor) (session traced : Session Char Bool Recall)
    (ledger : Ledger source memoized starts pending session traced) :
    cursor.extent ≤ session.reach ∧ cursor.extent ≤ traced.reach := by
  rw [ledger.roomy.1, ledger.roomy.2, inside.extent_eq]
  exact ⟨Nat.le_refl _, Nat.le_refl _⟩

theorem traceless_skipBlanks (inside : In source memoized cursor) :
    Traceless skipBlanks cursor (.done () (cursor.skipWhile Text.isBlank)) :=
  traceless_of_answers fun _ fits => answers_skipBlanks (fun _ same => congrArg _ same)
    inside.bare fits

theorem traceless_symbol {c : Char} {error : Nat → SyntaxError} {left : List Char}
    (inside : In source memoized cursor) (ahead : cursor.ahead = c :: left) :
    Traceless (symbol c error) cursor (.done cursor.position (cursor.past c left)) :=
  traceless_of_answers fun _ _ => answers_symbol inside.bare ahead

theorem missing_symbol {c : Char} {error : Nat → SyntaxError}
    (inside : In source memoized cursor) (lacks : cursor.place.Lacks c) :
    Traceless (symbol c error) cursor (.fail (error cursor.position)) :=
  traceless_of_answers fun _ _ => fails_symbol inside.bare lacks

theorem traceless_lookahead {c : Char} {error : Nat → SyntaxError} {left : List Char}
    (inside : In source memoized cursor) (ahead : cursor.ahead = c :: left) :
    Traceless ((symbol c error).peek.map fun _ => ()) cursor (.done () cursor) :=
  traceless_of_answers fun _ _ => answers_lookahead inside.bare ahead

theorem missing_lookahead {c : Char} {error : Nat → SyntaxError}
    (inside : In source memoized cursor) (lacks : cursor.place.Lacks c) :
    Traceless ((symbol c error).peek.map fun _ => ()) cursor (.fail (error cursor.position)) :=
  traceless_of_answers fun _ _ =>
    Answers.inspect_fail (Answers.peek_fail (fails_symbol inside.bare lacks))

theorem traceless_operator {operators : List BinaryOp} {op : BinaryOp} {left : List Char}
    (member : op ∈ operators) (inside : In source memoized cursor)
    (ahead : cursor.ahead = op.sign :: left) :
    Traceless (operator operators) cursor
      (.done (op, cursor.position) ((cursor.past op.sign left).skipWhile Text.isBlank)) :=
  traceless_of_answers fun _ fits => answers_operator (fun _ same => congrArg _ same) member
    inside.bare fits ahead

theorem missing_operator {operators : List BinaryOp} (some : operators ≠ [])
    (inside : In source memoized cursor)
    (lacks : ∀ op ∈ operators, cursor.place.Lacks op.sign) :
    Traceless (operator operators) cursor (.fail (.unexpectedInput cursor.position)) :=
  traceless_of_answers fun _ _ => fails_operator some inside.bare lacks

/-- Rules that are reached through deferred parsers. -/
theorem Keeps.deferred {rule traced : Nat → Rule Expr}
    (keeps : ∀ number, Keeps source memoized bound (rule number) (traced number)) (site : Nat)
    (turn : Turn) :
    Keeps source memoized bound (deferred rule site turn) (deferred traced site turn) := by
  intro cursor inside short starts pending before session session' ledger
  unfold Calculator.deferred
  rw [ledger.extra_eq]
  cases session.extra.find? site turn with
  | some number => exact keeps number cursor inside short starts pending before _ _ ledger
  | none => exact keeps _ cursor inside short starts pending before _ _ (ledger.build _)

/-! Chains and powers. -/

/-- The operands of operators with operands behind them. -/
def operandsIn (rest : List ((BinaryOp × Nat) × Expr)) : List Nat :=
  rest.flatMap fun step => step.2.operands

/-- A round in the loop of a chain: an operand behind an operator, if there is an operator. -/
def round (operators : List BinaryOp) (operand : Rule Expr) :
    Rule (Option ((BinaryOp × Nat) × Expr)) :=
  (peek (operator operators)).handle (fun _ => (andThen (operator operators) operand).map some)
    fun _ => constant none

/-- With an operator ahead a round adds the operands of the one behind it. -/
theorem lockstep_round {operators : List BinaryOp} {operand traced : Rule Expr}
    {op : BinaryOp} {left : List Char} (keeps : Keeps source memoized bound operand traced)
    (inside : In source memoized cursor) (short : left.length < bound)
    (before : ∀ start ∈ starts, start < cursor.position) (member : op ∈ operators)
    (ahead : cursor.ahead = op.sign :: left) :
    let next := (cursor.past op.sign left).skipWhile Text.isBlank
    Lockstep (Ledger source memoized starts pending) (round operators operand)
      (round operators traced) cursor fun reply session session' => ∃ read,
        reply = read.map (fun right => some ((op, cursor.position), right)) ∧
          Adds source memoized Expr.operands starts pending next read session session' := by
  intro next
  have sign : Traceless (operator operators) cursor (.done (op, cursor.position) next) :=
    traceless_operator member inside ahead
  have token : Stretch source memoized cursor [] next := .token inside ahead
  refine Traceless.handle_done inside.roomy sign.peek_done (Lockstep.map ?_)
  refine Traceless.handle_done inside.roomy sign (Lockstep.map ?_)
  refine (keeps next token.inside ?_ starts pending fun start begun => ?_).weaken ?_
  · exact Nat.lt_of_le_of_lt (ahead_token_le ..) short
  · exact Nat.lt_of_lt_of_le (before start begun) token.forth
  · exact fun reply _ _ adds => ⟨reply, by cases reply <;> rfl, adds⟩

/-- Without an operator ahead a round ends the loop. -/
theorem lockstep_round_end {operators : List BinaryOp} {operand traced : Rule Expr}
    (some : operators ≠ []) (inside : In source memoized cursor)
    (lacks : ∀ op ∈ operators, cursor.place.Lacks op.sign) :
    Lockstep (Ledger source memoized starts pending) (round operators operand)
      (round operators traced) cursor fun reply session session' =>
        reply = .done none cursor ∧ Ledger source memoized starts pending session session' :=
  (missing_operator some inside lacks).peek_fail.handle_fail inside.roomy
    (lockstep_constant fun _ _ ledger => ⟨rfl, ledger⟩)

theorem lockstep_tail {level : Level} {operand traced : Rule Expr}
    (keeps : Keeps source memoized bound operand traced) (inside : In source memoized cursor)
    (short : cursor.ahead.length < bound) (before : ∀ start ∈ starts, start < cursor.position) :
    Lockstep (Ledger source memoized starts pending)
      (rounds (some .loopStalled) (round level.operators operand))
      (rounds (some .loopStalled) (round level.operators traced))
      cursor (Adds source memoized operandsIn starts pending cursor) := by
  -- Every round takes an operator and an operand, so what is ahead of the next one is shorter.
  induction size : cursor.ahead.length using Nat.strongRecOn generalizing cursor starts with
  | ind size ih =>
  by_cases found : ∃ op ∈ level.operators, ∃ left, cursor.ahead = op.sign :: left
  · obtain ⟨op, member, left, ahead⟩ := found
    have token := Stretch.token inside ahead
    have after := position_lt_token cursor op.sign left
    have fewer := ahead_token_le cursor op.sign left
    have longer : cursor.ahead.length = left.length + 1 := by rw [ahead, List.length_cons]
    refine Lockstep.rounds (lockstep_round keeps inside (by omega) before member ahead)
      (fun _ _ ledger => ledger.roomy) ?_ ?_ ?_ ?_ ?_
    · rintro rest session session' ⟨_ | _ | _, same, _⟩ <;> cases same
    · rintro v rest session session' ⟨⟨right, _⟩ | _ | _, same, adds⟩ <;> cases same
      obtain ⟨stretch, ledger⟩ := adds
      refine ⟨Nat.lt_of_lt_of_le after stretch.forth, ?_, ledger.roomy⟩
      exact stretch.inside.extent_eq ▸ rest.position_le_extent
    · rintro v rest session session' ⟨⟨right, _⟩ | _ | _, same, adds⟩ <;> cases same
      obtain ⟨stretch, ledger⟩ := adds
      have passed := token.trans stretch
      have few := stretch.fewer
      obtain ⟨same, adds⟩ := ih rest.ahead.length (by omega) stretch.inside (by omega)
        (passed.before before) rfl session session' ledger
      exact ⟨same, adds.ne_halt, adds.onward passed fun _ => rfl⟩
    · rintro error session session' ⟨_ | _ | _, same, adds⟩ <;> cases same
      obtain ⟨more, behind, ledger⟩ := adds
      exact ⟨more, fun start begun => Nat.le_trans token.forth (behind start begun), ledger⟩
    · rintro cause session session' ⟨_ | _ | _, same, adds⟩ <;> cases same
      exact adds
  · have lacks : ∀ op ∈ level.operators, cursor.place.Lacks op.sign := by
      intro op member
      refine (cursor.place.ahead_or_lacks op.sign).resolve_left ?_
      exact fun ahead => found ⟨op, member, ahead⟩
    refine Lockstep.rounds (lockstep_round_end level.operators_ne_nil inside lacks)
      (fun _ _ ledger => ledger.roomy) ?_ ?_ ?_ ?_ ?_
    · rintro rest session session' ⟨⟨⟩, ledger⟩
      exact ⟨.refl inside, (List.append_nil starts).symm ▸ ledger⟩
    · rintro v rest session session' ⟨⟨⟩, _⟩
    · rintro v rest session session' ⟨⟨⟩, _⟩
    · rintro error session session' ⟨⟨⟩, _⟩
    · rintro cause session session' ⟨⟨⟩, _⟩

theorem Keeps.chain {operand traced : Rule Expr} (level : Level)
    (keeps : Keeps source memoized bound operand traced) :
    Keeps source memoized bound (chain level.operators operand)
      (chain level.operators traced) := by
  intro cursor inside short starts pending before
  refine (keeps cursor inside short starts pending before).inspect ?_ (fun _ _ _ => id)
    fun _ _ _ => id
  refine fun first rest => Lockstep.of_and fun stretch => Lockstep.map ?_
  have fewer := stretch.fewer
  refine (lockstep_tail keeps stretch.inside (by omega) (stretch.before before)).weaken ?_
  exact fun reply _ _ adds => adds.onward stretch (operands_joinLeft first)

theorem Keeps.raised {base exponent base' exponent' : Rule Expr}
    (keeps : Keeps source memoized (bound + 1) base base')
    (behind : Keeps source memoized bound exponent exponent') :
    Keeps source memoized (bound + 1) (raised base exponent) (raised base' exponent') := by
  intro cursor inside short starts pending before
  refine (keeps cursor inside short starts pending before).inspect ?_ (fun _ _ _ => id)
    fun _ _ _ => id
  refine fun left rest => Lockstep.of_and fun stretch => Lockstep.map ?_
  have fewer := stretch.fewer
  suffices Lockstep (Ledger source memoized (starts ++ left.operands) pending)
      ((operator [.power]).softSequence exponent placed)
      ((operator [.power]).softSequence exponent' placed)
      rest (Adds source memoized operandsOf? (starts ++ left.operands) pending rest) from
    this.weaken fun reply _ _ adds => adds.onward stretch (operands_raise left)
  rcases rest.place.ahead_or_lacks '^' with ⟨more, ahead⟩ | lacks
  · have token := Stretch.token stretch.inside ahead
    have few := ahead_token_le rest '^' more
    have longer : rest.ahead.length = more.length + 1 := by
      rw [show rest.ahead = '^' :: more from ahead, List.length_cons]
    have sign : Traceless (operator [.power]) rest
        (.done (.power, rest.position) ((rest.past '^' more).skipWhile Text.isBlank)) :=
      traceless_operator List.mem_cons_self stretch.inside ahead
    refine sign.handle_done (In.roomy stretch.inside) (Lockstep.map ?_)
    refine (behind _ token.inside (by omega) _ pending ?_).weaken ?_
    · exact (stretch.past ahead).before before
    · exact fun reply _ _ adds => Adds.onward (by rwa [List.append_nil]) token fun _ => rfl
  · refine (missing_operator (List.cons_ne_nil _ _) stretch.inside ?_).handle_fail
      (In.roomy stretch.inside) (lockstep_constant fun _ _ ledger => ?_)
    · intro op member
      cases List.mem_singleton.mp member
      exact lacks
    · exact ⟨.refl stretch.inside, (List.append_nil _).symm ▸ ledger⟩

/-! Operands. While one is under way its start is in the ledger already. -/

section Body

variable {inner inner' : Rules} (inside : In source memoized cursor)
  (short : cursor.ahead.length ≤ bound) (before : ∀ start ∈ starts, start < cursor.position)
include inside

theorem lockstep_opening {c : Char} {error : Nat → SyntaxError} {left : List Char}
    {next next' : Nat → Rule Expr} (ahead : cursor.ahead = c :: left)
    (onward : Lockstep (Ledger source memoized (starts ++ [cursor.position]) pending)
      (next cursor.position) (next' cursor.position)
      ((cursor.past c left).skipWhile Text.isBlank)
      (Adds source memoized Expr.operands starts pending cursor)) :
    Lockstep (Ledger source memoized (starts ++ [cursor.position]) pending)
      ((symbol c error).inspect fun position => skipBlanks.inspect fun _ => next position)
      ((symbol c error).inspect fun position => skipBlanks.inspect fun _ => next' position)
      cursor (Adds source memoized Expr.operands starts pending cursor) :=
  (traceless_symbol inside ahead).handle_done inside.roomy
    ((traceless_skipBlanks (inside.past ahead)).handle_done (In.roomy (inside.past ahead)) onward)

include short before

theorem lockstep_negation {left : List Char}
    (unary : ∀ number, Keeps source memoized bound (inner.unary number) (inner'.unary number))
    (ahead : cursor.ahead = '-' :: left) (site : Nat) :
    Lockstep (Ledger source memoized (starts ++ [cursor.position]) pending)
      (inner.negation site) (inner'.negation site) cursor
      (Adds source memoized Expr.operands starts pending cursor) := by
  have minus := Stretch.opening inside ahead
  have fewer := ahead_token_le cursor '-' left
  have longer : cursor.ahead.length = left.length + 1 := by rw [ahead, List.length_cons]
  refine lockstep_opening inside ahead (Lockstep.map ?_)
  refine (Keeps.deferred unary site .negation _ minus.inside (by omega) _ pending
    (minus.before before)).weaken ?_
  exact fun reply _ _ adds => adds.onward minus fun _ => rfl

theorem lockstep_group {left : List Char}
    (expression : ∀ number,
      Keeps source memoized bound (inner.expression number) (inner'.expression number))
    (ahead : cursor.ahead = '(' :: left) (site : Nat) :
    Lockstep (Ledger source memoized (starts ++ [cursor.position]) pending)
      (inner.group site) (inner'.group site) cursor
      (Adds source memoized Expr.operands starts pending cursor) := by
  have opened := Stretch.opening inside ahead
  have fewer := ahead_token_le cursor '(' left
  have longer : cursor.ahead.length = left.length + 1 := by rw [ahead, List.length_cons]
  refine lockstep_opening inside ahead ?_
  refine (Keeps.deferred expression site .group _ opened.inside (by omega) _ pending
    (opened.before before)).inspect ?_ ?_ fun _ _ _ => id
  · refine fun expr next => Lockstep.of_and fun stretch => ?_
    have passed : Stretch source memoized cursor (cursor.position :: expr.operands) next :=
      opened.trans stretch
    have begun : starts ++ [cursor.position] ++ expr.operands =
        starts ++ (Expr.group expr cursor.position).operands := List.append_assoc ..
    rcases next.place.ahead_or_lacks ')' with ⟨last, closed⟩ | lacks
    · have rest := stretch.inside.past closed
      refine (traceless_symbol stretch.inside closed).handle_done (In.roomy stretch.inside) ?_
      refine (traceless_skipBlanks rest).handle_done (In.roomy rest) (lockstep_constant ?_)
      exact fun _ _ ledger => ⟨passed.past closed, begun ▸ ledger⟩
    · refine (missing_symbol stretch.inside lacks).handle_fail (In.roomy stretch.inside)
        (lockstep_failWith ?_)
      exact fun _ _ ledger => ⟨_, fun start member => (passed.within start member).1,
        begun ▸ ledger⟩
  · exact fun error _ _ adds => adds.onward (f := (Expr.group · cursor.position)) opened
      fun _ => rfl

theorem lockstep_atom
    (expression : ∀ number,
      Keeps source memoized bound (inner.expression number) (inner'.expression number))
    (site : Nat) :
    Lockstep (Ledger source memoized (starts ++ [cursor.position]) pending)
      (inner.atom site) (inner'.atom site) cursor
      (Adds source memoized Expr.operands starts pending cursor) := by
  rcases cursor.place.ahead_or_lacks '(' with ⟨left, ahead⟩ | lacks
  · exact (traceless_lookahead inside ahead).handle_done inside.roomy
      (lockstep_group inside short before expression ahead site)
  · refine (missing_lookahead inside lacks).handle_fail inside.roomy ?_
    obtain ⟨reply, describes, answers⟩ := exists_answers_literal inside lacks
    have number := traceless_of_answers fun session fits =>
      answers _ session.reach fits fun _ same => congrArg _ same
    refine number.lockstep inside.roomy fun session session' ledger => ?_
    rcases reply with ⟨expr, rest⟩ | error | cause
    · obtain ⟨within, read⟩ := describes
      have moved : cursor.position < rest.position := read.moves
      refine ⟨⟨within, Nat.le_of_lt moved, read.advances.2, ?_⟩, read.operands_eq lacks ▸ ledger⟩
      rw [read.operands_eq lacks]
      rintro start member
      cases List.mem_singleton.mp member
      exact ⟨Nat.le_refl _, moved⟩
    · exact ⟨[cursor.position], by simp, ledger⟩
    · exact describes

end Body

/-! The table has nothing where an operand is under way, so its outcome is stored there. -/

theorem lockstep_memoize {parser traced : Rule Expr} (inside : In source true cursor)
    (outside : cursor.position ∉ pending)
    (body : Lockstep (Ledger source true (starts ++ [cursor.position]) (cursor.position :: pending))
      parser traced cursor
      (Adds source true Expr.operands starts (cursor.position :: pending) cursor)) :
    Lockstep (Ledger source true (starts ++ [cursor.position]) (cursor.position :: pending))
      (memoize id (.named "unary") false parser) (memoize id (.named "unary") false traced) cursor
      (Adds source true Expr.operands starts pending cursor) := by
  intro session session' ledger
  obtain ⟨table, shared⟩ := Option.isSome_iff_exists.mp ledger.live
  have shared' := ledger.table_eq.trans shared
  have absent := Memo.Table.find?_of_vacant (ledger.vacant shared List.mem_cons_self)
    (.named "unary")
  have reached : id cursor.data = true := inside.data_eq
  rw [memoize_of_nothing reached ⟨table, shared⟩
      ((Session.recalled_of_table shared ..).trans absent),
    memoize_of_nothing reached ⟨table, shared'⟩
      ((Session.recalled_of_table shared' ..).trans absent)]
  obtain ⟨same, adds⟩ := body session session' ledger
  obtain ⟨outcome, answer⟩ := (Reply.outcome_or_halt (parser cursor session).1).resolve_right
    fun ⟨_, halted⟩ => adds.ne_halt halted
  obtain ⟨begun, later⟩ := adds.exists_ledger
  obtain ⟨held, kept⟩ := Option.isSome_iff_exists.mp later.live
  have accepted := Memo.Table.store_of_vacant (later.vacant kept List.mem_cons_self)
    (.named "unary") cursor.type outcome
  rw [runAndStore_of_store (Prod.ext answer rfl) kept accepted,
    runAndStore_of_store (Prod.ext (same.symm.trans answer) rfl) (later.table_eq.trans kept)
      accepted]
  exact ⟨rfl, answer ▸ adds.update fun _ ledger => ledger.store kept outside accepted⟩

theorem Keeps.operand {inner inner' : Rules}
    (expression : ∀ number,
      Keeps source memoized bound (inner.expression number) (inner'.expression number))
    (unary : ∀ number, Keeps source memoized bound (inner.unary number) (inner'.unary number))
    (site : Nat) :
    Keeps source memoized (bound + 1) (inner.operand memoized site)
      (noting (inner'.operand memoized site)) := by
  intro cursor inside short starts pending before session session' ledger
  have outside : cursor.position ∉ pending := fun member =>
    Nat.lt_irrefl _ (before _ (ledger.pending_subset member))
  have body : Lockstep
      (Ledger source memoized (starts ++ [cursor.position]) (cursor.position :: pending))
      (inner.operand false site) (inner'.operand false site) cursor
      (Adds source memoized Expr.operands starts (cursor.position :: pending) cursor) := by
    rcases cursor.place.ahead_or_lacks '-' with ⟨left, ahead⟩ | lacks
    · exact (traceless_lookahead inside ahead).handle_done inside.roomy
        (lockstep_negation inside (Nat.le_of_lt_succ short) before unary ahead site)
    · refine (missing_lookahead inside lacks).handle_fail inside.roomy ?_
      exact lockstep_atom inside (Nat.le_of_lt_succ short) before expression site
  have entered := ledger.enter before
  cases memoized with
  | false =>
    obtain ⟨same, adds⟩ := body session _ entered
    exact ⟨same, adds.update fun _ => Ledger.settle⟩
  | true => exact lockstep_memoize inside outside body session _ entered

structure Rules.Keep (source : String) (memoized : Bool) (bound : Nat) (rules traced : Rules) :
    Prop where
  expression : ∀ site, Keeps source memoized bound (rules.expression site) (traced.expression site)
  unary : ∀ site, Keeps source memoized bound (rules.unary site) (traced.unary site)
  power : ∀ site, Keeps source memoized bound (rules.power site) (traced.power site)

theorem rules_keep : ∀ depth,
    (rules memoized depth).Keep source memoized depth (rulesAround noting memoized depth)
  | 0 => ⟨fun _ _ _ => nofun, fun _ _ _ => nofun, fun _ _ _ => nofun⟩
  | depth + 1 => by
    have inner : (rules memoized depth).Keep source memoized depth
      (rulesAround noting memoized depth) := rules_keep depth
    have unary (site : Nat) : Keeps source memoized (depth + 1)
        ((rules memoized depth).operand memoized site)
        (noting ((rulesAround noting memoized depth).operand memoized site)) :=
      .operand inner.expression inner.unary site
    have power (site : Nat) : Keeps source memoized (depth + 1)
        ((rules memoized depth).exponentiation memoized site)
        ((rulesAround noting memoized (depth + 1)).power site) :=
      .raised (unary site) (.deferred inner.power site .exponent)
    exact ⟨fun site => .chain .sum (.chain .product (power site)), unary, power⟩

/-- A whole parse and the one that notes starts. -/
theorem opening_adds (calculator : Calculator) (source : String) :
    (calculator.opening source).1 = (calculator.openingAround noting source).1 ∧
      Adds source calculator.memoized Expr.operands [] []
        ((Cursor.ofText source calculator.memoized).skipWhile Text.isBlank)
        (calculator.opening source).1 (calculator.opening source).2
        (calculator.openingAround noting source).2 := by
  have home : In source calculator.memoized (Cursor.ofText source calculator.memoized) := .refl _
  have fewer := length_ahead_le_extent
    ((Cursor.ofText source calculator.memoized).skipWhile Text.isBlank)
  rw [Cursor.extent_skipWhile] at fewer
  have whole := (rules_keep _).expression 0 _ (home.skip _) (Nat.lt_succ_of_le fewer) [] [] nofun
  exact (traceless_skipBlanks home).handle_done home.roomy whole _ _
    (ledger_start source calculator.memoized)

theorem Adds.conclude {reply : Reply (Cursor Char Bool) SyntaxError Expr}
    {session traced : Session Char Bool Recall}
    (adds : Adds source memoized Expr.operands [] [] cursor reply session traced) :
    ∃ starts, (conclude (reply, session)).1 = (Calculator.conclude (reply, traced)).1 ∧
      Ledger source memoized starts [] (Calculator.conclude (reply, session)).2
        (Calculator.conclude (reply, traced)).2 ∧
      ∀ expr rest, reply = .done expr rest → starts = expr.operands := by
  rcases reply with ⟨value, rest⟩ | error | cause
  · refine ⟨value.operands, ?_⟩
    have ledger := adds.2.summarize
    simp only [Calculator.conclude]
    split <;> exact ⟨rfl, ledger, by rintro _ _ ⟨⟩; rfl⟩
  · obtain ⟨more, _, ledger⟩ := adds
    exact ⟨more, rfl, ledger, by rintro _ _ ⟨⟩⟩
  · exact adds.elim

/-- A parse and the one that notes starts, to their ends. -/
theorem exists_ledger (calculator : Calculator) (source : String) :
    ∃ starts, (calculator.parse source).1 = (calculator.tracedParse source).1 ∧
      Ledger source calculator.memoized starts [] (calculator.parse source).2
        (calculator.tracedParse source).2 ∧
      ∀ expr rest, (calculator.opening source).1 = .done expr rest → starts = expr.operands := by
  obtain ⟨same, adds⟩ := opening_adds calculator source
  rw [parse_eq_conclude, tracedParse]
  generalize calculator.opening source = answer, calculator.openingAround noting source = answer'
    at same adds ⊢
  obtain ⟨reply, session⟩ := answer
  obtain ⟨reply', traced⟩ := answer'
  cases same
  exact adds.conclude

/-- No operand of any text is read twice. With a table no lookup hits, no bucket has two entries,
and where an expression is read, be it all of the text or not, the table has one entry for each
operand of its tree, at the place of the operand, and no other. With a table or without, a parse
that notes where operands are read is the parse, but for the notes; they come in the order of the
text, one for each operand of the tree that is read. -/
theorem operands_read_once (source : String) :
    (∀ key position, .memoHit key position ∉ (Calculator.parse ⟨true⟩ source).2.log) ∧
    (∃ table, (Calculator.parse ⟨true⟩ source).2.table = some table ∧
      (∀ position, table.bucketSize position ≤ 1) ∧
      ∀ expr rest, (Calculator.opening ⟨true⟩ source).1 = .done expr rest →
        table.occupancy = expr.operands.map fun position => (position, 1)) ∧
    ∀ calculator : Calculator,
      ((calculator.tracedParse source).1, untraced (calculator.tracedParse source).2) =
        calculator.parse source ∧
      (startsIn (calculator.tracedParse source).2.log).Pairwise (· < ·) ∧
      ∀ expr rest, (calculator.opening source).1 = .done expr rest →
        startsIn (calculator.tracedParse source).2.log = expr.operands := by
  obtain ⟨starts, _, ledger, whole⟩ := exists_ledger ⟨true⟩ source
  refine ⟨ledger.missed, ?_, fun calculator => ?_⟩
  · obtain ⟨table, shared⟩ := Option.isSome_iff_exists.mp ledger.live
    refine ⟨table, shared, ledger.bucketSize_le shared, fun expr rest done => ?_⟩
    cases whole expr rest done
    exact Memo.Table.occupancy_eq_map ledger.ascending fun position => by
      simpa using ledger.stored table shared position
  · obtain ⟨starts, same, ledger, whole⟩ := exists_ledger calculator source
    rw [ledger.starts_eq]
    exact ⟨Prod.ext same.symm ledger.untraced_eq, ledger.ascending, whole⟩

end Packrat.Calculator
