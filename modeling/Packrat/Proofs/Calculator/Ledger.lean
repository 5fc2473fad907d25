import Packrat.Proofs.Calculator.Reentry

/-! Where operands are read. Beside every parse there is one that notes the start of each operand in
its log; a ledger keeps what both have come to. An operand is entered in it where it starts, and
settled when its outcome is known: then the table has it, if there is one. -/

namespace Packrat

/-- The positions where the operands of an expression start, in the order of the text: its numbers,
its minuses and its groups. -/
def Calculator.Expr.operands : Expr → List Nat
  | number _ position => [position]
  | binary _ left right _ => left.operands ++ right.operands
  | negation operand position => position :: operand.operands
  | group inner position => position :: inner.operands

namespace Calculator

theorem operands_joinLeft (first : Expr) (rest : List ((BinaryOp × Nat) × Expr)) :
    (joinLeft first rest).operands =
      first.operands ++ rest.flatMap fun step => step.2.operands := by
  induction rest generalizing first with
  | nil => simp [joinLeft]
  | cons step rest ih =>
    have joined := ih (.binary step.1.1 first step.2 step.1.2)
    simp only [joinLeft] at joined
    simp [joinLeft, joined, Expr.operands]

theorem Reads.operands_eq (reads : Reads .atom place (.ok (expr, next)))
    (lacks : place.Lacks '(') : expr.operands = [place.offset] := by
  cases reads with
  | number numeral => rfl
  | group ahead => exact absurd ahead lacks.not_ahead

/-! The rules with their operands observed. -/

/-- An operand with its exponent, if there is one. -/
def raise (base : Expr) : Option (Nat × Expr) → Expr
  | some (position, right) => .binary .power base right position
  | none => base

def operandsOf? (exponent? : Option (Nat × Expr)) : List Nat :=
  exponent?.elim [] fun exponent => exponent.2.operands

theorem operands_raise (base : Expr) (exponent? : Option (Nat × Expr)) :
    (raise base exponent?).operands = base.operands ++ operandsOf? exponent? := by
  rcases exponent? with _ | ⟨position, right⟩ <;> simp [raise, operandsOf?, Expr.operands]

/-- The exponent behind an operator, with the place of the operator. -/
def placed (operator : BinaryOp × Nat) (right : Expr) : Nat × Expr := (operator.2, right)

/-- A power, of what stands for the operand and for the exponent. -/
def raised (base exponent : Rule Expr) : Rule Expr :=
  Parser.pair base ((operator [.power]).softSequence exponent placed) raise

/-- The rules, with something done around every occurrence of the rule of operands. -/
def rulesAround (around : Rule Expr → Rule Expr) (memoized : Bool) : (depth : Nat) → Rules
  | 0 => rules memoized 0
  | depth + 1 =>
    let inner := rulesAround around memoized depth
    let unary (site : Nat) : Rule Expr := around (inner.operand memoized site)
    let power (site : Nat) : Rule Expr := raised (unary site) (deferred inner.power site .exponent)
    ⟨fun site => chain [.add, .subtract] (chain [.multiply, .divide] (power site)), unary, power⟩

/-- The line that tells of the start of an operand. No rule replaces failures, so the event is free
for it. -/
def started (position : Nat) : Event := .failureReplaced (.named "unary") position

def startOf? : Event → Option Nat
  | .failureReplaced _ position => some position
  | _ => none

/-- The starts that a log tells of, first one first. -/
def startsIn (log : List Event) : List Nat := (log.filterMap startOf?).reverse

def untraced (session : Session Char Bool Recall) : Session Char Bool Recall :=
  { session with log := session.log.filter fun event => (startOf? event).isNone }

/-- The rule, with its start noted before it runs. -/
def noting (rule : Rule Expr) : Rule Expr := fun cursor session =>
  rule cursor (session.note (started cursor.position))

/-- Blanks and the rule `expression`, from the start of a text. What follows is left over. -/
def opening (calculator : Calculator) (source : String) : Answer :=
  let cursor := Cursor.ofText source calculator.memoized
  (skipBlanks.inspect fun _ => calculator.expression cursor.extent) cursor
    (start calculator.memoized cursor)

theorem parse_eq_conclude (calculator : Calculator) (source : String) :
    calculator.parse source = conclude (calculator.opening source) := rfl

/-- Blanks and the rule `expression`, with something done around every occurrence of the rule of
operands. -/
def openingAround (around : Rule Expr → Rule Expr) (calculator : Calculator) (source : String) :
    Answer :=
  let cursor := Cursor.ofText source calculator.memoized
  let rules := rulesAround around calculator.memoized (cursor.extent + 1)
  (skipBlanks.inspect fun _ => rules.expression 0) cursor (start calculator.memoized cursor)

/-- Parses all of a text as one expression and notes where operands are read. -/
def tracedParse (calculator : Calculator) (source : String) : Answer :=
  conclude (calculator.openingAround noting source)

/-! What is known of a parse under way and of the one that notes the starts beside it. -/

/-- The sessions of a parse and of the one that notes starts. The operands at `starts` are under way
or read, from left to right; those in `pending` are under way. Of those that are read the table has
one entry each, and nothing else. -/
structure Ledger (source : String) (memoized : Bool) (starts pending : List Nat)
    (session traced : Session Char Bool Recall) : Prop where
  reach_eq : session.reach = (Cursor.ofText source memoized).extent
  untraced_eq : untraced traced = session
  missed : ∀ key position, .memoHit key position ∉ session.log
  starts_eq : startsIn traced.log = starts
  ascending : starts.Pairwise (· < ·)
  pending_subset : pending ⊆ starts
  live : session.table.isSome = memoized
  stored : ∀ table, session.table = some table → ∀ position : Nat,
    (table.buckets[position]?).map (fun held => held.entries.length) =
      if position ∈ starts ∧ position ∉ pending then some 1 else none

section Logs

variable (position : Nat) (session : Session Char Bool Recall) (event : Event)

@[simp] theorem startsIn_started (log : List Event) :
    startsIn (started position :: log) = startsIn log ++ [position] := by
  simp [startsIn, startOf?, started]

theorem startsIn_cons (other : startOf? event = none) (log : List Event) :
    startsIn (event :: log) = startsIn log := by
  simp [startsIn, other]

@[simp] theorem untraced_started :
    untraced (session.note (started position)) = untraced session := by
  simp [untraced, Session.note, startOf?, started]

theorem untraced_note (other : startOf? event = none) :
    untraced (session.note event) = (untraced session).note event := by
  simp [untraced, Session.note, other]

end Logs

section Ledger

variable {source : String} {memoized : Bool} {starts pending : List Nat}
  {session traced : Session Char Bool Recall} {cursor : Cursor Char Bool}

theorem ledger_start (source : String) (memoized : Bool) :
    Ledger source memoized [] [] (start memoized (Cursor.ofText source memoized))
      (start memoized (Cursor.ofText source memoized)) where
  reach_eq := reach_start ..
  untraced_eq := rfl
  missed := nofun
  starts_eq := rfl
  ascending := .nil
  pending_subset := List.nil_subset _
  live := by cases memoized <;> rfl
  stored := by
    intro table shared position
    cases memoized with
    | false => cases shared
    | true =>
      cases shared
      simp [Memo.Table.empty]

namespace Ledger

theorem table_eq (ledger : Ledger source memoized starts pending session traced) :
    traced.table = session.table := by
  rw [← ledger.untraced_eq]
  rfl

theorem extra_eq (ledger : Ledger source memoized starts pending session traced) :
    traced.extra = session.extra := by
  rw [← ledger.untraced_eq]
  rfl

theorem roomy (ledger : Ledger source memoized starts pending session traced) :
    session.reach = (Cursor.ofText source memoized).extent ∧
      traced.reach = (Cursor.ofText source memoized).extent :=
  ⟨ledger.reach_eq, (congrArg Session.reach ledger.untraced_eq).trans ledger.reach_eq⟩

/-- Any other event but a hit may be noted. -/
theorem note (ledger : Ledger source memoized starts pending session traced) {event : Event}
    (other : startOf? event = none) (miss : ∀ key position, event ≠ .memoHit key position) :
    Ledger source memoized starts pending (session.note event) (traced.note event) :=
  { ledger with
    untraced_eq := by rw [untraced_note _ _ other, ledger.untraced_eq]
    missed := by
      intro key position member
      rcases List.mem_cons.mp member with same | member
      · exact miss key position same.symm
      · exact ledger.missed key position member
    starts_eq := (startsIn_cons _ other _).trans ledger.starts_eq }

theorem build (ledger : Ledger source memoized starts pending session traced) (sites : Sites) :
    Ledger source memoized starts pending { session.note .deferredBuilt with extra := sites }
      { traced.note .deferredBuilt with extra := sites } :=
  have noted : Ledger source memoized starts pending (session.note .deferredBuilt)
      (traced.note .deferredBuilt) := ledger.note rfl nofun
  { noted with untraced_eq := congrArg ({ · with extra := sites }) noted.untraced_eq }

theorem summarize (ledger : Ledger source memoized starts pending session traced) :
    Ledger source memoized starts pending (summarize session) (Calculator.summarize traced) := by
  unfold Calculator.summarize
  rw [ledger.table_eq]
  cases session.table with
  | none => exact ledger
  | some table => exact ledger.note rfl nofun

/-- An operand that starts behind all others is under way from its start on. -/
theorem enter (ledger : Ledger source memoized starts pending session traced) {position : Nat}
    (before : ∀ start ∈ starts, start < position) :
    Ledger source memoized (starts ++ [position]) (position :: pending) session
      (traced.note (started position)) where
  reach_eq := ledger.reach_eq
  untraced_eq := (untraced_started ..).trans ledger.untraced_eq
  missed := ledger.missed
  starts_eq := by rw [Session.note, startsIn_started, ledger.starts_eq]
  ascending := by
    rw [List.pairwise_append]
    exact ⟨ledger.ascending, List.pairwise_singleton .., by simpa using before⟩
  pending_subset := by
    intro start member
    rcases List.mem_cons.mp member with rfl | member
    · exact List.mem_append_right _ List.mem_cons_self
    · exact List.mem_append_left _ (ledger.pending_subset member)
  live := ledger.live
  stored := by
    intro table shared at'
    rw [ledger.stored table shared]
    have fresh : position ∉ starts := fun member => Nat.lt_irrefl _ (before _ member)
    by_cases here : at' = position <;> simp [here, fresh]

/-- While an operand is under way nothing is stored where it starts. -/
theorem vacant (ledger : Ledger source memoized starts pending session traced)
    (shared : session.table = some table) {position : Nat} (member : position ∈ pending) :
    table.buckets[position]? = none := by
  have size := ledger.stored table shared position
  rw [if_neg fun read => read.2 member] at size
  exact Option.map_eq_none_iff.mp size

/-- Without a table, an operand that is read leaves nothing. -/
theorem settle {position : Nat}
    (ledger : Ledger source false starts (position :: pending) session traced) :
    Ledger source false starts pending session traced :=
  { ledger with
    pending_subset := fun _ member => ledger.pending_subset (List.mem_cons_of_mem _ member)
    stored := by
      intro table shared
      have live := ledger.live
      rw [shared] at live
      cases live }

/-- An operand that is read is stored where it starts. -/
theorem store {position : Nat} {type : ViewType}
    {outcome : Except SyntaxError (Expr × Cursor Char Bool)}
    {table stored : Memo.Table ViewType SyntaxError (Expr × Cursor Char Bool)}
    (ledger : Ledger source memoized starts (position :: pending) session traced)
    (shared : session.table = some table) (outside : position ∉ pending)
    (accepted : table.store position (.named "unary") type outcome = .ok stored) :
    Ledger source memoized starts pending { session with table := some stored }
      { traced with table := some stored } := by
  rw [Memo.Table.store_of_vacant (ledger.vacant shared List.mem_cons_self)] at accepted
  cases accepted
  refine { ledger with
    untraced_eq := ?_
    pending_subset := fun _ member => ledger.pending_subset (List.mem_cons_of_mem _ member)
    live := ?_
    stored := ?_ }
  · rw [← ledger.untraced_eq]
    rfl
  · rw [← ledger.live, shared]
    rfl
  · rintro _ ⟨⟩ at'
    have begun := ledger.pending_subset List.mem_cons_self
    rw [Std.ExtTreeMap.getElem?_insert]
    by_cases here : at' = position
    · subst here
      simp [begun, outside, Memo.Bucket.entries]
    · simp [here, Ne.symm here, ledger.stored table shared]

theorem bucketSize_le (ledger : Ledger source memoized starts pending session traced)
    (shared : session.table = some table) (position : Nat) : table.bucketSize position ≤ 1 := by
  have size := ledger.stored table shared position
  rw [Memo.Table.bucketSize, Memo.Table.bucket]
  cases held : table.buckets[position]? with
  | none => exact Nat.zero_le _
  | some bucket =>
    rw [held, Option.map_some] at size
    split at size
    · exact Nat.le_of_eq (Option.some.inj size)
    · cases size

end Ledger

end Ledger

end Calculator

end Packrat
