import Packrat.Calculator.Basic
import Packrat.Proofs.Calculator.Lexeme
import Packrat.Proofs.Calculator.Recognition
import Packrat.Proofs.Parser.Memoization

/-! The rules of the calculator read the phrases they are named after, whatever the table recalls:
an entry is the outcome of reading an operand, and it is not stored before the operand is read. -/

namespace Packrat.Calculator

open Packrat.Parser

/-- The cursor stands in the source, with this payload and without filters. -/
abbrev In (source : String) (data : Bool) (cursor : Cursor Char Bool) : Prop :=
  (Cursor.ofText source data).Beside [] cursor

section Standing

variable {source : String} {data : Bool} {cursor : Cursor Char Bool}

theorem In.utf8 (inside : In source data cursor) : cursor.metric = .utf8 := inside.lies.metric_eq

theorem In.bare (inside : In source data cursor) : cursor.filters = [] := inside.filters_eq

theorem In.extent_eq (inside : In source data cursor) :
    cursor.extent = (Cursor.ofText source data).extent := by
  rw [inside.lies.extent_eq, (Cursor.Beside.refl _).lies.extent_eq]

theorem In.type_eq (inside : In source data cursor) : cursor.type = [] := by
  rw [Cursor.type, inside.bare, List.map_nil]

theorem In.token {c : Char} {rest : List Char} (inside : In source data cursor)
    (ahead : cursor.ahead = c :: rest) :
    In source data ((cursor.past c rest).skipWhile Text.isBlank) :=
  (inside.past ahead).skip _

theorem position_lt_token (cursor : Cursor Char Bool) (c : Char) (rest : List Char) :
    cursor.position < ((cursor.past c rest).skipWhile Text.isBlank).position := by
  rw [Cursor.position_skipWhile]
  exact Nat.lt_of_lt_of_le (cursor.position_lt_past c rest) (Nat.le_add_right _ _)

theorem ahead_token_le (cursor : Cursor Char Bool) (c : Char) (rest : List Char) :
    ((cursor.past c rest).skipWhile Text.isBlank).ahead.length ≤ rest.length := by
  rw [Cursor.ahead_skipWhile, Cursor.ahead_past]
  exact (List.dropWhile_sublist _).length_le

end Standing

/-- Reading never goes back. -/
theorem Reads.advances (reads : Reads phrase place (.ok (expr, next))) :
    place.offset ≤ next.offset ∧ next.ahead.length ≤ place.ahead.length := by
  obtain ⟨text, cut, offset, _⟩ := reads.derives _ _ rfl
  rw [cut, List.length_append, offset]
  exact ⟨Nat.le_add_right _ _, Nat.le_add_left _ _⟩

/-- Reading an atom moves. -/
theorem Reads.moves (reads : Reads .atom place (.ok (expr, next))) : place.offset < next.offset := by
  obtain ⟨text, _, offset, derived⟩ := reads.derives _ _ rfl
  obtain ⟨c, rest, rfl, _⟩ := derived.opens nofun
  have positive := c.utf8Size_pos
  rw [offset, bytes_cons]
  omega

theorem Place.ahead_or_lacks (place : Place) (c : Char) :
    (∃ rest, place.ahead = c :: rest) ∨ place.Lacks c := by
  by_cases head : place.ahead.head? = some c
  · exact .inl (List.head?_eq_some_iff.mp head)
  · exact .inr head

/-- The reply is the outcome of reading the phrase at the cursor. -/
def Describes (source : String) (data : Bool) (phrase : Phrase) (cursor : Cursor Char Bool) :
    Reply (Cursor Char Bool) SyntaxError Expr → Prop
  | .done expr rest =>
    In source data rest ∧ Reads phrase cursor.place (.ok (expr, rest.place))
  | .fail error => Reads phrase cursor.place (.error error)
  | .halt _ => False

/-- The session has room for the source, recalls nothing but outcomes of reading operands in it, and
recalls what it did earlier before the position `front`. -/
structure Recalls (source : String) (data : Bool) (front : Nat)
    (earlier : Nat → Memo.Key → Option (Memo.Entry ViewType SyntaxError (Expr × Cursor Char Bool)))
    (session : Session Char Bool Recall) : Prop where
  reach_eq : session.reach = (Cursor.ofText source data).extent
  valid : ∀ position key entry, session.recalled position key = some entry →
    key = .named "unary" ∧ entry.type = [] ∧
      ∃ cursor, In source data cursor ∧ cursor.position = position ∧
        Describes source data .unary cursor (.ofOutcome entry.outcome)
  kept : ∀ position < front, session.recalled position = earlier position

/-- At cursors with fewer than `bound` characters ahead the rule answers what reading the phrase
gives, and stores nothing before them. -/
def Follows (source : String) (data : Bool) (bound : Nat) (phrase : Phrase) (rule : Rule Expr) :
    Prop :=
  ∀ cursor, In source data cursor → cursor.ahead.length < bound →
    ∀ front ≤ cursor.position, ∀ earlier,
      Ensures (Recalls source data front earlier) rule cursor
        (Describes source data phrase cursor)

structure Rules.Follow (source : String) (data : Bool) (bound : Nat) (rules : Rules) : Prop where
  expression : ∀ site, Follows source data bound .expression (rules.expression site)
  unary : ∀ site, Follows source data bound .unary (rules.unary site)
  power : ∀ site, Follows source data bound .power (rules.power site)

variable {source : String} {data : Bool} {front bound : Nat} {cursor : Cursor Char Bool}
  {earlier : Nat → Memo.Key → Option (Memo.Entry ViewType SyntaxError (Expr × Cursor Char Bool))}

theorem Recalls.roomy : ∀ session, Recalls source data front earlier session →
    session.reach = (Cursor.ofText source data).extent :=
  fun _ recalls => recalls.reach_eq

theorem In.answers_skipBlanks (inside : In source data cursor) :
    Answers (Recalls source data front earlier) skipBlanks cursor
      (.done () (cursor.skipWhile Text.isBlank)) :=
  Calculator.answers_skipBlanks Recalls.roomy inside.bare (Nat.le_of_eq inside.extent_eq)

theorem Recalls.note (recalls : Recalls source data front earlier session) (event : Event) :
    Recalls source data front earlier (session.note event) :=
  ⟨recalls.reach_eq, recalls.valid, recalls.kept⟩

theorem Follows.deferred {rule : Nat → Rule Expr} {phrase : Phrase}
    (follows : ∀ number, Follows source data bound phrase (rule number)) (site : Nat)
    (turn : Turn) : Follows source data bound phrase (deferred rule site turn) := by
  intro cursor inside short front before earlier session recalls
  unfold Calculator.deferred
  split
  · exact follows _ cursor inside short front before earlier session recalls
  · exact follows _ cursor inside short front before earlier _
      ⟨recalls.reach_eq, recalls.valid, recalls.kept⟩

theorem Recalls.here (recalls : Recalls source data front earlier session) :
    Recalls source data bound session.recalled session :=
  ⟨recalls.reach_eq, recalls.valid, fun _ _ => rfl⟩

theorem Recalls.renew {later : Session Char Bool Recall}
    (recalls : Recalls source data front earlier session)
    (renewed : Recalls source data bound session.recalled later) (before : front ≤ bound) :
    Recalls source data front earlier later := by
  refine ⟨renewed.reach_eq, renewed.valid, fun position less => ?_⟩
  rw [renewed.kept position (Nat.lt_of_lt_of_le less before), recalls.kept position less]

/-! Chains. -/

/-- Operators with operands after them are the tail of a chain, whatever is joined so far. -/
theorem ensures_tail {level : Level} {operand : Rule Expr}
    (follows : Follows source data bound level.operand operand) (inside : In source data cursor)
    (short : cursor.ahead.length < bound) (before : front ≤ cursor.position) :
    Ensures (Recalls source data front earlier)
      (repeatWhile (peek (operator level.operators))
        (andThen (operator level.operators) operand)) cursor
      fun reply => ∀ left,
        Describes source data (.tail level left) cursor (reply.map (joinLeft left)) := by
  -- Every round takes an operator and an operand, so what is ahead of the next one is shorter.
  induction size : cursor.ahead.length using Nat.strongRecOn generalizing cursor with
  | ind size ih =>
  by_cases found : ∃ op ∈ level.operators, ∃ rest, cursor.ahead = op.sign :: rest
  · obtain ⟨op, member, more, ahead⟩ := found
    have sign : Answers (Recalls source data front earlier) (operator level.operators) cursor
        (.done (op, cursor.position) ((cursor.past op.sign more).skipWhile Text.isBlank)) :=
      answers_operator Recalls.roomy member inside.bare (Nat.le_of_eq inside.extent_eq) ahead
    have fewer := ahead_token_le cursor op.sign more
    have shorter : more.length < cursor.ahead.length := by simp [ahead]
    have after := position_lt_token cursor op.sign more
    have place := place_token inside.utf8 op.sign more
    have right := follows _ (inside.token ahead) (by omega) front (by omega) earlier
    have round : Ensures (Recalls source data front earlier)
        ((peek (operator level.operators)).handle
          (fun _ => (andThen (operator level.operators) operand).map some) fun _ => constant none)
        cursor fun reply => ∃ read, Describes source data level.operand
          ((cursor.past op.sign more).skipWhile Text.isBlank) read ∧
          reply = read.map fun right => some ((op, cursor.position), right) := by
      refine (Answers.peek_done sign).handle_done (Ensures.map (sign.inspect_done (Ensures.map ?_)))
      exact right.weaken fun read describes => ⟨read, describes, by cases read <;> rfl⟩
    refine Ensures.rounds Recalls.roomy round ?_ ?_ ?_ ?_
    · rintro rest ⟨_ | _ | _, _, impossible⟩ <;> cases impossible
    · rintro v rest ⟨⟨right, _⟩ | _ | _, describes, same⟩ <;> cases same
      obtain ⟨within, read⟩ := describes
      obtain ⟨behind, fewest⟩ := read.advances
      simp only [Cursor.place] at behind fewest
      rw [place] at read
      have room := within.extent_eq ▸ rest.position_le_extent
      refine ⟨by omega, room, ?_⟩
      have onward := ih rest.ahead.length (by omega) within (by omega) (by omega) rfl
      refine onward.weaken fun reply describes => ⟨?_, fun left => ?_⟩
      · rintro rfl
        exact describes right
      · have joined := describes (.binary op left right cursor.position)
        rcases reply with ⟨pairs, last⟩ | error | cause
        · exact ⟨joined.1, .tailStep member ahead read joined.2⟩
        · exact .tailStep member ahead read joined
        · exact joined
    · rintro error ⟨_ | _ | _, describes, same⟩ left <;> cases same
      exact .tailError member ahead (place ▸ describes)
    · rintro cause ⟨_ | _ | _, describes, same⟩ <;> cases same
      exact describes.elim
  · have lacks : ∀ op ∈ level.operators, cursor.place.Lacks op.sign := by
      intro op member
      refine (cursor.place.ahead_or_lacks op.sign).resolve_left ?_
      exact fun ahead => found ⟨op, member, ahead⟩
    have stop : Answers (Recalls source data front earlier)
        ((peek (operator level.operators)).handle
          (fun _ => (andThen (operator level.operators) operand).map some) fun _ => constant none)
        cursor (.done none cursor) :=
      (Answers.peek_fail (fails_operator level.operators_ne_nil inside.bare lacks)).handle_fail
        (ensures_constant rfl)
    refine Ensures.rounds Recalls.roomy stop ?_ ?_ ?_ ?_
    · intro rest same left
      cases same
      exact ⟨inside, .tailEnd lacks⟩
    · intro round rest same
      cases same
    · intro error same
      cases same
    · intro cause same
      cases same

theorem Follows.chain {level : Level} {operand : Rule Expr}
    (follows : Follows source data bound level.operand operand) :
    Follows source data bound (.chain level) (chain level.operators operand) := by
  intro cursor inside short front before earlier
  refine (follows cursor inside short front before earlier).inspect ?_ ?_ ?_
  · rintro left rest ⟨within, read⟩
    obtain ⟨behind, fewer⟩ := read.advances
    simp only [Cursor.place] at behind fewer
    refine Ensures.map ((ensures_tail follows within (by omega) (by omega)).weaken ?_)
    intro reply describes
    have joined := describes left
    rcases reply with ⟨pairs, last⟩ | error | cause
    · exact ⟨joined.1, .chain read joined.2⟩
    · exact .chain read joined
    · exact joined
  · exact fun error read => .chainError read
  · exact fun cause impossible => impossible

/-! Powers. -/

theorem Follows.exponentiation {memoized : Bool} {inner : Rules} {site : Nat}
    (operand : Follows source data (bound + 1) .unary (inner.operand memoized site))
    (power : ∀ number, Follows source data bound .power (inner.power number)) :
    Follows source data (bound + 1) .power (inner.exponentiation memoized site) := by
  intro cursor inside short front before earlier
  refine (operand cursor inside short front before earlier).inspect ?_ ?_ ?_
  · rintro base next ⟨within, read⟩
    obtain ⟨behind, fewer⟩ := read.advances
    simp only [Cursor.place] at behind fewer
    rcases next.place.ahead_or_lacks '^' with ⟨more, ahead⟩ | lacks
    · have sign : Answers (Recalls source data front earlier) (operator [.power]) next
          (.done (.power, next.position) ((next.past '^' more).skipWhile Text.isBlank)) :=
        answers_operator Recalls.roomy List.mem_cons_self within.bare
          (Nat.le_of_eq within.extent_eq) ahead
      have shorter : more.length < next.ahead.length := by
        rw [show next.ahead = '^' :: more from ahead, List.length_cons]
        exact Nat.lt_succ_self _
      have fewest := ahead_token_le next '^' more
      have after := position_lt_token next '^' more
      have exponent := Follows.deferred power site .exponent _ (within.token ahead) (by omega) front
        (by omega) earlier
      refine Ensures.map (sign.handle_done (Ensures.map (exponent.weaken ?_)))
      intro reply describes
      rcases reply with ⟨right, last⟩ | error | cause
      · refine ⟨describes.1, .raised read ahead ?_⟩
        rw [← place_token within.utf8]
        exact describes.2
      · refine .raisedError read ahead ?_
        rw [← place_token within.utf8]
        exact describes
      · exact describes
    · have stop : Answers (Recalls source data front earlier) (operator [.power]) next
          (.fail (.unexpectedInput next.position)) := by
        refine fails_operator (List.cons_ne_nil _ _) within.bare fun op member => ?_
        cases List.mem_singleton.mp member
        exact lacks
      exact Ensures.map (stop.handle_fail (ensures_constant ⟨within, .base read lacks⟩))
  · exact fun error read => .baseError read
  · exact fun cause impossible => impossible

/-! Operands. What is under way at a cursor may store entries there only after all of its own
parsers, which run behind the cursor, so they keep what is stored up to it. -/

theorem ensures_opening {c : Char} {error : Nat → SyntaxError} {more : List Char}
    {next : Nat → Rule Expr} {post : Reply (Cursor Char Bool) SyntaxError Expr → Prop}
    (inside : In source data cursor) (ahead : cursor.ahead = c :: more)
    (onward : Ensures (Recalls source data front earlier) (next cursor.position)
      ((cursor.past c more).skipWhile Text.isBlank) post) :
    Ensures (Recalls source data front earlier)
      ((symbol c error).inspect fun position => skipBlanks.inspect fun _ => next position)
      cursor post :=
  (answers_symbol inside.bare ahead).inspect_done
    ((In.answers_skipBlanks (inside.past ahead)).inspect_done onward)

theorem ensures_group {inner : Rules} {more : List Char}
    (expression : ∀ number, Follows source data bound .expression (inner.expression number))
    (inside : In source data cursor) (short : cursor.ahead.length ≤ bound)
    (before : front ≤ cursor.position + 1) (ahead : cursor.ahead = '(' :: more) (site : Nat) :
    Ensures (Recalls source data front earlier) (inner.group site) cursor
      (Describes source data .atom cursor) := by
  have shorter : more.length < cursor.ahead.length := by simp [ahead]
  have fewer := ahead_token_le cursor '(' more
  have after := position_lt_token cursor '(' more
  have place := place_token inside.utf8 '(' more
  have expr := Follows.deferred expression site .group _ (inside.token ahead) (by omega) front
    (by omega) earlier
  refine ensures_opening inside ahead (expr.inspect ?_ ?_ ?_)
  · rintro value next ⟨within, read⟩
    rw [place] at read
    rcases next.place.ahead_or_lacks ')' with ⟨last, closed⟩ | lacks
    · refine (answers_symbol within.bare closed).inspect_done ?_
      refine (In.answers_skipBlanks (within.past closed)).map_done.weaken ?_
      rintro _ rfl
      refine ⟨within.token closed, ?_⟩
      rw [place_token within.utf8]
      exact .group ahead read closed
    · refine (fails_symbol within.bare lacks).inspect_fail.weaken ?_
      rintro _ rfl
      exact .unclosed ahead read lacks
  · exact fun error read => .groupError ahead (place ▸ read)
  · exact fun cause impossible => impossible

theorem ensures_negation {inner : Rules} {more : List Char}
    (unary : ∀ number, Follows source data bound .unary (inner.unary number))
    (inside : In source data cursor) (short : cursor.ahead.length ≤ bound)
    (before : front ≤ cursor.position + 1) (ahead : cursor.ahead = '-' :: more) (site : Nat) :
    Ensures (Recalls source data front earlier) (inner.negation site) cursor
      (Describes source data .unary cursor) := by
  have shorter : more.length < cursor.ahead.length := by simp [ahead]
  have fewer := ahead_token_le cursor '-' more
  have after := position_lt_token cursor '-' more
  have place := place_token inside.utf8 '-' more
  have operand := Follows.deferred unary site .negation _ (inside.token ahead) (by omega) front
    (by omega) earlier
  refine ensures_opening inside ahead (Ensures.map (operand.weaken ?_))
  intro reply describes
  rcases reply with ⟨right, last⟩ | error | cause
  · exact ⟨describes.1, .negation ahead (place ▸ describes.2)⟩
  · exact .negationError ahead (place ▸ describes)
  · exact describes

/-- Where a number is required, a digit announces it; the error is the same with and without. Either
way the reply is the same in every session with room. -/
theorem exists_answers_literal (inside : In source data cursor) (lacks : cursor.place.Lacks '(') :
    ∃ reply, Describes source data .atom cursor reply ∧
      ∀ (invariant : Session Char Bool Recall → Prop) (room : Nat), cursor.extent ≤ room →
        (∀ session, invariant session → session.reach = room) →
        Answers invariant
          (predictiveChoice
            [((token Text.digit (fun c _ _ => c) fun _ start => .missingOperand start).peek.map
              fun _ => (), literal)]) cursor reply := by
  by_cases none : cursor.ahead.takeWhile Text.isDigit = []
  · refine ⟨.fail (.missingOperand cursor.position),
      .missing lacks (Text.numeral?_of_no_digit none), fun invariant room within roomy => ?_⟩
    have first : Fails invariant (Text.digit : Lexeme Char) cursor :=
      (fails_satisfy inside.bare none).fails
    exact Answers.inspect_fail (Answers.inspect_fail first.token.peek_fail)
  · obtain ⟨digit, more, ahead, fit⟩ := Text.head_of_takeWhile none
    have announced (invariant : Session Char Bool Recall → Prop) :
        Answers invariant ((token Text.digit (fun c _ _ => c) fun _ start =>
          SyntaxError.missingOperand start).peek.map fun _ => ()) cursor (.done () cursor) :=
      Answers.map_done (Answers.peek_done (Answers.token_done
        (answers_satisfy inside.bare ahead fit)))
    cases numeral : Text.numeral? cursor.ahead with
    | none =>
      refine ⟨.fail (.missingOperand cursor.position), .missing lacks numeral,
        fun invariant room within roomy => ?_⟩
      exact (announced invariant).inspect_done (fails_literal roomy inside.bare within numeral)
    | some split =>
      obtain ⟨lexeme, rest⟩ := split
      refine ⟨.done (.number (Decimal.read (String.ofList lexeme)) cursor.position)
        ((cursor.skip lexeme.length).skipWhile Text.isBlank), ⟨(inside.skip _).skip _, ?_⟩,
        fun invariant room within roomy => ?_⟩
      · rw [place_skipWhile (In.utf8 (inside.skip _)),
          place_skip inside.utf8 (Text.append_of_numeral? numeral)]
        exact .number numeral
      · exact (announced invariant).inspect_done (answers_literal roomy inside.bare within numeral)

theorem ensures_atom {inner : Rules}
    (expression : ∀ number, Follows source data bound .expression (inner.expression number))
    (inside : In source data cursor) (short : cursor.ahead.length ≤ bound)
    (before : front ≤ cursor.position + 1) (site : Nat) :
    Ensures (Recalls source data front earlier) (inner.atom site) cursor
      (Describes source data .atom cursor) := by
  rcases cursor.place.ahead_or_lacks '(' with ⟨more, ahead⟩ | lacks
  · exact (answers_lookahead inside.bare ahead).handle_done
      (ensures_group expression inside short before ahead site)
  · obtain ⟨reply, describes, answers⟩ := exists_answers_literal inside lacks
    refine (fails_lookahead inside.bare lacks).handle fun _ => ?_
    refine (answers _ _ (Nat.le_of_eq inside.extent_eq) Recalls.roomy).weaken ?_
    rintro _ rfl
    exact describes

theorem Describes.unary {reply : Reply (Cursor Char Bool) SyntaxError Expr}
    (lacks : cursor.place.Lacks '-') (describes : Describes source data .atom cursor reply) :
    Describes source data .unary cursor reply := by
  rcases reply with ⟨value, rest⟩ | error | cause
  · exact ⟨describes.1, Reads.operand lacks describes.2⟩
  · exact Reads.operand lacks describes
  · exact describes

theorem Recalls.store {table stored : Memo.Table ViewType SyntaxError (Expr × Cursor Char Bool)}
    {outcome : Except SyntaxError (Expr × Cursor Char Bool)}
    (recalls : Recalls source data front earlier session) (shared : session.table = some table)
    (inside : In source data cursor) (before : front ≤ cursor.position)
    (describes : Describes source data .unary cursor (.ofOutcome outcome))
    (accepted : table.store cursor.position (.named "unary") cursor.type outcome = .ok stored) :
    Recalls source data front earlier { session with table := some stored } := by
  have found := Session.recalled_store shared accepted
  refine ⟨recalls.reach_eq, fun position key entry held => ?_, fun position less => ?_⟩
  · rw [found] at held
    split at held
    · rename_i here
      cases held
      exact ⟨here.2, inside.type_eq, cursor, inside, here.1.symm, describes⟩
    · exact recalls.valid position key entry held
  · funext key
    rw [found, if_neg (by omega), recalls.kept position less]

/-- A run that kept what was recalled up to its start has its outcome stored where there was
none. -/
theorem Recalls.caches
    {run result : Reply (Cursor Char Bool) Recall.Failure Recall.Value × Session Char Bool Recall}
    (caches : Caches (M := Recall) (.named "unary") cursor run result)
    (inside : In source data cursor)
    (before : front ≤ cursor.position) (recalls : Recalls source data front earlier run.2)
    (absent : run.2.recalled cursor.position (.named "unary") = none)
    (describes : Describes source data .unary cursor run.1) :
    Describes source data .unary cursor result.1 ∧ Recalls source data front earlier result.2 := by
  cases caches with
  | halted => exact describes.elim
  | tableless none => exact ⟨describes, recalls⟩
  | stored shared accepted =>
    exact ⟨describes, recalls.store shared inside before describes accepted⟩
  | refused shared rejected =>
    obtain ⟨entry, found, _⟩ := success_of_refused shared rejected
    rw [absent] at found
    cases found

/-- The table has an operand's outcome, or it gets it from a run that stored nothing there. -/
theorem ensures_memoize {parser : Rule Expr} (inside : In source data cursor)
    (before : front ≤ cursor.position)
    (ensures : ∀ earlier, Ensures (Recalls source data (cursor.position + 1) earlier) parser cursor
      (Describes source data .unary cursor)) :
    Ensures (Recalls source data front earlier) (memoize id (.named "unary") false parser) cursor
      (Describes source data .unary cursor) := by
  intro session recalls
  have memoizes := memoizes_memoize id (.named "unary") false parser cursor session
  generalize memoize id (.named "unary") false parser cursor session = result at memoizes ⊢
  have after := Nat.le_succ_of_le before
  cases memoizes with
  | unreachable =>
    have noted := recalls.note (.tableUnreachable (.named "unary"))
    obtain ⟨describes, later⟩ := ensures _ _ noted.here
    exact ⟨describes, noted.renew later after⟩
  | mismatched found other =>
    obtain ⟨_, type, _⟩ := recalls.valid _ _ _ found
    exact absurd (type.trans inside.type_eq.symm) other
  | hit found same =>
    obtain ⟨_, _, start, inside', level, describes⟩ := recalls.valid _ _ _ found
    cases inside.eq_of_position inside' level.symm
    exact ⟨describes, recalls.note _⟩
  | missed absent caches =>
    obtain ⟨describes, later⟩ := ensures _ _ recalls.here
    have kept := congrFun (later.kept _ (Nat.lt_succ_self _)) (.named "unary")
    -- The parser ran behind the cursor only, so the key is still free where its outcome goes.
    have renewed := recalls.renew later after
    exact Recalls.caches caches inside before renewed (kept.trans absent) describes
  | replaced found failed replacing caches => cases replacing

theorem Follows.operand {memoized : Bool} {inner : Rules}
    (expression : ∀ number, Follows source data bound .expression (inner.expression number))
    (unary : ∀ number, Follows source data bound .unary (inner.unary number)) (site : Nat) :
    Follows source data (bound + 1) .unary (inner.operand memoized site) := by
  intro cursor inside short front before earlier
  have body {front earlier} (before : front ≤ cursor.position + 1) :
      Ensures (Recalls source data front earlier) (inner.operand false site) cursor
        (Describes source data .unary cursor) := by
    rcases cursor.place.ahead_or_lacks '-' with ⟨more, ahead⟩ | lacks
    · exact (answers_lookahead inside.bare ahead).handle_done
        (ensures_negation unary inside (by omega) before ahead site)
    · refine (fails_lookahead inside.bare lacks).handle fun _ => ?_
      refine Answers.inspect_done (ensures_constant rfl) ?_
      refine (ensures_atom expression inside (by omega) before site).weaken ?_
      exact fun _ => Describes.unary lacks
  cases memoized with
  | false => exact body (by omega)
  | true => exact ensures_memoize inside before fun earlier => body (Nat.le_refl _)

theorem rules_follow (memoized : Bool) :
    ∀ depth, (rules memoized depth).Follow source data depth
  | 0 => ⟨fun _ _ _ => nofun, fun _ _ _ => nofun, fun _ _ _ => nofun⟩
  | depth + 1 => by
    have inner := rules_follow memoized depth
    have unary (site : Nat) :
        Follows source data (depth + 1) .unary ((rules memoized depth).operand memoized site) :=
      .operand inner.expression inner.unary site
    have power (site : Nat) : Follows source data (depth + 1) .power
        ((rules memoized depth).exponentiation memoized site) :=
      .exponentiation (unary site) inner.power
    exact ⟨fun site => .chain (.chain (power site)), unary, power⟩

end Packrat.Calculator
