import Std.Data.TreeMap
import Packrat.Grammar.Build
import Packrat.Parser.Memoized
import Packrat.Parser.Position
import Packrat.Text.Place

/-! Running a built grammar. Every node runs as the parser it names. A deferred parser is looked up
by its identity and built when it is not found, so it is built once and stays the same parser. -/

namespace Packrat.Grammar

variable {ι Leaf κ ρ : Type}

/-- What running grammars change besides the table: the identities handed out, the deferred parsers
built so far and the counts of counted parsers. -/
structure Workshop (ι Leaf : Type) where
  nextId : Nat
  built : Std.TreeMap Nat (Built ι Leaf)
  counts : List (String × Nat)

/-- Sessions of grammars remember values, failures and a workshop. -/
abbrev Recall (ι Leaf : Type) : Memory := ⟨Failure, Value, Workshop ι Leaf⟩

abbrev Rule (ι Leaf : Type) := Parser ι Payload (Recall ι Leaf) Failure Value

/-- The counts with one more for `name`; new names come last. -/
def countOne (name : String) : List (String × Nat) → List (String × Nat)
  | [] => [(name, 1)]
  | (other, n) :: counts =>
    if other = name then (other, n + 1) :: counts else (other, n) :: countOne name counts

def counting (name : String) (parser : Rule ι Leaf) : Rule ι Leaf := fun cursor session =>
  parser cursor
    { session with extra := { session.extra with counts := countOne name session.extra.counts } }

/-- The pairs of a dispatch, in the order they are tried. -/
def dispatchPairs [Lexicon ι Leaf] (n : Nat) (keys : Fin n → Leaf)
    (branches : Fin n → Rule ι Leaf) : List (Rule ι Leaf × Rule ι Leaf) :=
  (Text.keywordOrder (List.ofFn fun i => (Lexicon.order ι (keys i), i))).map fun (_, i) =>
    (Lexicon.parser (keys i), branches i)

section

variable [Lexicon ι Leaf] (memoize : Bool → κ → Rule ι Leaf → Rule ι Leaf)
  (resolve : ρ → Rule ι Leaf)

/-- The parser of a grammar, given what becomes of memoized parsers and the parsers of its
references. -/
def runWith : Grammar ι Leaf κ ρ → Rule ι Leaf
  | .anyItem => Parser.map (Lexicon.value Leaf) Parser.anyItem
  | .satisfy accepts failure => Parser.map (Lexicon.value Leaf) (Parser.satisfy accepts failure)
  | .endOfInput => Parser.map (fun _ => .unit) Parser.endOfInput
  | .constant value => Parser.constant value
  | .failWith failure => Parser.failWith failure
  | .getData => Parser.map (fun data => .int data.value) Parser.getData
  | .setData data => Parser.map (fun _ => .unit) (Parser.setData data)
  | .modifyData f => Parser.map (fun data => .int data.value) (Parser.modifyData f)
  | .position => Parser.map (fun (n : Nat) => .int n) Parser.position
  | .leaf basic => Lexicon.parser basic
  | .many element => Parser.map .list (Parser.many (runWith element))
  | .oneOrMore element => Parser.map .list (Parser.oneOrMore (runWith element))
  | .repeatWhile condition body =>
    Parser.map .list (Parser.repeatWhile (runWith condition) (runWith body))
  | .separatedBy form element separator =>
    Parser.map .list (Parser.separatedBy form (runWith element) (runWith separator))
  | .peek inner => Parser.peek (runWith inner)
  | .maybe inner => Parser.map Value.ofOption (Parser.maybe (runWith inner))
  | .softSequence first second =>
    Parser.map Value.ofOption
      (Parser.softSequence (runWith first) (runWith second) fun a b => .list [a, b])
  | .negate inner => Parser.mapError .value (Parser.map .error (Parser.negate (runWith inner)))
  | .terminated inner => Parser.terminated (runWith inner)
  | .recover inner _ select branches =>
    Parser.recover (runWith inner) fun failure => runWith (branches (select failure))
  | .recoverWith inner f =>
    Parser.recover (runWith inner) fun failure => Parser.constant (f failure)
  | .inspect inner _ select branches =>
    Parser.inspect (runWith inner) fun value => runWith (branches (select value))
  | .inspectTimes inner count element =>
    Parser.inspect (runWith inner) fun value =>
      Parser.map .list (Parser.times (count value) (runWith element))
  | .inspectLeaf inner select =>
    Parser.inspect (runWith inner) fun value => Lexicon.parser (select value)
  | .sequence _ parts => Parser.map .list (Parser.sequence (List.ofFn fun i => runWith (parts i)))
  | .orderedChoice _ alternatives =>
    Parser.orderedChoice (List.ofFn fun i => runWith (alternatives i))
  | .predictiveChoice _ lookaheads continuations =>
    Parser.predictiveChoice
      (List.ofFn fun i => (runWith (lookaheads i), runWith (continuations i)))
  | .dispatch n keys branches =>
    Parser.predictiveChoice (dispatchPairs n keys fun i => runWith (branches i))
  | .map f inner => Parser.map f (runWith inner)
  | .mapError f inner => Parser.mapError f (runWith inner)
  | .withPosition inner =>
    Parser.mapError .ofPositioned
      (Parser.map .ofPositioned (Parser.withPosition (runWith inner)))
  | .token kind inner =>
    Parser.token (runWith inner) (fun value start stop => .token kind value start stop)
      fun failure start => .wrapped kind start failure
  | .lineColumn table =>
    Parser.mapError .text (Parser.map .location (Text.lineColumn table))
  | .withFilter filter inner => Parser.withFilter filter (runWith inner)
  | .counted name inner => counting name (runWith inner)
  | .memoize replace mark inner => memoize replace mark (runWith inner)
  | .reference target => resolve target

end

/-- The parser of a grammar whose memoized parsers use the table, given the parsers of its
references. -/
def run [Lexicon ι Leaf] (resolve : ρ → Rule ι Leaf) :
    Grammar ι Leaf Memo.Key ρ → Rule ι Leaf :=
  runWith (fun replace key parser => Parser.memoize Payload.linked key replace parser) resolve

structure Library (ι Leaf : Type) where
  rules : List (String × Blueprint ι Leaf)
  shared : List (String × Built ι Leaf)

def Library.buildRule [Lexicon ι Leaf] (library : Library ι Leaf) (name : String) (next : Nat) :
    Except Violation (Built ι Leaf × Nat) :=
  match library.rules.lookup name with
  | some blueprint => blueprint.build library.shared next
  | none => .error .undefinedParser

/-- The parser of a built grammar, with deferred parsers inside deferred parsers up to `depth`. -/
def runWithin [Lexicon ι Leaf] (library : Library ι Leaf) :
    (depth : Nat) → Built ι Leaf → Rule ι Leaf
  | 0, grammar, cursor, session =>
    grammar.run (fun _ => Parser.halt .exhausted) cursor session
  | depth + 1, grammar, cursor, session =>
    grammar.run
      (fun deferred cursor session =>
        match session.extra.built[deferred.id]? with
        | some parser => runWithin library depth parser cursor session
        | none =>
          let session := session.note .deferredBuilt
          match library.buildRule deferred.rule session.extra.nextId with
          | .error violation => (.halt (.violation violation), session)
          | .ok (parser, nextId) =>
            runWithin library depth parser cursor
              { session with
                extra :=
                  { session.extra with
                    nextId := nextId
                    built := session.extra.built.insert deferred.id parser } })
      cursor session

end Packrat.Grammar
