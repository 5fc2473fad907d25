import Packrat.Grammar.Bench

/-! What a construction that succeeds has done, step by step. -/

namespace Packrat.Grammar

variable {ι Leaf α β : Type}

namespace Construction

theorem bind_ok {step : Construction α} {next : α → Construction β} {start : Nat}
    {result : β × Nat} (built : (step >>= next) start = .ok result) :
    ∃ value mid, step start = .ok (value, mid) ∧ next value mid = .ok result := by
  change (step start >>= fun (value, mid) => next value mid) = .ok result at built
  cases stepped : step start with
  | error violation => rw [stepped] at built; cases built
  | ok first =>
    rw [stepped] at built
    exact ⟨first.1, first.2, rfl, built⟩

theorem pure_ok {value : α} {start : Nat} {result : α × Nat}
    (built : (pure value : Construction α) start = .ok result) : result = (value, start) :=
  (Except.ok.inj built).symm

theorem demand_ok {holds : Bool} {violation : Violation} {start : Nat} {result : Unit × Nat}
    (built : demand holds violation start = .ok result) : result = ((), start) := by
  unfold demand at built
  split at built
  · exact pure_ok built
  · cases built

theorem refuse_ok {violation : Option Violation} {start : Nat} {result : Unit × Nat}
    (built : refuse violation start = .ok result) : result = ((), start) := by
  cases violation with
  | none => exact pure_ok built
  | some violation => cases built

end Construction

open Construction

theorem assemble_ok [Lexicon ι Leaf] {rules shared : List (String × Blueprint ι Leaf)}
    {blueprint : Blueprint ι Leaf} {table : Bool} {bench : Bench ι Leaf}
    (assembled : Bench.assemble rules shared blueprint table = .ok bench) :
    ∃ built next parser last, Bench.buildShared shared [] 0 = .ok (built, next) ∧
      blueprint.build built next = .ok (parser, last) ∧
      bench = ⟨⟨rules, built⟩, parser,
        .new (if table then some .empty else none) ⟨last, ∅, []⟩⟩ := by
  unfold Bench.assemble at assembled
  cases first : Bench.buildShared shared [] 0 with
  | error violation => rw [first] at assembled; cases assembled
  | ok built =>
    rw [first] at assembled
    change (blueprint.build built.1 built.2 >>= _) = _ at assembled
    cases second : blueprint.build built.1 built.2 with
    | error violation => rw [second] at assembled; cases assembled
    | ok parser =>
      rw [second] at assembled
      cases assembled
      exact ⟨built.1, built.2, parser.1, parser.2, rfl, second, rfl⟩

end Packrat.Grammar
