import Packrat.Text.Character

/-! Dispatch on literal keywords. -/

namespace Packrat.Text

variable {δ : Type} {M : Memory} {ε α : Type}

/-- Entries in the order their keys are tried: descending, so that of two keys the longer is tried
before its own beginning. Equal keys keep their order. -/
def keywordOrder {α : Type} (entries : List (String × α)) : List (String × α) :=
  entries.mergeSort fun left right => !decide (left.1 < right.1)

/-- The first key that matches selects its parser, which then runs after the key. -/
def stringChoice (entries : List (String × TextParser δ M α)) : TextParser δ M α :=
  .predictiveChoice ((keywordOrder entries).map fun (key, parser) => (string key, parser))

end Packrat.Text
