import Packrat.Text.Character
import Packrat.Text.LineTable

/-! The line and column a parser stands at. -/

namespace Packrat.Text

variable {ι δ : Type} {M : Memory}

/-- The location of the position in `table`, with nothing consumed. -/
def lineColumn (table : LineTable) : Parser ι δ M TextError Location :=
  .located fun offset =>
    match table.locate offset with
    | .ok location => .constant location
    | .error error => .failWith (.ofInvalidPosition error)

end Packrat.Text
