import Packrat.Parser.Primitive
import Packrat.Text.Location
import Packrat.Text.Quoted

/-! What parsers of text expect and do not find. -/

namespace Packrat.Text

inductive TextError where
  | endOfInput
  | endExpected
  | digitExpected
  | whitespaceExpected
  | underscoreExpected
  | letterExpected
  | identifierCharExpected
  | charNotExpected (expected : String)
  | charExcluded (excluded : String)
  | stringMismatch (expected : String)
  | invalidPosition (offset : Nat)
  deriving DecidableEq, Repr

namespace TextError

def message : TextError → String
  | endOfInput => "unexpected end of input"
  | endExpected => "expected end of input"
  | digitExpected => "digit expected"
  | whitespaceExpected => "whitespace expected"
  | underscoreExpected => "'_' expected"
  | letterExpected => "ASCII letter expected"
  | identifierCharExpected => "ASCII identifier character expected"
  | charNotExpected expected => "expected one of " ++ quote expected
  | charExcluded excluded => "none of " ++ quote excluded ++ " expected"
  | stringMismatch expected => "expected " ++ quote expected
  | invalidPosition offset => "offset " ++ toString offset ++ " has no line/column"

def ofInvalidPosition (error : InvalidPosition) : TextError := invalidPosition error.offset

instance : OfStreamError TextError where
  ofStreamError
    | .endOfInput => endOfInput
    | .endExpected => endExpected

end TextError

end Packrat.Text
