import Packrat.Calculator.CommandLine
import Packrat.Grammar.Bench
import Packrat.Grammar.Stock
import Packrat.Text.Cursor
import Packrat.Main
import Packrat.Proofs.Parser.Ensures
import Packrat.Proofs.Grammar.Onward
import Packrat.Proofs.Grammar.Erasure
import Packrat.Proofs.Parser.Memoization
import Packrat.Proofs.Standing
import Packrat.Proofs.Stream
import Packrat.Proofs.Memo.Contents
import Packrat.Proofs.Text.Numeral
import Packrat.Proofs.Calculator.Language
import Packrat.Proofs.Calculator.Rejection
import Packrat.Proofs.Grammar.Contract
import Packrat.Proofs.Parser.Payload
import Packrat.Proofs.Grammar.Payload
import Packrat.Proofs.Parser.History
import Packrat.Proofs.Grammar.Termination
import Packrat.Proofs.Grammar.Deferral
import Packrat.Proofs.Grammar.View
import Packrat.Proofs.Text.Lines
import Packrat.Proofs.Grammar.Indifference
import Packrat.Proofs.Calculator.Reentry
import Packrat.Proofs.Grammar.Instances
import Packrat.Proofs.Text.Keyword
import Packrat.Proofs.Text.NumberList
import Packrat.Proofs.Grammar.Repetition
import Packrat.Proofs.Text.Walk
import Packrat.Proofs.Text.Folding
import Packrat.Proofs.Text.Greedy
import Packrat.Proofs.Parser.Choice
import Packrat.Proofs.Calculator.Operands
import Packrat.Proofs.Grammar.Tokens
import Packrat.Proofs.Calculator.Form
