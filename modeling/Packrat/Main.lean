import Packrat.Calculator.CommandLine

/-! The program `calc-parser`. -/

def main (arguments : List String) : IO UInt32 := do
  let output := Packrat.Calculator.CommandLine.run arguments
  (← IO.getStdout).putStr output.stdout
  (← IO.getStderr).putStr output.stderr
  return output.exit.toUInt32
