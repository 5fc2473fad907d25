import Packrat.Calculator.Basic

/-! The command line `calc-parser`: reads its arguments, parses every expression and reports. -/

namespace Packrat.Calculator.CommandLine

structure Options where
  expressions : List String
  memoized : Bool
  outlined : Bool
  deriving DecidableEq, Repr

inductive Request where
  | run (options : Options)
  | version
  | help
  | refused
  deriving DecidableEq, Repr

/-- Reads arguments from left to right; the first that decides the matter does. A flag may stand once
and takes no value, a double dash ends the options, and a single one is an expression. -/
def Request.ofArguments (options : Options) : List String → Request
  | [] => .run { options with expressions := options.expressions.reverse }
  | argument :: rest =>
    match argument.toList with
    | ['-', '-'] =>
      .run { options with expressions := options.expressions.reverse ++ rest }
    | '-' :: '-' :: name =>
      match String.ofList name with
      | "memoize" =>
        if options.memoized then .refused else ofArguments { options with memoized := true } rest
      | "ast" =>
        if options.outlined then .refused else ofArguments { options with outlined := true } rest
      | "version" => .version
      | "help" => .help
      | _ => .refused
    | '-' :: 'V' :: _ => .version
    | '-' :: 'h' :: _ => .help
    | '-' :: _ :: _ => .refused
    | _ => ofArguments { options with expressions := argument :: options.expressions } rest

/-- The expressions parsed when none are given. The last one is meant to fail. -/
def samples : List String :=
  ["3 + 4", "2 * 3.14", "(1 + 2) * 3", "2 ^ 3 ^ 2", "10 / 2.5", "-5", "3 + 4 * 5", "3 +"]

/-- What a run prints to its two channels, and its exit code. -/
structure Output where
  exit : Nat
  stdout : String
  stderr : String
  deriving DecidableEq, Repr

/-- The lines about one expression: those for the report, and the complaint if it is none. -/
def report (options : Options) (source : String) : List String × Option String :=
  match (parse ⟨options.memoized⟩ source).1 with
  | .done expr _ =>
    (["  结构: " ++ expr.display, "  结果: " ++ Decimal.render expr.evaluate] ++
      (if options.outlined then ["", "  AST 树形结构:"] ++ expr.outline 2 else []), none)
  | .fail error =>
    match errorPlace? source error with
    | some place => ([], some ("  解析失败 " ++ place ++ ": " ++ error.message))
    | none => ([], some ("  解析失败: " ++ error.message))
  | .halt _ => ([], none)

def unlines (lines : List String) : String := String.join (lines.map (· ++ "\n"))

/-- Parses every expression and reports. A failure counts, except among the samples. -/
def execute (options : Options) : Output :=
  let sources := if options.expressions.isEmpty then samples else options.expressions
  let reports := sources.map fun source => (source, report options source)
  let complaints := reports.filterMap fun (_, _, complaint?) => complaint?
  let body := reports.flatMap fun (source, lines, _) =>
    ("表达式: " ++ source) :: lines ++ [String.ofList (List.replicate 50 '-')]
  { exit := if complaints.isEmpty || options.expressions.isEmpty then 0 else 1
    stdout := unlines (["=== 计算器解析器示例 ===", ""] ++ body)
    stderr := unlines complaints }

def usage : String := unlines
  ["Parse and evaluate arithmetic expressions.",
    "",
    "Usage: calc-parser [OPTIONS] [EXPRS]...",
    "",
    "Arguments:",
    "  [EXPRS]...  Expressions to parse; built-in samples are used when none are given",
    "",
    "Options:",
    "      --memoize  Cache operand parses by position while parsing",
    "      --ast      Print the syntax tree of each expression",
    "  -h, --help     Print help",
    "  -V, --version  Print version"]

def run (arguments : List String) : Output :=
  match Request.ofArguments ⟨[], false, false⟩ arguments with
  | .run options => execute options
  | .version => ⟨0, "calc-parser 0.1.0\n", ""⟩
  | .help => ⟨0, usage, ""⟩
  | .refused =>
    ⟨2, "", "error: unexpected argument\n\nFor more information, try '--help'.\n"⟩

end Packrat.Calculator.CommandLine
