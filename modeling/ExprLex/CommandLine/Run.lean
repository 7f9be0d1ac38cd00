import ExprLex.CommandLine.Arguments
import ExprLex.CommandLine.Help
import ExprLex.Fixture.Run

/-!
# Running the command

The command prints the tokens and the diagnostics of an expression, or of each expression line of a file, or it runs the
fixtures. Its exit code is 1 if it could not do so, if a fixture fails, and in strict mode if there is any diagnostic.
-/

namespace ExprLex

namespace CommandLine

/-- What ends a run before its end. -/
inductive Failure where
  | lexing (e : LexError)
  | reading (e : FileError)
  /-- there is an option for the pattern, but no value of it -/
  | voidPattern
  deriving DecidableEq, Repr

/-- The wording of a failure. -/
def Failure.message : Failure → String
  | .lexing e => e.message
  | .reading e => e.message
  | .voidPattern => "unhashable type: 'list'"

/-- How a run ends. -/
inductive Ending where
  /-- with an exit code -/
  | returned (code : Nat)
  /-- with an exit code, while the arguments are being read -/
  | exited (code : Nat)
  /-- with a failure that nothing deals with -/
  | failed (f : Failure)
  deriving DecidableEq, Repr

/-- What a run has printed on its two channels, and how it ended. -/
structure Outcome where
  out : String
  err : String
  ending : Ending
  deriving DecidableEq, Repr

/-- Spaces before a text to make it as long as `width`. -/
def padLeft (width : Nat) (s : String) : String := String.ofList (List.replicate (width - s.length) ' ') ++ s

/-- The integer nearest to a quotient; a tie goes to the even one. -/
def roundQuotient (num den : Nat) : Nat :=
  let floor := num / den
  let twice := 2 * (num % den)
  if twice < den then floor
  else if den < twice then floor + 1
  else if floor % 2 = 0 then floor else floor + 1

/-- A quotient with one decimal place. -/
def tenths (num den : Nat) : String :=
  let n := roundQuotient (10 * num) den
  toString (n / 10) ++ "." ++ toString (n % 10)

/-- The lines about one expression, and its diagnostics that the mode reports. -/
def reportExpression (pattern : Pattern) (rules : Rules) (strict lexemes : Bool) (expression : Text) :
    List String × List Diagnostic :=
  let fragments := pattern.fragments expression
  let tokens := rules.tokenize fragments
  let diagnostics := reported strict (diagnose tokens)
  let lexemeLines := if lexemes then
      "Lexemes:" :: (Lexeme.layOut 0 fragments).map fun l => "  " ++ padLeft 4 (toString l.offset) ++ " " ++ l.text.quoted
    else []
  let diagnosticLines := if diagnostics.isEmpty then [] else "Diagnostics:" :: diagnostics.map ("  - " ++ ·.render)
  (("=== Tokens for " ++ expression.quoted ++ " ===") :: lexemeLines ++ tokens.map ("   " ++ ·.render) ++ diagnosticLines,
    diagnostics)

/-- The expressions of a file: its lines that are not blank and, after the whitespace they start with, do not start with a
number sign. -/
def readExpressions (files : FileSystem) (path : Text) : Except FileError (List Text) := do
  return (← files.read path).lines.filter fun line => !line.isBlank && line.trimLeft.head? != some '#'

/-- The classification rules that a request asks for. -/
def rulesOf (r : Request) (files : FileSystem) : Except FileError Rules := do
  let listed := Text.commaItems (r.functions.getD [])
  let path := r.functionsFile.getD []
  let loaded ← if path.isEmpty then pure [] else (files.read path).map Registry.parseNames
  return .ofFunctions (.build (listed ++ loaded) !r.noDefaultFunctions)

/-- The expressions that a request asks for. The expression among the arguments may be missing or empty, or there is none at
all. -/
def expressionsOf (r : Request) (files : FileSystem) : Except FileError (List (Option Text)) :=
  match r.file with
  | some (c :: path) => do return (← readExpressions files (c :: path)).map some
  | _ => .ok [r.expression]

/-- The rules and the expressions that a request asks for, or why they cannot be read. -/
def inputsOf (r : Request) (files : FileSystem) : Except FileError (Rules × List (Option Text)) := do
  return (← rulesOf r files, ← expressionsOf r files)

/-- The lines about some expressions and the diagnostics of all of them. An expression that is missing or empty ends
them. -/
def reportAll (pattern : Pattern) (rules : Rules) (strict lexemes : Bool) :
    List (Option Text) → List String × Except LexError (List Diagnostic)
  | [] => ([], .ok [])
  | none :: _ => ([], .error .noExpression)
  | some [] :: _ => ([], .error .noExpression)
  | some (c :: t) :: rest =>
    let (lines, diagnostics) := reportExpression pattern rules strict lexemes (c :: t)
    let (more, later) := reportAll pattern rules strict lexemes rest
    (lines ++ more, later.map (diagnostics ++ ·))

/-- The line that sums up a run with errors. -/
def errorSummary : String :=
  "\nUnrecognized or unbalanced input detected (W_UNKNOWN_TOKEN, W_UNBALANCED_PARENTHESIS)"

/-- The last lines about expressions with the given diagnostics, and the exit code. -/
def verdict (r : Request) (count elapsed : Nat) (diagnostics : List Diagnostic) : List String × Nat :=
  let timing := if r.benchmark then
      ["\n--- Benchmark (" ++ toString count ++ " expressions) ---",
        "  Total:     " ++ padLeft 7 (tenths elapsed 1) ++ "ms"]
    else []
  let summary := if hasErrors diagnostics then [errorSummary] else []
  if r.strict && !diagnostics.isEmpty then
    (timing ++ summary ++ ["\nSTRICT MODE: " ++ toString diagnostics.length ++ " diagnostic(s) reported"], 1)
  else (timing ++ summary, 0)

/-- The run of a request for the tokens of expressions under a delimiter pattern: the lines it prints and how it ends. -/
def lexWith (pattern : Pattern) (r : Request) (files : FileSystem) (elapsed : Nat) : List String × Ending :=
  match inputsOf r files with
  | .error e => if e.isSystem then (["ERROR: " ++ e.message], .returned 1) else ([], .failed (.reading e))
  | .ok (rules, expressions) =>
    match reportAll pattern rules r.strict r.lexemes expressions with
    | (lines, .error e) => (lines ++ ["ERROR: " ++ e.message], .returned 1)
    | (lines, .ok diagnostics) =>
      let (last, code) := verdict r expressions.length elapsed diagnostics
      (lines ++ last, .returned code)

/-- The run of a request for the tokens of expressions: the lines it prints and how it ends. A malformed pattern is
reported, and any other fault of the pattern is a failure. -/
def lexAll (engine : Pattern.Engine) (r : Request) (files : FileSystem) (elapsed : Nat) : List String × Ending :=
  match r.pattern with
  | .unset => lexWith .default r files elapsed
  | .void => ([], .failed .voidPattern)
  | .source source =>
    match Pattern.compile engine source with
    | .ok pattern => lexWith pattern r files elapsed
    | .error fault =>
      if fault.isMalformed then
        (["ERROR: invalid pattern " ++ source.quoted ++ ": " ++ fault.message source], .returned 1)
      else ([], .failed (.lexing (.badPattern source fault)))

/-- What comes with the command where it is installed: the edition of the conventions for options, the reader of patterns,
and the structural tests. -/
structure Installation where
  conventions : Conventions
  engine : Pattern.Engine
  structural : List Fixture.StructuralTest

/-- An installation by the early conventions, with a plain reader of patterns and without structural tests. -/
def Installation.plain : Installation := ⟨.early, .plain, []⟩

/-- The run of a request for the fixtures. -/
def runSuite (structural : List Fixture.StructuralTest) (r : Request) (files : FileSystem) (elapsed : Nat) :
    Printed × Ending :=
  let paths := Fixture.suitePaths files
  match Fixture.suite files structural paths with
  | (.error e, printed) => (printed, .failed (.reading e))
  | (.ok code, printed) =>
    let timing := if r.benchmark then
        ["\n--- Benchmark ---", "  Fixture files: " ++ toString paths.length,
          "  Total:         " ++ toString elapsed ++ "ms",
          "  Per-file:      " ++ tenths elapsed (max paths.length 1) ++ "ms avg"]
      else []
    (printed ++ ⟨timing, []⟩, .returned code)

/-- The run of a request. It takes `elapsed` milliseconds. -/
def serve (installation : Installation) (r : Request) (files : FileSystem) (elapsed : Nat) : Outcome :=
  if r.tests then
    let (printed, ending) := runSuite installation.structural r files elapsed
    ⟨endLines printed.out, if r.verbose then endLines printed.log else "", ending⟩
  else if r.expression.isNone && r.file.isNone then ⟨endLines help, "", .returned 1⟩
  else
    let (lines, ending) := lexAll installation.engine r files elapsed
    ⟨endLines lines, "", ending⟩

/-- The run of the command with the given arguments. It takes `elapsed` milliseconds. -/
def run (installation : Installation) (arguments : List Text) (files : FileSystem) (elapsed : Nat) : Outcome :=
  match Request.ofTexts installation.conventions arguments with
  | .error .help => ⟨endLines help, "", .exited 0⟩
  | .error (.usage e) => ⟨"", endLines (usage ++ ["mathlex: error: " ++ e.message]), .exited 2⟩
  | .ok r => serve installation r files elapsed

end CommandLine

end ExprLex
