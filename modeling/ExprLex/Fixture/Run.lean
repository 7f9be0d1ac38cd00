import ExprLex.FileSystem
import ExprLex.Fixture.Basic

/-!
# Running fixtures

A fixture is run by comparing what it expects with what its expression gives. Runs print a report, and each expression that
is lexed is noted in a log. A suite runs the fixtures of a directory, or any others, and then the structural tests, which are
code and known here only by what comes of them; it counts those that pass.
-/

namespace ExprLex

/-- What a run has printed: the lines of the report and the lines of the log. -/
structure Printed where
  out : List String
  log : List String
  deriving DecidableEq, Repr

namespace Printed

/-- Nothing printed. -/
def none : Printed := ⟨[], []⟩

/-- One thing printed after another. -/
def append (a b : Printed) : Printed := ⟨a.out ++ b.out, a.log ++ b.log⟩

instance : Append Printed := ⟨append⟩

end Printed

/-- Lines as a text in which each of them is ended. -/
def endLines (lines : List String) : String := String.join (lines.map (· ++ "\n"))

namespace Fixture

/-- The tokens of an expression, which is there and not empty. -/
def tokens (fx : Fixture) (expression : Text) : List Token := fx.rules.tokenize (Pattern.default.fragments expression)

/-- The value of a field, given the tokens and the diagnostics. -/
def actual (tokens : List Token) (diagnostics : List Diagnostic) : Field → String
  | .tokens => toString tokens.length
  | .kinds => " ".intercalate (tokens.map (·.kind.spelling))
  | .positions => " ".intercalate (tokens.map fun t => toString t.position)
  | .diagnostics => toString diagnostics.length
  | .codes => " ".intercalate (diagnostics.map (·.code.name))

/-- The lines about the expectations that do not hold. -/
def mismatches (fx : Fixture) (tokens : List Token) (diagnostics : List Diagnostic) : List String :=
  fx.expected.filterMap fun (field, want) =>
    let got := actual tokens diagnostics field
    if got.toList = want then none
    else some ("ASSERT FAIL: expected " ++ field.name ++ " = " ++ want.toString ++ ", got " ++ got)

/-- The run of a fixture that has an expression. -/
def check (fx : Fixture) (expression : Text) : Bool × Printed :=
  let tokens := fx.tokens expression
  let diagnostics := reported false (diagnose tokens)
  let failed := fx.mismatches tokens diagnostics
  let verdict := "ASSERTIONS: " ++ (if failed.isEmpty then "PASS" else "FAIL")
  (failed.isEmpty,
    { out := tokens.map ("    " ++ ·.render) ++ diagnostics.map ("- " ++ ·.render) ++ failed ++ [verdict, ""]
      log := ["DEBUG frontend.pipeline: Tokenized " ++ toString expression.length ++ " characters into " ++
        toString tokens.length ++ " tokens"] })

/-- The run of the fixture at a path: whether it passes, or why it cannot be read, and what is printed. A missing file and a
file without an expression do not pass. -/
def run (files : FileSystem) (path : Text) : Except FileError Bool × Printed :=
  let heading := "===== Tokens for " ++ path.toString
  match files.isThere path, files.read path with
  | .error e, _ => (.error e, ⟨[heading], []⟩)
  | .ok false, _ => (.ok false, ⟨[heading, "ERROR: file not found", ""], []⟩)
  | .ok true, .error e => (.error e, ⟨[heading], []⟩)
  | .ok true, .ok source =>
    let fx := parse source
    match fx.expression with
    | none => (.ok false, ⟨[heading, "ERROR: no expression in fixture", ""], []⟩)
    | some expression =>
      let (passed, printed) := fx.check expression
      (.ok passed, ⟨[heading], []⟩ ++ printed)

/-- The runs of fixtures one after another: how many pass, unless one of them cannot be read. -/
def runAll (files : FileSystem) : List Text → Except FileError Nat × Printed
  | [] => (.ok 0, .none)
  | path :: rest =>
    match run files path with
    | (.error e, printed) => (.error e, printed)
    | (.ok passed, printed) =>
      let (later, more) := runAll files rest
      (later.map fun n => if passed then n + 1 else n, printed ++ more)

/-- The directory that holds the fixtures to run by default. -/
def directory : Text := "tests".toList

/-- The fixtures to run by default: what is under their directory at any depth and has the ending of fixtures, sorted.
Hidden names are left out, with all that is in them. -/
def suitePaths (files : FileSystem) : List Text :=
  let isHidden (name : Text) : Bool := name.head? == some '.'
  let isFixture : List Text → Bool
    | [] => false
    | top :: below =>
      top == directory && !below.any isHidden && below.getLast?.any (".expr".toList.isSuffixOf ·)
  Text.sorted ((files.listing.filter isFixture).map (['/'].intercalate ·))

/-- How a structural test ends. -/
inductive StructuralEnd where
  | passed
  /-- something that it asserts does not hold -/
  | failed (message : String)
  /-- with an error of another kind -/
  | raised (kind message : String)
  deriving DecidableEq, Repr

/-- A structural test: the lines it prints and how it ends. -/
structure StructuralTest where
  title : String
  out : List String := []
  ending : StructuralEnd
  deriving DecidableEq, Repr

/-- The last line about a structural test. -/
def StructuralTest.verdict (t : StructuralTest) : String :=
  "===== Structural: " ++ t.title ++ ": " ++
    match t.ending with
    | .passed => "PASS"
    | .failed message => "FAIL: " ++ message
    | .raised kind message => "ERROR: " ++ kind ++ ": " ++ message

/-- The run of a suite: its exit code, unless a fixture cannot be read. -/
def suite (files : FileSystem) (structural : List StructuralTest) (paths : List Text) : Except FileError Nat × Printed :=
  match runAll files paths with
  | (.error e, printed) => (.error e, printed)
  | (.ok passed, printed) =>
    let ok := passed + structural.countP (·.ending == .passed)
    let total := paths.length + structural.length
    let summary := "===== Summary: " ++ toString ok ++ "/" ++ toString total ++ " tests passed ====="
    (.ok (if ok = total then 0 else 1),
      printed ++ ⟨structural.flatMap (fun t => t.out ++ [t.verdict]) ++ [summary], []⟩)

end Fixture

end ExprLex
