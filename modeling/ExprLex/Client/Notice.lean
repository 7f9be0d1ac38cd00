import ExprLex.Client.Position
import ExprLex.Diagnostic

/-!
# Notices

A notice is a diagnostic as a client sees it: with a range of the document, a severity and the name of who issued it.
-/

namespace ExprLex

namespace Client

/-- How grave a notice is. -/
inductive Severity where
  | error | warning | information
  deriving DecidableEq, Repr

/-- The number a client knows a severity by. -/
def Severity.number : Severity → Nat
  | .error => 1
  | .warning => 2
  | .information => 3

/-- The code of a notice. Clients may also use numbers. -/
inductive NoticeCode where
  | code (c : Code)
  | number (n : Int)
  deriving DecidableEq, Repr

/-- A diagnostic of a document, as it is exchanged with a client. -/
structure Notice where
  range : Range
  severity : Option Severity
  code : Option NoticeCode
  source : Option String
  message : String
  deriving DecidableEq, Repr

/-- How grave the diagnostics with a code are: advice is information, and a code of someone else is a warning. -/
def severityOf : Code → Severity
  | .unknownToken | .unbalancedParenthesis => .error
  | .trailingOperator => .information
  | .foreign _ => .warning

/-- The name that notices are issued under. -/
def issuer : String := "mathlex"

/-- The notice of a diagnostic on a line of a document. It covers one character at least. -/
def Notice.ofDiagnostic (lines : List Text) (line : Int) (d : Diagnostic) : Except PositionError Notice := do
  let range ← Range.onLine lines line d.position (d.position + max d.length 1)
  return ⟨range, some (severityOf d.code), some (.code d.code), some issuer, d.message⟩

/-- The notice of a failure of the server itself, at the start of the document. -/
def Notice.internalError (message : String) : Notice :=
  ⟨⟨⟨0, 0⟩, ⟨0, 0⟩⟩, some .error, none, some issuer, message⟩

end Client

end ExprLex
