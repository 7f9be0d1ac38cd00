import ExprLex.Token.Basic

/-!
# Diagnostics

What is wrong with an expression, told from its tokens: lexemes that are not recognised, parentheses without a partner, and
an operator at the end. The last one is advisory: it is reported in strict mode only, and it is no error.
-/

namespace ExprLex

/-- The code of a diagnostic. -/
inductive Code where
  | unknownToken
  | unbalancedParenthesis
  | trailingOperator
  /-- a code that this library does not give -/
  | foreign (name : String)
  deriving DecidableEq, Repr

namespace Code

/-- The name of a code. -/
def name : Code → String
  | .unknownToken => "W_UNKNOWN_TOKEN"
  | .unbalancedParenthesis => "W_UNBALANCED_PARENTHESIS"
  | .trailingOperator => "W_TRAILING_OPERATOR"
  | .foreign name => name

/-- The code with a name. -/
def ofName (name : String) : Code :=
  if name = "W_UNKNOWN_TOKEN" then .unknownToken
  else if name = "W_UNBALANCED_PARENTHESIS" then .unbalancedParenthesis
  else if name = "W_TRAILING_OPERATOR" then .trailingOperator
  else .foreign name

/-- Whether a code is advisory. -/
def isAdvisory (c : Code) : Bool := c == .trailingOperator

end Code

/-- A diagnostic of an expression. -/
structure Diagnostic where
  /-- the offset of the lexeme it is about -/
  position : Int
  /-- the length of that lexeme -/
  length : Int
  code : Code
  message : String
  deriving DecidableEq, Repr

namespace Diagnostic

/-- The column of a diagnostic, counted from 1. -/
def column (d : Diagnostic) : Int := d.position + 1

/-- The rendered form of a diagnostic. -/
def render (d : Diagnostic) : String := d.code.name ++ " col " ++ toString d.column ++ ": " ++ d.message

/-- A lexeme that is not recognised. -/
def unknownToken (t : Token) : Diagnostic :=
  ⟨t.position, t.lexeme.length, .unknownToken, "Unrecognized lexeme " ++ t.lexeme.quoted⟩

/-- A closing parenthesis without an opening one before it. -/
def neverOpened (t : Token) : Diagnostic :=
  ⟨t.position, 1, .unbalancedParenthesis, "Closing parenthesis has no matching '('"⟩

/-- An opening parenthesis without a closing one behind it. -/
def neverClosed (t : Token) : Diagnostic := ⟨t.position, 1, .unbalancedParenthesis, "Parenthesis is never closed"⟩

/-- An operator that the expression ends with. -/
def trailingOperator (t : Token) : Diagnostic :=
  ⟨t.position, t.lexeme.length, .trailingOperator, "Expression ends with operator " ++ t.lexeme.quoted⟩

end Diagnostic

/-- Whether some diagnostic is more than advisory. -/
def hasErrors (diagnostics : List Diagnostic) : Bool := diagnostics.any (!·.code.isAdvisory)

/-- The diagnostics that a mode reports: all of them in strict mode, else those that are more than advisory. -/
def reported (strict : Bool) (diagnostics : List Diagnostic) : List Diagnostic :=
  diagnostics.filter fun d => strict || !d.code.isAdvisory

/-- The unknown lexemes and the unbalanced parentheses of tokens, given the parentheses that are open before them, the
innermost first: first what can be told at its token, in the order of the tokens, then the parentheses that are never
closed. -/
def faults : (opened : List Token) → List Token → List Diagnostic
  | opened, [] => opened.reverse.map .neverClosed
  | opened, t :: rest =>
    match t.kind, opened with
    | .unknown, _ => .unknownToken t :: faults opened rest
    | .punctuation .leftParenthesis, _ => faults (t :: opened) rest
    | .punctuation .rightParenthesis, [] => .neverOpened t :: faults [] rest
    | .punctuation .rightParenthesis, _ :: outer => faults outer rest
    | _, _ => faults opened rest

/-- The operator at the end, if there is one. -/
def trailing (tokens : List Token) : List Diagnostic :=
  match tokens.getLast? with
  | none => []
  | some t => if t.kind.isDangling then [.trailingOperator t] else []

/-- The diagnostics of a token stream, by position; those at one position in the order they are found. -/
def diagnose (tokens : List Token) : List Diagnostic :=
  (faults [] tokens ++ trailing tokens).mergeSort fun a b => decide (a.position ≤ b.position)

end ExprLex
