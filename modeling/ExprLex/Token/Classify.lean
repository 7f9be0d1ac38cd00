import ExprLex.Lexeme
import ExprLex.Registry
import ExprLex.Token.Basic

/-!
# Classifying lexemes

The kind of a lexeme follows from its text, from the token before it and from the rules: what counts as a number, what as an
identifier, and which names are functions. Every lexeme has a kind; one that nothing recognises is unknown.
-/

namespace ExprLex

/-- What the classification of lexemes goes by besides the fixed symbols. -/
structure Rules where
  isNumber : Text → Bool := Lexeme.isNumber
  isIdentifier : Text → Bool := Lexeme.isIdentifier
  functions : Registry := Registry.default

namespace Rules

/-- The rules with the usual numbers and identifiers and the given function names. -/
def ofFunctions (functions : Registry) : Rules := { functions := functions }

/-- The rules with other function names. What counts as a number and what as an identifier stays. -/
def withFunctions (rules : Rules) (functions : Registry) : Rules := { rules with functions := functions }

/-- The usual rules with other function names are those of these names. -/
@[simp] theorem withFunctions_default (functions : Registry) : withFunctions {} functions = ofFunctions functions := rfl

/-- Whether a lexeme is a function name. -/
def isFunction (rules : Rules) (lexeme : Text) : Bool := rules.functions.contains lexeme

end Rules

/-- Whether a sign behind the given token, or at the start of the expression, is a sign of a number and no operation. -/
def isSignContext : Option Token → Bool
  | none => true
  | some previous => previous.kind.startsOperand

/-- The kind of a lexeme behind the given token. Symbols come first, so the rules have no say in them. -/
def Rules.kindOf (rules : Rules) (previous : Option Token) (lexeme : Text) : Kind :=
  match lexeme with
  | ['+'] => .operator (if isSignContext previous then .unaryPlus else .addition)
  | ['-'] => .operator (if isSignContext previous then .unaryMinus else .subtraction)
  | ['*'] => .operator .multiplication
  | ['/'] => .operator .division
  | ['('] => .punctuation .leftParenthesis
  | [')'] => .punctuation .rightParenthesis
  | [','] => .punctuation .comma
  | _ =>
    if rules.isNumber lexeme then .operand .number
    else if rules.isFunction lexeme then .operator .function
    else if rules.isIdentifier lexeme then .operand .name
    else .unknown

/-- The token of a lexeme at a position, behind the given token. -/
def Rules.classify (rules : Rules) (lexeme : Text) (position : Int) (previous : Option Token) : Token :=
  ⟨rules.kindOf previous lexeme, lexeme, position⟩

end ExprLex
