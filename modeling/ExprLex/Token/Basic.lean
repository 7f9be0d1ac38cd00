import ExprLex.Text.Quoted

/-!
# Tokens

A token is a lexeme with its position and its kind. There are four kinds: operators, punctuation, operands, and lexemes that
are not recognised; the first three have subkinds. Tokens are rendered in reports with their kind, their quoted lexeme and
their position.
-/

namespace ExprLex

/-- The operators. A function name is one: it applies to what follows. -/
inductive Operator where
  | unaryPlus | unaryMinus | addition | subtraction | multiplication | division | function
  deriving DecidableEq, Repr

/-- The marks that give an expression its structure. -/
inductive Punctuation where
  | leftParenthesis | rightParenthesis | comma
  deriving DecidableEq, Repr

/-- The operands. -/
inductive Operand where
  | number | name
  deriving DecidableEq, Repr

/-- The kind of a token, with its subkind. -/
inductive Kind where
  | operator (o : Operator)
  | punctuation (p : Punctuation)
  | operand (o : Operand)
  | unknown
  deriving DecidableEq, Repr

/-- Whether an operator is a sign in front of its only operand. -/
def Operator.isUnary : Operator → Bool
  | .unaryPlus | .unaryMinus => true
  | _ => false

/-- The spelling of an operator in reports. -/
def Operator.spelling : Operator → String
  | .unaryPlus => "UnaryPlus"
  | .unaryMinus => "UnaryMinus"
  | .addition => "Addition"
  | .subtraction => "Subtraction"
  | .multiplication => "Multiplication"
  | .division => "Division"
  | .function => "Function"

/-- The spelling of a punctuation mark in reports. -/
def Punctuation.spelling : Punctuation → String
  | .leftParenthesis => "LeftParenthesis"
  | .rightParenthesis => "RightParenthesis"
  | .comma => "Comma"

/-- The spelling of an operand in reports. -/
def Operand.spelling : Operand → String
  | .number => "Numeric"
  | .name => "Variable"

namespace Kind

/-- The spelling of a kind without its subkind. -/
def family : Kind → String
  | .operator _ => "Operator"
  | .punctuation _ => "Meta"
  | .operand _ => "Operand"
  | .unknown => "Unknown"

/-- The spelling of a kind without its subkind inside of a sentence. -/
def label : Kind → String
  | .operator _ => "operator"
  | .punctuation _ => "meta"
  | .operand _ => "operand"
  | .unknown => "unknown"

/-- The spelling of a subkind, where there is one. -/
def subkind? : Kind → Option String
  | .operator o => some o.spelling
  | .punctuation p => some p.spelling
  | .operand o => some o.spelling
  | .unknown => none

/-- The spelling of a kind and its subkind. -/
def spelling (k : Kind) : String :=
  match k.subkind? with
  | none => k.family
  | some sub => k.family ++ "." ++ sub

/-- Whether a sign behind a token of this kind has an operand on its right only: behind an operator, an opening parenthesis
or a comma. -/
def startsOperand : Kind → Bool
  | .operator _ => true
  | .punctuation .leftParenthesis => true
  | .punctuation .comma => true
  | _ => false

/-- Whether an expression cannot end with this kind: every operator but a function name asks for an operand on its right. -/
def isDangling : Kind → Bool
  | .operator o => o != .function
  | _ => false

end Kind

/-- A token. -/
structure Token where
  kind : Kind
  lexeme : Text
  /-- the offset of the first character of the lexeme in the expression -/
  position : Int
  deriving DecidableEq, Repr

namespace Token

/-- The offset behind the last character of the lexeme. -/
def stop (t : Token) : Int := t.position + t.lexeme.length

/-- The rendered form of a token. -/
def render (t : Token) : String := t.kind.spelling ++ "(" ++ t.lexeme.quoted ++ ")@" ++ toString t.position

/-- Whether a token covers an offset. -/
def covers (t : Token) (offset : Int) : Bool := decide (t.position ≤ offset) && decide (offset < t.stop)

end Token

end ExprLex
