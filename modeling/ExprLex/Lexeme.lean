import ExprLex.Pattern.Delimiter

/-!
# Lexemes

An expression is cut into lexemes by a delimiter pattern. Whitespace is kept as a lexeme, because the positions of the
tokens are counted along the lexemes. The two forms of lexemes that stand for operands are told by tests on the whole
lexeme.
-/

namespace ExprLex

/-- A lexeme and the offset of its first character. -/
structure Lexeme where
  text : Text
  offset : Nat
  deriving DecidableEq, Repr

namespace Lexeme

/-- The offset behind the last character of a lexeme. -/
def stop (l : Lexeme) : Nat := l.offset + l.text.length

/-- Texts laid end to end from an offset on. -/
def layOut : (offset : Nat) → List Text → List Lexeme
  | _, [] => []
  | offset, t :: rest => ⟨t, offset⟩ :: layOut (offset + t.length) rest

/-- A number: digits with at most one point among them, and a digit behind the point. -/
def isNumber (t : Text) : Bool :=
  match t.dropWhile isDigit with
  | [] => !t.isEmpty
  | '.' :: fraction => !fraction.isEmpty && fraction.all isDigit
  | _ => false

/-- An identifier: an ASCII letter or underscore, and word characters behind it. -/
def isIdentifier : Text → Bool
  | [] => false
  | c :: rest => (isAsciiLetter c || c == '_') && rest.all isWord

end Lexeme

/-- Why no lexemes or tokens can be made. -/
inductive LexError where
  /-- there is no expression, or an empty one -/
  | noExpression
  /-- there is no list of lexemes -/
  | noLexemes
  /-- the delimiter pattern cannot be read -/
  | badPattern (source : Text) (fault : Pattern.Fault)
  deriving DecidableEq, Repr

/-- The wording of an error. -/
def LexError.message : LexError → String
  | .noExpression => "expression: parameter cannot be None or empty"
  | .noLexemes => "lexemes: parameter cannot be None"
  | .badPattern source fault => fault.message source

/-- A delimiter pattern as a caller gives it: the default one, one that has been read, or a text that is read when it is
needed. -/
inductive Delimiter where
  | pattern (p : Pattern)
  | source (engine : Pattern.Engine) (t : Text)

/-- The pattern of a delimiter. -/
def Delimiter.pattern? : Delimiter → Except LexError Pattern
  | .pattern p => .ok p
  | .source engine t => (Pattern.compile engine t).mapError (.badPattern t)

/-- The lexemes of an expression, as texts. An empty expression is refused, and so is a missing one; only then the pattern
is read. -/
def splitExpression (expression : Option Text) (delimiter : Delimiter) : Except LexError (List Text) :=
  match expression with
  | none => .error .noExpression
  | some [] => .error .noExpression
  | some t => do return (← delimiter.pattern?).fragments t

/-- The lexemes of an expression with their offsets. -/
def splitLexemes (expression : Option Text) (delimiter : Delimiter) : Except LexError (List Lexeme) := do
  return Lexeme.layOut 0 (← splitExpression expression delimiter)

end ExprLex
