import ExprLex.Diagnostic
import ExprLex.Token.Stream

/-!
# Documents

A document holds one expression per line. Blank lines and lines that start with a number sign are none. The analysis of a
document keeps its lines, the tokens of every expression and the diagnostics that the mode reports, all by line number.
-/

namespace ExprLex

/-- Whether a line holds an expression: it is not blank, and it is no comment. -/
def isExpressionLine (line : Text) : Bool :=
  match Text.trim line with
  | [] => false
  | c :: _ => c != '#'

/-- The analysis of a document. Lines are counted from 0, and positions are offsets in their line. -/
structure Analysis where
  lines : List Text
  /-- the tokens of the lines that hold an expression -/
  tokens : List (Int × List Token)
  /-- the reported diagnostics, from top to bottom -/
  diagnostics : List (Int × Diagnostic)
  deriving DecidableEq, Repr

namespace Analysis

/-- The tokens of an expression line, if the line is one. -/
def tokensOn? (a : Analysis) (line : Int) : Option (List Token) := a.tokens.lookup line

/-- The token that covers an offset of a line, the first one if there are several. -/
def tokenAt? (a : Analysis) (line offset : Int) : Option Token := ((a.tokensOn? line).getD []).find? (·.covers offset)

end Analysis

/-- The lines of a document. Only line feeds end lines here, and the text behind the last one is a line too. -/
def documentLines (source : Text) : List Text := Text.splitOn '\n' source

/-- The analysis of a document. -/
def analyse (pattern : Pattern) (rules : Rules) (strict : Bool) (source : Text) : Analysis :=
  let lines := documentLines source
  let expressions := lines.zipIdx.filter fun (line, _) => isExpressionLine line
  let tokens := expressions.map fun (line, number) => ((number : Int), rules.tokenize (pattern.fragments line))
  ⟨lines, tokens, tokens.flatMap fun (number, ts) => (reported strict (diagnose ts)).map (number, ·)⟩

/-- The analysis of a document with a delimiter that may still have to be read. It is read only if there is an
expression. -/
def analyseWith (delimiter : Delimiter) (rules : Rules) (strict : Bool) (source : Text) : Except LexError Analysis :=
  if (documentLines source).any isExpressionLine then do return analyse (← delimiter.pattern?) rules strict source
  else .ok (analyse Pattern.default rules strict source)

end ExprLex
