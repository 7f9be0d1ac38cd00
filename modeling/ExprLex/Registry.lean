import ExprLex.Text.Basic

/-!
# Function names

Which lexemes are function names is a matter of a registry: a catalogue of well-known names, and names that users add, one
per line of a file.
-/

namespace ExprLex

/-- A registry of function names. Only membership counts. -/
abbrev Registry : Type := List Text

namespace Registry

/-- The catalogue of well-known function names. -/
def default : Registry :=
  ["abs", "acos", "asin", "atan", "ceil", "cos", "cosh", "exp", "floor", "ln", "log", "log10", "max", "min", "pow", "round",
    "sign", "sin", "sinh", "sqrt", "tan", "tanh"].map String.toList

/-- A registry of added names, with the catalogue or without it. -/
def build (extra : List Text) (includeDefaults : Bool) : Registry :=
  if includeDefaults then default ++ extra else extra

/-- The names of a registry, each once, in the order of their code points. -/
def sortedNames (r : Registry) : List Text := (Text.sorted r).eraseDups

/-- The names listed in a text: one per line, without what follows a number sign and without the whitespace around it. -/
def parseNames (t : Text) : List Text :=
  (t.lines.map fun line => Text.trim (line.takeWhile (· != '#'))).filter (!·.isEmpty)

end Registry

end ExprLex
