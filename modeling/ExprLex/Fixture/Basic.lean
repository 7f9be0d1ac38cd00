import ExprLex.Document
import ExprLex.Keyed
import ExprLex.Registry

/-!
# Fixtures

A fixture is a text with one expression and comments that say what is expected of its tokens and diagnostics, and which
function names it adds. Directives may stand anywhere: the first expression counts, the last list of functions, and for each
field the last expectation.
-/

namespace ExprLex

/-- What a fixture may state an expectation about. -/
inductive Field where
  | tokens | kinds | positions | diagnostics | codes
  deriving DecidableEq, Repr

namespace Field

/-- The name of a field. -/
def name : Field → String
  | .tokens => "tokens"
  | .kinds => "kinds"
  | .positions => "positions"
  | .diagnostics => "diagnostics"
  | .codes => "codes"

/-- All fields. -/
def all : List Field := [.tokens, .kinds, .positions, .diagnostics, .codes]

end Field

/-- A fixture. -/
structure Fixture where
  expression : Option Text
  /-- the expected values, in the order in which their fields come up first -/
  expected : Keyed Field Text
  /-- the added function names, if there is a list of them -/
  functions : Option (List Text)
  deriving DecidableEq, Repr

namespace Fixture

/-- What a line of a fixture is. -/
inductive Line where
  /-- a list of function names -/
  | functions (names : List Text)
  /-- an expectation about a field -/
  | expect (field : Field) (value : Text)
  /-- a blank line or any other comment -/
  | remark
  | expression
  deriving DecidableEq, Repr

/-- What follows a keyword in a comment, if the comment starts with that: a number sign, the keyword, and whitespace around
it. -/
def afterKeyword? (keyword : String) (comment : Text) : Option Text :=
  match comment with
  | '#' :: rest => (keyword.toList.isPrefixOf? (Text.trimLeft rest)).map Text.trimLeft
  | _ => none

/-- The value that a text gives to a field: the name of the field, an equals sign and the value, with whitespace around
each. -/
def valueOf? (t : Text) (field : Field) : Option Text :=
  match (field.name.toList.isPrefixOf? t).map Text.trimLeft with
  | some ('=' :: value) => some (Text.normaliseSpaces value)
  | _ => none

/-- What a line is. -/
def Line.ofText (line : Text) : Line :=
  let t := Text.trim line
  match afterKeyword? "FUNCTIONS:" t with
  | some names => .functions (Text.commaItems names)
  | none =>
    match (afterKeyword? "EXPECT:" t).bind fun e => Field.all.findSome? fun f => (valueOf? e f).map (f, ·) with
    | some (field, value) => .expect field value
    | none => if isExpressionLine line then .expression else .remark

/-- The fixture with one more line. -/
def addLine (fx : Fixture) (line : Text) : Fixture :=
  match Line.ofText line with
  | .functions names => { fx with functions := some names }
  | .expect field value => { fx with expected := fx.expected.put field value }
  | .remark => fx
  | .expression => { fx with expression := fx.expression.or (some line) }

/-- The fixture of a text. -/
def parse (source : Text) : Fixture := source.lines.foldl addLine ⟨none, [], none⟩

/-- The classification rules of a fixture: its functions are added to the catalogue. -/
def rules (fx : Fixture) : Rules :=
  match fx.functions with
  | none => {}
  | some names => .ofFunctions (.build names true)

end Fixture

end ExprLex
