import ExprLex.Text.Basic

/-!
# Positions of clients

Clients count the columns of a line in UTF-16 code units, the library in code points. A position that is sent to a client is
converted with the lines of the document at hand, and so is one that comes from a client. Positions outside of the document
are moved into it. Every position that is made, on either side, is checked for its range.
-/

namespace ExprLex

namespace Client

/-- The greatest line and the greatest column a position may have. -/
def positionLimit : Int := 2147483647

/-- A position in a document: line and column, both from 0. -/
structure Position where
  line : Nat
  character : Nat
  deriving DecidableEq, Repr

/-- Why a position cannot be made. -/
inductive PositionError where
  | line (n : Int)
  | character (n : Int)
  deriving DecidableEq, Repr

/-- The wording of an error. -/
def PositionError.message : PositionError → String
  | .line n => "Position.line should be in range [0:2147483647], but was " ++ toString n ++ "."
  | .character n => "Position.character should be in range [0:2147483647], but was " ++ toString n ++ "."

/-- Whether a line or a column is in its range. -/
def inLimits (n : Int) : Bool := decide (0 ≤ n) && decide (n ≤ positionLimit)

/-- A position, if its line and its column are in their range. The line is checked first. -/
def Position.make (line character : Int) : Except PositionError Position :=
  if !inLimits line then .error (.line line)
  else if !inLimits character then .error (.character character)
  else .ok ⟨line.toNat, character.toNat⟩

/-- A part of a document. -/
structure Range where
  start : Position
  stop : Position
  deriving DecidableEq, Repr

/-- The number of UTF-16 code units of a character. -/
def charUnits (c : Char) : Nat := if 0xFFFF < c.toNat then 2 else 1

/-- The number of UTF-16 code units of a text. -/
def units : Text → Nat
  | [] => 0
  | c :: t => charUnits c + units t

/-- How many characters of a text it takes to reach a number of code units; a number inside of a character takes it
whole. -/
def charactersFor : Text → (count : Nat) → Nat
  | [], _ => 0
  | c :: t, n => if n = 0 then 0 else charactersFor t (n - charUnits c) + 1

/-- A line with each carriage return before a line feed left out. -/
def withoutReturns : Text → Text
  | [] => []
  | '\r' :: '\n' :: t => '\n' :: withoutReturns t
  | c :: t => c :: withoutReturns t

/-- A position of the library, with its column in code points, as the client counts it. A line outside of the document is
taken to be the one behind the last. -/
def Position.toClient (lines : List Text) (p : Position) : Except PositionError Position :=
  match lines[p.line]? with
  | none => Position.make lines.length 0
  | some line => Position.make p.line (units (line.take p.character))

/-- Where a position of a client is taken to be: a column beyond the end of a line becomes the last one on it. Empty lines
and lines outside of the document leave it as it is. -/
def Position.settled (lines : List Text) (p : Position) : Position :=
  match lines[p.line]? with
  | none => p
  | some line =>
    let length := units (withoutReturns line)
    if length != 0 && length < p.character then { p with character := length - 1 } else p

/-- A position of a client with its column in code points. A line outside of the document becomes the end of the last
line. -/
def Position.ofClient (lines : List Text) (p : Position) : Except PositionError Position :=
  match lines[p.line]?, lines.getLast? with
  | _, none => Position.make 0 0
  | none, some last => Position.make (lines.length - 1) (units last)
  | some line, some _ => Position.make p.line (charactersFor (withoutReturns line) (p.settled lines).character)

/-- The range of some columns of one line, in code points, as the client counts them. Without lines the columns stay as they
are. -/
def Range.onLine (lines : List Text) (line start stop : Int) : Except PositionError Range := do
  let first ← Position.make line start
  let last ← Position.make line stop
  if lines.isEmpty then return ⟨first, last⟩
  else return ⟨← first.toClient lines, ← last.toClient lines⟩

/-- Where a range of a client is taken to be. -/
def Range.settled (lines : List Text) (r : Range) : Range := ⟨r.start.settled lines, r.stop.settled lines⟩

/-- A range of a client with its columns in code points. -/
def Range.ofClient (lines : List Text) (r : Range) : Except PositionError Range := do
  return ⟨← r.start.ofClient lines, ← r.stop.ofClient lines⟩

end Client

end ExprLex
