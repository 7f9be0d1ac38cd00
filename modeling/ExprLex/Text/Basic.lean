import ExprLex.Character.Class

/-!
# Texts

A text is a list of characters, so that offsets, lengths and cuts all count code points. Here are the operations on texts
that the rest of the library is written in: trimming, cutting at separators, cutting into lines and into words.
-/

namespace ExprLex

/-- A text: an expression, a lexeme, a line, a name, a pattern. -/
abbrev Text : Type := List Char

namespace Text

/-- The text without the whitespace it starts with. -/
def trimLeft (t : Text) : Text := t.dropWhile isWhitespace

/-- The text without the whitespace it ends with. -/
def trimRight (t : Text) : Text := (t.reverse.dropWhile isWhitespace).reverse

/-- The text without the whitespace at either end. -/
def trim (t : Text) : Text := trimRight (trimLeft t)

/-- A text with nothing but whitespace in it; the empty text is one. -/
def isBlank (t : Text) : Bool := t.all isWhitespace

/-- A character put before the first of some pieces, or as a piece of its own where there is none. -/
def joinFirst {α : Type} (c : α) : List (List α) → List (List α)
  | [] => [[c]]
  | piece :: rest => (c :: piece) :: rest

/-- The pieces between the characters that separate, empty ones included: one more than there are separators. -/
def splitWhere {α : Type} (separates : α → Bool) : List α → List (List α)
  | [] => [[]]
  | c :: t => if separates c then [] :: splitWhere separates t else joinFirst c (splitWhere separates t)

/-- A text cut at the first occurrence of a character: what is before it, and what is behind it if it occurs. -/
def cutAt (separator : Char) (t : Text) : Text × Option Text :=
  match t.dropWhile (· != separator) with
  | [] => (t, none)
  | _ :: behind => (t.takeWhile (· != separator), some behind)

/-- The pieces between the occurrences of one character. -/
def splitOn (separator : Char) (t : Text) : List Text := splitWhere (· == separator) t

/-- The items of a comma-separated list: trimmed, and the empty ones left out. -/
def commaItems (t : Text) : List Text := ((splitOn ',' t).map trim).filter (!·.isEmpty)

/-- The words of a text: its maximal runs without whitespace. -/
def words (t : Text) : List Text := (splitWhere isWhitespace t).filter (!·.isEmpty)

/-- The text with every run of whitespace replaced by one space and none at its ends. -/
def normaliseSpaces (t : Text) : Text := [' '].intercalate (words t)

/-- Whether a list comes before another one or is the same, where each entry has a number: the first numbers that differ
decide, and a list comes before its continuations. -/
def isUpToBy {α : Type} (number : α → Nat) : List α → List α → Bool
  | [], _ => true
  | _ :: _, [] => false
  | a :: t, b :: u => if number a = number b then isUpToBy number t u else decide (number a < number b)

/-- Texts in the order of their code points. -/
def sorted (ts : List Text) : List Text := ts.mergeSort (isUpToBy Char.toNat)

/-- The characters that end a line. A carriage return and the line feed after it end one line together (`lines`). -/
def isLineBreak (c : Char) : Bool :=
  c == '\n' || c == '\r' || c == '\x0b' || c == '\x0c' || c == '\x1c' || c == '\x1d' || c == '\x1e' || c == '\u0085' ||
    c == '\u2028' || c == '\u2029'

/-- The lines of a text without their line breaks. A break at the very end starts no further line. -/
def lines : Text → List Text
  | [] => []
  | '\r' :: '\n' :: t => [] :: lines t
  | c :: t => if isLineBreak c then [] :: lines t else joinFirst c (lines t)

/-- A text as a string, for reports. -/
abbrev toString (t : Text) : String := String.ofList t

end Text

end ExprLex
