import ExprLex.Text.Basic

/-!
# Quoted texts

Reports quote lexemes, paths and patterns. A quoted text stands between two marks; what would end it early, and what cannot
be seen, is written as an escape. The mark is the apostrophe, unless the text holds an apostrophe and no double quote.
-/

namespace ExprLex

namespace Text

/-- The hexadecimal digit of a number below 16, in lower case. -/
def hexDigit (n : Nat) : Char := if n < 10 then Char.ofNat (48 + n) else Char.ofNat (87 + n)

/-- The last `width` hexadecimal digits of a number. -/
def hexDigits : (width : Nat) → Nat → Text
  | 0, _ => []
  | w + 1, n => hexDigits w (n / 16) ++ [hexDigit (n % 16)]

/-- The mark a quoted text stands between. -/
def quoteMark (t : Text) : Char := if t.contains '\x27' && !t.contains '"' then '"' else '\x27'

/-- A character that is not shown as it is, by its code point: with two hexadecimal digits if they suffice, else with four,
else with eight. -/
def escapeCode (n : Nat) : Text :=
  if n < 0x100 then '\\' :: 'x' :: hexDigits 2 n
  else if n < 0x10000 then '\\' :: 'u' :: hexDigits 4 n
  else '\\' :: 'U' :: hexDigits 8 n

/-- How one character is written between the given marks. -/
def quoteChar (mark c : Char) : Text :=
  if c == mark || c == '\\' then ['\\', c]
  else if c == '\t' then ['\\', 't']
  else if c == '\n' then ['\\', 'n']
  else if c == '\r' then ['\\', 'r']
  else if isPrintable c then [c]
  else escapeCode c.toNat

/-- The quoted form of a text, marks included. -/
def quote (t : Text) : Text :=
  let mark := quoteMark t
  mark :: t.flatMap (quoteChar mark) ++ [mark]

/-- The quoted form of a text as a string. -/
def quoted (t : Text) : String := String.ofList (quote t)

end Text

end ExprLex
