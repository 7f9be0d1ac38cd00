import ExprLex.Character.Letter
import ExprLex.Character.Mark
import ExprLex.Character.Number
import ExprLex.Character.Unprintable

/-!
# Character classes

The classes the lexer, the delimiter patterns and the quoted texts go by, as tests on one character. Each is a union of the
categories of the Unicode character database, with the exceptions listed here.
-/

namespace ExprLex

/-- The whitespace code points. -/
def whitespaceRanges : CodeRanges :=
  [(0x9, 0xD), (0x1C, 0x20), (0x85, 0x85), (0xA0, 0xA0), (0x1680, 0x1680), (0x2000, 0x200A), (0x2028, 0x2029),
   (0x202F, 0x202F), (0x205F, 0x205F), (0x3000, 0x3000)]

/-- Whitespace: what separates lexemes and what trimming removes. -/
def isWhitespace (c : Char) : Bool := whitespaceRanges.contains c.toNat

/-- A decimal digit of any script. -/
def isDigit (c : Char) : Bool := decimalDigitRanges.contains c.toNat

/-- A letter of any script. -/
def isLetter (c : Char) : Bool := letterRanges.contains c.toNat

/-- A character of a word: a letter, a numeral of any kind or the underscore. Combining marks are none. -/
def isWord (c : Char) : Bool :=
  c == '_' || isDigit c || isLetter c || letterNumberRanges.contains c.toNat || otherNumberRanges.contains c.toNat

/-- An ASCII letter. -/
def isAsciiLetter (c : Char) : Bool := ('a' ≤ c && c ≤ 'z') || ('A' ≤ c && c ≤ 'Z')

/-- A character that a quoted text shows as it is. -/
def isPrintable (c : Char) : Bool := !unprintableRanges.contains c.toNat

/-- Letters and letter numerals that may not start a group name, because their compatibility form does not. -/
def nameStartExceptions : CodeRanges :=
  [(0x37A, 0x37A), (0xE33, 0xE33), (0xEB3, 0xEB3), (0x2E2F, 0x2E2F), (0xFC5E, 0xFC63), (0xFDFA, 0xFDFB),
   (0xFE70, 0xFE70), (0xFE72, 0xFE72), (0xFE74, 0xFE74), (0xFE76, 0xFE76), (0xFE78, 0xFE78), (0xFE7A, 0xFE7A),
   (0xFE7C, 0xFE7C), (0xFE7E, 0xFE7E), (0xFF9E, 0xFF9F)]

/-- Characters that are no letters and may still start a group name. -/
def nameStartExtras : CodeRanges := [(0x5F, 0x5F), (0x1885, 0x1886), (0x2118, 0x2118), (0x212E, 0x212E)]

/-- Characters that continue a group name and are neither its start nor a mark nor a digit: the other connectors, middle
dots and the like. -/
def nameContinueExtras : CodeRanges :=
  [(0xB7, 0xB7), (0x387, 0x387), (0xE33, 0xE33), (0xEB3, 0xEB3), (0x1369, 0x1371), (0x19DA, 0x19DA),
   (0x203F, 0x2040), (0x2054, 0x2054), (0xFE33, 0xFE34), (0xFE4D, 0xFE4F), (0xFF3F, 0xFF3F), (0xFF9E, 0xFF9F)]

/-- A character that may start a group name. -/
def isNameStart (c : Char) : Bool :=
  nameStartExtras.contains c.toNat ||
    ((isLetter c || letterNumberRanges.contains c.toNat) && !nameStartExceptions.contains c.toNat)

/-- A character that may continue a group name. -/
def isNameContinue (c : Char) : Bool :=
  isNameStart c || isDigit c || markRanges.contains c.toNat || nameContinueExtras.contains c.toNat

end ExprLex
