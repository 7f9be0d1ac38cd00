import ExprLex.Text.Basic

/-!
# Numerals

Digits and the numbers they write, in the bases that patterns, addresses and escapes use. Only ASCII digits count here.
-/

namespace ExprLex

namespace Numeral

/-- An octal digit. -/
def isOctal (c : Char) : Bool := '0' ≤ c && c ≤ '7'

/-- A decimal digit. -/
def isDecimal (c : Char) : Bool := '0' ≤ c && c ≤ '9'

/-- A hexadecimal digit of either case. -/
def isHex (c : Char) : Bool := isDecimal c || ('a' ≤ c && c ≤ 'f') || ('A' ≤ c && c ≤ 'F')

/-- The value of a hexadecimal digit. -/
def digitValue (c : Char) : Nat :=
  if isDecimal c then c.toNat - 48 else if 'a' ≤ c && c ≤ 'f' then c.toNat - 87 else c.toNat - 55

/-- The number that digits write in a base. -/
def value (base : Nat) (digits : Text) : Nat := digits.foldl (fun n c => n * base + digitValue c) 0

end Numeral

end ExprLex
