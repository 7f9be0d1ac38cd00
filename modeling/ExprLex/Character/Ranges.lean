/-!
# Sets of code points

A character class of the Unicode character database is a list of ranges in increasing order, and membership stops at the
first range that does not lie below the code point.
-/

namespace ExprLex

/-- A set of code points: inclusive ranges, each above the one before it. -/
abbrev CodeRanges : Type := List (Nat × Nat)

/-- Membership of a code point. The ranges increase, so the first one that ends at or above the code point decides. -/
def CodeRanges.contains : CodeRanges → Nat → Bool
  | [], _ => false
  | (lo, hi) :: rest, n => if n ≤ hi then decide (lo ≤ n) else contains rest n

end ExprLex
