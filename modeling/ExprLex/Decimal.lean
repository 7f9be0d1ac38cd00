import ExprLex.Text.Basic

/-!
# Shortest decimals

A binary floating-point number is written with the fewest decimal digits that read back as the same number. The number is an
integer times a power of two, and the decimals that read back as it fill an interval around it, so the digits are found on
finer and finer decimal grids in exact arithmetic: the first grid on which a neighbour of the number lies in the interval
gives them.
-/

namespace ExprLex

namespace Decimal

/-- A non-negative rational number, for exact comparisons: a numerator and a positive denominator. -/
structure Ratio where
  num : Nat
  den : Nat

/-- The ratio `n * b ^ e` for an integer exponent. -/
def Ratio.scaled (n b : Nat) (e : Int) : Ratio :=
  if 0 ≤ e then ⟨n * b.pow e.toNat, 1⟩ else ⟨n, b.pow (-e).toNat⟩

/-- Comparison of ratios. -/
def Ratio.le (a b : Ratio) : Bool := decide (a.num * b.den ≤ b.num * a.den)

/-- Strict comparison of ratios. -/
def Ratio.lt (a b : Ratio) : Bool := decide (a.num * b.den < b.num * a.den)

/-- A finite floating-point number that is not negative: `m * 2 ^ q`, where `atPower` tells that the number below it is only
half as far away as the one above it. -/
structure Binary where
  m : Nat
  q : Int
  atPower : Bool

/-- The number of fractions that 52 bits tell apart. -/
def fractionSize : Nat := 0x10000000000000

/-- The magnitude of a finite number, from the 52 bits of its fraction and the 11 bits of its exponent. -/
def Binary.ofFields (exponent fraction : Nat) : Binary :=
  if exponent = 0 then ⟨fraction, -1074, false⟩
  else ⟨fraction + fractionSize, exponent - 1075, fraction = 0 && exponent != 1⟩

namespace Binary

/-- The number as a ratio. -/
def value (b : Binary) : Ratio := .scaled (4 * b.m) 2 (b.q - 2)

/-- The lower end of the interval that reads back as the number. -/
def low (b : Binary) : Ratio := .scaled (4 * b.m - (if b.atPower then 1 else 2)) 2 (b.q - 2)

/-- The upper end of that interval. -/
def high (b : Binary) : Ratio := .scaled (4 * b.m + 2) 2 (b.q - 2)

/-- Whether a decimal reads back as the number. A number with an even `m` owns both ends of its interval. -/
def ownsDecimal (b : Binary) (r : Ratio) : Bool :=
  if b.m % 2 = 0 then b.low.le r && r.le b.high else b.low.lt r && r.lt b.high

/-- The integer part of a number over a power of ten. -/
def floorOver (b : Binary) (k : Int) : Nat :=
  let v := b.value
  if 0 ≤ k then v.num / (v.den * Nat.pow 10 k.toNat) else v.num * Nat.pow 10 (-k).toNat / v.den

/-- Of the two neighbours of the number on the grid of the multiples of `10 ^ k`, the one that reads back as it, and of two
such ones the nearer; a tie goes to the even one. -/
def onGrid (b : Binary) (k : Int) : Option Nat :=
  let below := b.floorOver k
  let above := below + 1
  match b.ownsDecimal (.scaled below 10 k), b.ownsDecimal (.scaled above 10 k) with
  | false, false => none
  | true, false => some below
  | false, true => some above
  | true, true =>
    let middle : Ratio := .scaled (2 * below + 1) 10 k
    let double : Ratio := ⟨2 * b.value.num, b.value.den⟩
    if double.lt middle then some below
    else if middle.lt double then some above
    else some (if below % 2 = 0 then below else above)

/-- The exponent of the leading decimal digit: the greatest one in the given number of tries, downwards from `top`, with a
power of ten that is at most the number. -/
def leadingFrom (b : Binary) : (tries : Nat) → (top : Int) → Int
  | 0, top => top
  | n + 1, top => if (Ratio.scaled 1 10 top).le b.value then top else leadingFrom b n (top - 1)

/-- The fewest digits that read back as a positive number, as an integer and the power of ten it counts, on grids of `n`
digits and more. -/
def shortestFrom (b : Binary) (leading : Int) : (tries n : Nat) → Nat × Int
  | 0, n => (b.floorOver (leading + 1 - n), leading + 1 - n)
  | t + 1, n =>
    match b.onGrid (leading + 1 - n) with
    | some digits => (digits, leading + 1 - n)
    | none => shortestFrom b leading t (n + 1)

/-- The fewest digits that read back as a positive number, as an integer and the power of ten it counts. Seventeen digits
always suffice. -/
def shortest (b : Binary) : Nat × Int := b.shortestFrom (b.leadingFrom 640 310) 17 1

end Binary

/-- The digits of a number without its trailing zeros, and how many of these there were. -/
def dropZeros : (tries n : Nat) → Nat × Nat
  | 0, n => (n, 0)
  | t + 1, n =>
    if n % 10 = 0 && n != 0 then
      let (kept, zeros) := dropZeros t (n / 10)
      (kept, zeros + 1)
    else (n, 0)

/-- A positive decimal `digits * 10 ^ k` in its written form: positional, with at least one digit on either side of the
point, as long as the leading digit has an exponent from -4 to 15; else with one digit before the point, if any follow, and
a signed exponent of at least two digits. -/
def layOut (digits : Nat) (k : Int) : String :=
  let (kept, zeros) := dropZeros 20 digits
  let ds := (toString kept).toList
  let k := k + zeros
  let leading := k + ds.length - 1
  if -4 ≤ leading && leading ≤ 15 then
    if 0 ≤ k then String.ofList (ds ++ List.replicate k.toNat '0') ++ ".0"
    else if 0 ≤ leading then
      let whole := leading.toNat + 1
      String.ofList (ds.take whole) ++ "." ++ String.ofList (ds.drop whole)
    else "0." ++ String.ofList (List.replicate (-leading - 1).toNat '0' ++ ds)
  else
    let mantissa := match ds with
      | [] => ""
      | [d] => d.toString
      | d :: rest => d.toString ++ "." ++ String.ofList rest
    let size := leading.natAbs
    mantissa ++ "e" ++ (if leading < 0 then "-" else "+") ++ (if size < 10 then "0" else "") ++ toString size

/-- The written form of a floating-point number. -/
def render (x : Float) : String :=
  let bits := x.toBits.toNat
  let sign := if bits / (fractionSize * 2048) = 1 then "-" else ""
  let exponent := bits / fractionSize % 2048
  let fraction := bits % fractionSize
  if exponent = 2047 then (if fraction = 0 then sign ++ "inf" else "nan")
  else if exponent = 0 && fraction = 0 then sign ++ "0.0"
  else
    let (digits, k) := (Binary.ofFields exponent fraction).shortest
    sign ++ layOut digits k

end Decimal

end ExprLex
