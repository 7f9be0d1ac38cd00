import ExprLex.Text.Quoted

/-!
# Texts in files

Files hold bytes. Their text is read as UTF-8, where bytes that do not fit stand for the replacement character: one for each
longest run of bytes that starts a character and does not finish it, and one for each byte that starts none. A strict reader
stops at the first of these instead. Then the line breaks of other systems are unified.
-/

namespace ExprLex

namespace Utf8

/-- What the next byte may be. -/
inductive State where
  /-- the first byte of a character -/
  | between
  /-- a byte from `lo` to `hi` that continues a character, with `owed` more of them behind it; `code` is its code point so
  far -/
  | inside (owed lo hi code : Nat)
  deriving DecidableEq, Repr

/-- The character in place of bytes that do not fit. -/
def replacement : Char := '\ufffd'

/-- The characters that the first byte of a character completes, and what may follow it. -/
def first (b : Nat) : Text × State :=
  if b < 0x80 then ([Char.ofNat b], .between)
  else if 0xC2 ≤ b && b ≤ 0xDF then ([], .inside 0 0x80 0xBF (b - 0xC0))
  else if b = 0xE0 then ([], .inside 1 0xA0 0xBF 0)
  else if b = 0xED then ([], .inside 1 0x80 0x9F 0xD)
  else if 0xE1 ≤ b && b ≤ 0xEF then ([], .inside 1 0x80 0xBF (b - 0xE0))
  else if b = 0xF0 then ([], .inside 2 0x90 0xBF 0)
  else if 0xF1 ≤ b && b ≤ 0xF3 then ([], .inside 2 0x80 0xBF (b - 0xF0))
  else if b = 0xF4 then ([], .inside 2 0x80 0x8F 4)
  else ([replacement], .between)

/-- The characters that a byte completes, and what may follow it. A byte that does not continue a character ends it early
and is the first one of the next. -/
def step : State → Nat → Text × State
  | .between, b => first b
  | .inside owed lo hi code, b =>
    if lo ≤ b && b ≤ hi then
      let code := code * 64 + (b - 0x80)
      match owed with
      | 0 => ([Char.ofNat code], .between)
      | n + 1 => ([], .inside n 0x80 0xBF code)
    else
      let (completed, state) := first b
      (replacement :: completed, state)

/-- The text of some bytes from a state on. -/
def decodeFrom : State → List UInt8 → Text
  | .between, [] => []
  | .inside .., [] => [replacement]
  | state, b :: rest =>
    let (completed, next) := step state b.toNat
    completed ++ decodeFrom next rest

/-- The text of some bytes. -/
def decode (bytes : List UInt8) : Text := decodeFrom .between bytes

/-- What is wrong with bytes that do not fit. -/
inductive Flaw where
  /-- the byte starts no character -/
  | start
  /-- what comes behind the bytes does not continue the character that they start -/
  | continuation
  /-- the bytes end within a character -/
  | unfinished
  deriving DecidableEq, Repr

/-- The wording of a flaw. -/
def Flaw.reason : Flaw → String
  | .start => "invalid start byte"
  | .continuation => "invalid continuation byte"
  | .unfinished => "unexpected end of data"

/-- Bytes that do not fit: the first of them, its offset and how many there are. -/
structure Misfit where
  flaw : Flaw
  byte : UInt8
  offset : Nat
  count : Nat
  deriving DecidableEq, Repr

/-- The wording of the complaint about bytes that do not fit. -/
def Misfit.message (m : Misfit) : String :=
  "'utf-8' codec can't decode " ++
    (if m.count = 1 then
      "byte 0x" ++ String.ofList (Text.hexDigits 2 m.byte.toNat) ++ " in position " ++ toString m.offset
    else "bytes in position " ++ toString m.offset ++ "-" ++ toString (m.offset + m.count - 1)) ++ ": " ++ m.flaw.reason

/-- The first bytes that do not fit. `offset` bytes were read before, and the character that may be open began with a byte at
an offset of its own. -/
def misfitFrom? (offset : Nat) : State → UInt8 × Nat → List UInt8 → Option Misfit
  | .between, _, [] => none
  | .inside .., (byte, opened), [] => some ⟨.unfinished, byte, opened, offset - opened⟩
  | .between, _, b :: rest =>
    match first b.toNat with
    | (_, .between) => if b < 0x80 then misfitFrom? (offset + 1) .between (b, offset) rest else some ⟨.start, b, offset, 1⟩
    | (_, state) => misfitFrom? (offset + 1) state (b, offset) rest
  | .inside owed lo hi code, (byte, opened), b :: rest =>
    if lo ≤ b.toNat && b.toNat ≤ hi then
      misfitFrom? (offset + 1) (step (.inside owed lo hi code) b.toNat).2 (byte, opened) rest
    else some ⟨.continuation, byte, opened, offset - opened⟩

/-- The text of some bytes, if they all fit. -/
def decodeStrictly (bytes : List UInt8) : Except Misfit Text :=
  match misfitFrom? 0 .between (0, 0) bytes with
  | none => .ok (decode bytes)
  | some m => .error m

end Utf8

namespace Text

/-- A text with line feeds for all line breaks that are made of carriage returns. -/
def unifyBreaks : Text → Text
  | [] => []
  | '\r' :: '\n' :: t => '\n' :: unifyBreaks t
  | '\r' :: t => '\n' :: unifyBreaks t
  | c :: t => c :: unifyBreaks t

/-- The text of a file. -/
def ofBytes (bytes : List UInt8) : Text := unifyBreaks (Utf8.decode bytes)

end Text

end ExprLex
