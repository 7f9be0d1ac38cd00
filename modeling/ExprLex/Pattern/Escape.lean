import ExprLex.Pattern.Cursor
import ExprLex.Pattern.Regex

/-!
# Escapes and character sets

What a backslash and the character behind it mean, outside and inside of character sets, and how a set is read up to the
bracket that closes it.
-/

namespace ExprLex

namespace Pattern

/-- What the reader of patterns brings along. -/
structure Engine where
  /-- the character with a name -/
  character? : Text → Option Char
  /-- how many groups may be open at once -/
  room : Nat

/-- A reader that knows no names, with room for some groups. -/
def Engine.plain : Engine := ⟨fun _ => none, 100⟩

/-- The letters that stand for a character, and its code point. -/
def controlCode : Char → Option Nat
  | 'a' => some 7
  | 'f' => some 12
  | 'n' => some 10
  | 'r' => some 13
  | 't' => some 9
  | 'v' => some 11
  | _ => none

/-- The class of word characters. -/
def wordClass (ascii : Bool) : Shorthand := if ascii then .asciiWord else .word

/-- The letters that stand for a character class, which may take in ASCII characters only. -/
def shorthand? (ascii : Bool) : Char → Option SetItem
  | 'd' => some (.shorthand (if ascii then .asciiDigit else .digit) false)
  | 'D' => some (.shorthand (if ascii then .asciiDigit else .digit) true)
  | 's' => some (.shorthand (if ascii then .asciiSpace else .space) false)
  | 'S' => some (.shorthand (if ascii then .asciiSpace else .space) true)
  | 'w' => some (.shorthand (wordClass ascii) false)
  | 'W' => some (.shorthand (wordClass ascii) true)
  | _ => none

/-- The letters that stand for a condition on the place. -/
def anchor? (ascii : Bool) : Char → Option Anchor
  | 'A' => some .textStart
  | 'Z' => some .textEnd
  | 'b' => some (.wordEdge (wordClass ascii) false)
  | 'B' => some (.wordEdge (wordClass ascii) true)
  | _ => none

/-- The number of hexadecimal digits that an escape letter asks for. -/
def hexWidth? : Char → Option Nat
  | 'x' => some 2
  | 'u' => some 4
  | 'U' => some 8
  | _ => none

/-- An escaped code point in hexadecimal digits, behind the letter that tells how many there are. -/
def readHex (start : Nat) (letter : Char) (width : Nat) (cur : Cursor) : Except Fault (Nat × Cursor) := do
  let (digits, behind) ← cur.takeWhile Numeral.isHex width
  let escape := '\\' :: letter :: digits
  if digits.length < width then .error (.malformed (.incompleteEscape escape) start)
  else
    let code := Numeral.value 16 digits
    if code ≤ 0x10FFFF then return (code, behind) else .error (.malformed (.badEscape escape) start)

/-- A character escaped by its name. -/
def readNamed (engine : Engine) (start : Nat) (cur : Cursor) : Except Fault (Nat × Cursor) := do
  match ← cur.accept '\x7b' with
  | none => .error (.malformed .missingBrace cur.position)
  | some inside =>
    let (name, behind) ← inside.name '\x7d' "character name"
    match engine.character? name with
    | none => .error (.malformed (.unknownCharacter name) start)
    | some c => return (c.toNat, behind)

/-- An escaped code point in octal digits of which the first ones are read already. -/
def octalCode (start : Nat) (digits : Text) (behind : Cursor) : Except Fault (Nat × Cursor) :=
  let code := Numeral.value 8 digits
  if code ≤ 0o377 then .ok (code, behind) else .error (.malformed (.octalTooLarge ('\\' :: digits)) start)

/-- What an escape means that is read the same way inside and outside of character sets. -/
def readCommonEscape (engine : Engine) (start : Nat) (c : Char) (cur : Cursor) : Except Fault (Nat × Cursor) :=
  match controlCode c, hexWidth? c with
  | some code, _ => .ok (code, cur)
  | none, some width => readHex start c width cur
  | none, none =>
    if c = 'N' then readNamed engine start cur
    else if isAsciiLetter c || Numeral.isDecimal c then .error (.malformed (.badEscape ['\\', c]) start)
    else .ok (c.toNat, cur)

/-- An escape inside a character set. -/
def readSetEscape (engine : Engine) (ascii : Bool) (start : Nat) (c : Char) (cur : Cursor) : Except Fault (SetItem × Cursor) :=
  match shorthand? ascii c with
  | some item => .ok (item, cur)
  | none =>
    if c = 'b' then .ok (.code 8, cur)
    else if Numeral.isOctal c then do
      let (digits, behind) ← cur.takeWhile Numeral.isOctal 2
      let (code, final) ← octalCode start (c :: digits) behind
      return (.code code, final)
    else do
      let (code, behind) ← readCommonEscape engine start c cur
      return (.code code, behind)

/-- An end of a range, or an item of its own, of a character set. -/
def readSetItem (engine : Engine) (ascii : Bool) (start : Nat) (symbol : Symbol) (cur : Cursor) :
    Except Fault (SetItem × Cursor) :=
  match symbol with
  | .plain c => .ok (.code c.toNat, cur)
  | .escaped c => readSetEscape engine ascii start c cur
  | .dangling => .error (.malformed .danglingBackslash start)

/-- The items of a character set up to the bracket that closes it. A closing bracket in the first place is an item. -/
def readSetItems (engine : Engine) (ascii : Bool) (opened : Nat) :
    (limit : Nat) → (items : List SetItem) → Cursor → Except Fault (List SetItem × Cursor)
  | 0, _, _ => .error (.malformed .unclosedSet opened)
  | n + 1, items, cur => do
    match ← cur.next with
    | none => .error (.malformed .unclosedSet opened)
    | some (symbol, behind) =>
      if symbol = .plain ']' && !items.isEmpty then return (items.reverse, behind)
      else
        let (low, afterLow) ← readSetItem engine ascii cur.position symbol behind
        match ← afterLow.accept '-' with
        | none => readSetItems engine ascii opened n (low :: items) afterLow
        | some afterDash =>
          match ← afterDash.next with
          | none => .error (.malformed .unclosedSet opened)
          | some (.plain ']', final) => return ((.code '-'.toNat :: low :: items).reverse, final)
          | some (ending, afterEnding) =>
            let (high, afterHigh) ← readSetItem engine ascii afterDash.position ending afterEnding
            let fault : Fault := .malformed (.badRange symbol.text ending.text)
              (afterHigh.position - (symbol.text.length + 1 + ending.text.length))
            match low, high with
            | .code lo, .code hi =>
              if hi < lo then .error fault else readSetItems engine ascii opened n (.range lo hi :: items) afterHigh
            | _, _ => .error fault

/-- A character set, behind the bracket that opens it. -/
def readSet (engine : Engine) (ascii : Bool) (opened : Nat) (cur : Cursor) : Except Fault (CharTest × Cursor) := do
  let (complement, inside) ← match ← cur.accept '^' with
    | some behind => pure (true, behind)
    | none => pure (false, cur)
  let (items, behind) ← readSetItems engine ascii opened (inside.rest.length + 1) [] inside
  return (.set complement items, behind)

end Pattern

end ExprLex
