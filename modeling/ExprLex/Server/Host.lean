import ExprLex.Text.Numeral

/-!
# Bracketed hosts

A host of a document address may be a numeric address in brackets. It has eight groups of hexadecimal digits, where a double
colon stands for one or more groups of zeros and a dotted address may stand for the last two; a zone may follow. A leading
letter announces other kinds of addresses, of which only the form is checked.
-/

namespace ExprLex

namespace Server

namespace Host

/-- A number from 0 to 255 in decimal digits, without zeros before it. -/
def isOctet (t : Text) : Bool :=
  !t.isEmpty && decide (t.length ≤ 3) && t.all Numeral.isDecimal && (t == ['0'] || t.head? != some '0') &&
    decide (Numeral.value 10 t ≤ 255)

/-- Four numbers with points between them. -/
def isDotted (t : Text) : Bool :=
  let octets := Text.splitOn '.' t
  octets.length == 4 && octets.all isOctet

/-- One to four hexadecimal digits. -/
def isGroup (t : Text) : Bool := !t.isEmpty && decide (t.length ≤ 4) && t.all Numeral.isHex

/-- The groups between the colons of an address. A dotted address at the end is two of them; nothing if what has points
there is no such address. -/
def groups? (t : Text) : Option (List Text) :=
  let parts := Text.splitOn ':' t
  match parts.getLast? with
  | none => none
  | some last =>
    if !last.contains '.' then some parts
    else if isDotted last then some (parts.dropLast ++ [['0'], ['0']])
    else none

/-- The groups on one side of a double colon. If it stands at the end of the address there are none. -/
def side (parts : List Text) : List Text := if parts == [[]] then [] else parts

/-- Whether these groups make an address: eight of them, or at most seven around one double colon. -/
def areGroups : List Text → Bool
  | [] => false
  | first :: rest =>
    let inner := rest.dropLast
    match inner.count [] with
    | 0 => rest.length == 7 && (first :: rest).all isGroup
    | 1 =>
      let before := first :: inner.takeWhile (!·.isEmpty)
      let given := side before ++ side (rest.drop before.length)
      decide (given.length ≤ 7) && given.all isGroup
    | _ => false

/-- Whether a text is an address in groups, with or without a zone. -/
def isGrouped (t : Text) : Bool :=
  let (address, zone) := Text.cutAt '%' t
  zone.all (fun z => !z.isEmpty && !z.contains '%') && (groups? address).any areGroups

/-- Whether a text has the form of an address of another kind: a letter that announces it, hexadecimal digits for the kind,
a point and the address. -/
def isAnnounced : Text → Bool
  | 'v' :: t =>
    match t.dropWhile Numeral.isHex with
    | '.' :: _ :: _ => (t.head?).any Numeral.isHex
    | _ => false
  | _ => false

end Host

end Server

end ExprLex
