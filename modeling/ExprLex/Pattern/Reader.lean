import ExprLex.Pattern.Escape
import ExprLex.Pattern.Mode

/-!
# Reading patterns

A pattern is read construct by construct. The reader keeps the group it is in and the groups around that one, each with the
alternatives finished so far and the items of the one being read. A few faults show only when all of the pattern has been
read.
-/

namespace ExprLex

namespace Pattern

/-- The least bound of a repetition that is refused. -/
def boundLimit : Nat := 4294967295

/-- The most digits that a number in a pattern is read from. -/
def boundDigits : Nat := 4300

/-- The least number of a group that no pattern can have. -/
def groupLimit : Nat := 1073741823

/-- The bound of a repetition that digits write, unless it is refused. -/
def readBound (digits : Text) : Except Fault Nat :=
  if boundDigits < digits.length then .error (.boundTooLong digits.length)
  else if boundLimit ≤ Numeral.value 10 digits then .error .boundTooLarge
  else .ok (Numeral.value 10 digits)

/-- The bounds of a repetition in braces, behind the opening brace. Nothing if it is none, and the brace is a character
then. -/
def readBounds (cur : Cursor) : Except Fault (Option (Nat × Option Nat × Cursor)) := do
  if cur.looksAt '\x7d' then return none
  let (low, afterLow) ← cur.takeWhile Numeral.isDecimal cur.rest.length
  let (high, afterHigh) ← match ← afterLow.accept ',' with
    | some behind => behind.takeWhile Numeral.isDecimal behind.rest.length
    | none => pure (low, afterLow)
  match ← afterHigh.accept '\x7d' with
  | none => return none
  | some behind =>
    let min ← readBound low
    if high.isEmpty then return some (min, none, behind)
    let max ← readBound high
    if max < min then .error (.malformed .boundsReversed cur.position) else return some (min, some max, behind)

/-- What a repetition sign looks back on. -/
inductive Item where
  /-- what may be repeated -/
  | whole (r : Regex)
  /-- a condition on the place, which nothing can repeat -/
  | condition (a : Anchor)
  /-- what is repeated already -/
  | repeated (r : Regex)
  deriving DecidableEq, Repr

/-- The expression of an item. -/
def Item.regex : Item → Regex
  | .whole r => r
  | .condition a => .anchor a
  | .repeated r => r

/-- What becomes of the expression inside a pair of parentheses. -/
inductive Role where
  /-- the pattern as a whole, or a group for precedence only -/
  | plain
  /-- a capturing group -/
  | capture (index : Nat)
  /-- a group that matches in one way only -/
  | atomic
  /-- a lookahead -/
  | ahead (negated : Bool)
  /-- a lookbehind; `earlier` is the number of capturing groups opened before it -/
  | behind (negated : Bool) (earlier : Nat)
  /-- two alternatives, the first for when a group has taken part -/
  | conditional (index : Nat)
  deriving DecidableEq, Repr

/-- A group that is being read. -/
structure Frame where
  /-- the position of its opening parenthesis -/
  opened : Nat
  role : Role
  mode : Mode
  /-- the alternatives that are finished, the latest first -/
  done : List Regex := []
  /-- the items of the alternative that is being read, the latest first -/
  items : List Item := []
  deriving DecidableEq, Repr

namespace Frame

/-- The expression of the alternative that is being read. -/
def alternative (f : Frame) : Regex := Regex.sequence (f.items.reverse.map Item.regex)

/-- The alternatives of a group. -/
def alternatives (f : Frame) : List Regex := (f.alternative :: f.done).reverse

/-- The expression of all alternatives of a group. -/
def body (f : Frame) : Regex := Regex.choice f.alternatives

/-- The expression of a group, given the widths of the groups before it. -/
def regex (f : Frame) (widths : Nat → Width) : Regex :=
  match f.role with
  | .plain => f.body
  | .capture index => .group index f.body
  | .atomic => .atomic f.body
  | .ahead negated => .ahead negated f.body
  | .behind negated _ => .behind negated (f.body.width widths).least f.body
  | .conditional index =>
    match f.alternatives with
    | [present, absent] => .conditional index present absent
    | _ => .conditional index f.body .empty

/-- What is wrong with a group as a whole: a lookbehind that does not tell how far to look. -/
def cause? (f : Frame) (widths : Nat → Width) : Option Cause :=
  match f.role with
  | .behind _ _ =>
    let w := f.body.width widths
    if boundLimit < w.least then some .farLookbehind else if w.least = w.most then none else some .unevenLookbehind
  | _ => none

/-- Whether a further alternative would be one too many. -/
def isFull (f : Frame) : Bool :=
  match f.role with
  | .conditional _ => !f.done.isEmpty
  | _ => false

end Frame

/-- The state of the reader. -/
structure Reader where
  engine : Engine
  cursor : Cursor
  /-- the group that is being read, or the pattern as a whole -/
  frame : Frame
  /-- the groups around it, the innermost first -/
  around : List Frame := []
  /-- how many capturing groups have been opened -/
  groups : Nat := 0
  /-- the names of groups and their numbers -/
  names : List (Text × Nat) := []
  /-- the widths of the capturing groups that are closed -/
  widths : List (Nat × Width) := []
  /-- the numbers of groups that conditions refer to, and where they do so first -/
  conditions : List (Nat × Nat) := []
  /-- the flags for the whole pattern -/
  flags : List Flag := []
  /-- what is wrong with a group as a whole -/
  late : Option Cause := none

namespace Reader

/-- The reader with one more item, and the cursor behind it. -/
def push (rd : Reader) (item : Item) (behind : Cursor) : Reader :=
  { rd with cursor := behind, frame := { rd.frame with items := item :: rd.frame.items } }

/-- The reader with one more test on a character, in the mode it is in, and the cursor behind it. -/
def pushTest (rd : Reader) (test : CharTest) (behind : Cursor) : Reader :=
  rd.push (.whole (.char (test.inCasing rd.frame.mode.casing))) behind

/-- The width of a capturing group that is closed. -/
def widthOf (rd : Reader) (index : Nat) : Width := (rd.widths.lookup index).getD ⟨0, 0⟩

/-- Whether there is a capturing group with a number, and it is closed. -/
def isClosed (rd : Reader) (index : Nat) : Bool := (rd.widths.lookup index).isSome

/-- The reader inside a new group, which is read in a given mode. -/
def enterMode (rd : Reader) (opened : Nat) (role : Role) (mode : Mode) (behind : Cursor) : Reader :=
  { rd with cursor := behind, frame := { opened := opened, role := role, mode := mode }, around := rd.frame :: rd.around }

/-- The reader inside a new group. -/
def enter (rd : Reader) (opened : Nat) (role : Role) (behind : Cursor) : Reader :=
  rd.enterMode opened role rd.frame.mode behind

/-- The reader inside a new capturing group. -/
def enterCapture (rd : Reader) (opened : Nat) (behind : Cursor) : Reader :=
  { rd.enter opened (.capture (rd.groups + 1)) behind with groups := rd.groups + 1 }

/-- How many capturing groups were opened before the outermost lookbehind that is being read, if there is one. -/
def beforeLookbehind? (rd : Reader) : Option Nat :=
  (rd.frame :: rd.around).reverse.findSome? fun f =>
    match f.role with
    | .behind _ earlier => some earlier
    | _ => none

/-- Checks a reference to a group: a lookbehind may only refer to groups that were closed before it. -/
def checkLookbehind (rd : Reader) (index position : Nat) : Except Fault Unit :=
  match rd.beforeLookbehind? with
  | none => .ok ()
  | some earlier =>
    if !rd.isClosed index then .error (.malformed .groupStillOpen position)
    else if earlier < index then .error (.malformed .ownLookbehind position)
    else .ok ()

/-- A reference back to a group by its number. -/
def refer (rd : Reader) (start : Nat) (index : Nat) (behind : Cursor) : Except Fault Reader := do
  if !rd.isClosed index then .error (.malformed .groupStillOpen start)
  else
    rd.checkLookbehind index behind.position
    return rd.push (.whole (.again index rd.frame.mode.casing)) behind

/-- An escape that starts with a digit: an octal code point if it starts with a zero or has three octal digits, else the
number of a group. -/
def readDigits (rd : Reader) (start : Nat) (c : Char) (cur : Cursor) : Except Fault Reader := do
  if c = '0' then
    let (digits, behind) ← cur.takeWhile Numeral.isOctal 2
    return rd.pushTest (.code (Numeral.value 8 digits)) behind
  let (second, behind) ← cur.takeWhile Numeral.isDecimal 1
  let (third, final) ←
    if !second.isEmpty && (c :: second).all Numeral.isOctal then behind.takeWhile Numeral.isOctal 1 else pure ([], behind)
  if third.isEmpty then
    let index := Numeral.value 10 (c :: second)
    if rd.groups < index then .error (.malformed (.noSuchGroup index) (start + 1)) else rd.refer start index behind
  else
    let (code, _) ← octalCode start (c :: second ++ third) final
    return rd.pushTest (.code code) final

/-- An escape outside of character sets. -/
def readEscape (rd : Reader) (start : Nat) (c : Char) (cur : Cursor) : Except Fault Reader :=
  match anchor? rd.frame.mode.ascii c, shorthand? rd.frame.mode.ascii c with
  | some a, _ => .ok (rd.push (.condition a) cur)
  | none, some item => .ok (rd.pushTest (.set false [item]) cur)
  | none, none =>
    if Numeral.isDecimal c then rd.readDigits start c cur
    else do
      let (code, behind) ← readCommonEscape rd.engine start c cur
      return rd.pushTest (.code code) behind

/-- Whether a name may be given to a group. -/
def isGroupName : Text → Bool
  | [] => false
  | c :: rest => isNameStart c && rest.all isNameContinue

/-- The number of the group with a name that was read at a position. -/
def groupNamed (rd : Reader) (name : Text) (position : Nat) : Except Fault Nat :=
  if !isGroupName name then .error (.malformed (.badGroupName name) position)
  else
    match rd.names.lookup name with
    | none => .error (.malformed (.unknownGroupName name) position)
    | some index => .ok index

/-- A named group or a reference back to one, behind the letter that announces it. -/
def readNamedGroup (rd : Reader) (opened : Nat) (cur : Cursor) : Except Fault Reader := do
  match ← cur.accept '<' with
  | some inside =>
    let (name, behind) ← inside.name '>' "group name"
    if !isGroupName name then .error (.malformed (.badGroupName name) inside.position)
    else match rd.names.lookup name with
      | some earlier => .error (.malformed (.groupNameTaken name (rd.groups + 1) earlier) inside.position)
      | none => return { rd.enterCapture opened behind with names := (name, rd.groups + 1) :: rd.names }
  | none =>
    match ← cur.accept '=' with
    | some inside =>
      let (name, behind) ← inside.name ')' "group name"
      rd.refer inside.position (← rd.groupNamed name inside.position) behind
    | none =>
      match ← cur.next with
      | none => .error (.malformed .patternEnds cur.position)
      | some (symbol, _) => .error (.malformed (.unknownExtension ('?' :: 'P' :: symbol.text)) (opened + 1))

/-- A lookbehind, behind the sign that announces it. -/
def readLookbehind (rd : Reader) (opened : Nat) (cur : Cursor) : Except Fault Reader := do
  match ← cur.next with
  | none => .error (.malformed .patternEnds cur.position)
  | some (.plain '=', behind) => return rd.enter opened (.behind false rd.groups) behind
  | some (.plain '!', behind) => return rd.enter opened (.behind true rd.groups) behind
  | some (symbol, _) => .error (.malformed (.unknownExtension ('?' :: '<' :: symbol.text)) (opened + 1))

/-- The number of a group that a condition refers to, by its number or by its name, and the reader that takes note of it. A
number may belong to a group that comes later. -/
def conditionGroup (rd : Reader) (name : Text) (position : Nat) : Except Fault (Nat × Reader) :=
  if name.all Numeral.isDecimal && decide (name.length ≤ boundDigits) then
    let index := Numeral.value 10 name
    if index = 0 then .error (.malformed .badGroupNumber position)
    else if groupLimit ≤ index then .error (.malformed (.noSuchGroup index) position)
    else if (rd.conditions.lookup index).isSome then .ok (index, rd)
    else .ok (index, { rd with conditions := rd.conditions ++ [(index, position)] })
  else (rd.groupNamed name position).map (·, rd)

/-- A condition and what depends on it, behind the parenthesis that opens the condition. -/
def readCondition (rd : Reader) (opened : Nat) (cur : Cursor) : Except Fault Reader := do
  let (name, behind) ← cur.name ')' "group name"
  let (index, rd) ← rd.conditionGroup name cur.position
  rd.checkLookbehind index behind.position
  return rd.enter opened (.conditional index) behind

/-- Whether nothing that counts has been read. -/
def isFresh (rd : Reader) : Bool := rd.around.isEmpty && rd.frame.done.isEmpty && rd.frame.items.isEmpty

/-- A group that starts with flags, at the first of them. -/
def readFlagGroup (rd : Reader) (opened : Nat) (cur : Cursor) : Except Fault Reader := do
  match ← readFlags cur with
  | (.scoped added removed, behind) => return rd.enterMode opened .plain (rd.frame.mode.change added removed) behind
  | (.whole added, behind) =>
    if rd.isFresh then
      return { rd with
        cursor := behind
        flags := added ++ rd.flags
        frame := { rd.frame with mode := rd.frame.mode.change added [] } }
    else .error (.malformed .flagsNotFirst opened)

/-- A group, behind its opening parenthesis. -/
def readGroup (rd : Reader) (opened : Nat) (cur : Cursor) : Except Fault Reader := do
  match ← cur.accept '?' with
  | none => return rd.enterCapture opened cur
  | some inside =>
    match ← inside.next with
    | none => .error (.malformed .patternEnds inside.position)
    | some (.plain 'P', behind) => rd.readNamedGroup opened behind
    | some (.plain ':', behind) => return rd.enter opened .plain behind
    | some (.plain '>', behind) => return rd.enter opened .atomic behind
    | some (.plain '=', behind) => return rd.enter opened (.ahead false) behind
    | some (.plain '!', behind) => return rd.enter opened (.ahead true) behind
    | some (.plain '<', behind) => rd.readLookbehind opened behind
    | some (.plain '(', behind) => rd.readCondition opened behind
    | some (.plain '#', behind) =>
      match ← behind.past? ')' with
      | none => .error (.malformed .unclosedComment opened)
      | some final => return { rd with cursor := final }
    | some (symbol, _) =>
      match symbol with
      | .plain c =>
        if c = '-' || (Flag.ofChar? c).isSome then rd.readFlagGroup opened inside
        else .error (.malformed (.unknownExtension ['?', c]) (opened + 1))
      | _ => .error (.malformed (.unknownExtension ('?' :: symbol.text)) (opened + 1))

/-- The reader behind the parenthesis that closes a group. -/
def closeGroup (rd : Reader) (start : Nat) (cur : Cursor) : Except Fault Reader :=
  match rd.around with
  | [] => .error (.malformed .unopenedGroup start)
  | outer :: around =>
    let widths := match rd.frame.role with
      | .capture index => (index, rd.frame.body.width rd.widthOf) :: rd.widths
      | _ => rd.widths
    let closed := { rd with
      frame := outer
      around := around
      widths := widths
      late := rd.late.or (rd.frame.cause? rd.widthOf) }
    .ok (closed.push (.whole (rd.frame.regex rd.widthOf)) cur)

/-- A repetition of the last item, behind the sign that tells how often. A question mark behind that one asks for few
rounds, and a plus sign for as many as possible without second thoughts. -/
def quantifyLast (rd : Reader) (start min : Nat) (max : Option Nat) (cur : Cursor) : Except Fault Reader :=
  match rd.frame.items with
  | [] => .error (.malformed .nothingToRepeat start)
  | .condition _ :: _ => .error (.malformed .nothingToRepeat start)
  | .repeated _ :: _ => .error (.malformed .repeatedTwice start)
  | .whole r :: earlier => do
    let (regex, behind) ← match ← cur.accept '?' with
      | some behind => pure (r.quantify min max false, behind)
      | none =>
        match ← cur.accept '+' with
        | some behind => pure (.atomic (r.quantify min max true), behind)
        | none => pure (r.quantify min max true, cur)
    return { rd with cursor := behind, frame := { rd.frame with items := .repeated regex :: earlier } }

/-- One construct of the pattern, given its first symbol, where that starts, and the cursor behind it. -/
def step (rd : Reader) (symbol : Symbol) (start : Nat) (cur : Cursor) : Except Fault Reader :=
  match symbol with
  | .dangling => .error (.malformed .danglingBackslash start)
  | .escaped c => rd.readEscape start c cur
  | .plain '|' =>
    .ok { rd with cursor := cur, frame := { rd.frame with done := rd.frame.alternative :: rd.frame.done, items := [] } }
  | .plain '(' => rd.readGroup start cur
  | .plain ')' => rd.closeGroup start cur
  | .plain '[' => do
    let (test, behind) ← readSet rd.engine rd.frame.mode.ascii start cur
    return rd.pushTest test behind
  | .plain '.' => .ok (rd.pushTest (if rd.frame.mode.dotAll then .set true [] else .notLineFeed) cur)
  | .plain '^' => .ok (rd.push (.condition (if rd.frame.mode.multiline then .anyLineStart else .textStart)) cur)
  | .plain '$' => .ok (rd.push (.condition (if rd.frame.mode.multiline then .anyLineEnd else .lineEnd)) cur)
  | .plain '*' => rd.quantifyLast start 0 none cur
  | .plain '+' => rd.quantifyLast start 1 none cur
  | .plain '?' => rd.quantifyLast start 0 (some 1) cur
  | .plain '\x7b' => do
    match ← readBounds cur with
    | none => return rd.pushTest (.code 0x7b) cur
    | some (min, max, behind) => rd.quantifyLast start min max behind
  | .plain c => .ok (rd.pushTest (.code c.toNat) cur)

/-- The reader behind a symbol that does not count, if it is one: whitespace or a comment up to the end of its line, in the
mode for that. -/
def skip? (rd : Reader) (symbol : Symbol) (cur : Cursor) : Except Fault (Option Reader) :=
  match rd.frame.mode.verbose, symbol with
  | true, .plain '#' => do return some { rd with cursor := (← cur.past? '\n').getD cur.atEnd }
  | true, .plain c =>
    .ok (if Shorthand.holds .asciiSpace c then some { rd with cursor := cur } else none)
  | _, _ => .ok none

/-- What is wrong before the symbol that comes next is taken: there are too many groups around it, or it is a parenthesis
that closes nothing, or a bar that starts one alternative too many. -/
def obstacle? (rd : Reader) : Option Fault :=
  if rd.engine.room < rd.around.length then some .tooNested
  else if rd.around.isEmpty && rd.cursor.looksAt ')' then
    if rd.flags.contains .ascii && rd.flags.contains .unicode then some .classesClash
    else some (.malformed .unopenedGroup rd.cursor.position)
  else if rd.frame.isFull && rd.cursor.looksAt '|' then some (.malformed .tooManyBranches rd.cursor.position)
  else none

/-- The reader at the end of the pattern. Every step takes at least one symbol, so the number of symbols bounds the
steps. -/
def finish : (limit : Nat) → Reader → Except Fault Reader
  | 0, rd => .ok rd
  | n + 1, rd => do
    match rd.obstacle? with
    | some fault => .error fault
    | none =>
      match ← rd.cursor.next with
      | none => return rd
      | some (symbol, behind) =>
        match ← rd.skip? symbol behind with
        | some skipped => finish n skipped
        | none => finish n (← rd.step symbol rd.cursor.position behind)

/-- What the reader has read when it is at the end: the expression and the number of its capturing groups, unless something
is wrong with the pattern as a whole. -/
def result (rd : Reader) : Except Fault (Regex × Nat) :=
  if !rd.around.isEmpty then .error (.malformed .unclosedGroup rd.frame.opened)
  else if rd.flags.contains .ascii && rd.flags.contains .unicode then .error .classesClash
  else
    match rd.conditions.find? fun (index, _) => rd.groups < index, rd.late with
    | some (index, position), _ => .error (.malformed (.noSuchGroup index) position)
    | none, some cause => .error (.malformedWhole cause)
    | none, none => .ok (rd.frame.regex rd.widthOf, rd.groups)

end Reader

/-- The expression of a pattern and the number of its capturing groups. -/
def read (engine : Engine) (source : Text) : Except Fault (Regex × Nat) := do
  let frame := { opened := 0, role := .plain, mode := {} }
  let rd ← Reader.finish source.length { engine, cursor := ← Cursor.start source, frame }
  rd.result

end Pattern

end ExprLex
