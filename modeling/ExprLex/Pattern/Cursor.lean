import ExprLex.Pattern.Fault

/-!
# Cursors

A pattern is read from left to right, symbol by symbol, where a backslash and the character behind it are one symbol.
Reading looks one symbol ahead, so a backslash that ends the pattern is a fault as soon as the symbol before it is taken.
-/

namespace ExprLex

namespace Pattern

/-- The unit a pattern is read by. -/
inductive Symbol where
  | plain (c : Char)
  | escaped (c : Char)
  /-- a backslash with nothing behind it -/
  | dangling
  deriving DecidableEq, Repr

/-- The symbols of a pattern. -/
def symbols : Text → List Symbol
  | [] => []
  | ['\\'] => [.dangling]
  | '\\' :: c :: t => .escaped c :: symbols t
  | c :: t => .plain c :: symbols t

/-- A symbol as it stands in the pattern. -/
def Symbol.text : Symbol → Text
  | .plain c => [c]
  | .escaped c => ['\\', c]
  | .dangling => ['\\']

/-- Where the reader stands: the symbols that follow and the position of the first of them. -/
structure Cursor where
  rest : List Symbol
  position : Nat
  deriving DecidableEq, Repr

namespace Cursor

/-- A cursor, unless the symbol it looks at is a dangling backslash. -/
def checked (cur : Cursor) : Except Fault Cursor :=
  match cur.rest with
  | .dangling :: _ => .error (.malformed .danglingBackslash cur.position)
  | _ => .ok cur

/-- The cursor at the start of a pattern. -/
def start (source : Text) : Except Fault Cursor := checked ⟨symbols source, 0⟩

/-- Whether a given character comes next. -/
def looksAt (cur : Cursor) (c : Char) : Bool := cur.rest.head? == some (.plain c)

/-- The next symbol and the cursor behind it; nothing at the end. -/
def next (cur : Cursor) : Except Fault (Option (Symbol × Cursor)) :=
  match cur.rest with
  | [] => .ok none
  | symbol :: rest => do
    let behind ← checked ⟨rest, cur.position + symbol.text.length⟩
    return some (symbol, behind)

/-- The cursor behind a given character, if that comes next. -/
def accept (cur : Cursor) (c : Char) : Except Fault (Option Cursor) :=
  if cur.looksAt c then do return (← cur.next).map (·.2) else .ok none

/-- At most `limit` next characters as long as they pass a test, and the cursor behind them. -/
def takeWhile (passes : Char → Bool) : (limit : Nat) → Cursor → Except Fault (Text × Cursor)
  | 0, cur => .ok ([], cur)
  | n + 1, cur =>
    match cur.rest with
    | .plain c :: _ =>
      if passes c then do
        match ← cur.next with
        | none => return ([], cur)
        | some (_, behind) =>
          let (taken, final) ← takeWhile passes n behind
          return (c :: taken, final)
      else .ok ([], cur)
    | _ => .ok ([], cur)

/-- The cursor behind the next occurrence of a character; nothing if it does not occur any more. -/
def pastNext (c : Char) : (limit : Nat) → Cursor → Except Fault (Option Cursor)
  | 0, _ => .ok none
  | n + 1, cur => do
    match ← cur.next with
    | none => return none
    | some (symbol, behind) => if symbol = .plain c then return some behind else pastNext c n behind

/-- The cursor behind the next occurrence of a character, if it occurs. -/
def past? (cur : Cursor) (c : Char) : Except Fault (Option Cursor) := pastNext c cur.rest.length cur

/-- The cursor at the end of the pattern. -/
def atEnd (cur : Cursor) : Cursor := ⟨[], cur.rest.foldl (fun n symbol => n + symbol.text.length) cur.position⟩

/-- The characters up to one that closes a name, and the cursor behind that one. All faults lie where the name starts. -/
def nameUntil (close : Char) (what : String) (start : Nat) : (limit : Nat) → (read : Text) → Cursor →
    Except Fault (Text × Cursor)
  | 0, _, _ => .error (.malformed (.unclosedName close) start)
  | n + 1, read, cur => do
    match ← cur.next with
    | none =>
      if read.isEmpty then .error (.malformed (.missingName what) start)
      else .error (.malformed (.unclosedName close) start)
    | some (symbol, behind) =>
      if symbol = .plain close then
        if read.isEmpty then .error (.malformed (.missingName what) start) else return (read, behind)
      else nameUntil close what start n (read ++ symbol.text) behind

/-- A name that ends at the next `close`. -/
def name (cur : Cursor) (close : Char) (what : String) : Except Fault (Text × Cursor) :=
  nameUntil close what cur.position (cur.rest.length + 1) [] cur

end Cursor

end Pattern

end ExprLex
