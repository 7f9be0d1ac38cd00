import ExprLex.Character.Case
import ExprLex.Pattern.Cursor

/-!
# Modes

Flags change how a part of a pattern is read: which characters its classes take in, whether the case of letters matters,
whether its anchors and the point regard line feeds, and whether whitespace and comments in it count. Flags stand in a group
of their own, where they hold for the whole pattern and have to come first, or at the start of a group for which they hold.
-/

namespace ExprLex

namespace Pattern

/-- A flag. -/
inductive Flag where
  /-- the classes take in ASCII characters only -/
  | ascii
  /-- letters of either case are the same -/
  | ignoreCase
  /-- the classes go by the place; not for patterns of characters -/
  | locale
  /-- line feeds end lines for the anchors -/
  | multiline
  /-- the point stands for line feeds too -/
  | dotAll
  /-- a flag without an effect that no group can have -/
  | template
  /-- the classes take in characters of all scripts -/
  | unicode
  /-- whitespace and comments do not count -/
  | verbose
  deriving DecidableEq, Repr

namespace Flag

/-- The flag that has a letter. -/
def ofChar? : Char → Option Flag
  | 'a' => some .ascii
  | 'i' => some .ignoreCase
  | 'L' => some .locale
  | 'm' => some .multiline
  | 's' => some .dotAll
  | 't' => some .template
  | 'u' => some .unicode
  | 'x' => some .verbose
  | _ => none

/-- Whether a flag tells what the classes take in; only one of these can hold. -/
def isKind : Flag → Bool
  | .ascii | .locale | .unicode => true
  | _ => false

end Flag

/-- How a part of a pattern is read. -/
structure Mode where
  ascii : Bool := false
  ignoreCase : Bool := false
  multiline : Bool := false
  dotAll : Bool := false
  verbose : Bool := false
  deriving DecidableEq, Repr

/-- A mode with some flags added and others removed. -/
def Mode.change (m : Mode) (added removed : List Flag) : Mode where
  ascii := added.contains .ascii || (m.ascii && !added.contains .unicode)
  ignoreCase := (m.ignoreCase || added.contains .ignoreCase) && !removed.contains .ignoreCase
  multiline := (m.multiline || added.contains .multiline) && !removed.contains .multiline
  dotAll := (m.dotAll || added.contains .dotAll) && !removed.contains .dotAll
  verbose := (m.verbose || added.contains .verbose) && !removed.contains .verbose

/-- The letters that the case is disregarded of, if it is. -/
def Mode.casing (m : Mode) : Option Casing := if m.ignoreCase then some (if m.ascii then .ascii else .unicode) else none

/-- What follows the flags of a group. -/
inductive FlagEnd where
  /-- the end of the group: the flags hold for the whole pattern -/
  | close
  /-- flags to remove -/
  | minus
  /-- the pattern that they hold for -/
  | colon
  deriving DecidableEq, Repr

/-- What a character behind flags means. -/
def FlagEnd.ofChar? : Char → Option FlagEnd
  | ')' => some .close
  | '-' => some .minus
  | ':' => some .colon
  | _ => none

/-- The fault of a symbol in the place of a flag: a letter is taken for a flag that there is not. -/
def flagFault (symbol : Symbol) (otherwise : Cause) (position : Nat) : Fault :=
  match symbol with
  | .plain c => .malformed (if isLetter c then .unknownFlag else otherwise) position
  | _ => .malformed otherwise position

/-- The flags to add, of which one has been read, and what follows them. -/
def readAdded :
    (limit : Nat) → (added : List Flag) → (flag : Flag) → Cursor → Except Fault (List Flag × FlagEnd × Cursor)
  | 0, _, _, cur => .error (.malformed .flagsUnfinished cur.position)
  | n + 1, added, flag, cur => do
    if flag = .locale then .error (.malformed .localeFlag cur.position)
    else if flag.isKind && added.any fun f => f.isKind && f != flag then .error (.malformed .kindsClash cur.position)
    else
      match ← cur.next with
      | none => .error (.malformed .flagsUnfinished cur.position)
      | some (.plain c, behind) =>
        match FlagEnd.ofChar? c, Flag.ofChar? c with
        | some ending, _ => return (flag :: added, ending, behind)
        | none, some other => readAdded n (flag :: added) other behind
        | none, none => .error (flagFault (.plain c) .flagsUnfinished cur.position)
      | some (symbol, _) => .error (flagFault symbol .flagsUnfinished cur.position)

/-- The flags to remove, up to the colon behind them. `missing` is the fault of anything that is no flag. -/
def readRemoved :
    (limit : Nat) → (missing : Cause) → (removed : List Flag) → Cursor → Except Fault (List Flag × Cursor)
  | 0, missing, _, cur => .error (.malformed missing cur.position)
  | n + 1, missing, removed, cur => do
    match ← cur.next with
    | none => .error (.malformed missing cur.position)
    | some (.plain c, behind) =>
      if c = ':' && !removed.isEmpty then return (removed, behind)
      else
        match Flag.ofChar? c with
        | none => .error (flagFault (.plain c) missing cur.position)
        | some flag =>
          if flag.isKind then .error (.malformed .kindRemoved behind.position)
          else readRemoved n .colonMissing (flag :: removed) behind
    | some (symbol, _) => .error (flagFault symbol missing cur.position)

/-- What the flags of a group are for. -/
inductive FlagGroup where
  /-- the whole pattern -/
  | whole (added : List Flag)
  /-- the group that they start -/
  | scoped (added removed : List Flag)
  deriving DecidableEq, Repr

/-- The flags of a group and the cursor behind them, at the first of them or at a minus sign. -/
def readFlags (cur : Cursor) : Except Fault (FlagGroup × Cursor) := do
  let limit := cur.rest.length + 1
  let (added, ending, behind) ← match ← cur.next with
    | some (.plain c, behind) =>
      match Flag.ofChar? c with
      | some flag => readAdded limit [] flag behind
      | none => pure ([], .minus, behind)
    | _ => pure ([], .minus, cur)
  if ending = .close then return (.whole added, behind)
  else if added.contains .template then .error (.malformed .templateAdded (behind.position - 1))
  else
    let (removed, final) ←
      if ending = .minus then readRemoved limit .flagMissing [] behind else pure ([], behind)
    if removed.contains .template then .error (.malformed .templateRemoved (final.position - 1))
    else if removed.any added.contains then .error (.malformed .flagTwice (final.position - 1))
    else return (.scoped added removed, final)

end Pattern

end ExprLex
