import ExprLex.Text.Numeral
import ExprLex.Text.Quoted

/-!
# Faults of patterns

Why a pattern cannot be read. Almost every fault is a malformed spot of the pattern, reported with its position. A
repetition bound that is out of all proportion, flags that contradict each other and groups that nest too deep are faults of
another kind, which have no position.
-/

namespace ExprLex

namespace Pattern

/-- What is wrong at a malformed spot. -/
inductive Cause where
  | danglingBackslash
  | badEscape (escape : Text)
  | incompleteEscape (escape : Text)
  | octalTooLarge (escape : Text)
  | missingBrace
  | unknownCharacter (name : Text)
  | nothingToRepeat
  | repeatedTwice
  | boundsReversed
  | unclosedSet
  | badRange (low high : Text)
  | unclosedGroup
  | unopenedGroup
  | patternEnds
  | unknownExtension (extension : Text)
  | missingName (what : String)
  | unclosedName (close : Char)
  | badGroupName (name : Text)
  | unknownGroupName (name : Text)
  | groupNameTaken (name : Text) (index earlier : Nat)
  | noSuchGroup (index : Nat)
  | groupStillOpen
  | ownLookbehind
  | badGroupNumber
  | tooManyBranches
  | unclosedComment
  | unevenLookbehind
  | farLookbehind
  | localeFlag
  | kindsClash
  | kindRemoved
  | templateAdded
  | templateRemoved
  | flagTwice
  | unknownFlag
  | flagMissing
  | colonMissing
  | flagsUnfinished
  | flagsNotFirst
  deriving DecidableEq, Repr

/-- The wording of a cause. -/
def Cause.message : Cause → String
  | .danglingBackslash => "bad escape (end of pattern)"
  | .badEscape escape => "bad escape " ++ escape.toString
  | .incompleteEscape escape => "incomplete escape " ++ escape.toString
  | .octalTooLarge escape => "octal escape value " ++ escape.toString ++ " outside of range 0-0o377"
  | .missingBrace => "missing \x7b"
  | .unknownCharacter name => "undefined character name " ++ name.quoted
  | .nothingToRepeat => "nothing to repeat"
  | .repeatedTwice => "multiple repeat"
  | .boundsReversed => "min repeat greater than max repeat"
  | .unclosedSet => "unterminated character set"
  | .badRange low high => "bad character range " ++ low.toString ++ "-" ++ high.toString
  | .unclosedGroup => "missing ), unterminated subpattern"
  | .unopenedGroup => "unbalanced parenthesis"
  | .patternEnds => "unexpected end of pattern"
  | .unknownExtension extension => "unknown extension " ++ extension.toString
  | .missingName what => "missing " ++ what
  | .unclosedName close => "missing " ++ close.toString ++ ", unterminated name"
  | .badGroupName name => "bad character in group name " ++ name.quoted
  | .unknownGroupName name => "unknown group name " ++ name.quoted
  | .groupNameTaken name index earlier =>
    "redefinition of group name " ++ name.quoted ++ " as group " ++ toString index ++ "; was group " ++ toString earlier
  | .noSuchGroup index => "invalid group reference " ++ toString index
  | .groupStillOpen => "cannot refer to an open group"
  | .ownLookbehind => "cannot refer to group defined in the same lookbehind subpattern"
  | .badGroupNumber => "bad group number"
  | .tooManyBranches => "conditional backref with more than two branches"
  | .unclosedComment => "missing ), unterminated comment"
  | .unevenLookbehind => "look-behind requires fixed-width pattern"
  | .farLookbehind => "looks too much behind"
  | .localeFlag => "bad inline flags: cannot use 'L' flag with a str pattern"
  | .kindsClash => "bad inline flags: flags 'a', 'u' and 'L' are incompatible"
  | .kindRemoved => "bad inline flags: cannot turn off flags 'a', 'u' and 'L'"
  | .templateAdded => "bad inline flags: cannot turn on global flag"
  | .templateRemoved => "bad inline flags: cannot turn off global flag"
  | .flagTwice => "bad inline flags: flag turned on and off"
  | .unknownFlag => "unknown flag"
  | .flagMissing => "missing flag"
  | .colonMissing => "missing :"
  | .flagsUnfinished => "missing -, : or )"
  | .flagsNotFirst => "global flags not at the start of the expression"

/-- Why a pattern cannot be read. -/
inductive Fault where
  /-- the pattern is malformed at a position -/
  | malformed (cause : Cause) (position : Nat)
  /-- the pattern is malformed as a whole -/
  | malformedWhole (cause : Cause)
  /-- a bound of a repetition is at least `Pattern.boundLimit` -/
  | boundTooLarge
  /-- a bound of a repetition has more than `Pattern.boundDigits` digits -/
  | boundTooLong (digits : Nat)
  /-- the pattern asks for ASCII classes and for those of all scripts -/
  | classesClash
  /-- more groups are open at once than the reader has room for -/
  | tooNested
  deriving DecidableEq, Repr

/-- Whether the pattern is malformed, at a spot or as a whole. -/
def Fault.isMalformed : Fault → Bool
  | .malformed _ _ => true
  | .malformedWhole _ => true
  | _ => false

/-- The line and the column of a position of a text, both counted from 1; only line feeds end lines here. -/
def lineAndColumn (t : Text) (position : Nat) : Nat × Nat :=
  let passed := t.take position
  (passed.count '\n' + 1, (passed.reverse.takeWhile (· != '\n')).length + 1)

/-- The wording of a fault of the given pattern: the cause and its position, and the line and column too where the pattern
has several lines. -/
def Fault.message (source : Text) : Fault → String
  | .boundTooLarge => "the repetition number is too large"
  | .boundTooLong digits =>
    "Exceeds the limit (4300 digits) for integer string conversion: value has " ++ toString digits ++
      " digits; use sys.set_int_max_str_digits() to increase the limit"
  | .classesClash => "ASCII and UNICODE flags are incompatible"
  | .tooNested => "maximum recursion depth exceeded"
  | .malformedWhole cause => cause.message
  | .malformed cause position =>
    let base := cause.message ++ " at position " ++ toString position
    if source.contains '\n' then
      let (line, column) := lineAndColumn source position
      base ++ " (line " ++ toString line ++ ", column " ++ toString column ++ ")"
    else base

end Pattern

end ExprLex
