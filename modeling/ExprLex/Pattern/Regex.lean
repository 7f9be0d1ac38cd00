import ExprLex.Character.Case
import ExprLex.Text.Basic

/-!
# Regular expressions

The expressions that delimiter patterns are made of: tests on one character, sequences and alternatives, repetitions that
prefer more or fewer rounds, capturing groups with references back to them, conditions on what is around, and anchors. A
code point in a test is a number, because a pattern may name one that no character has (a surrogate), and such a test never
passes.
-/

namespace ExprLex

/-- The character classes that have a letter of their own in patterns. -/
inductive Shorthand where
  | digit | space | word
  | asciiDigit | asciiSpace | asciiWord
  deriving DecidableEq, Repr

/-- Membership in the class of a letter. -/
def Shorthand.holds : Shorthand → Char → Bool
  | .digit, c => isDigit c
  | .space, c => isWhitespace c
  | .word, c => isWord c
  | .asciiDigit, c => decide (c.toNat < 128) && isDigit c
  | .asciiSpace, c => c == ' ' || (decide (9 ≤ c.toNat) && decide (c.toNat ≤ 13))
  | .asciiWord, c => decide (c.toNat < 128) && isWord c

/-- What stands between the brackets of a character set. -/
inductive SetItem where
  /-- one code point -/
  | code (n : Nat)
  /-- the code points from `lo` to `hi` -/
  | range (lo hi : Nat)
  /-- the class of a letter, or all characters outside it -/
  | shorthand (s : Shorthand) (complement : Bool)
  deriving DecidableEq, Repr

/-- Whether an item of a set takes a character in. -/
def SetItem.holds : SetItem → Char → Bool
  | .code n, c => c.toNat == n
  | .range lo hi, c => decide (lo ≤ c.toNat) && decide (c.toNat ≤ hi)
  | .shorthand s complement, c => s.holds c != complement

/-- A test on one character. -/
inductive CharTest where
  /-- the character with this code point -/
  | code (n : Nat)
  /-- any character but a line feed -/
  | notLineFeed
  /-- a character some item takes in, or, in a complement, one that none does -/
  | set (complement : Bool) (items : List SetItem)
  /-- a character that passes the test of a set, or of which a variant in the other case does -/
  | anyCase (casing : Casing) (complement : Bool) (items : List SetItem)
  /-- a character whose lower case is that of the character with this code point -/
  | sameLower (casing : Casing) (n : Nat)
  deriving DecidableEq, Repr

/-- Whether a character passes a test. -/
def CharTest.holds : CharTest → Char → Bool
  | .code n, c => c.toNat == n
  | .notLineFeed, c => c != '\n'
  | .set complement items, c => items.any (·.holds c) != complement
  | .anyCase casing complement items, c => ((casing.variants c).any fun d => items.any (·.holds d)) != complement
  | .sameLower casing n, c => casing.lower c.toNat == casing.lower n

/-- The test for a character of a text that stands there once more. -/
def CharTest.repeating (casing : Option Casing) (c : Char) : CharTest :=
  match casing with
  | none => .code c.toNat
  | some casing => .sameLower casing c.toNat

/-- The same test where the case of letters is disregarded. -/
def CharTest.inCasing (casing : Option Casing) (test : CharTest) : CharTest :=
  match casing, test with
  | some casing, .code n => .anyCase casing false [.code n]
  | some casing, .set complement items => .anyCase casing complement items
  | _, test => test

/-- A condition on a place in the text that takes no character. -/
inductive Anchor where
  /-- the start of the text -/
  | textStart
  /-- the end of the text, or the place before a line feed that ends it -/
  | lineEnd
  /-- the end of the text -/
  | textEnd
  /-- the start of the text, or the place behind a line feed -/
  | anyLineStart
  /-- the end of the text, or the place before a line feed -/
  | anyLineEnd
  /-- a place with a word character on one side only, or, negated, every other place; `inside` tells what a word character
  is -/
  | wordEdge (inside : Shorthand) (negated : Bool)
  deriving DecidableEq, Repr

/-- A regular expression. -/
inductive Regex where
  /-- the empty text -/
  | empty
  /-- one character that passes a test -/
  | char (test : CharTest)
  /-- a run of at least `min` and at most `max` characters that pass a test: the longest first if greedy, else the
  shortest -/
  | run (test : CharTest) (min : Nat) (max : Option Nat) (greedy : Bool)
  /-- one expression after another -/
  | seq (first second : Regex)
  /-- the left alternative, and the right one where that leads nowhere -/
  | either (left right : Regex)
  /-- at least `min` and at most `max` rounds of an expression: as many as possible first if greedy, else as few -/
  | rounds (body : Regex) (min : Nat) (max : Option Nat) (greedy : Bool)
  /-- an expression whose text is kept under a group number -/
  | group (index : Nat) (body : Regex)
  /-- the text that a group took last, in any case of its letters if one is to be disregarded -/
  | again (index : Nat) (casing : Option Casing)
  /-- the first way in which an expression matches, and no other -/
  | atomic (body : Regex)
  /-- the condition that an expression matches from here, or, negated, that it does not -/
  | ahead (negated : Bool) (body : Regex)
  /-- the condition that an expression matches from `width` characters before here, or, negated, that it does not -/
  | behind (negated : Bool) (width : Nat) (body : Regex)
  /-- one expression where a group has taken part, another where it has not -/
  | conditional (index : Nat) (present absent : Regex)
  /-- a condition on the place -/
  | anchor (condition : Anchor)
  deriving DecidableEq, Repr

namespace Regex

/-- The sequence of some expressions. -/
def sequence : List Regex → Regex
  | [] => .empty
  | [r] => r
  | r :: rest => .seq r (sequence rest)

/-- The choice between some expressions, the first one preferred. -/
def choice : List Regex → Regex
  | [] => .empty
  | [r] => r
  | r :: rest => .either r (choice rest)

/-- A repetition. One test on a character needs no rounds: its repetitions are runs. -/
def quantify (min : Nat) (max : Option Nat) (greedy : Bool) : Regex → Regex
  | .char test => .run test min max greedy
  | r => .rounds r min max greedy

end Regex

/-- How many characters an expression takes, at least and at most. -/
structure Width where
  least : Nat
  most : Nat
  deriving DecidableEq, Repr

/-- What counts as no limit of a width. -/
def Width.limit : Nat := 0x10000000000000000

/-- The width of either of two alternatives. -/
def Width.either (a b : Width) : Width := ⟨min a.least b.least, max a.most b.most⟩

/-- The width of a repetition. -/
def Width.times (w : Width) (min : Nat) (max : Option Nat) : Width :=
  ⟨Nat.min Width.limit (w.least * min),
    match max with
    | some n => Nat.min Width.limit (w.most * n)
    | none => if w.most = 0 then 0 else Width.limit⟩

/-- The width of an expression, given those of the groups it refers to. -/
def Regex.width (groups : Nat → Width) : Regex → Width
  | .empty => ⟨0, 0⟩
  | .char _ => ⟨1, 1⟩
  | .run _ min max _ => Width.times ⟨1, 1⟩ min max
  | .seq first second =>
    let a := first.width groups
    let b := second.width groups
    ⟨min Width.limit (a.least + b.least), min Width.limit (a.most + b.most)⟩
  | .either left right => (left.width groups).either (right.width groups)
  | .rounds body min max _ => (body.width groups).times min max
  | .group _ body => body.width groups
  | .again index _ => groups index
  | .atomic body => body.width groups
  | .ahead .. => ⟨0, 0⟩
  | .behind .. => ⟨0, 0⟩
  | .conditional _ present absent => (present.width groups).either (absent.width groups)
  | .anchor _ => ⟨0, 0⟩

end ExprLex
