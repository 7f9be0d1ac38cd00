import ExprLex.Pattern.Cut
import ExprLex.Pattern.Reader

/-!
# Delimiter patterns

A delimiter pattern tells how an expression falls apart into lexemes: the texts that its groups take are kept, and so is the
text between two matches. The default pattern has one group around all it matches, so that nothing of the expression is
lost.
-/

namespace ExprLex

/-- A pattern that has been read. -/
structure Pattern where
  /-- the text it was read from -/
  source : Text
  regex : Regex
  /-- the number of its capturing groups -/
  groups : Nat
  deriving DecidableEq, Repr

namespace Pattern

/-- A pattern from its text. -/
def compile (engine : Engine) (source : Text) : Except Fault Pattern := do
  let (regex, groups) ← read engine source
  return ⟨source, regex, groups⟩

/-- The fragments a text falls apart into: what the groups took and what lies between the matches, left to right, the empty
ones left out. -/
def fragments (p : Pattern) (t : Text) : List Text :=
  (p.regex.cut p.groups t).filterMap fun piece => piece.filter (!·.isEmpty)

namespace Default

/-- A class that has a letter, as a test. -/
def classOf (s : Shorthand) : CharTest := .set false [.shorthand s false]

/-- Whitespace: a run of it is one lexeme. -/
def spaces : Regex := .run (classOf .space) 1 none true

/-- The operator signs, the parentheses and the comma. -/
def symbol : Regex :=
  .char (.set false [.code '+'.toNat, .code '-'.toNat, .code '*'.toNat, .code '/'.toNat, .code '('.toNat, .code ')'.toNat,
    .code ','.toNat])

/-- A run of digits. -/
def digits : Regex := .run (classOf .digit) 1 none true

/-- A point and the digits behind it. -/
def fraction : Regex := .seq (.char (.code '.'.toNat)) digits

/-- Digits with at most one point among them. -/
def number : Regex := .seq digits (.rounds fraction 0 (some 1) true)

/-- An ASCII letter or underscore and the word characters behind it. -/
def identifier : Regex :=
  .seq (.char (.set false [.range 'A'.toNat 'Z'.toNat, .range 'a'.toNat 'z'.toNat, .code '_'.toNat]))
    (.run (classOf .word) 0 none true)

end Default

open Default in
/-- The default delimiter pattern: whitespace, a symbol, a number or an identifier, all in one group. Numbers come before
identifiers, so digits before a name are a number of their own. -/
def default : Pattern where
  source := "(\\s+|[+\\-*/(),]|\\d+(?:\\.\\d+)?|\\.\\d+|[A-Za-z_]\\w*)".toList
  regex := .group 1 (Regex.choice [spaces, symbol, number, fraction, identifier])
  groups := 1

/-- The default pattern is what its text reads as, where there is room for a group inside of another one. -/
theorem compile_default {engine : Engine} (h : 2 ≤ engine.room) : compile engine default.source = .ok default := by
  obtain ⟨character?, room⟩ := engine
  obtain ⟨more, rfl⟩ := Nat.exists_eq_add_of_le' h
  rfl

end Pattern

end ExprLex
