import ExprLex.Pattern.Regex

/-!
# Matching

A regular expression is matched from a spot in a text by backtracking: each expression is given what is to match after it,
as a function of the spot it ends at, and offers its ends in order of preference until one is accepted. The recursion is on
the expression alone; repetitions are bounded by the rest of the text, because a round that takes no character is not
followed by another.
-/

namespace ExprLex

/-- A spot in a text during a match: what stands before it, what follows it, and what the groups have taken so far. -/
structure Spot where
  /-- the text before the spot, from its end to its start -/
  passed : Text
  /-- the text from the spot on -/
  rest : Text
  /-- the offset of the spot in the text -/
  position : Nat
  /-- the texts taken by groups, the latest first -/
  captures : List (Nat × Text)
  deriving DecidableEq, Repr

/-- A matcher: given a spot and what is to match after it, the spot where all of it ends. -/
abbrev Matcher : Type := Spot → (Spot → Option Spot) → Option Spot

namespace Spot

/-- The spot after a character, given the text behind that. -/
def advance (s : Spot) (c : Char) (rest : Text) : Spot :=
  { s with passed := c :: s.passed, rest := rest, position := s.position + 1 }

/-- The spot after the next character, if there is one and it passes a test. -/
def step? (s : Spot) (test : CharTest) : Option Spot :=
  match s.rest with
  | [] => none
  | c :: rest => if test.holds c then some (s.advance c rest) else none

/-- The spot a number of characters before, if there are so many. -/
def back? : (count : Nat) → Spot → Option Spot
  | 0, s => some s
  | n + 1, s =>
    match s.passed with
    | [] => none
    | c :: passed => back? n { s with passed := passed, rest := c :: s.rest, position := s.position - 1 }

/-- The spots reached by taking no, one, two and more characters of a text that pass a test, up to a limit. The text is the
one at the spot. -/
def alongText (test : CharTest) : (rest : Text) → (limit : Option Nat) → Spot → List Spot
  | [], _, s => [s]
  | c :: rest, limit, s =>
    if limit = some 0 || !test.holds c then [s]
    else s :: alongText test rest (limit.map (· - 1)) (s.advance c rest)

/-- The spots reached by taking no, one, two and more characters that pass a test, up to a limit. -/
def along (s : Spot) (test : CharTest) (limit : Option Nat) : List Spot := alongText test s.rest limit s

/-- The text a group took last, if it took part. -/
def captured (s : Spot) (index : Nat) : Option Text := s.captures.lookup index

/-- The spot after a group took a text. -/
def capture (s : Spot) (index : Nat) (taken : Text) : Spot := { s with captures := (index, taken) :: s.captures }

/-- The spot after a given text, if the text stands there. -/
def take? (s : Spot) (casing : Option Casing) : Text → Option Spot
  | [] => some s
  | c :: t =>
    match s.step? (.repeating casing c) with
    | none => none
    | some next => next.take? casing t

/-- Whether a word character stands on exactly one side of the spot. -/
def atWordEdge (s : Spot) (inside : Shorthand) : Bool := s.passed.head?.any inside.holds != s.rest.head?.any inside.holds

end Spot

/-- Whether a condition holds at a spot. -/
def Anchor.holds : Anchor → Spot → Bool
  | .textStart, s => s.position == 0
  | .lineEnd, s => s.rest == [] || s.rest == ['\n']
  | .textEnd, s => s.rest == []
  | .anyLineStart, s => s.position == 0 || s.passed.head? == some '\n'
  | .anyLineEnd, s => s.rest == [] || s.rest.head? == some '\n'
  | .wordEdge inside negated, s => s.atWordEdge inside != negated

namespace Matcher

/-- A number of rounds, no fewer and no more. -/
def exactly (body : Matcher) : Nat → Matcher
  | 0, s, k => k s
  | n + 1, s, k => body s fun next => exactly body n next k

/-- At most so many further rounds, as many as possible. No round starts where the round before it started. -/
def most (body : Matcher) : (limit : Nat) → (last : Option Nat) → Matcher
  | 0, _, s, k => k s
  | n + 1, last, s, k =>
    if last = some s.position then k s
    else
      match body s fun next => most body n (some s.position) next k with
      | some found => some found
      | none => k s

/-- At most so many further rounds, as few as possible. No round starts where the round before it started. -/
def fewest (body : Matcher) : (limit : Nat) → (last : Option Nat) → Matcher
  | 0, _, s, k => k s
  | n + 1, last, s, k =>
    match k s with
    | some found => some found
    | none =>
      if last = some s.position then none
      else body s fun next => fewest body n (some s.position) next k

/-- Between `min` and `max` rounds. Without a `max`, the rest of the text bounds the rounds after the first `min`: all of
them but the last take a character. -/
def repeated (body : Matcher) (min : Nat) (max : Option Nat) (greedy : Bool) : Matcher := fun s k =>
  body.exactly min s fun next =>
    let limit := match max with
      | some n => n - min
      | none => next.rest.length + 1
    if greedy then body.most limit none next k else body.fewest limit none next k

/-- A run of characters that pass a test. -/
def run (test : CharTest) (min : Nat) (max : Option Nat) (greedy : Bool) : Matcher := fun s k =>
  let ends := (s.along test max).drop min
  (if greedy then ends.reverse else ends).findSome? k

end Matcher

/-- The matcher of a regular expression. -/
def Regex.matcher : Regex → Matcher
  | .empty, s, k => k s
  | .char test, s, k => (s.step? test).bind k
  | .run test min max greedy, s, k => Matcher.run test min max greedy s k
  | .seq first second, s, k => first.matcher s fun next => second.matcher next k
  | .either left right, s, k =>
    match left.matcher s k with
    | some found => some found
    | none => right.matcher s k
  | .rounds body min max greedy, s, k => Matcher.repeated body.matcher min max greedy s k
  | .group index body, s, k =>
    body.matcher s fun next => k (next.capture index (s.rest.take (next.position - s.position)))
  | .again index casing, s, k =>
    match s.captured index with
    | none => none
    | some taken => (s.take? casing taken).bind k
  | .atomic body, s, k => (body.matcher s some).bind k
  | .ahead negated body, s, k =>
    match body.matcher s some, negated with
    | some found, false => k { s with captures := found.captures }
    | none, true => k s
    | _, _ => none
  | .behind negated width body, s, k =>
    -- the body takes as many characters as `width` says, so it ends at the spot itself
    match (s.back? width).bind (body.matcher · some), negated with
    | some found, false => k { s with captures := found.captures }
    | none, true => k s
    | _, _ => none
  | .conditional index present absent, s, k =>
    if (s.captured index).isSome then present.matcher s k else absent.matcher s k
  | .anchor condition, s, k => if condition.holds s then k s else none

/-- The end of the preferred match from a spot. -/
def Regex.matchAt (r : Regex) (s : Spot) : Option Spot := r.matcher s some

/-- The end of the preferred match from a spot that takes at least one character. -/
def Regex.advanceAt (r : Regex) (s : Spot) : Option Spot :=
  r.matcher s fun next => if next.position = s.position then none else some next

end ExprLex
