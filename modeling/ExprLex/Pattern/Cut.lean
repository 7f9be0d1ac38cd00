import ExprLex.Pattern.Match

/-!
# Cutting a text at its matches

The matches of an expression are found from left to right, each from where the one before it ended. A match may be empty,
also directly behind another one, but two empty matches never share a spot: after an empty match the next one either takes a
character from the same spot or lies further on. The cut of a text lists, in order, the text before each match, what the
groups of the match took, and at last the text behind the last match.
-/

namespace ExprLex

/-- What the groups `1` to `groups` took, in order; a group that took no part has no text. -/
def Spot.groupTexts (s : Spot) (groups : Nat) : List (Option Text) :=
  (List.range groups).map fun i => s.captured (i + 1)

namespace Regex

/-- The cut of the rest of a text from a spot that lies `skip` characters behind the start of the search for the next match:
the text up to that match, and everything after it. -/
def cutFrom (r : Regex) (groups : Nat) : (skip : Nat) → (passed : Text) → (position : Nat) → Text →
    Text × List (Option Text)
  | _, passed, position, [] =>
    match r.matchAt ⟨passed, [], position, []⟩ with
    | none => ([], [])
    | some found => ([], found.groupTexts groups ++ [some []])
  | skip + 1, passed, position, c :: rest => cutFrom r groups skip (c :: passed) (position + 1) rest
  | 0, passed, position, c :: rest =>
    let here : Spot := ⟨passed, c :: rest, position, []⟩
    match r.matchAt here with
    | none =>
      let (piece, later) := cutFrom r groups 0 (c :: passed) (position + 1) rest
      (c :: piece, later)
    | some found =>
      -- an empty match: the next one is that which takes a character from here, if there is one
      if found.position = position then
        match r.advanceAt here with
        | none =>
          let (piece, later) := cutFrom r groups 0 (c :: passed) (position + 1) rest
          ([], found.groupTexts groups ++ some (c :: piece) :: later)
        | some second =>
          let (piece, later) := cutFrom r groups (second.position - position - 1) (c :: passed) (position + 1) rest
          ([], found.groupTexts groups ++ some [] :: (second.groupTexts groups ++ some piece :: later))
      else
        let (piece, later) := cutFrom r groups (found.position - position - 1) (c :: passed) (position + 1) rest
        ([], found.groupTexts groups ++ some piece :: later)

/-- The cut of a text at all matches of an expression. -/
def cut (r : Regex) (groups : Nat) (t : Text) : List (Option Text) :=
  let (piece, later) := r.cutFrom groups 0 [] 0 t
  some piece :: later

end Regex

end ExprLex
