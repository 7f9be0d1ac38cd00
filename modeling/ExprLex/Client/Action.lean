import ExprLex.Client.Notice
import ExprLex.Document
import ExprLex.Text.Raw

/-!
# Quick fixes

For each notice there is at most one fix: a lexeme that is not recognised is removed, a parenthesis that was never opened is
removed, and one that is never closed is closed at the end of its line.
-/

namespace ExprLex

namespace Client

/-- A replacement of a part of a document. -/
structure Edit where
  range : Range
  newText : String
  deriving DecidableEq, Repr

/-- A fix of a notice: one edit of one document. -/
structure Action where
  title : String
  /-- the notice it fixes -/
  notice : Notice
  uri : String
  edit : Edit
  deriving DecidableEq, Repr

/-- The characters of a text from one offset up to another. -/
def slice (t : Text) (start stop : Nat) : Text := (t.take stop).drop start

/-- The edit that fixes a notice with a code on a line, and the title of the fix. `here` is the range of the notice, and
`span` the same range in code points; `cite` quotes what is between two offsets of the line. -/
def fix? (cite : Nat → Nat → String) (lines : List Text) (line : Text) (code : Code) (here span : Range) :
    Except PositionError (Option (String × Edit)) :=
  let start := span.start.character
  match code with
  | .unknownToken =>
    .ok (some ("Remove unrecognized " ++ cite start span.stop.character, ⟨here, ""⟩))
  | .unbalancedParenthesis =>
    if slice line start (start + 1) = ['('] then do
      let inLine ← Position.make here.start.line line.trimRight.length
      let place ← inLine.toClient lines
      return some ("Insert missing ')'", ⟨⟨place, place⟩, ")"⟩)
    else .ok (some ("Remove unmatched ')'", ⟨here, ""⟩))
  | _ => .ok none

/-- The notice as it is after its fixes were asked for: its range is where it was taken to be, if it starts inside the
document. -/
def Notice.settled (lines : List Text) (n : Notice) : Notice :=
  if n.range.start.line < lines.length then { n with range := n.range.settled lines } else n

/-- The fixes of a notice. A notice that starts outside of the document has none. `cite` quotes what is between two offsets of
a line with the given number. -/
def actionsCiting (cite : Nat → Nat → Nat → String) (uri : String) (lines : List Text) (n : Notice) :
    Except PositionError (List Action) :=
  match lines[n.range.start.line]? with
  | none => .ok []
  | some line => do
    let span ← n.range.ofClient lines
    let settled := n.settled lines
    match n.code with
    | some (.code code) =>
      match ← fix? (cite n.range.start.line) lines line code settled.range span with
      | none => return []
      | some (title, edit) => return [⟨title, settled, uri, edit⟩]
    | _ => return []

/-- The fixes of a notice for a document with the given lines. -/
def actionsFor (uri : String) (lines : List Text) (n : Notice) : Except PositionError (List Action) :=
  actionsCiting (fun i start stop => (slice (lines.getD i []) start stop).quoted) uri lines n

/-- The fixes of a notice for a document as it was sent. A surrogate takes as much room as the character that is shown in its
place, and only what a fix quotes tells them apart. -/
def actionsIn (uri : String) (source : RawText) (n : Notice) : Except PositionError (List Action) :=
  let cite i start stop := RawText.quoted (((source.lines.getD i []).take stop).drop start)
  actionsCiting cite uri (documentLines source.shown) n

/-- The fixes for a text are those for its lines. -/
theorem actionsIn_ofText (uri : String) (t : Text) (n : Notice) :
    actionsIn uri (RawText.ofText t) n = actionsFor uri (documentLines t) n := by
  have hcite : ∀ i start stop, RawText.quoted ((((RawText.ofText t).lines.getD i []).take stop).drop start) =
      (slice ((documentLines t).getD i []) start stop).quoted := by
    intro i start stop
    have hline : (RawText.ofText t).lines.getD i [] = RawText.ofText ((documentLines t).getD i []) := by
      have hlines : (RawText.ofText t).lines = (documentLines t).map RawText.ofText := RawText.lines_ofText t
      rw [hlines, List.getD_eq_getElem?_getD, List.getD_eq_getElem?_getD, List.getElem?_map]
      cases (documentLines t)[i]? with
      | none => rfl
      | some line => rfl
    rw [hline, RawText.ofText, ← List.map_take, ← List.map_drop]
    exact congrArg String.ofList (RawText.quote_ofText _)
  simp only [actionsIn, actionsFor, hcite, RawText.shown_ofText]

end Client

end ExprLex
