import ExprLex.Proofs.PublishedRanges
import ExprLex.Proofs.QuickFixes

/-!
# What fixes do to their notice

A fix carries the notice that it is for, and a fix that removes something removes what the notice covers. But to tell the
characters on the line, the columns of the notice are converted, and the conversion moves a column that lies beyond the end of
a line that is not empty, in the notice itself. So the notice comes back as the client sent it, and its range is what is
removed, exactly if neither end of the range lies beyond the end of its line.
-/

namespace ExprLex

namespace Client

/-! ## The fixes of a notice -/

/-- A fix that puts nothing in. -/
def Action.Removes (a : Action) : Prop := a.edit.newText = ""

/-- A fix that is offered for a notice. -/
def HasAction (uri : String) (lines : List Text) (n : Notice) (a : Action) : Prop :=
  ∃ actions, actionsFor uri lines n = .ok actions ∧ a ∈ actions

/-- A notice with a code that there is a fix for. -/
def Notice.IsFixable (n : Notice) : Prop :=
  n.code = some (.code .unknownToken) ∨ n.code = some (.code .unbalancedParenthesis)

/-- What a fix removes is the range of the notice. -/
theorem range_of_fix? {cite : Nat → Nat → String} {lines : List Text} {line : Text} {code : Code} {here span : Range}
    {title : String} {edit : Edit} (h : fix? cite lines line code here span = .ok (some (title, edit)))
    (hremoves : edit.newText = "") : edit.range = here := by
  cases code with
  | unknownToken =>
    cases h
    rfl
  | unbalancedParenthesis =>
    simp only [fix?] at h
    by_cases hopen : slice line span.start.character (span.start.character + 1) = ['(']
    · -- a parenthesis is put in
      rw [if_pos hopen] at h
      obtain ⟨inLine, -, h⟩ := exists_of_bind_eq_ok h
      obtain ⟨place, -, h⟩ := exists_of_bind_eq_ok h
      cases h
      exact absurd (show ")" = "" from hremoves) (by decide)
    · rw [if_neg hopen] at h
      cases h
      rfl
  | trailingOperator => cases h
  | foreign _ => cases h

section

variable {uri : String} {lines : List Text} {n : Notice} {a : Action}

/-- A fix is made for one of two codes, from the notice as it is after its columns were converted. -/
theorem HasAction.made (h : HasAction uri lines n a) :
    n.range.start.line < lines.length ∧ a.notice = n.settled lines ∧
      (a.Removes → a.edit.range = (n.settled lines).range) ∧ n.IsFixable := by
  obtain ⟨actions, hactions, ha⟩ := h
  unfold actionsFor actionsCiting at hactions
  cases hline : lines[n.range.start.line]? with
  | none =>
    simp only [hline] at hactions
    cases hactions
    cases ha
  | some line =>
    simp only [hline] at hactions
    obtain ⟨span, -, hactions⟩ := exists_of_bind_eq_ok hactions
    refine ⟨(List.getElem?_eq_some_iff.mp hline).1, ?_⟩
    split at hactions
    · rename_i code hcode
      obtain ⟨fix, hfix, hactions⟩ := exists_of_bind_eq_ok hactions
      cases fix with
      | none =>
        cases hactions
        cases ha
      | some made =>
        obtain ⟨title, edit⟩ := made
        cases hactions
        cases List.mem_singleton.mp ha
        refine ⟨rfl, range_of_fix? hfix, ?_⟩
        cases code with
        | unknownToken => exact Or.inl hcode
        | unbalancedParenthesis => exact Or.inr hcode
        | trailingOperator => cases hfix
        | foreign _ => cases hfix
    · -- no fix goes with a number, or with no code
      cases hactions
      cases ha

/-- A fix carries the notice with its range where it is taken to be, and all else as it was sent. -/
theorem HasAction.notice_eq (h : HasAction uri lines n a) : a.notice = { n with range := n.range.settled lines } := by
  obtain ⟨hline, hnotice, -⟩ := h.made
  rw [hnotice, Notice.settled, if_pos hline]

/-- And what it removes is that range. -/
theorem HasAction.range_eq (h : HasAction uri lines n a) (hremoves : a.Removes) : a.edit.range = a.notice.range := by
  obtain ⟨-, hnotice, hrange, -⟩ := h.made
  rw [hrange hremoves, hnotice]

end

/-! ## Where there are fixes -/

/-- No number of code units takes more characters than the line has. -/
theorem charactersFor_le_length (t : Text) (count : Nat) : charactersFor t count ≤ t.length := by
  induction t generalizing count with
  | nil => exact Nat.le_refl _
  | cons c t ih =>
    rw [charactersFor]
    split
    · exact Nat.zero_le _
    · exact Nat.succ_le_succ (ih _)

/-- Leaving out carriage returns makes a line no longer. -/
theorem length_withoutReturns_le (t : Text) : (withoutReturns t).length ≤ t.length := by
  fun_induction withoutReturns t with
  | case1 => exact Nat.le_refl _
  | case2 t ih =>
    rw [List.length_cons, List.length_cons, List.length_cons]
    omega
  | case3 c t hc ih => exact Nat.succ_le_succ ih

/-- Lines that are few enough and short enough for all their places to have positions. -/
def AllAddressable (lines : List Text) : Prop := lines.length < 2 ^ 31 ∧ ∀ l ∈ lines, units l < 2 ^ 31

section

variable {lines : List Text}

/-- On lines that can be addressed every position is read. -/
theorem AllAddressable.exists_position (h : AllAddressable lines) (p : Position) : ∃ q, p.ofClient lines = .ok q := by
  unfold Position.ofClient
  cases hlast : lines.getLast? with
  | none => exact ⟨_, Position.make_ok (by decide) (by decide)⟩
  | some last =>
    have hlines := h.1
    cases hline : lines[p.line]? with
    | none =>
      have hpos : 0 < lines.length := List.length_pos_iff.mpr fun hnil => by simp [hnil] at hlast
      have hnumber : (lines.length : Int) - 1 = (lines.length - 1 : Nat) := by omega
      simp only [hnumber]
      exact ⟨_, Position.make_ok (by omega) (h.2 last (List.mem_of_getLast? hlast))⟩
    | some line =>
      have hlt : p.line < lines.length := (List.getElem?_eq_some_iff.mp hline).1
      have hunits := h.2 line (List.mem_of_getElem? hline)
      have hcharacters := charactersFor_le_length (withoutReturns line) (p.settled lines).character
      have hreturns := length_withoutReturns_le line
      have hlength := length_le_units line
      exact ⟨_, Position.make_ok (by omega) (by omega)⟩

/-- On lines that can be addressed every range is read. -/
theorem AllAddressable.exists_range (h : AllAddressable lines) (r : Range) : ∃ s, r.ofClient lines = .ok s := by
  obtain ⟨start, hstart⟩ := h.exists_position r.start
  obtain ⟨stop, hstop⟩ := h.exists_position r.stop
  refine ⟨⟨start, stop⟩, ?_⟩
  rw [Range.ofClient, hstart, hstop]
  rfl

/-- A position never moves to another line. -/
theorem Position.line_settled (lines : List Text) (p : Position) : (p.settled lines).line = p.line := by
  unfold settled
  split
  · rfl
  · simp only
    split
    · rfl
    · rfl

/-- The end of a line without the whitespace behind it has a position, and so a parenthesis can be put in there. -/
theorem AllAddressable.exists_fix (h : AllAddressable lines) {line : Text} {here : Range}
    (hline : lines[here.start.line]? = some line) (span : Range) (cite : Nat → Nat → String) {code : Code}
    (hcode : code = .unknownToken ∨ code = .unbalancedParenthesis) :
    ∃ title edit, fix? cite lines line code here span = .ok (some (title, edit)) := by
  rcases hcode with rfl | rfl
  · exact ⟨_, _, rfl⟩
  · simp only [fix?]
    split
    · have hlt : here.start.line < lines.length := (List.getElem?_eq_some_iff.mp hline).1
      have hlines := h.1
      have hunits := h.2 line (List.mem_of_getElem? hline)
      have hlength := length_le_units line
      have htrim := length_trimRight_le line
      have htaken := units_take_le line (Text.trimRight line).length
      have hmake := Position.make_ok (show here.start.line < 2 ^ 31 by omega)
        (show (Text.trimRight line).length < 2 ^ 31 by omega)
      have hplace : Position.toClient lines ⟨here.start.line, (Text.trimRight line).length⟩ =
          .ok ⟨here.start.line, units (line.take (Text.trimRight line).length)⟩ := by
        simp only [Position.toClient, hline]
        exact Position.make_ok (by omega) (by omega)
      rw [hmake]
      simp only [bind, Except.bind, hplace, pure, Except.pure]
      exact ⟨_, _, rfl⟩
    · exact ⟨_, _, rfl⟩

/-- There is a fix for each notice that starts in the document and has a code for which there is one. -/
theorem AllAddressable.exists_hasAction (h : AllAddressable lines) (uri : String) {n : Notice}
    (hstart : n.range.start.line < lines.length) (hcode : n.IsFixable) : ∃ a, HasAction uri lines n a := by
  obtain ⟨line, hline⟩ : ∃ line, lines[n.range.start.line]? = some line := ⟨_, List.getElem?_eq_getElem hstart⟩
  obtain ⟨code, hcode, hfixable⟩ : ∃ code, n.code = some (.code code) ∧
      (code = .unknownToken ∨ code = .unbalancedParenthesis) := by
    rcases hcode with hcode | hcode
    · exact ⟨_, hcode, Or.inl rfl⟩
    · exact ⟨_, hcode, Or.inr rfl⟩
  obtain ⟨span, hspan⟩ := h.exists_range n.range
  have hsettled : (n.settled lines).range.start.line = n.range.start.line := by
    rw [Notice.settled, if_pos hstart]
    exact Position.line_settled lines n.range.start
  obtain ⟨title, edit, hfix⟩ := h.exists_fix (hsettled ▸ hline) span
    (fun start stop => (slice (lines.getD n.range.start.line []) start stop).quoted) hfixable
  refine ⟨⟨title, n.settled lines, uri, edit⟩, _, ?_, List.mem_singleton_self _⟩
  simp only [actionsFor, actionsCiting, hline, hspan, hcode, bind, Except.bind, hfix, pure, Except.pure]

end

/-! ## Fixes that leave the notice alone -/

/-- Each fix of a notice carries the notice as it was sent, and if it removes something, then just the range of it. -/
def LeavesAlone (uri : String) (lines : List Text) (n : Notice) : Prop :=
  ∀ a, HasAction uri lines n a → a.notice = n ∧ (a.Removes → a.edit.range = n.range)

/-- A notice whose range lies within its lines comes back as it was. -/
theorem leavesAlone_of_withinLines {uri : String} {lines : List Text} {n : Notice} (h : n.range.WithinLines lines) :
    LeavesAlone uri lines n := by
  intro a ha
  have hsettled := (Range.settled_eq_self_iff lines n.range).mpr h
  refine ⟨?_, fun hremoves => ?_⟩
  · rw [ha.notice_eq, hsettled]
  · rw [ha.range_eq hremoves, ha.notice_eq]
    exact hsettled

/-- The fixes of a notice leave it alone if and only if there are none, or neither end of its range lies beyond the end of its
line. In any case all else in the notice comes back as it was sent, and what is removed is the range that comes back. There
are fixes for unknown lexemes and for parentheses without a partner, if they start in the document. -/
theorem leavesAlone_iff (uri : String) (lines : List Text) (n : Notice) :
    (LeavesAlone uri lines n ↔ ((∃ a, HasAction uri lines n a) → n.range.WithinLines lines)) ∧
      (∀ a, HasAction uri lines n a → a.notice = { n with range := n.range.settled lines } ∧
        (a.Removes → a.edit.range = a.notice.range)) ∧
      (AllAddressable lines →
        ((∃ a, HasAction uri lines n a) ↔ n.range.start.line < lines.length ∧ n.IsFixable)) := by
  refine ⟨⟨?_, ?_⟩, ?_, fun h => ⟨?_, ?_⟩⟩
  · rintro halone ⟨a, ha⟩
    have hsame : { n with range := n.range.settled lines } = n := ha.notice_eq.symm.trans (halone a ha).1
    exact (Range.settled_eq_self_iff lines n.range).mp (congrArg Notice.range hsame)
  · intro hwithin a ha
    exact leavesAlone_of_withinLines (hwithin ⟨a, ha⟩) a ha
  · intro a ha
    exact ⟨ha.notice_eq, ha.range_eq⟩
  · rintro ⟨a, ha⟩
    obtain ⟨hstart, -, -, hcode⟩ := ha.made
    exact ⟨hstart, hcode⟩
  · rintro ⟨hstart, hcode⟩
    exact h.exists_hasAction uri hstart hcode

/-- The notice of the last character of a line, an unknown lexeme. -/
def lastCharacter : Notice := ⟨⟨⟨0, 2⟩, ⟨0, 3⟩⟩, none, some (.code .unknownToken), none, ""⟩

/-- The same notice, but with a range that goes on behind the line. -/
def behindLine : Notice := { lastCharacter with range := ⟨⟨0, 2⟩, ⟨0, 4⟩⟩ }

theorem leavesAlone_lastCharacter :
    (∃ a, HasAction "u" ["1 $".toList] lastCharacter a) ∧ LeavesAlone "u" ["1 $".toList] lastCharacter := by
  obtain ⟨halone, -, hfixes⟩ := leavesAlone_iff "u" ["1 $".toList] lastCharacter
  refine ⟨?_, halone.mpr fun _ => ?_⟩
  · exact (hfixes ⟨by decide, by decide⟩).mpr ⟨by decide, Or.inl rfl⟩
  · exact (Range.settled_eq_self_iff _ _).mp (by decide)

/-- A range that ends behind its line comes back as an empty one, and nothing is removed. -/
theorem not_leavesAlone_behindLine : ¬ LeavesAlone "u" ["1 $".toList] behindLine := by
  intro halone
  have hactions : actionsFor "u" ["1 $".toList] behindLine =
      .ok [⟨"Remove unrecognized " ++ Text.quoted [], { behindLine with range := ⟨⟨0, 2⟩, ⟨0, 2⟩⟩ }, "u",
        ⟨⟨⟨0, 2⟩, ⟨0, 2⟩⟩, ""⟩⟩] := rfl
  obtain ⟨hnotice, -⟩ := halone _ ⟨_, hactions, List.mem_singleton_self _⟩
  exact absurd (congrArg Notice.range hnotice) (by decide)

end Client

end ExprLex
