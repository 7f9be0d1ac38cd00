import ExprLex.Proofs.Columns
import ExprLex.Proofs.Lines

/-!
# Quick fixes converge

The fix that a client is offered for a fault is the patch of its line: the columns go to the client and come back, and the
edit lands where the patch does. So a fix changes one line and leaves it with fewer faults; and since the lines can only get
longer by what they lose in faults, the positions stay within their limits until no fault is left.
-/

namespace ExprLex

open Client

/-! ## The patch of a fault in its line -/

section

variable {t : Text} {d : Diagnostic}

/-- A fault covers characters of its line. -/
theorem Points.bounds (h : Points t d) :
    0 ≤ d.position ∧ 0 < d.length ∧ d.position.toNat + d.length.toNat ≤ t.length := by
  obtain ⟨before, p, after, ht, hpos, hlen⟩ := h.exists_at
  have hne : p.text ≠ [] := text_ne_nil_of_mem_pieces (t := t) (by simp [ht])
  have hp := List.length_pos_iff.mpr hne
  have hsum : t.length = (textOf before).length + (p.text.length + (textOf after).length) := by
    rw [textOf_split ht, List.length_append, List.length_append]
  omega

theorem length_trimRight_le (t : Text) : (Text.trimRight t).length ≤ t.length := by
  obtain ⟨blank, ht, -⟩ := trimRight_append t
  have hlen := congrArg List.length ht
  rw [List.length_append] at hlen
  omega

/-- The place of a patch lies on the line. -/
theorem Points.patchFor_bounds (h : Points t d) :
    (patchFor t d).start ≤ (patchFor t d).stop ∧ (patchFor t d).stop ≤ t.length := by
  have hb := h.bounds
  have ht := length_trimRight_le t
  unfold patchFor
  split
  · exact ⟨Nat.le_refl _, ht⟩
  · constructor
    · show d.position.toNat ≤ (d.position + d.length).toNat
      omega
    · show (d.position + d.length).toNat ≤ t.length
      omega

/-- A patch adds a parenthesis or nothing. -/
theorem patchFor_text (t : Text) (d : Diagnostic) : (patchFor t d).text = ")" ∨ (patchFor t d).text = "" := by
  unfold patchFor
  split
  · exact Or.inl rfl
  · exact Or.inr rfl

/-- A patch leaves the line a line. -/
theorem not_mem_patchFor_apply (d : Diagnostic) (h : '\n' ∉ t) : '\n' ∉ (patchFor t d).apply t := by
  have htext : '\n' ∉ (patchFor t d).text.toList := by
    rcases patchFor_text t d with ht | ht <;> simp [ht]
  rw [Patch.apply, List.mem_append, List.mem_append, not_or, not_or]
  exact ⟨⟨fun hm => h (List.mem_of_mem_take hm), htext⟩, fun hm => h (List.mem_of_mem_drop hm)⟩

/-- A patch makes the line longer by one code unit at most. -/
theorem Points.units_patchFor_apply_le (h : Points t d) : units ((patchFor t d).apply t) ≤ units t + 1 := by
  have htext : units (patchFor t d).text.toList ≤ 1 := by
    rcases patchFor_text t d with ht | ht <;> simp [ht, units, charUnits]
  obtain ⟨hle, -⟩ := h.patchFor_bounds
  have hsplit : units t = units (t.take (patchFor t d).start) + units (t.drop (patchFor t d).start) := by
    rw [← units_append, List.take_append_drop]
  have hdrop : units (t.drop (patchFor t d).stop) ≤ units (t.drop (patchFor t d).start) := by
    have hsum := units_append ((t.drop (patchFor t d).start).take ((patchFor t d).stop - (patchFor t d).start))
      ((t.drop (patchFor t d).start).drop ((patchFor t d).stop - (patchFor t d).start))
    rw [List.take_append_drop, List.drop_drop, Nat.add_sub_cancel' hle] at hsum
    omega
  rw [Patch.apply, units_append, units_append]
  omega

end

/-! ## What is offered for a fault -/

namespace Client

section

variable {lines : List Text} {i : Nat} {t : Text} {d : Diagnostic}

theorem ofDiagnostic_eq (hf : Fits lines i t) (hp : Points t d) :
    Notice.ofDiagnostic lines i d = .ok (noticeOn t i d) := by
  obtain ⟨hpos, hlen, hle⟩ := hp.bounds
  exact hf.ofDiagnostic hpos hlen (by omega)

/-- A slice of one character is the character at its place. -/
theorem slice_one_iff (t : Text) (start : Nat) (c : Char) : slice t start (start + 1) = [c] ↔ t[start]? = some c := by
  rw [slice, List.drop_take, Nat.add_sub_cancel_left]
  induction t generalizing start with
  | nil => simp
  | cons x t ih =>
    cases start with
    | zero => simp
    | succ start => simpa using ih start

/-- The fix of a fault is its patch. -/
theorem fix?_eq (hf : Fits lines i t) (hp : Points t d) (cite : Nat → Nat → String) :
    ∃ title, fix? cite lines t d.code (rangeOn t i d.position.toNat (d.position + d.length).toNat)
        ⟨⟨i, d.position.toNat⟩, ⟨i, (d.position + d.length).toNat⟩⟩ =
      .ok (some (title, ⟨rangeOn t i (patchFor t d).start (patchFor t d).stop, (patchFor t d).text⟩)) := by
  by_cases hopen : d.code = .unbalancedParenthesis ∧ t[d.position.toNat]? = some '('
  · have hpatch : patchFor t d = ⟨(Text.trimRight t).length, (Text.trimRight t).length, ")"⟩ := if_pos hopen
    have hlen := length_le_units t
    have htrim := length_trimRight_le t
    have hlt := hf.units_lt
    have hmake := Position.make_ok hf.number_lt (show (Text.trimRight t).length < 2 ^ 31 by omega)
    have hslice := (slice_one_iff t d.position.toNat '(').mpr hopen.2
    refine ⟨"Insert missing ')'", ?_⟩
    simp only [hopen.1, fix?, hslice, if_true, hpatch, rangeOn, hmake, bind, Except.bind, hf.toClient, pure, Except.pure]
  · have hpatch : patchFor t d = ⟨d.position.toNat, (d.position + d.length).toNat, ""⟩ := if_neg hopen
    rw [hpatch]
    rcases hp.code with hc | hc
    · rw [hc]
      exact ⟨_, rfl⟩
    · have hslice : slice t d.position.toNat (d.position.toNat + 1) ≠ ['('] :=
        fun h => hopen ⟨hc, (slice_one_iff t d.position.toNat '(').mp h⟩
      refine ⟨"Remove unmatched ')'", ?_⟩
      simp only [hc, fix?, hslice, if_false]

/-- One action is offered for a fault, and its edit is the patch of the fault. -/
theorem actionsFor_eq (hf : Fits lines i t) (hp : Points t d) (uri : String) :
    ∃ notice action, Notice.ofDiagnostic lines i d = .ok notice ∧ actionsFor uri lines notice = .ok [action] ∧
      action.edit = ⟨rangeOn t i (patchFor t d).start (patchFor t d).stop, (patchFor t d).text⟩ := by
  obtain ⟨hpos, hlen, hle⟩ := hp.bounds
  obtain ⟨title, hfix⟩ := fix?_eq hf hp fun start stop => (slice (lines.getD i []) start stop).quoted
  have hspan := hf.range_ofClient (show d.position.toNat ≤ (d.position + d.length).toNat by omega) (by omega)
  have hsettled := hf.range_settled d.position.toNat (d.position + d.length).toNat
  have hlt : i < lines.length := (List.getElem?_eq_some_iff.mp hf.line).1
  refine ⟨_, ⟨title, noticeOn t i d, uri, _⟩, ofDiagnostic_eq hf hp, ?_, rfl⟩
  simp only [actionsFor, actionsCiting, Notice.settled, noticeOn]
  simp only [show (rangeOn t i d.position.toNat (d.position + d.length).toNat).start.line = i from rfl, hf.line, hlt,
    if_true, hspan, bind, Except.bind, hsettled, hfix, pure, Except.pure]

end

/-- The lines above a line, with their line feeds. -/
theorem foldr_lengths (above : List Text) :
    above.foldr (fun l sum => l.length + 1 + sum) 0 = (above.flatMap (· ++ ['\n'])).length := by
  induction above with
  | nil => rfl
  | cons l above ih =>
    rw [List.foldr_cons, ih, List.flatMap_cons, List.length_append, List.length_append, List.length_singleton]

/-- Where a column of a line stands in the document. -/
theorem offset_eq {above below : List Text} {t : Text} {n : Nat} (hn : n ≤ t.length) :
    Position.offset (above ++ t :: below) ⟨above.length, units (t.take n)⟩ =
      (above.flatMap (· ++ ['\n'])).length + n := by
  simp only [Position.offset, List.take_left, foldr_lengths]
  simp [charactersFor_units_take hn]

/-- An edit of some columns of one line replaces the line. -/
theorem apply_rangeOn {source : Text} {above below : List Text} {t : Text} (hs : documentLines source = above ++ t :: below)
    {start stop : Nat} (hle : start ≤ stop) (hstop : stop ≤ t.length) (text : String) :
    Edit.apply ⟨rangeOn t above.length start stop, text⟩ (documentLines source) source =
      ['\n'].intercalate (above ++ Patch.apply ⟨start, stop, text⟩ t :: below) := by
  have hsource : source = above.flatMap (· ++ ['\n']) ++ (t ++ below.flatMap ('\n' :: ·)) := by
    rw [← intercalate_append_cons, ← hs, intercalate_documentLines]
  rw [Edit.apply, hs, rangeOn, offset_eq (Nat.le_trans hle hstop), offset_eq hstop, intercalate_append_cons, hsource,
    Patch.apply, List.take_length_add_append, List.drop_length_add_append, List.take_append_of_le_length (by omega),
    List.drop_append_of_le_length hstop]
  simp only [List.append_assoc]

end Client

/-! ## Fixing a document -/

/-- A document whose lines are few enough and short enough for clients to have positions for them. -/
def WithinLimits (source : Text) : Prop :=
  (documentLines source).length < 2 ^ 31 ∧ ∀ l ∈ documentLines source, units l < 2 ^ 30

/-- A document whose lines stay within the limits of positions while their faults are fixed. -/
def HasRoom (source : Text) : Prop :=
  (documentLines source).length < 2 ^ 31 ∧ ∀ l ∈ documentLines source, units l + (lineFaults l).length < 2 ^ 31

theorem WithinLimits.hasRoom {source : Text} (h : WithinLimits source) : HasRoom source := by
  refine ⟨h.1, fun l hl => ?_⟩
  have h1 := h.2 l hl
  have h2 := length_lineFaults_le_length l
  have h3 := length_le_units l
  omega

/-- The faults of a document under the default pattern and the default rules, in a mode. -/
def documentFaults (strict : Bool) (source : Text) : List (Int × Diagnostic) :=
  (analyse .default {} strict source).faults

/-- The actions that a client is offered for a diagnostic on a line of a document. -/
def Offered (uri : String) (source : Text) (line : Int) (d : Diagnostic) (actions : List Action) : Prop :=
  ∃ notice, Notice.ofDiagnostic (documentLines source) line d = .ok notice ∧
    actionsFor uri (documentLines source) notice = .ok actions

/-- A document and what it becomes when an action that is offered for one of its faults is applied. -/
def FixStep (strict : Bool) (uri : String) (source next : Text) : Prop :=
  ∃ line d actions action, (line, d) ∈ documentFaults strict source ∧ Offered uri source line d actions ∧
    action ∈ actions ∧ next = action.edit.apply (documentLines source) source

/-- A document and what it becomes when a number of fixes are applied, one after another. -/
inductive Fixed (strict : Bool) (uri : String) (source : Text) : Nat → Text → Prop where
  | refl : Fixed strict uri source 0 source
  | step {n : Nat} {reached next : Text} (h : Fixed strict uri source n reached) (hs : FixStep strict uri reached next) :
      Fixed strict uri source (n + 1) next

section

variable {strict : Bool} {uri : String} {source : Text}

/-- A fault of a document is a fault of the line that it is on. -/
theorem exists_line_of_mem_documentFaults {line : Int} {d : Diagnostic} (h : (line, d) ∈ documentFaults strict source) :
    ∃ above t below, documentLines source = above ++ t :: below ∧ line = (above.length : Int) ∧ d ∈ lineFaults t := by
  rw [documentFaults, faults_analyse] at h
  obtain ⟨i, t, hi, hline, hd⟩ := exists_of_mem_faultsFrom h
  obtain ⟨hlt, ht⟩ := List.getElem?_eq_some_iff.mp hi
  refine ⟨(documentLines source).take i, t, (documentLines source).drop (i + 1), ?_, ?_, hd⟩
  · rw [← ht, List.getElem_cons_drop, List.take_append_drop]
  · rw [List.length_take, Nat.min_eq_left (Nat.le_of_lt hlt)]
    simpa using hline

/-- What an edited document is, line by line. -/
theorem documentLines_patched {above below : List Text} {t : Text} (hs : documentLines source = above ++ t :: below)
    (d : Diagnostic) : documentLines (['\n'].intercalate (above ++ (patchFor t d).apply t :: below)) =
      above ++ (patchFor t d).apply t :: below := by
  have hfeeds : ∀ l ∈ above ++ t :: below, '\n' ∉ l := hs ▸ fun l hl => not_mem_of_mem_documentLines hl
  refine documentLines_intercalate (by simp) fun l hl => ?_
  rcases List.mem_append.mp hl with hl | hl
  · exact hfeeds l (List.mem_append_left _ hl)
  · rcases List.mem_cons.mp hl with rfl | hl
    · exact not_mem_patchFor_apply d (hfeeds t (by simp))
    · exact hfeeds l (by simp [hl])

/-- For each fault of a document with room, one action is offered, and it patches the line of the fault. -/
theorem HasRoom.offered (h : HasRoom source) {above below : List Text} {t : Text}
    (hs : documentLines source = above ++ t :: below) {d : Diagnostic} (hd : d ∈ lineFaults t) (uri : String) :
    ∃ action, Offered uri source above.length d [action] ∧
      action.edit.apply (documentLines source) source = ['\n'].intercalate (above ++ (patchFor t d).apply t :: below) := by
  have hmem : t ∈ documentLines source := by simp [hs]
  have hp := (points_of_mem_lineFaults hd).2
  have hf : Fits (documentLines source) above.length t := by
    refine ⟨by simp [hs], not_mem_of_mem_documentLines hmem, ?_, ?_⟩
    · have hlen := h.1
      rw [hs, List.length_append, List.length_cons] at hlen
      omega
    · have := h.2 t hmem
      omega
  obtain ⟨notice, action, hnotice, haction, hedit⟩ := actionsFor_eq hf hp uri
  obtain ⟨hle, hstop⟩ := hp.patchFor_bounds
  refine ⟨action, ⟨notice, hnotice, haction⟩, ?_⟩
  rw [hedit, apply_rangeOn hs hle hstop]

/-- A patched line leaves room. -/
theorem HasRoom.patched (h : HasRoom source) {above below : List Text} {t : Text}
    (hs : documentLines source = above ++ t :: below) {d : Diagnostic} (hd : d ∈ lineFaults t) :
    HasRoom (['\n'].intercalate (above ++ (patchFor t d).apply t :: below)) := by
  have hlines := documentLines_patched hs d
  obtain ⟨hlen, hwide⟩ := h
  rw [hs] at hlen hwide
  refine ⟨?_, fun l hl => ?_⟩
  · rw [hlines]
    simpa using hlen
  · rw [hlines] at hl
    rcases List.mem_append.mp hl with hl | hl
    · exact hwide l (List.mem_append_left _ hl)
    · rcases List.mem_cons.mp hl with rfl | hl
      · have h1 := hwide t (by simp)
        have h2 := (points_of_mem_lineFaults hd).2.units_patchFor_apply_le
        have h3 := length_lineFaults_patchFor_lt hd
        omega
      · exact hwide l (by simp [hl])

/-- A document has as many faults as its lines have, one after another. -/
theorem length_faultsFrom (number : Nat) (lines : List Text) :
    (faultsFrom number lines).length = (lines.flatMap lineFaults).length := by
  induction lines generalizing number with
  | nil => rfl
  | cons l rest ih => rw [faultsFrom, List.length_append, List.length_map, ih, List.flatMap_cons, List.length_append]

/-- Lines have a fault less where a line has. -/
theorem length_faultsFrom_lt {t u : Text} (h : (lineFaults u).length < (lineFaults t).length) (number : Nat)
    (above below : List Text) :
    (faultsFrom number (above ++ u :: below)).length < (faultsFrom number (above ++ t :: below)).length := by
  simp only [length_faultsFrom, List.flatMap_append, List.flatMap_cons, List.length_append]
  omega

/-- A patched line is a fault less in the document. -/
theorem length_documentFaults_patched_lt {above below : List Text} {t : Text}
    (hs : documentLines source = above ++ t :: below) {d : Diagnostic} (hd : d ∈ lineFaults t) :
    (documentFaults strict (['\n'].intercalate (above ++ (patchFor t d).apply t :: below))).length <
      (documentFaults strict source).length := by
  rw [documentFaults, documentFaults, faults_analyse, faults_analyse, documentLines_patched hs, hs]
  exact length_faultsFrom_lt (length_lineFaults_patchFor_lt hd) 0 above below

/-- A fix leaves room and one fault less. -/
theorem HasRoom.fixStep (h : HasRoom source) {next : Text} (hs : FixStep strict uri source next) :
    HasRoom next ∧ (documentFaults strict next).length < (documentFaults strict source).length := by
  obtain ⟨line, d, actions, action, hd, ⟨notice, hnotice, hactions⟩, hmem, rfl⟩ := hs
  obtain ⟨above, t, below, hlines, rfl, hd'⟩ := exists_line_of_mem_documentFaults hd
  obtain ⟨action', ⟨notice', hnotice', hactions'⟩, hedit⟩ := h.offered hlines hd' uri
  have hn : notice = notice' := Except.ok.inj (hnotice.symm.trans hnotice')
  subst hn
  have ha : actions = [action'] := Except.ok.inj (hactions.symm.trans hactions')
  subst ha
  cases List.mem_singleton.mp hmem
  rw [hedit]
  exact ⟨h.patched hlines hd', length_documentFaults_patched_lt hlines hd'⟩

/-- While a document has faults, a fix of one is offered. -/
theorem HasRoom.exists_fixStep (h : HasRoom source) (hne : documentFaults strict source ≠ []) :
    ∃ next, FixStep strict uri source next := by
  obtain ⟨⟨line, d⟩, hd⟩ := List.exists_mem_of_ne_nil _ hne
  obtain ⟨above, t, below, hlines, rfl, hd'⟩ := exists_line_of_mem_documentFaults hd
  obtain ⟨action, hoffered, -⟩ := h.offered hlines hd' uri
  exact ⟨_, _, d, [action], action, hd, hoffered, List.mem_singleton_self action, rfl⟩

/-- A run of fixes leaves room, and each of its fixes takes away one fault at least. -/
theorem HasRoom.fixed (h : HasRoom source) {n : Nat} {reached : Text} (hf : Fixed strict uri source n reached) :
    HasRoom reached ∧ n + (documentFaults strict reached).length ≤ (documentFaults strict source).length := by
  induction hf with
  | refl => exact ⟨h, Nat.le_of_eq (Nat.zero_add _)⟩
  | step _ hs ih =>
    obtain ⟨hroom, hle⟩ := ih
    obtain ⟨hnext, hlt⟩ := hroom.fixStep hs
    exact ⟨hnext, by omega⟩

/-- A run of fixes can be prolonged until no fault is left. -/
theorem HasRoom.exists_fixed_end (h : HasRoom source) {n : Nat} {reached : Text} (hf : Fixed strict uri source n reached) :
    ∃ m last, Fixed strict uri source m last ∧ documentFaults strict last = [] := by
  induction hk : (documentFaults strict reached).length using Nat.strongRecOn generalizing n reached with
  | ind k ih =>
    by_cases hne : documentFaults strict reached = []
    · exact ⟨n, reached, hf, hne⟩
    · have hroom := (h.fixed hf).1
      obtain ⟨next, hs⟩ : ∃ next, FixStep strict uri reached next := hroom.exists_fixStep hne
      have hlt := (hroom.fixStep hs).2
      exact ih _ (by omega) (hf.step hs) rfl

/-- What an edit does that mends a fault on a line: it changes no other line, and it takes faults away from this one. -/
structure Mends (strict : Bool) (source : Text) (line : Int) (edited : Text) : Prop where
  length_lines : (documentLines edited).length = (documentLines source).length
  other_lines : ∀ n : Nat, (n : Int) ≠ line → (documentLines edited)[n]? = (documentLines source)[n]?
  fewer_faults : ((analyse .default {} strict edited).faultsOn line).length <
    ((analyse .default {} strict source).faultsOn line).length
  other_faults : ∀ other, other ≠ line →
    (analyse .default {} strict edited).faultsOn other = (analyse .default {} strict source).faultsOn other

/-- The line at another number is another line. -/
theorem getElem?_replaced {above below : List Text} {n : Nat} (h : n ≠ above.length) (t u : Text) :
    (above ++ t :: below)[n]? = (above ++ u :: below)[n]? := by
  rcases Nat.lt_or_ge n above.length with hlt | hge
  · rw [List.getElem?_append_left hlt, List.getElem?_append_left hlt]
  · obtain ⟨k, hk⟩ : ∃ k, n - above.length = k + 1 := ⟨n - above.length - 1, by omega⟩
    rw [List.getElem?_append_right hge, List.getElem?_append_right hge, hk]
    rfl

/-- The patch of a fault mends it. -/
theorem mends_patched (strict : Bool) {above below : List Text} {t : Text} (hs : documentLines source = above ++ t :: below)
    {d : Diagnostic} (hd : d ∈ lineFaults t) :
    Mends strict source above.length (['\n'].intercalate (above ++ (patchFor t d).apply t :: below)) := by
  have hlines := documentLines_patched hs d
  refine ⟨?_, fun n hn => ?_, ?_, fun other hother => ?_⟩
  · rw [hlines, hs]
    simp
  · rw [hlines, hs]
    exact getElem?_replaced (by omega) _ _
  · rw [faultsOn_analyse, faultsOn_analyse, hlines, hs, if_pos (Int.natCast_nonneg _), if_pos (Int.natCast_nonneg _)]
    simpa using length_lineFaults_patchFor_lt hd
  · rw [faultsOn_analyse, faultsOn_analyse, hlines, hs]
    by_cases hpos : 0 ≤ other
    · rw [if_pos hpos, if_pos hpos, getElem?_replaced (by omega) _ t]
    · rw [if_neg hpos, if_neg hpos]

end

/-- Quick fixes converge: for each fault of a document within the limits of positions one action is offered, and it mends the
fault; no run of fixes is longer than the document has faults; and where faults are left, a further fix is offered, so that a
run ends at a document without faults. -/
theorem quick_fixes_converge (strict : Bool) (uri : String) {source : Text} (h : WithinLimits source) :
    (∀ line d, (line, d) ∈ documentFaults strict source → ∃ action, Offered uri source line d [action] ∧
      Mends strict source line (action.edit.apply (documentLines source) source)) ∧
    (∀ n reached, Fixed strict uri source n reached →
      n + (documentFaults strict reached).length ≤ (documentFaults strict source).length ∧
      (documentFaults strict reached ≠ [] → ∃ next, FixStep strict uri reached next)) ∧
    ∃ n last, Fixed strict uri source n last ∧ documentFaults strict last = [] ∧
      n ≤ (documentFaults strict source).length := by
  have hroom := h.hasRoom
  refine ⟨fun line d hd => ?_, fun n reached hf => ?_, ?_⟩
  · obtain ⟨above, t, below, hlines, rfl, hd'⟩ := exists_line_of_mem_documentFaults hd
    obtain ⟨action, hoffered, hedit⟩ := hroom.offered hlines hd' uri
    exact ⟨action, hoffered, hedit ▸ mends_patched strict hlines hd'⟩
  · obtain ⟨hreached, hle⟩ := hroom.fixed hf
    exact ⟨hle, hreached.exists_fixStep⟩
  · obtain ⟨n, last, hf, hnone⟩ := hroom.exists_fixed_end .refl
    have hle := (hroom.fixed hf).2
    exact ⟨n, last, hf, hnone, by omega⟩

/-- Two lines with faults of every sort, where a name swallows part of what follows the lexeme that is taken out. -/
theorem quick_fixes_converge_two_lines :
    WithinLimits "a#² ((1)\n.5.) ?".toList ∧ (documentFaults false "a#² ((1)\n.5.) ?".toList).length = 5 ∧
      ∃ n last, Fixed false "file:///a" "a#² ((1)\n.5.) ?".toList n last ∧ documentFaults false last = [] ∧
        n ≤ (documentFaults false "a#² ((1)\n.5.) ?".toList).length := by
  have hlines : documentLines "a#² ((1)\n.5.) ?".toList = ["a#² ((1)".toList, ".5.) ?".toList] := by decide
  have hlimits : WithinLimits "a#² ((1)\n.5.) ?".toList := by
    unfold WithinLimits
    decide
  refine ⟨hlimits, ?_, (quick_fixes_converge false "file:///a" hlimits).2.2⟩
  rw [documentFaults, faults_analyse, hlines, length_faultsFrom, List.flatMap_cons, List.flatMap_singleton,
    List.length_append, length_lineFaults (by decide), length_lineFaults (by decide)]
  decide +kernel

end ExprLex
