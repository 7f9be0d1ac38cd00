import ExprLex.Proofs.Mending

/-!
# Documents, line by line

A document is its lines with line feeds between them, and its analysis looks at each line on its own. So the faults of a
document are the faults of its lines, and replacing one line changes the faults of that line alone.
-/

namespace ExprLex

/-! ## Cutting a document into lines -/

namespace Text

/-- A text that is split is at least one piece. -/
theorem splitWhere_ne_nil (separates : Char → Bool) (t : Text) : splitWhere separates t ≠ [] := by
  induction t with
  | nil => simp [splitWhere]
  | cons c t ih =>
    rw [splitWhere]
    split
    · simp
    · cases splitWhere separates t <;> simp [joinFirst]

/-- A character joins the first of some pieces, whatever comes behind. -/
theorem joinFirst_append (c : Char) {pieces : List Text} (h : pieces ≠ []) (more : List Text) :
    joinFirst c (pieces ++ more) = joinFirst c pieces ++ more := by
  obtain ⟨first, rest, rfl⟩ := List.exists_cons_of_ne_nil h
  rfl

/-- A separator parts the pieces before it from those behind it. -/
theorem splitWhere_append_cons {separates : Char → Bool} {c : Char} (hc : separates c = true) (a b : Text) :
    splitWhere separates (a ++ c :: b) = splitWhere separates a ++ splitWhere separates b := by
  induction a with
  | nil => simp [splitWhere, hc]
  | cons d a ih =>
    rw [List.cons_append, splitWhere, splitWhere, ih]
    split
    · rfl
    · exact joinFirst_append d (splitWhere_ne_nil separates a) _

/-- Without separators there is one piece. -/
theorem splitWhere_of_forall_not {separates : Char → Bool} {t : Text} (h : ∀ c ∈ t, separates c = false) :
    splitWhere separates t = [t] := by
  induction t with
  | nil => rfl
  | cons c t ih =>
    rw [splitWhere, h c List.mem_cons_self, if_neg Bool.false_ne_true, ih fun d hd => h d (List.mem_cons_of_mem _ hd)]
    rfl

end Text

theorem documentLines_ne_nil (source : Text) : documentLines source ≠ [] := Text.splitWhere_ne_nil _ source

theorem documentLines_cons (c : Char) (t : Text) : documentLines (c :: t) =
    if c = '\n' then [] :: documentLines t else Text.joinFirst c (documentLines t) := by
  simp [documentLines, Text.splitOn, Text.splitWhere]

/-- No line has a line feed in it. -/
theorem not_mem_of_mem_documentLines {source l : Text} (h : l ∈ documentLines source) : '\n' ∉ l := by
  induction source generalizing l with
  | nil =>
    cases List.mem_singleton.mp h
    simp
  | cons c t ih =>
    rw [documentLines_cons] at h
    split at h
    · rcases List.mem_cons.mp h with rfl | h
      · simp
      · exact ih h
    · rename_i hc
      have hne := documentLines_ne_nil t
      cases ht : documentLines t with
      | nil => exact absurd ht hne
      | cons first rest =>
        rw [ht] at h ih
        rcases List.mem_cons.mp h with rfl | h
        · simp [Ne.symm hc, ih List.mem_cons_self]
        · exact ih (List.mem_cons_of_mem _ h)

/-- The lines with line feeds between them are the document. -/
theorem intercalate_documentLines (source : Text) : ['\n'].intercalate (documentLines source) = source := by
  induction source with
  | nil => rfl
  | cons c t ih =>
    rw [documentLines_cons]
    have hne := documentLines_ne_nil t
    split
    · rename_i hc
      rw [List.intercalate_cons_of_ne_nil hne, ih, hc]
      rfl
    · cases ht : documentLines t with
      | nil => exact absurd ht hne
      | cons first rest =>
        rw [ht] at ih
        cases rest with
        | nil =>
          rw [List.intercalate_singleton] at ih
          rw [Text.joinFirst, List.intercalate_singleton, ih]
        | cons second rest =>
          rw [List.intercalate_cons_cons] at ih
          rw [Text.joinFirst, List.intercalate_cons_cons, ← ih]
          rfl

/-- Without line feeds there is one line. -/
theorem documentLines_of_not_mem {l : Text} (h : '\n' ∉ l) : documentLines l = [l] := by
  apply Text.splitWhere_of_forall_not
  intro c hc
  rw [beq_eq_false_iff_ne]
  rintro rfl
  exact h hc

/-- A line, a line feed and the lines behind it. -/
theorem documentLines_append {l : Text} (h : '\n' ∉ l) (t : Text) :
    documentLines (l ++ '\n' :: t) = l :: documentLines t := by
  have hsplit : documentLines (l ++ '\n' :: t) = documentLines l ++ documentLines t := Text.splitWhere_append_cons rfl l t
  rw [hsplit, documentLines_of_not_mem h]
  rfl

/-- Lines without line feeds in them are the lines of the document that they make up. -/
theorem documentLines_intercalate {ls : List Text} (hne : ls ≠ []) (h : ∀ l ∈ ls, '\n' ∉ l) :
    documentLines (['\n'].intercalate ls) = ls := by
  induction ls with
  | nil => exact absurd rfl hne
  | cons l rest ih =>
    have hl := h l List.mem_cons_self
    have hrest : ∀ l ∈ rest, '\n' ∉ l := fun x hx => h x (List.mem_cons_of_mem _ hx)
    cases rest with
    | nil => rw [List.intercalate_singleton, documentLines_of_not_mem hl]
    | cons second rest =>
      rw [List.intercalate_cons_cons, List.append_assoc, List.singleton_append, documentLines_append hl,
        ih (List.cons_ne_nil _ _) hrest]

/-- The text above a line, and the text below it. -/
theorem intercalate_append_cons (above : List Text) (l : Text) (below : List Text) :
    ['\n'].intercalate (above ++ l :: below) =
      above.flatMap (· ++ ['\n']) ++ (l ++ below.flatMap ('\n' :: ·)) := by
  induction above with
  | nil =>
    rw [List.nil_append, List.flatMap_nil, List.nil_append]
    induction below generalizing l with
    | nil => simp
    | cons next below ih =>
      rw [List.intercalate_cons_cons, ih next]
      simp
  | cons first above ih =>
    rw [List.cons_append, List.intercalate_cons_of_ne_nil (by simp), ih]
    simp

/-! ## The faults of a document -/

/-- The diagnostics of a document that are more than advice. -/
def Analysis.faults (a : Analysis) : List (Int × Diagnostic) := a.diagnostics.filter fun e => !e.2.code.isAdvisory

/-- Those on one line. -/
def Analysis.faultsOn (a : Analysis) (line : Int) : List Diagnostic := (a.faults.filter fun e => e.1 == line).map (·.2)

/-- The faults of some lines, the first of them with the given number. -/
def faultsFrom : (number : Nat) → List Text → List (Int × Diagnostic)
  | _, [] => []
  | number, l :: rest => (lineFaults l).map ((number : Int), ·) ++ faultsFrom (number + 1) rest

/-- What the analysis finds in a line, less the advice, is what is wrong with the line. -/
theorem filter_reported (strict : Bool) (tokens : List Token) :
    (reported strict (diagnose tokens)).filter (fun d => !d.code.isAdvisory) = reported false (diagnose tokens) := by
  simp only [reported, List.filter_filter]
  congr 1
  funext d
  cases strict <;> simp

/-- The faults of a document are those of its lines. -/
theorem faults_analyse (strict : Bool) (source : Text) :
    (analyse .default {} strict source).faults = faultsFrom 0 (documentLines source) := by
  simp only [Analysis.faults, analyse]
  generalize documentLines source = lines
  generalize 0 = number
  induction lines generalizing number with
  | nil => rfl
  | cons l rest ih =>
    rw [faultsFrom, ← ih (number + 1), List.zipIdx_cons, List.filter_cons, lineFaults]
    split
    · rw [List.map_cons, List.flatMap_cons, List.filter_append, List.filter_map, ← filter_reported strict]
      rfl
    · rfl

/-- A fault of some lines is on one of them. -/
theorem exists_of_mem_faultsFrom {number : Nat} {lines : List Text} {e : Int × Diagnostic} (h : e ∈ faultsFrom number lines) :
    ∃ i l, lines[i]? = some l ∧ e.1 = ((number + i : Nat) : Int) ∧ e.2 ∈ lineFaults l := by
  induction lines generalizing number with
  | nil => cases h
  | cons l rest ih =>
    rcases List.mem_append.mp h with h | h
    · obtain ⟨d, hd, rfl⟩ := List.mem_map.mp h
      exact ⟨0, l, rfl, rfl, hd⟩
    · obtain ⟨i, l', hl, hi, hd⟩ := ih h
      exact ⟨i + 1, l', hl, by rw [hi]; congr 1; omega, hd⟩

/-- The faults on a line are those of the text that stands there. -/
theorem map_filter_faultsFrom (number : Nat) (lines : List Text) (line : Int) :
    ((faultsFrom number lines).filter fun e => e.1 == line).map (·.2) =
      if (number : Int) ≤ line then (lines[(line - number).toNat]?.map lineFaults).getD [] else [] := by
  induction lines generalizing number with
  | nil => simp [faultsFrom]
  | cons l rest ih =>
    rw [faultsFrom, List.filter_append, List.map_append, ih, List.filter_map, List.map_map]
    by_cases hl : (number : Int) = line
    · subst hl
      have hall : (lineFaults l).filter ((fun e : Int × Diagnostic => e.1 == (number : Int)) ∘ ((number : Int), ·)) =
          lineFaults l := by
        rw [List.filter_eq_self]
        simp
      rw [hall, if_neg (by omega), if_pos (Int.le_refl _)]
      simp [Function.comp_def]
    · have hnone : (lineFaults l).filter ((fun e : Int × Diagnostic => e.1 == line) ∘ ((number : Int), ·)) = [] := by
        rw [List.filter_eq_nil_iff]
        simp [hl]
      rw [hnone, List.map_nil, List.nil_append]
      by_cases hle : (number : Int) ≤ line
      · rw [if_pos hle, if_pos (by omega)]
        obtain ⟨k, hk⟩ : ∃ k : Nat, (line - number).toNat = k + 1 := ⟨(line - number).toNat - 1, by omega⟩
        rw [hk, List.getElem?_cons_succ, show (line - ((number + 1 : Nat) : Int)).toNat = k by omega]
      · rw [if_neg hle, if_neg (by omega)]

/-- The faults on a line of a document. -/
theorem faultsOn_analyse (strict : Bool) (source : Text) (line : Int) :
    (analyse .default {} strict source).faultsOn line =
      if 0 ≤ line then ((documentLines source)[line.toNat]?.map lineFaults).getD [] else [] := by
  rw [Analysis.faultsOn, faults_analyse, map_filter_faultsFrom]
  simp

end ExprLex
