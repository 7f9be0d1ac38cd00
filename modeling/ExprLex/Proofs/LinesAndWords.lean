import ExprLex.Proofs.FrontEnds

/-!
# Lines and words of texts put together

Lines are cut at any line break, and a carriage return and the line feed behind it are one; words are cut at any whitespace.
Either way the pieces of two texts with a break between them are those of the one and those of the other, unless a carriage
return meets a line feed at the seam.
-/

namespace ExprLex

/-! ## Lines -/

/-- A line break ends a line, and a carriage return takes the line feed behind it with it. -/
theorem lines_cons_of_break {c : Char} (hc : Text.isLineBreak c = true) {t : Text}
    (ht : c = '\r' → t.head? ≠ some '\n') : Text.lines (c :: t) = [] :: Text.lines t := by
  conv => lhs; unfold Text.lines
  split
  · contradiction
  · rename_i heq
    cases heq
    exact absurd rfl (ht rfl)
  · rename_i heq
    cases heq
    rw [if_pos hc]

theorem lines_ne_nil {t : Text} (h : t ≠ []) : Text.lines t ≠ [] := by
  fun_cases Text.lines t with
  | case1 => exact absurd rfl h
  | case2 t => simp
  | case3 c t hreturn hc => simp
  | case4 c t hreturn hc => cases Text.lines t <;> simp [Text.joinFirst]

/-- Behind a line break a text goes on with lines of its own. A carriage return must not meet a line feed there. -/
theorem lines_append_of_break {t u : Text} {c : Char} (hlast : t.getLast? = some c) (hc : Text.isLineBreak c = true)
    (hu : c = '\r' → u.head? ≠ some '\n') : Text.lines (t ++ u) = Text.lines t ++ Text.lines u := by
  fun_induction Text.lines t with
  | case1 => cases hlast
  | case2 t ih =>
    show [] :: Text.lines (t ++ u) = [] :: Text.lines t ++ Text.lines u
    cases t with
    | nil => rfl
    | cons d t => rw [ih hlast, List.cons_append]
  | case3 d t hreturn hd ih =>
    cases t with
    | nil =>
      cases hlast
      exact lines_cons_of_break hd hu
    | cons e t =>
      have hhead : d = '\r' → (e :: t ++ u).head? ≠ some '\n' := by
        rintro rfl h
        cases h
        exact hreturn t rfl rfl
      rw [List.cons_append, lines_cons_of_break hd hhead, ih hlast, List.cons_append]
  | case4 d t hreturn hd ih =>
    cases t with
    | nil =>
      cases hlast
      exact absurd hc hd
    | cons e t =>
      have hnot : Text.isLineBreak d = false := Bool.eq_false_iff.mpr hd
      rw [List.cons_append, lines_cons_of_not_break hnot, ih hlast,
        Text.joinFirst_append d (lines_ne_nil (List.cons_ne_nil e t))]

/-- A line break behind a text adds at most an empty line. -/
theorem lines_append_break {c : Char} (hc : Text.isLineBreak c = true) (t : Text) :
    ∃ blank, Text.lines (t ++ [c]) = Text.lines t ++ blank ∧ ∀ l ∈ blank, l = [] := by
  have halone : Text.lines [c] = [[]] := lines_cons_of_break hc fun _ => by simp
  fun_induction Text.lines t with
  | case1 => exact ⟨[[]], halone, by simp⟩
  | case2 t ih =>
    obtain ⟨blank, hlines, hblank⟩ := ih
    exact ⟨blank, congrArg ([] :: ·) hlines, hblank⟩
  | case3 d t hreturn hd ih =>
    by_cases hmeet : d = '\r' ∧ t = [] ∧ c = '\n'
    · obtain ⟨rfl, rfl, rfl⟩ := hmeet
      exact ⟨[], rfl, by simp⟩
    · have hhead : d = '\r' → (t ++ [c]).head? ≠ some '\n' := by
        rintro rfl h
        cases t with
        | nil => exact hmeet ⟨rfl, rfl, Option.some.inj h⟩
        | cons e t =>
          cases h
          exact hreturn t rfl rfl
      obtain ⟨blank, hlines, hblank⟩ := ih
      rw [List.cons_append, lines_cons_of_break hd hhead, hlines]
      exact ⟨blank, rfl, hblank⟩
  | case4 d t hreturn hd ih =>
    have hnot : Text.isLineBreak d = false := Bool.eq_false_iff.mpr hd
    obtain ⟨blank, hlines, hblank⟩ := ih
    cases t with
    | nil =>
      rw [List.cons_append, lines_cons_of_not_break hnot, List.nil_append, halone]
      exact ⟨[], rfl, by simp⟩
    | cons e t =>
      rw [List.cons_append, lines_cons_of_not_break hnot, hlines]
      exact ⟨blank, Text.joinFirst_append d (lines_ne_nil (List.cons_ne_nil e t)) blank, hblank⟩

/-- Unifying the line breaks does not change the lines. -/
theorem lines_unifyBreaks (t : Text) : Text.lines (Text.unifyBreaks t) = Text.lines t := by
  fun_induction Text.unifyBreaks t with
  | case1 => rfl
  | case2 t ih => exact congrArg ([] :: ·) ih
  | case3 t hfeed ih =>
    rw [lines_cons_feed, ih, lines_cons_of_break (by decide)]
    rintro - h
    cases t with
    | nil => cases h
    | cons d t =>
      cases h
      exact hfeed t rfl
  | case4 c t hfeed hreturn ih =>
    cases hc : Text.isLineBreak c with
    | true => rw [lines_cons_of_break hc fun h => absurd h hreturn, lines_cons_of_break hc fun h => absurd h hreturn, ih]
    | false => rw [lines_cons_of_not_break hc, lines_cons_of_not_break hc, ih]

/-- A text that no line break cuts. -/
def Unbroken (t : Text) : Prop := ∀ c ∈ t, Text.isLineBreak c = false

instance (t : Text) : Decidable (Unbroken t) :=
  decidable_of_iff ((t.all fun c => !Text.isLineBreak c) = true) (by simp [Unbroken])

/-- Two texts have no line breaks if neither of them has any. -/
theorem unbroken_append {a b : Text} : Unbroken (a ++ b) ↔ Unbroken a ∧ Unbroken b := List.forall_mem_append

/-- No line of a text is cut by a line break. -/
theorem unbroken_of_mem_lines {t l : Text} (h : l ∈ Text.lines t) : Unbroken l := by
  have hnil : Unbroken [] := fun c hc => absurd hc List.not_mem_nil
  fun_induction Text.lines t generalizing l with
  | case1 => cases h
  | case2 t ih =>
    rcases List.mem_cons.mp h with rfl | h
    · exact hnil
    · exact ih h
  | case3 c t hreturn hc ih =>
    rcases List.mem_cons.mp h with rfl | h
    · exact hnil
    · exact ih h
  | case4 c t hreturn hc ih =>
    have hnot : Text.isLineBreak c = false := Bool.eq_false_iff.mpr hc
    cases hlines : Text.lines t with
    | nil =>
      rw [hlines, Text.joinFirst, List.mem_singleton] at h
      subst h
      exact List.forall_mem_singleton.mpr hnot
    | cons first rest =>
      rw [hlines] at h ih
      rcases List.mem_cons.mp h with rfl | h
      · exact List.forall_mem_cons.mpr ⟨hnot, ih List.mem_cons_self⟩
      · exact ih (List.mem_cons_of_mem _ h)

/-- A text without line breaks is its only line. -/
theorem lines_of_unbroken {l : Text} (h : Unbroken l) (hne : l ≠ []) : Text.lines l = [l] := by
  induction l with
  | nil => exact absurd rfl hne
  | cons c l ih =>
    rw [lines_cons_of_not_break (h c List.mem_cons_self)]
    cases l with
    | nil => rfl
    | cons d l =>
      rw [ih (fun e he => h e (List.mem_cons_of_mem _ he)) (List.cons_ne_nil d l)]
      rfl

/-- A line, a line feed and the lines behind it. -/
theorem lines_append_cons_feed {l : Text} (h : Unbroken l) (u : Text) : Text.lines (l ++ '\n' :: u) = l :: Text.lines u := by
  induction l with
  | nil => rfl
  | cons c l ih =>
    rw [List.cons_append, lines_cons_of_not_break (h c List.mem_cons_self),
      ih fun e he => h e (List.mem_cons_of_mem _ he)]
    rfl

/-! ## Words -/

/-- Whitespace parts the words before it from those behind it. -/
theorem words_append_cons {c : Char} (hc : isWhitespace c = true) (a b : Text) :
    Text.words (a ++ c :: b) = Text.words a ++ Text.words b := by
  rw [Text.words, Text.splitWhere_append_cons hc, List.filter_append]
  rfl

theorem words_cons {c : Char} (hc : isWhitespace c = true) (t : Text) : Text.words (c :: t) = Text.words t :=
  words_append_cons hc [] t

/-- A blank text has no words. -/
theorem words_of_blank {blank : Text} (h : ∀ c ∈ blank, isWhitespace c = true) : Text.words blank = [] := by
  induction blank with
  | nil => rfl
  | cons c blank ih =>
    rw [words_cons (h c List.mem_cons_self)]
    exact ih fun d hd => h d (List.mem_cons_of_mem _ hd)

/-- Whitespace at the end is part of no word. -/
theorem words_trimRight (t : Text) : Text.words (Text.trimRight t) = Text.words t := by
  obtain ⟨blank, ht, hblank⟩ := trimRight_append t
  generalize Text.trimRight t = kept at ht
  subst ht
  cases blank with
  | nil => rw [List.append_nil]
  | cons c blank =>
    rw [words_append_cons (hblank c List.mem_cons_self),
      words_of_blank fun d hd => hblank d (List.mem_cons_of_mem _ hd), List.append_nil]

/-- A text that is one word. -/
def SingleWord (w : Text) : Prop := w ≠ [] ∧ ∀ c ∈ w, isWhitespace c = false

instance (w : Text) : Decidable (SingleWord w) :=
  decidable_of_iff (w ≠ [] ∧ (w.all fun c => !isWhitespace c) = true) (by simp [SingleWord])

/-- A single word is the only one. -/
theorem SingleWord.words_eq {w : Text} (h : SingleWord w) : Text.words w = [w] := by
  rw [Text.words, Text.splitWhere_of_forall_not h.2]
  simp [h.1]

/-- Words with single spaces between them are found again. -/
theorem words_intercalate {ws : List Text} (h : ∀ w ∈ ws, SingleWord w) : Text.words ([' '].intercalate ws) = ws := by
  induction ws with
  | nil => rfl
  | cons w rest ih =>
    have hw := h w List.mem_cons_self
    have hrest : ∀ v ∈ rest, SingleWord v := fun v hv => h v (List.mem_cons_of_mem _ hv)
    cases rest with
    | nil => rw [List.intercalate_singleton, hw.words_eq]
    | cons v rest =>
      rw [List.intercalate_cons_cons, List.append_assoc, List.singleton_append, words_append_cons (by decide), hw.words_eq,
        ih hrest]
      rfl

/-- Words with single spaces between them stay as they are. -/
theorem normaliseSpaces_intercalate {ws : List Text} (h : ∀ w ∈ ws, SingleWord w) :
    Text.normaliseSpaces ([' '].intercalate ws) = [' '].intercalate ws := by
  rw [Text.normaliseSpaces, words_intercalate h]

/-- Line breaks are whitespace. -/
theorem isWhitespace_of_isLineBreak {c : Char} (h : Text.isLineBreak c = true) : isWhitespace c = true := by
  have hothers : otherBreaks.all isWhitespace = true := by decide
  rcases isLineBreak_iff.mp h with rfl | rfl | h
  · decide
  · decide
  · exact List.all_eq_true.mp hothers c h

/-- There is no line break in a word. -/
theorem SingleWord.unbroken {w : Text} (h : SingleWord w) : Unbroken w := by
  intro c hc
  rw [Bool.eq_false_iff]
  intro hbreak
  cases (h.2 c hc).symm.trans (isWhitespace_of_isLineBreak hbreak)

/-- Words with single spaces between them are cut by no line break. -/
theorem unbroken_intercalate {ws : List Text} (h : ∀ w ∈ ws, SingleWord w) : Unbroken ([' '].intercalate ws) := by
  induction ws with
  | nil => exact fun c hc => absurd hc List.not_mem_nil
  | cons w rest ih =>
    have hw := (h w List.mem_cons_self).unbroken
    cases rest with
    | nil => rwa [List.intercalate_singleton]
    | cons v rest =>
      rw [List.intercalate_cons_cons, List.append_assoc, unbroken_append, List.singleton_append]
      exact ⟨hw, List.forall_mem_cons.mpr ⟨by decide, ih fun u hu => h u (List.mem_cons_of_mem _ hu)⟩⟩

end ExprLex
