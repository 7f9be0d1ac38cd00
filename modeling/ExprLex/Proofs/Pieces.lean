import ExprLex.Proofs.Classes
import ExprLex.Proofs.DefaultSplit

/-!
# What the pieces of an expression are

Each piece that the scanner finds is proper: its text has the form that its shape announces, told on the text alone. So the
classification of lexemes, which looks at whole lexemes and knows nothing of how they were found, comes to the same result:
numbers are operands, names are operands or functions, and what is loose is unknown unless it is a registered name.
-/

namespace ExprLex

/-- A character that starts no piece, unless it is a point before a digit. -/
def isLoose (c : Char) : Bool := !(isWhitespace c || isSymbol c || isDigit c || isNameHead c)

/-- A piece whose text has the form that its shape announces. -/
inductive Piece.Proper : Piece → Prop where
  | space {t : Text} (hne : t ≠ []) (h : ∀ c ∈ t, isWhitespace c = true) : Proper ⟨.space, t⟩
  | symbol {c : Char} (h : isSymbol c = true) : Proper ⟨.symbol, [c]⟩
  | number {t : Text} (h : Lexeme.isNumber t = true) : Proper ⟨.number, t⟩
  | name {t : Text} (h : Lexeme.isIdentifier t = true) : Proper ⟨.name, t⟩
  | loose {t : Text} (hne : t ≠ []) (h : ∀ c ∈ t, isLoose c = true) : Proper ⟨.loose, t⟩

/-! ## Numbers and identifiers -/

/-- The point is no digit. -/
theorem isDigit_point : isDigit '.' = false := by decide

/-- The characters that a text takes while they pass a test pass it. -/
theorem of_mem_takeWhile {p : Char → Bool} {t : Text} {c : Char} (h : c ∈ t.takeWhile p) : p c = true :=
  List.all_eq_true.mp List.all_takeWhile c h

/-- A number: digits, one at least, or digits and a point and one digit more at least. -/
theorem isNumber_iff (t : Text) : Lexeme.isNumber t = true ↔
    (t ≠ [] ∧ ∀ c ∈ t, isDigit c = true) ∨
      ∃ ds fs, t = ds ++ '.' :: fs ∧ (∀ c ∈ ds, isDigit c = true) ∧ fs ≠ [] ∧ ∀ c ∈ fs, isDigit c = true := by
  have ht : t.takeWhile isDigit ++ t.dropWhile isDigit = t := List.takeWhile_append_dropWhile
  constructor
  · intro h
    unfold Lexeme.isNumber at h
    split at h
    · rename_i hd
      rw [hd, List.append_nil] at ht
      exact Or.inl ⟨by simpa using h, fun c hc => of_mem_takeWhile (ht ▸ hc)⟩
    · rename_i fs hd
      rw [hd] at ht
      simp only [Bool.and_eq_true, Bool.not_eq_true', List.isEmpty_eq_false_iff, List.all_eq_true] at h
      exact Or.inr ⟨_, fs, ht.symm, fun c hc => of_mem_takeWhile hc, h.1, h.2⟩
    · cases h
  · rintro (⟨hne, h⟩ | ⟨ds, fs, rfl, hds, hne, hfs⟩)
    · have hd : t.dropWhile isDigit = [] := by
        rw [← List.append_nil t, List.dropWhile_append_of_pos h]
        rfl
      rw [Lexeme.isNumber, hd]
      simpa using hne
    · have hd : (ds ++ '.' :: fs).dropWhile isDigit = '.' :: fs := by
        rw [List.dropWhile_append_of_pos hds, List.dropWhile_cons_of_neg (by simp [isDigit_point])]
      rw [Lexeme.isNumber, hd]
      simpa [hne] using hfs

/-- A number starts with a digit or a point. -/
theorem head_of_isNumber {c : Char} {t : Text} (h : Lexeme.isNumber (c :: t) = true) : isDigit c = true ∨ c = '.' := by
  rcases (isNumber_iff _).mp h with ⟨-, h⟩ | ⟨ds, fs, ht, hds, -, -⟩
  · exact Or.inl (h c List.mem_cons_self)
  · cases ds with
    | nil => exact Or.inr (List.cons.inj ht).1
    | cons d ds =>
      obtain ⟨rfl, -⟩ := List.cons.inj ht
      exact Or.inl (hds c List.mem_cons_self)

/-- A name, its first character apart. -/
theorem isIdentifier_cons (c : Char) (t : Text) : Lexeme.isIdentifier (c :: t) = (isNameHead c && t.all isWord) := rfl

/-- A run of digits with what a point adds to it is a number. -/
theorem isNumber_digits {c : Char} (hc : isDigit c = true) (rest : Text) :
    Lexeme.isNumber (c :: rest.takeWhile isDigit ++ pointAndDigits (rest.dropWhile isDigit)) = true := by
  have hrun : ∀ d ∈ c :: rest.takeWhile isDigit, isDigit d = true := by
    intro d hd
    rcases List.mem_cons.mp hd with rfl | hd
    · exact hc
    · exact of_mem_takeWhile hd
  rw [isNumber_iff]
  rcases pointAndDigits_cases (rest.dropWhile isDigit) with h | ⟨tail, -, hd, h⟩
  · rw [h, List.append_nil]
    exact Or.inl ⟨List.cons_ne_nil _ _, hrun⟩
  · rw [h]
    refine Or.inr ⟨_, _, rfl, hrun, ?_, fun d hd => of_mem_takeWhile hd⟩
    cases tail with
    | nil => simp at hd
    | cons d more => simp [show isDigit d = true by simpa using hd]

/-- A point with digits behind it is a number. -/
theorem isNumber_pointAndDigits {t : Text} (h : pointAndDigits t ≠ []) : Lexeme.isNumber (pointAndDigits t) = true := by
  rcases pointAndDigits_cases t with he | ⟨tail, -, hd, he⟩
  · exact absurd he h
  · rw [he, isNumber_iff]
    refine Or.inr ⟨[], _, rfl, by simp, ?_, fun d hd => of_mem_takeWhile hd⟩
    cases tail with
    | nil => simp at hd
    | cons d more => simp [show isDigit d = true by simpa using hd]

/-! ## The pieces are proper -/

/-- Every piece that is found is proper. -/
theorem proper_of_piece? {t : Text} {p : Piece} (h : piece? t = some p) : p.Proper := by
  unfold piece? at h
  split at h
  · cases h
  · rename_i c rest
    split at h
    · rename_i hw
      cases h
      refine .space (List.cons_ne_nil _ _) fun d hd => ?_
      rcases List.mem_cons.mp hd with rfl | hd
      · exact hw
      · exact of_mem_takeWhile hd
    · split at h
      · rename_i hs
        cases h
        exact .symbol hs
      · split at h
        · rename_i hd
          cases h
          exact .number (isNumber_digits hd rest)
        · split at h
          · rename_i hp
            cases h
            exact .number (isNumber_pointAndDigits (by simpa using hp))
          · split at h
            · rename_i hn
              cases h
              refine .name ?_
              rw [isIdentifier_cons, hn, Bool.true_and]
              exact List.all_takeWhile
            · cases h

/-- A character that starts no piece is loose. -/
theorem isLoose_of_piece? {c : Char} {rest : Text} (h : piece? (c :: rest) = none) : isLoose c = true := by
  cases hl : isLoose c with
  | true => rfl
  | false =>
    simp only [piece?] at h
    split at h
    · cases h
    · split at h
      · cases h
      · split at h
        · cases h
        · split at h
          · cases h
          · split at h
            · cases h
            · simp_all [isLoose]

/-- The loose text that proper pieces start with is loose. -/
theorem isLoose_of_mem_cutLoose {ps : List Piece} (h : ∀ p ∈ ps, p.Proper) : ∀ c ∈ (cutLoose ps).1, isLoose c = true := by
  unfold cutLoose
  split
  · rename_i run more
    cases h _ List.mem_cons_self with
    | loose hne hl => exact hl
  · simp

/-- The pieces of a text are proper. -/
theorem proper_of_mem_pieces (t : Text) : ∀ p ∈ pieces t, p.Proper := by
  fun_induction pieces t with
  | case1 => simp
  | case2 c rest q hq ih =>
    intro p hp
    rcases List.mem_cons.mp hp with rfl | hp
    · exact proper_of_piece? hq
    · exact ih p hp
  | case3 c rest hq ih =>
    intro p hp
    rcases List.mem_cons.mp hp with rfl | hp
    · refine .loose (List.cons_ne_nil _ _) fun d hd => ?_
      rcases List.mem_cons.mp hd with rfl | hd
      · exact isLoose_of_piece? hq
      · exact isLoose_of_mem_cutLoose ih d hd
    · exact ih p (cutLoose_snd_subset hp)

/-- The text of some pieces, one after another. -/
def textOf (ps : List Piece) : Text := ps.flatMap (·.text)

@[simp] theorem textOf_nil : textOf [] = [] := rfl

@[simp] theorem textOf_cons (p : Piece) (ps : List Piece) : textOf (p :: ps) = p.text ++ textOf ps := by
  simp [textOf]

@[simp] theorem textOf_append (ps qs : List Piece) : textOf (ps ++ qs) = textOf ps ++ textOf qs := by
  simp [textOf]

/-- The pieces of a text make it up: they are the fragments of the default pattern. -/
theorem textOf_pieces (t : Text) : textOf (pieces t) = t := by
  have h := Pattern.isEnclosed_default.flatten_fragments t
  rw [Pattern.fragments_default, scan] at h
  rw [textOf, List.flatMap_def]
  exact h

end ExprLex
