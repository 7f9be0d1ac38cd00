import ExprLex.Proofs.Scanner

/-!
# Classes apart from each other

The classes that the pieces of an expression are told by do not overlap, and where they matter for names they lie inside or
outside of the word characters as a whole. For the classes of Unicode this is read off their ranges.
-/

namespace ExprLex

namespace CodeRanges

/-- Each range of the one set lies below or above each range of the other. -/
def apart (a b : CodeRanges) : Bool :=
  a.all fun (lo, hi) => b.all fun (lo', hi') => decide (hi < lo') || decide (hi' < lo)

/-- A number in a class is in one of its ranges. -/
theorem exists_of_contains {r : CodeRanges} {n : Nat} (h : r.contains n = true) : ∃ p ∈ r, p.1 ≤ n ∧ n ≤ p.2 := by
  induction r with
  | nil => simp [contains] at h
  | cons p rest ih =>
    obtain ⟨lo, hi⟩ := p
    simp only [contains] at h
    split at h
    · rename_i hn
      exact ⟨(lo, hi), List.mem_cons_self, of_decide_eq_true h, hn⟩
    · obtain ⟨p, hp, hle⟩ := ih h
      exact ⟨p, List.mem_cons_of_mem _ hp, hle⟩

/-- Sets whose ranges lie apart have no code point in common. -/
theorem contains_eq_false_of_apart {a b : CodeRanges} (h : a.apart b = true) {n : Nat} (ha : a.contains n = true) :
    b.contains n = false := by
  cases hb : b.contains n with
  | false => rfl
  | true =>
    obtain ⟨p, hp, h1, h2⟩ := exists_of_contains ha
    obtain ⟨q, hq, h3, h4⟩ := exists_of_contains hb
    have hpq := List.all_eq_true.mp (List.all_eq_true.mp h p hp) q hq
    simp only [Bool.or_eq_true, decide_eq_true_eq] at hpq
    omega

end CodeRanges

open CodeRanges

/-- A fact about characters that holds of the first 128 holds of every ASCII character. -/
theorem forall_ascii {P : Char → Prop} (h : ∀ n : Fin 128, P (Char.ofNat n)) {c : Char} (hc : c.toNat < 128) : P c := by
  have := h ⟨c.toNat, hc⟩
  rwa [Char.ofNat_toNat] at this

/-- No whitespace is a word character. -/
theorem isWord_of_isWhitespace {c : Char} (h : isWhitespace c = true) : isWord c = false := by
  have hd : decimalDigitRanges.contains c.toNat = false := contains_eq_false_of_apart (by decide +kernel) h
  have hl : letterRanges.contains c.toNat = false := contains_eq_false_of_apart (by decide +kernel) h
  have hn : letterNumberRanges.contains c.toNat = false := contains_eq_false_of_apart (by decide +kernel) h
  have ho : otherNumberRanges.contains c.toNat = false := contains_eq_false_of_apart (by decide +kernel) h
  have hu : (c == '_') = false := by
    rw [beq_eq_false_iff_ne]
    rintro rfl
    exact absurd h (by decide)
  simp [isWord, isDigit, isLetter, hd, hl, hn, ho, hu]

/-- What rules another thing out is ruled out by it. -/
theorem eq_false_of_excludes {a b : Bool} (h : a = true → b = false) (hb : b = true) : a = false := by
  cases a with
  | false => rfl
  | true => rw [← hb, h rfl]

theorem isWord_of_isDigit {c : Char} (h : isDigit c = true) : isWord c = true := by
  simp [isWord, h]

/-- The symbols, one by one. -/
theorem eq_of_isSymbol {c : Char} (h : isSymbol c = true) :
    c = '+' ∨ c = '-' ∨ c = '*' ∨ c = '/' ∨ c = '(' ∨ c = ')' ∨ c = ',' := by
  simpa [isSymbol, or_assoc] using h

/-- A symbol is nothing else. -/
theorem classes_of_isSymbol {c : Char} (h : isSymbol c = true) :
    isWhitespace c = false ∧ isDigit c = false ∧ isNameHead c = false ∧ isWord c = false ∧ c ≠ '.' := by
  rcases eq_of_isSymbol h with rfl | rfl | rfl | rfl | rfl | rfl | rfl <;> decide

/-- Names start with plain letters. -/
theorem toNat_lt_of_isNameHead {c : Char} (h : isNameHead c = true) : c.toNat < 128 := by
  simp only [isNameHead, isAsciiLetter, Bool.or_eq_true, Bool.and_eq_true, decide_eq_true_eq, beq_iff_eq] at h
  rcases h with (⟨-, h⟩ | ⟨-, h⟩) | rfl
  · exact Nat.lt_of_le_of_lt (show c.toNat ≤ 'z'.toNat from h) (by decide)
  · exact Nat.lt_of_le_of_lt (show c.toNat ≤ 'Z'.toNat from h) (by decide)
  · decide

/-- What a name starts with is a word character, and nothing else. -/
theorem classes_of_isNameHead {c : Char} (h : isNameHead c = true) :
    isWhitespace c = false ∧ isSymbol c = false ∧ isDigit c = false ∧ isWord c = true ∧ c ≠ '.' := by
  have ha : ∀ d : Char, d.toNat < 128 → isNameHead d = true →
      isWhitespace d = false ∧ isSymbol d = false ∧ isDigit d = false ∧ isWord d = true ∧ d ≠ '.' :=
    fun d hd => forall_ascii (P := fun d => isNameHead d = true →
      isWhitespace d = false ∧ isSymbol d = false ∧ isDigit d = false ∧ isWord d = true ∧ d ≠ '.') (by decide +kernel) hd
  exact ha c (toNat_lt_of_isNameHead h) h

/-- A word character is neither whitespace nor a symbol nor a point. -/
theorem classes_of_isWord {c : Char} (h : isWord c = true) : isWhitespace c = false ∧ isSymbol c = false ∧ c ≠ '.' := by
  refine ⟨eq_false_of_excludes isWord_of_isWhitespace h,
    eq_false_of_excludes (fun hs => (classes_of_isSymbol hs).2.2.2.1) h, ?_⟩
  rintro rfl
  exact absurd h (by decide)

/-- Whitespace is nothing else. -/
theorem classes_of_isWhitespace {c : Char} (h : isWhitespace c = true) :
    isSymbol c = false ∧ isDigit c = false ∧ isNameHead c = false ∧ isWord c = false ∧ c ≠ '.' := by
  refine ⟨eq_false_of_excludes (fun hs => (classes_of_isSymbol hs).1) h,
    eq_false_of_excludes (fun hd => (classes_of_isWord (isWord_of_isDigit hd)).1) h,
    eq_false_of_excludes (fun hn => (classes_of_isNameHead hn).1) h, isWord_of_isWhitespace h, ?_⟩
  rintro rfl
  exact absurd h (by decide)

/-- A digit is a word character that no name starts with, and nothing else. -/
theorem classes_of_isDigit {c : Char} (h : isDigit c = true) :
    isWhitespace c = false ∧ isSymbol c = false ∧ isNameHead c = false ∧ isWord c = true ∧ c ≠ '.' := by
  have hw := isWord_of_isDigit h
  obtain ⟨h1, h2, h3⟩ := classes_of_isWord hw
  exact ⟨h1, h2, eq_false_of_excludes (fun hn => (classes_of_isNameHead hn).2.2.1) h, hw, h3⟩

end ExprLex
