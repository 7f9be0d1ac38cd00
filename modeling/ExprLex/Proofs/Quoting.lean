import ExprLex.Text.Numeral
import ExprLex.Text.Raw
import Mathlib.Algebra.Group.Nat.Defs

/-!
# Quoted texts can be read back

A quoted text tells where it ends and what it quotes: whatever follows it, nothing else is quoted in the same way. The code
points are read back one at a time, surrogates among them, and none is written with the mark in front.
-/

namespace ExprLex

namespace Text

/-! ## Escapes by code point -/

/-- A hexadecimal digit is read as the number that it was made from. -/
theorem digitValue_hexDigit : ∀ n, n < 16 → Numeral.digitValue (hexDigit n) = n := by decide

theorem length_hexDigits (width n : Nat) : (hexDigits width n).length = width := by
  induction width generalizing n with
  | zero => rfl
  | succ width ih => rw [hexDigits, List.length_append, ih, List.length_singleton]

/-- The digits of a number write it, as far as they reach. -/
theorem value_hexDigits (width n : Nat) : Numeral.value 16 (hexDigits width n) = n % 16 ^ width := by
  induction width generalizing n with
  | zero =>
    rw [Nat.pow_zero, Nat.mod_one]
    rfl
  | succ width ih =>
    have hlast := digitValue_hexDigit (n % 16) (Nat.mod_lt n (by decide))
    have hfirst : (hexDigits width (n / 16)).foldl (fun n c => n * 16 + Numeral.digitValue c) 0 = n / 16 % 16 ^ width :=
      ih (n / 16)
    rw [Numeral.value, hexDigits, List.foldl_append, hfirst, List.foldl_cons, List.foldl_nil, hlast, Nat.pow_succ',
      Nat.mod_mul]
    omega

end Text

namespace Letter

/-- All code points are in range. -/
theorem toNat_lt (l : Letter) : l.toNat < 0x110000 := by
  cases l with
  | surrogate s => exact Nat.lt_of_le_of_lt s.isSurrogate.2 (by decide)
  | char c =>
    rcases c.valid with h | ⟨-, h⟩
    · exact Nat.lt_trans h (by decide)
    · exact h

/-- A surrogate has the code point of no character. -/
theorem toNat_ne_code (c : Char) (s : Surrogate) : c.toNat ≠ s.code := by
  obtain ⟨hfirst, hlast⟩ := s.isSurrogate
  have hvalid : c.toNat < 0xD800 ∨ 0xDFFF < c.toNat := c.valid.imp_right And.left
  omega

/-- Code points tell the letters. -/
theorem toNat_injective {a b : Letter} (h : a.toNat = b.toNat) : a = b := by
  cases a with
  | char c =>
    cases b with
    | char d => rw [Char.toNat_inj.mp h]
    | surrogate s => exact absurd h (toNat_ne_code c s)
  | surrogate s =>
    cases b with
    | char d => exact absurd h.symm (toNat_ne_code d s)
    | surrogate s' =>
      obtain ⟨code, hs⟩ := s
      obtain ⟨code', hs'⟩ := s'
      cases (show code = code' from h)
      rfl

end Letter

namespace Text

/-! ## Code points, read back -/

/-- The code point that digits behind an escape mark write, and what follows them. -/
def readCode (width : Nat) (t : Text) : Nat × Text := (Numeral.value 16 (t.take width), t.drop width)

/-- The code point that a quoted text goes on with, and what follows it. -/
def readPoint : Text → Option (Nat × Text)
  | '\\' :: 'x' :: t => some (readCode 2 t)
  | '\\' :: 'u' :: t => some (readCode 4 t)
  | '\\' :: 'U' :: t => some (readCode 8 t)
  | '\\' :: 't' :: t => some ('\t'.toNat, t)
  | '\\' :: 'n' :: t => some ('\n'.toNat, t)
  | '\\' :: 'r' :: t => some ('\r'.toNat, t)
  | '\\' :: c :: t => some (c.toNat, t)
  | c :: t => some (c.toNat, t)
  | [] => none

/-- A number that fits its digits is read back from them, whatever follows. -/
theorem readCode_hexDigits {n width : Nat} (h : n < 16 ^ width) (t : Text) :
    readCode width (hexDigits width n ++ t) = (n, t) := by
  have htake : (hexDigits width n ++ t).take width = hexDigits width n := by
    have hlen := length_hexDigits width n
    rw [List.take_append_of_le_length (Nat.le_of_eq hlen.symm), List.take_of_length_le (Nat.le_of_eq hlen)]
  have hdrop : (hexDigits width n ++ t).drop width = t := by
    have hlen := length_hexDigits width n
    calc (hexDigits width n ++ t).drop width
        = (hexDigits width n ++ t).drop (hexDigits width n).length := by rw [hlen]
      _ = t := List.drop_left
  rw [readCode, htake, hdrop, value_hexDigits, Nat.mod_eq_of_lt h]

/-- An escape by a code point in range is read back. -/
theorem readPoint_escapeCode {n : Nat} (hn : n < 0x110000) (t : Text) : readPoint (escapeCode n ++ t) = some (n, t) := by
  unfold escapeCode
  split
  · rename_i h
    exact congrArg some (@readCode_hexDigits n 2 h t)
  · split
    · rename_i h
      exact congrArg some (@readCode_hexDigits n 4 h t)
    · exact congrArg some (@readCode_hexDigits n 8 (Nat.lt_trans hn (by decide)) t)

/-- The two marks that quoted texts stand between. -/
def IsMark (mark : Char) : Prop := mark = '\x27' ∨ mark = '"'

/-- The mark is one of the two that there are. -/
theorem isMark_quoteMark (t : Text) : IsMark (quoteMark t) := by
  unfold quoteMark
  split
  · exact Or.inr rfl
  · exact Or.inl rfl

/-- A written character is read back. -/
theorem readPoint_quoteChar {mark : Char} (hm : IsMark mark) (c : Char) (t : Text) :
    readPoint (quoteChar mark c ++ t) = some (c.toNat, t) := by
  unfold quoteChar
  split
  · rename_i h
    rw [Bool.or_eq_true, beq_iff_eq, beq_iff_eq] at h
    rcases h with rfl | rfl
    · rcases hm with rfl | rfl <;> rfl
    · rfl
  · rename_i hc
    split
    · rename_i h
      rw [beq_iff_eq.mp h]
      rfl
    · split
      · rename_i h
        rw [beq_iff_eq.mp h]
        rfl
      · split
        · rename_i h
          rw [beq_iff_eq.mp h]
          rfl
        · split
          · have hb : c ≠ '\\' := by
              rintro rfl
              exact hc (by simp)
            simp [readPoint, hb]
          · exact readPoint_escapeCode (Letter.toNat_lt (.char c)) t

/-- An escape does not start with a mark. -/
theorem head?_escapeCode {mark : Char} (hm : IsMark mark) (n : Nat) (t : Text) : (escapeCode n ++ t).head? ≠ some mark := by
  have hb : '\\' ≠ mark := by rcases hm with rfl | rfl <;> decide
  unfold escapeCode
  split
  · simpa using hb
  · split <;> simpa using hb

/-- No character is written with the mark in front. -/
theorem head?_quoteChar {mark : Char} (hm : IsMark mark) (c : Char) (t : Text) :
    (quoteChar mark c ++ t).head? ≠ some mark := by
  have hb : '\\' ≠ mark := by rcases hm with rfl | rfl <;> decide
  unfold quoteChar
  split
  · simpa using hb
  · rename_i hc
    split
    · simpa using hb
    · split
      · simpa using hb
      · split
        · simpa using hb
        · split
          · rintro h
            cases h
            exact hc (by simp)
          · exact head?_escapeCode hm _ t

end Text

namespace RawText

open Text

/-! ## Quoted texts, read back -/

/-- A letter is read back, whatever follows. -/
theorem readPoint_quoteLetter {mark : Char} (hm : IsMark mark) (l : Letter) (t : Text) :
    readPoint (quoteLetter mark l ++ t) = some (l.toNat, t) := by
  cases l with
  | char c => exact readPoint_quoteChar hm c t
  | surrogate s => exact readPoint_escapeCode (Letter.toNat_lt (.surrogate s)) t

/-- And it does not begin with the mark. -/
theorem head?_quoteLetter {mark : Char} (hm : IsMark mark) (l : Letter) (t : Text) :
    (quoteLetter mark l ++ t).head? ≠ some mark := by
  cases l with
  | char c => exact head?_quoteChar hm c t
  | surrogate s => exact head?_escapeCode hm s.code t

/-- What stands between two marks tells what it quotes and where it ends. -/
theorem body_append_inj {mark : Char} (hm : IsMark mark) {r s : RawText} {a b : Text}
    (h : r.flatMap (quoteLetter mark) ++ mark :: a = s.flatMap (quoteLetter mark) ++ mark :: b) : r = s ∧ a = b := by
  induction r generalizing s with
  | nil =>
    cases s with
    | nil => exact ⟨rfl, (List.cons.inj h).2⟩
    | cons d s =>
      rw [List.flatMap_cons, List.append_assoc] at h
      exact absurd (congrArg List.head? h).symm (head?_quoteLetter hm d _)
  | cons c r ih =>
    cases s with
    | nil =>
      rw [List.flatMap_cons, List.append_assoc] at h
      exact absurd (congrArg List.head? h) (head?_quoteLetter hm c _)
    | cons d s =>
      rw [List.flatMap_cons, List.flatMap_cons, List.append_assoc, List.append_assoc] at h
      have hread := congrArg readPoint h
      rw [readPoint_quoteLetter hm, readPoint_quoteLetter hm, Option.some.injEq, Prod.mk.injEq] at hread
      obtain ⟨hpoint, hrest⟩ := hread
      obtain rfl := Letter.toNat_injective hpoint
      obtain ⟨rfl, hab⟩ := ih hrest
      exact ⟨rfl, hab⟩

/-- What is quoted, and where that ends, can be told whatever follows it. -/
theorem quote_append_inj {r s : RawText} {a b : Text} (h : quote r ++ a = quote s ++ b) : r = s ∧ a = b := by
  simp only [quote, List.cons_append, List.append_assoc, List.cons.injEq, List.nil_append] at h
  obtain ⟨hmark, hbody⟩ := h
  rw [← hmark] at hbody
  exact body_append_inj (isMark_quoteMark r.shown) hbody

/-- What is quoted starts with its mark. -/
theorem quote_eq_cons (s : RawText) : ∃ mark rest, quote s = mark :: rest ∧ IsMark mark :=
  ⟨quoteMark s.shown, _, rfl, isMark_quoteMark s.shown⟩

end RawText

/-- A quoted text tells what it quotes and where it ends, whatever follows it. -/
theorem Text.quote_append_inj {t u a b : Text} (h : quote t ++ a = quote u ++ b) : t = u ∧ a = b := by
  rw [← RawText.quote_ofText t, ← RawText.quote_ofText u] at h
  obtain ⟨hsame, hab⟩ := RawText.quote_append_inj h
  exact ⟨RawText.ofText_injective hsame, hab⟩

end ExprLex
