import ExprLex.Proofs.Quoting
import ExprLex.Token.Basic
import Mathlib.Data.List.Basic

/-!
# Rendered tokens tell the tokens

A rendered token is the spelling of its kind, its quoted lexeme in parentheses, and its position. The spelling ends at the
first parenthesis, the quoted lexeme tells where it ends by itself, and the numeral of the position is the rest. So no two
tokens are rendered alike, whatever their lexemes hold.
-/

namespace ExprLex

/-- A text that is cut at the first occurrence of a character is cut in one way. -/
theorem append_cons_inj_of_not_mem {c : Char} {a b u v : Text} (ha : c ∉ a) (hb : c ∉ b) (h : a ++ c :: u = b ++ c :: v) :
    a = b ∧ u = v := by
  have hlength : a.length = b.length := by
    have hfirst := congrArg (List.idxOf c) h
    rwa [List.idxOf_append_of_notMem ha, List.idxOf_append_of_notMem hb, List.idxOf_cons_self, List.idxOf_cons_self,
      Nat.add_zero, Nat.add_zero] at hfirst
  obtain ⟨hab, hrest⟩ := List.append_inj h hlength
  exact ⟨hab, (List.cons.inj hrest).2⟩

/-! ## The spelling of a kind -/

namespace Kind

/-- The kinds with their subkinds. -/
def all : List Kind :=
  [.operator .unaryPlus, .operator .unaryMinus, .operator .addition, .operator .subtraction, .operator .multiplication,
    .operator .division, .operator .function, .punctuation .leftParenthesis, .punctuation .rightParenthesis,
    .punctuation .comma, .operand .number, .operand .name, .unknown]

theorem mem_all (k : Kind) : k ∈ all := by
  cases k with
  | operator o => cases o <;> decide
  | punctuation p => cases p <;> decide
  | operand o => cases o <;> decide
  | unknown => decide

/-- Kinds have spellings of their own. -/
theorem spelling_injective : Function.Injective spelling := by
  have hall : ∀ k ∈ all, ∀ k' ∈ all, k.spelling = k'.spelling → k = k' := by decide
  exact fun k k' h => hall k k.mem_all k' k'.mem_all h

/-- No spelling has a parenthesis in it. -/
theorem parenthesis_not_mem_spelling (k : Kind) : '(' ∉ k.spelling.toList := by
  have hall : ∀ k ∈ all, '(' ∉ k.spelling.toList := by decide
  exact hall k k.mem_all

/-- The spelling of a kind shows where it ends, by the parenthesis that comes next. -/
theorem spelling_append_inj {k k' : Kind} {a b : Text}
    (h : k.spelling.toList ++ '(' :: a = k'.spelling.toList ++ '(' :: b) : k = k' ∧ a = b := by
  obtain ⟨hspelling, hrest⟩ :=
    append_cons_inj_of_not_mem k.parenthesis_not_mem_spelling k'.parenthesis_not_mem_spelling h
  exact ⟨spelling_injective (String.toList_inj.mp hspelling), hrest⟩

end Kind

/-! ## Numerals -/

/-- The digits of a number tell it. -/
theorem toDigits_inj {m n : Nat} (h : Nat.toDigits 10 m = Nat.toDigits 10 n) : m = n := by
  rw [← Nat.ofDigitChars_ten_toDigits (n := m), h, Nat.ofDigitChars_ten_toDigits]

/-- A numeral has a sign in front if its number is negative, and the digits of the rest. -/
theorem toList_toString_int (i : Int) :
    (toString i).toList = if 0 ≤ i then Nat.toDigits 10 i.toNat else '-' :: Nat.toDigits 10 (-i).toNat := by
  rw [Int.toString_eq_repr, Int.repr_eq_if]
  split
  · rw [Nat.toList_repr]
  · rw [String.toList_append, Nat.toList_repr]
    rfl

/-- No number has the sign among its digits. -/
theorem toDigits_ne_cons_sign (n : Nat) (rest : Text) : Nat.toDigits 10 n ≠ '-' :: rest := by
  intro h
  have hmem : '-' ∈ Nat.toDigits 10 n := by
    rw [h]
    exact List.mem_cons_self
  cases Nat.isDigit_of_mem_toDigits (by decide) (by decide) hmem

/-- Numerals tell the numbers. -/
theorem toList_toString_int_inj {i j : Int} (h : (toString i).toList = (toString j).toList) : i = j := by
  rw [toList_toString_int, toList_toString_int] at h
  split at h
  next hi =>
    split at h
    next hj =>
      have hrest := toDigits_inj h
      omega
    next hj => exact absurd h (toDigits_ne_cons_sign _ _)
  next hi =>
    split at h
    next hj => exact absurd h.symm (toDigits_ne_cons_sign _ _)
    next hj =>
      have hrest := toDigits_inj (List.cons.inj h).2
      omega

/-! ## Rendered tokens -/

namespace Token

/-- A rendered token, part by part. -/
theorem toList_render (t : Token) : t.render.toList =
    t.kind.spelling.toList ++ '(' :: (t.lexeme.quote ++ ')' :: '@' :: (toString t.position).toList) := by
  simp [render, Text.quoted]

/-- Tokens that are rendered alike are the same: in kind and subkind, in lexeme and in position. -/
theorem render_inj {a b : Token} : a.render = b.render ↔ a = b := by
  constructor
  · intro h
    have hlist := congrArg String.toList h
    rw [toList_render, toList_render] at hlist
    obtain ⟨hkind, hquoted⟩ := Kind.spelling_append_inj hlist
    obtain ⟨hlexeme, hbehind⟩ := Text.quote_append_inj hquoted
    have hnumeral : (toString a.position).toList = (toString b.position).toList := by
      simpa only [List.cons.injEq, true_and] using hbehind
    have hposition : a.position = b.position := toList_toString_int_inj hnumeral
    cases a
    cases b
    cases hkind
    cases hlexeme
    cases hposition
    rfl
  · rintro rfl
    rfl

end Token

end ExprLex
