import ExprLex.Proofs.EchoedNotices
import ExprLex.Proofs.Hovers

/-!
# Which columns a hover covers

A client may ask for any column. A column inside of a character is taken for the boundary behind that character, and one
behind the end of a line that is not empty is taken for the last column on the line. The hover then shows the token at the
offset that this leads to, with the range of the token, which the column that was asked for need not lie in: behind the end
of the line it never does, and inside of a character it does not if the token starts right behind that character.
-/

namespace ExprLex

open Client

namespace Client

/-! ## The offset of a column -/

/-- A number of characters suffices for some code units of a text exactly if their own code units do. -/
theorem charactersFor_le_iff {t : Text} {n k : Nat} (h : n ≤ units t) : charactersFor t n ≤ k ↔ n ≤ units (t.take k) := by
  induction t generalizing n k with
  | nil =>
    obtain rfl : n = 0 := Nat.le_zero.mp h
    simp [charactersFor]
  | cons c t ih =>
    rw [units] at h
    rw [charactersFor]
    by_cases hn : n = 0
    · simp [hn]
    · rw [if_neg hn]
      cases k with
      | zero =>
        rw [List.take_zero, units]
        omega
      | succ k =>
        have := ih (n := n - charUnits c) (k := k) (by omega)
        rw [List.take_succ_cons, units]
        omega

/-- The offset that a column of a line is taken for: a column behind the end is the last one on the line, and inside of a
character it is the offset behind that character. -/
def offsetAt (line : Text) (column : Nat) : Nat :=
  charactersFor line (if units line < column then units line - 1 else column)

/-- The offset of a column is the first one that has so many code units before it. -/
theorem offsetAt_le_iff {line : Text} {column k : Nat} (h : column ≤ units line) :
    offsetAt line column ≤ k ↔ column ≤ units (line.take k) := by
  rw [offsetAt, if_neg (Nat.not_lt_of_le h), charactersFor_le_iff h]

/-- A column behind the end of a line leads to its last character if that has one code unit, and else behind it. -/
theorem offsetAt_of_lt {before : Text} {c : Char} {column : Nat} (h : units (before ++ [c]) < column) :
    offsetAt (before ++ [c]) column = if charUnits c = 1 then before.length else before.length + 1 := by
  have hunits : units (before ++ [c]) = units before + charUnits c := by rw [units_append, units, units, Nat.add_zero]
  have hbefore : (before ++ [c]).take before.length = before := List.take_left
  rw [offsetAt, if_pos h]
  split
  · rename_i hone
    rw [hunits, hone, Nat.add_sub_cancel]
    nth_rewrite 2 [← hbefore]
    exact charactersFor_units_take (by simp)
  · rename_i hmore
    have hpos := charUnits_pos c
    have hle := charactersFor_le_length (before ++ [c]) (units (before ++ [c]) - 1)
    have hlt := charactersFor_le_iff (t := before ++ [c]) (k := before.length) (Nat.sub_le (units (before ++ [c])) 1)
    rw [List.length_append, List.length_singleton] at hle
    rw [hbefore] at hlt
    omega

/-! ## Positions that were made -/

/-- A position is made of the numbers that were given. -/
theorem Position.eq_of_make {line character : Int} {p : Position} (h : make line character = .ok p) :
    line = p.line ∧ character = p.character := by
  have hnonneg : ∀ n : Int, inLimits n = true → 0 ≤ n := by
    intro n hn
    rw [inLimits, Bool.and_eq_true, decide_eq_true_eq] at hn
    exact hn.1
  unfold make at h
  split at h
  · cases h
  · split at h
    · cases h
    · rename_i hl hc
      cases h
      exact ⟨(Int.toNat_of_nonneg (hnonneg line (by simpa using hl))).symm,
        (Int.toNat_of_nonneg (hnonneg character (by simpa using hc))).symm⟩

section

variable {lines : List Text} {i : Nat} {l : Text}

/-- A position on a line that is not empty is read as the offset of its column. -/
theorem Position.ofClient_eq (hl : lines[i]? = some l) (hfeed : '\n' ∉ l) (hne : l ≠ []) (column : Nat) :
    Position.ofClient lines ⟨i, column⟩ = Position.make i (offsetAt l column) := by
  have hlines : lines ≠ [] := by
    rintro rfl
    cases hl
  have hlast := List.getLast?_eq_some_getLast hlines
  have hlength := length_le_units l
  have hpos := List.length_pos_iff.mpr hne
  have hunits : units l ≠ 0 := by omega
  simp only [Position.ofClient, hl, hlast, Position.settled, withoutReturns_eq hfeed, offsetAt]
  by_cases hbehind : units l < column <;> simp [hbehind, hunits]

/-- An end of a range on a line, as the client counts it. -/
theorem Position.eq_of_toClient (hl : lines[i]? = some l) {n : Nat} {p q : Position} (hp : make i n = .ok p)
    (hq : p.toClient lines = .ok q) : q = ⟨i, units (l.take n)⟩ := by
  obtain ⟨hline, hcharacter⟩ := eq_of_make hp
  obtain rfl : p = ⟨i, n⟩ := by
    cases p
    rw [mk.injEq]
    exact ⟨(Int.ofNat_inj.mp hline).symm, (Int.ofNat_inj.mp hcharacter).symm⟩
  simp only [toClient, hl] at hq
  obtain ⟨hline, hcharacter⟩ := eq_of_make hq
  cases q
  rw [mk.injEq]
  exact ⟨(Int.ofNat_inj.mp hline).symm, (Int.ofNat_inj.mp hcharacter).symm⟩

/-- A range on a line has the columns that the client counts. -/
theorem Range.eq_of_onLine (hl : lines[i]? = some l) {start stop : Nat} {r : Range}
    (h : Range.onLine lines i start stop = .ok r) : r = rangeOn l i start stop := by
  have hne : lines.isEmpty = false := by
    cases lines with
    | nil => cases hl
    | cons first rest => rfl
  obtain ⟨first, hfirst, h⟩ := exists_of_bind_eq_ok h
  obtain ⟨last, hlast, h⟩ := exists_of_bind_eq_ok h
  rw [hne, if_neg Bool.false_ne_true] at h
  obtain ⟨p, hp, h⟩ := exists_of_bind_eq_ok h
  obtain ⟨q, hq, h⟩ := exists_of_bind_eq_ok h
  cases h
  rw [Position.eq_of_toClient hl hfirst hp, Position.eq_of_toClient hl hlast hq]
  rfl

end

/-- A hover covers a column of a line. -/
def Hover.Covers (hover : Hover) (line character : Int) : Prop :=
  (hover.range.start.line : Int) = line ∧ (hover.range.stop.line : Int) = line ∧
    (hover.range.start.character : Int) ≤ character ∧ character < hover.range.stop.character

instance (hover : Hover) (line character : Int) : Decidable (hover.Covers line character) :=
  inferInstanceAs (Decidable (_ ∧ _))

end Client

/-- A column inside of a character right before a token. -/
def InsideBefore (rules : Rules) (line : Text) (column : Nat) : Prop :=
  ∃ k, units (line.take k) < column ∧ column < units (line.take (k + 1)) ∧
    ∃ t ∈ lineTokens .default rules line, t.position = (k + 1 : Nat)

section

variable {rules : Rules} {strict : Bool} {source l : Text} {i column : Nat}

theorem covers_position {t : Token} (ht : t ∈ lineTokens .default rules l) : t.covers t.position = true := by
  obtain ⟨-, -, hne, -⟩ := Pattern.isEnclosed_default.place ht
  have := List.length_pos_iff.mpr hne
  rw [Token.covers_iff, Token.stop]
  omega

/-- A hover on a document is that of the token at the offset that the column is taken for. -/
theorem exists_of_hoverAt {line character : Int} {hover : Hover}
    (h : hoverAt (analyse .default rules strict source) line character = .ok (some hover)) :
    ∃ (i column : Nat) (l : Text), line = i ∧ character = column ∧ (documentLines source)[i]? = some l ∧
      ∃ t ∈ lineTokens .default rules l, t.covers (offsetAt l column) = true ∧ hover.Shows t i l := by
  unfold hoverAt at h
  split at h
  · cases h
  · rename_i tokens hts
    obtain ⟨i, l, rfl, hl, hx, rfl⟩ := tokensOn?_eq_some_iff.mp hts
    have hmem := List.mem_of_getElem? hl
    have hempty : (documentLines source).isEmpty = false := by simpa using documentLines_ne_nil source
    simp only [lines_analyse, hempty, Bool.false_eq_true, if_false] at h
    obtain ⟨asked, hasked, hread⟩ := exists_of_bind_eq_ok h
    obtain ⟨found, hfound, hshown⟩ := exists_of_bind_eq_ok hread
    clear h hread
    rw [pure_bind] at hshown
    obtain ⟨hline, rfl⟩ := Position.eq_of_make hasked
    obtain ⟨line, column⟩ := asked
    obtain rfl : i = line := Int.ofNat.inj hline
    rw [Position.ofClient_eq hl (not_mem_of_mem_documentLines hmem) (ne_nil_of_isExpressionLine hx)] at hfound
    have hcolumn := (Position.eq_of_make hfound).2
    rw [← hcolumn, (tokenAt?_analyse rules strict hl hx _).2] at hshown
    split at hshown
    · cases hshown
    · rename_i token htoken
      obtain ⟨range, hrange, hhover⟩ := exists_of_bind_eq_ok hshown
      cases hhover
      have ht : token ∈ lineTokens .default rules l := List.mem_of_find?_eq_some htoken
      obtain ⟨start, hstart, -⟩ := Pattern.isEnclosed_default.place ht
      have hstop : token.stop = ((start + token.lexeme.length : Nat) : Int) := by rw [Token.stop, hstart]; rfl
      rw [hstart, hstop] at hrange
      refine ⟨i, column, l, rfl, rfl, hl, token, ht,
        List.find?_some (p := fun t : Token => t.covers (offsetAt l column)) htoken, ?_⟩
      rw [Range.eq_of_onLine hl hrange]
      exact shows_describe hstart hstop l i

/-- Such a column is taken for the offset of the token. -/
theorem insideBefore_iff : InsideBefore rules l column ↔ column ≤ units l ∧ column < units (l.take (offsetAt l column)) ∧
    ∃ t ∈ lineTokens .default rules l, t.position = offsetAt l column := by
  constructor
  · rintro ⟨k, hk, hk', t, ht, hposition⟩
    have hcolumn : column ≤ units l := Nat.le_trans (Nat.le_of_lt hk') (units_take_le l _)
    have hoffset : offsetAt l column = k + 1 := by
      have := offsetAt_le_iff (k := k) hcolumn
      have := offsetAt_le_iff (k := k + 1) hcolumn
      omega
    rw [hoffset]
    exact ⟨hcolumn, hk', t, ht, hposition⟩
  · rintro ⟨hcolumn, hlt, t, ht, hposition⟩
    obtain ⟨k, hk⟩ : ∃ k, offsetAt l column = k + 1 := by
      refine Nat.exists_eq_succ_of_ne_zero ?_
      intro hzero
      rw [hzero, List.take_zero, units] at hlt
      omega
    have hprevious := offsetAt_le_iff (k := k) hcolumn
    rw [hk] at hlt hposition
    exact ⟨k, by omega, hlt, t, ht, hposition⟩

/-- The hover of the token at the offset of a column covers the column, unless this lies behind the end of the line or inside
of the character before the token. -/
theorem Client.Hover.Shows.covers_iff {t : Token} {hover : Hover} (hshows : hover.Shows t i l)
    (ht : t ∈ lineTokens .default rules l) (hcovers : t.covers (offsetAt l column) = true) :
    hover.Covers i column ↔ column ≤ units l ∧ ¬ InsideBefore rules l column := by
  obtain ⟨start, hstart, -, hle, -⟩ := Pattern.isEnclosed_default.place ht
  have hstop : t.stop = ((start + t.lexeme.length : Nat) : Int) := by rw [Token.stop, hstart]; rfl
  have hbounds := Token.covers_iff.mp hcovers
  rw [hstart, hstop] at hbounds
  have hcolumns : hover.Covers i column ↔
      units (l.take start) ≤ column ∧ column < units (l.take (start + t.lexeme.length)) := by
    rw [Hover.Covers, hshows.start_eq, hshows.stop_eq, hstart, hstop, Int.toNat_natCast, Int.toNat_natCast]
    simp
  rw [hcolumns, insideBefore_iff]
  constructor
  · rintro ⟨hfirst, hlast⟩
    refine ⟨Nat.le_trans (Nat.le_of_lt hlast) (units_take_le l _), ?_⟩
    rintro ⟨-, hlt, next, hnext, hposition⟩
    -- the token that starts at the offset is the one that is shown
    have hcovers' : next.covers (offsetAt l column) = true := hposition ▸ covers_position hnext
    obtain rfl := eq_of_covers (rules.tokenize_pairwise (Pattern.default.fragments l)) next hnext t ht hcovers' hcovers
    obtain rfl : start = offsetAt l column := by omega
    omega
  · rintro ⟨hcolumn, hinside⟩
    have hreached := offsetAt_le_iff (k := offsetAt l column) hcolumn
    have hlast := units_take_lt_units_take (show offsetAt l column < start + t.lexeme.length by omega) hle
    refine ⟨?_, by omega⟩
    by_contra hfirst
    have hstarts := offsetAt_le_iff (k := start) hcolumn
    obtain rfl : start = offsetAt l column := by omega
    exact hinside ⟨hcolumn, Nat.lt_of_not_le hfirst, t, ht, hstart⟩

/-- In a document all of whose places have positions, the hover at a column is that of the token at its offset, if there is
one. -/
theorem hoverAt_eq (h : Addressable source) (hl : (documentLines source)[i]? = some l) (hx : isExpressionLine l = true)
    (hcolumn : column < 2 ^ 31) : hoverAt (analyse .default rules strict source) i column =
      .ok (((lineTokens .default rules l).find? (·.covers (offsetAt l column))).map fun t =>
        ⟨describe t, rangeOn l i t.position.toNat t.stop.toNat⟩) := by
  have hfits : Fits (documentLines source) i l := h.fits hl
  obtain ⟨hts, hfind⟩ := tokenAt?_analyse rules strict hl hx (offsetAt l column)
  have hempty : (documentLines source).isEmpty = false := by simpa using documentLines_ne_nil source
  have hoffset : offsetAt l column < 2 ^ 31 := by
    have := charactersFor_le_length l (if units l < column then units l - 1 else column)
    have := length_le_units l
    have := hfits.units_lt
    rw [offsetAt]
    omega
  have hread := Position.ofClient_eq hl hfits.noFeed (ne_nil_of_isExpressionLine hx) column
  rw [Position.make_ok hfits.number_lt hoffset] at hread
  simp only [hoverAt, hts, lines_analyse, hempty, Position.make_ok hfits.number_lt hcolumn, hread, bind, Except.bind, pure,
    Except.pure, Bool.false_eq_true, if_false, hfind]
  cases hfound : (lineTokens .default rules l).find? (·.covers (offsetAt l column)) with
  | none => rfl
  | some t =>
    obtain ⟨start, hstart, -, hle, -⟩ := Pattern.isEnclosed_default.place (List.mem_of_find?_eq_some hfound)
    have hstop : t.stop = ((start + t.lexeme.length : Nat) : Int) := by rw [Token.stop, hstart]; rfl
    simp only [Option.map_some, hstart, hstop, hfits.onLine (Nat.le_add_right start _) hle, Int.toNat_natCast]

/-- There is a hover where the offset of the column is that of a character that is not whitespace. -/
theorem exists_hoverAt_iff (h : Addressable source) (hl : (documentLines source)[i]? = some l)
    (hx : isExpressionLine l = true) (hcolumn : column < 2 ^ 31) :
    (∃ hover, hoverAt (analyse .default rules strict source) i column = .ok (some hover)) ↔
      ∃ c, l[offsetAt l column]? = some c ∧ isWhitespace c = false := by
  rw [hoverAt_eq h hl hx hcolumn, ← exists_covers_iff rules, ← List.find?_isSome, Option.isSome_iff_exists]
  simp

/-- Behind the end of a line there is a hover exactly if the last character is not whitespace and has one code unit. -/
theorem exists_getElem?_offsetAt_iff (hne : l ≠ []) (hbehind : units l < column) :
    (∃ c, l[offsetAt l column]? = some c ∧ isWhitespace c = false) ↔
      ∃ c, l.getLast? = some c ∧ charUnits c = 1 ∧ isWhitespace c = false := by
  obtain ⟨before, last, rfl⟩ := (List.eq_nil_or_concat l).resolve_left hne
  rw [List.concat_eq_append] at hbehind ⊢
  rw [offsetAt_of_lt hbehind]
  by_cases hone : charUnits last = 1
  · simp [hone]
  · simp [hone]

end

/-- When a hover covers the column that was asked for. It does exactly if the column is neither behind the end of the line nor
inside of a character right before a token. In a document all of whose places have positions both occur: behind the end there
is a hover, which covers no such column, if the last character is not whitespace and has one code unit, and inside of a
character right before a token there always is one. -/
theorem hover_covers_iff (rules : Rules) (strict : Bool) (source : Text) :
    (∀ (line character : Int) (hover : Hover),
      hoverAt (analyse .default rules strict source) line character = .ok (some hover) →
        ∃ (i column : Nat) (l : Text), line = i ∧ character = column ∧ (documentLines source)[i]? = some l ∧
          (hover.Covers line character ↔ column ≤ units l ∧ ¬ InsideBefore rules l column)) ∧
    (Addressable source → ∀ (i column : Nat) (l : Text), (documentLines source)[i]? = some l →
      isExpressionLine l = true → column < 2 ^ 31 →
        ((∃ hover, hoverAt (analyse .default rules strict source) i column = .ok (some hover) ∧ ¬ hover.Covers i column) ↔
          (units l < column ∧ ∃ c, l.getLast? = some c ∧ charUnits c = 1 ∧ isWhitespace c = false) ∨
            InsideBefore rules l column)) := by
  have hcovers : ∀ (line character : Int) (hover : Hover),
      hoverAt (analyse .default rules strict source) line character = .ok (some hover) →
        ∃ (i column : Nat) (l : Text), line = i ∧ character = column ∧ (documentLines source)[i]? = some l ∧
          (hover.Covers line character ↔ column ≤ units l ∧ ¬ InsideBefore rules l column) := by
    intro line character hover h
    obtain ⟨i, column, l, rfl, rfl, hl, t, ht, htcovers, hshows⟩ := exists_of_hoverAt h
    exact ⟨i, column, l, rfl, rfl, hl, hshows.covers_iff ht htcovers⟩
  refine ⟨hcovers, ?_⟩
  intro h i column l hl hx hcolumn
  have hmissed : ∀ hover, hoverAt (analyse .default rules strict source) i column = .ok (some hover) →
      (¬ hover.Covers i column ↔ units l < column ∨ InsideBefore rules l column) := by
    intro hover hhover
    obtain ⟨i', column', l', hi, hc, hl', hiff⟩ := hcovers i column hover hhover
    cases Int.ofNat.inj hi
    cases Int.ofNat.inj hc
    cases hl.symm.trans hl'
    rw [hiff, not_and_or, not_not, Nat.not_le]
  constructor
  · rintro ⟨hover, hhover, hnot⟩
    rcases (hmissed hover hhover).mp hnot with hbehind | hinside
    · have hvisible := (exists_hoverAt_iff h hl hx hcolumn).mp ⟨hover, hhover⟩
      exact Or.inl ⟨hbehind, (exists_getElem?_offsetAt_iff (ne_nil_of_isExpressionLine hx) hbehind).mp hvisible⟩
    · exact Or.inr hinside
  · intro hmiss
    have hvisible : ∃ c, l[offsetAt l column]? = some c ∧ isWhitespace c = false := by
      rcases hmiss with ⟨hbehind, hlast⟩ | hinside
      · exact (exists_getElem?_offsetAt_iff (ne_nil_of_isExpressionLine hx) hbehind).mpr hlast
      -- the cursor is moved to the start of the token behind the character
      · obtain ⟨-, -, t, ht, hposition⟩ := insideBefore_iff.mp hinside
        exact (exists_covers_iff rules).mp ⟨t, ht, hposition ▸ covers_position ht⟩
    obtain ⟨hover, hhover⟩ : ∃ hover, hoverAt (analyse .default rules strict source) i column = .ok (some hover) :=
      (exists_hoverAt_iff h hl hx hcolumn).mpr hvisible
    exact ⟨hover, hhover, (hmissed hover hhover).mpr (hmiss.imp_left And.left)⟩

/-- A number behind a character with two code units. A cursor inside of the character is shown the number, whose hover does
not cover it; a cursor at the number is covered. -/
theorem hover_covers_iff_inside_pair :
    Addressable "😀1".toList ∧ isExpressionLine "😀1".toList = true ∧
      (∃ hover, hoverAt (analyse .default {} false "😀1".toList) 0 1 = .ok (some hover) ∧ ¬ hover.Covers 0 1) ∧
      ∃ hover, hoverAt (analyse .default {} false "😀1".toList) 0 2 = .ok (some hover) ∧ hover.Covers 0 2 := by
  have haddressable : Addressable "😀1".toList := by
    unfold Addressable
    decide
  have htokens : lineTokens .default {} "😀1".toList = [⟨.unknown, ['😀'], 0⟩, ⟨.operand .number, ['1'], 1⟩] := rfl
  have hplaces : InsideBefore {} "😀1".toList 1 ∧ ¬ InsideBefore {} "😀1".toList 2 := by
    simp only [insideBefore_iff, htokens]
    decide
  obtain ⟨hcovers, hmissed⟩ := hover_covers_iff {} false "😀1".toList
  refine ⟨haddressable, rfl, ?_, ?_⟩
  · exact (hmissed haddressable 0 1 _ rfl rfl (by decide)).mpr (Or.inr hplaces.1)
  · have hhover : hoverAt (analyse .default {} false "😀1".toList) 0 2 =
        .ok (some ⟨describe ⟨.operand .number, ['1'], 1⟩, ⟨⟨0, 2⟩, ⟨0, 3⟩⟩⟩) := rfl
    obtain ⟨i, column, l, hi, hc, hl, hiff⟩ := hcovers 0 2 _ hhover
    obtain rfl : i = 0 := by omega
    obtain rfl : column = 2 := by omega
    cases hl
    exact ⟨_, hhover, hiff.mpr ⟨by decide, hplaces.2⟩⟩

/-- A cursor behind the end of a line is shown the last token of the line, which is not there. -/
theorem exists_not_covers_behind_line :
    ∃ hover, hoverAt (analyse .default {} false "1".toList) 0 5 = .ok (some hover) ∧ ¬ hover.Covers 0 5 :=
  ⟨⟨describe ⟨.operand .number, ['1'], 0⟩, ⟨⟨0, 0⟩, ⟨0, 1⟩⟩⟩, rfl, by decide⟩

end ExprLex
