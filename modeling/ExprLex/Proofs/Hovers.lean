import ExprLex.Client.Hover
import ExprLex.Proofs.PublishedRanges
import ExprLex.Proofs.WholePieces

/-!
# Hovers show what is under the cursor

The tokens of an expression cover its characters except for the whitespace, and no character twice. A client asks in code
units and is answered in code units; at the boundaries of characters neither conversion loses anything, so a hover shows the
one token that covers the character at the cursor.
-/

namespace ExprLex

open Client

/-! ## The token over a character -/

/-- A token covers the characters from its position to its end. -/
theorem Token.covers_iff {t : Token} {k : Int} : t.covers k = true ↔ t.position ≤ k ∧ k < t.stop := by
  rw [covers, Bool.and_eq_true, decide_eq_true_eq, decide_eq_true_eq]

/-- Where each token ends before the later ones start, no two tokens cover one character. -/
theorem eq_of_covers {tokens : List Token} (h : tokens.Pairwise fun a b => a.stop ≤ b.position) {k : Int} :
    ∀ a ∈ tokens, ∀ b ∈ tokens, a.covers k = true → b.covers k = true → a = b := by
  refine List.Pairwise.forall_of_forall_of_flip (fun _ _ _ _ => rfl) (h.imp ?_) (h.imp ?_)
  · intro a b hab ha hb
    rw [Token.covers_iff] at ha hb
    omega
  · intro a b hab hb ha
    rw [Token.covers_iff] at ha hb
    omega

section

variable {rules : Rules} {s : Text}

/-- A token that covers a character of an expression has it in its lexeme. -/
theorem mem_lexeme_of_covers {t : Token} (ht : t ∈ lineTokens .default rules s) {k : Nat} (hk : t.covers k = true) :
    ∃ c ∈ t.lexeme, s[k]? = some c := by
  obtain ⟨start, hstart, -, hle, hslice⟩ := Pattern.isEnclosed_default.place ht
  rw [Token.covers_iff, Token.stop, hstart] at hk
  have hlt : k < s.length := by omega
  refine ⟨s[k], ?_, List.getElem?_eq_getElem hlt⟩
  have hget : t.lexeme[k - start]? = some s[k] := by
    rw [← hslice, Lexeme.slice_eq_take_drop, List.getElem?_take_of_lt (by omega), List.getElem?_drop,
      Nat.add_sub_cancel' (by omega), List.getElem?_eq_getElem hlt]
  exact List.mem_of_getElem? hget

/-- The characters that tokens cover are those that are not whitespace. -/
theorem exists_covers_iff (rules : Rules) {k : Nat} : (∃ t ∈ lineTokens .default rules s, t.covers k = true) ↔
    ∃ c, s[k]? = some c ∧ isWhitespace c = false := by
  constructor
  · rintro ⟨t, ht, hk⟩
    obtain ⟨c, hc, hget⟩ := mem_lexeme_of_covers ht hk
    exact ⟨c, hget, isWhitespace_of_mem_lexeme ht hc⟩
  · rintro ⟨c, hget, hc⟩
    by_contra hnone
    have hcovers := covers_of_flatten (fun f hf => Pattern.ne_nil_of_mem_fragments hf)
      (Pattern.isEnclosed_default.flatten_fragments s) rules
    have hblank := hcovers.gaps_blank k c hget fun t ht => by
      rw [Bool.eq_false_iff]
      exact fun hk => hnone ⟨t, ht, hk⟩
    rw [hc] at hblank
    cases hblank

end

/-! ## Hovers at the boundaries of characters -/

namespace Client

variable {a : Analysis} {i : Nat} {t : Text} {tokens : List Token} {k : Nat}

/-- The column of a character boundary leads to the offset of the character: where no token is there, there is no hover. -/
theorem Fits.hoverAt_none (h : Fits a.lines i t) (hts : a.tokensOn? i = some tokens) (hk : k ≤ t.length)
    (hnone : a.tokenAt? i k = none) : hoverAt a i (units (t.take k)) = .ok none := by
  have hne : a.lines.isEmpty = false := by simpa using h.ne_nil
  have hmake := Position.make_ok h.number_lt (h.units_take_lt k)
  simp only [hoverAt, hts, hne, hmake, h.ofClient hk, bind, Except.bind, pure, Except.pure, Bool.false_eq_true, if_false,
    hnone]

/-- A token that is there is shown, with the columns of its boundaries. -/
theorem Fits.hoverAt_token (h : Fits a.lines i t) (hts : a.tokensOn? i = some tokens) (hk : k ≤ t.length) {token : Token}
    (htoken : a.tokenAt? i k = some token) {start stop : Nat} (hstart : token.position = start) (hstop : token.stop = stop)
    (hle : start ≤ stop) (hlen : stop ≤ t.length) :
    hoverAt a i (units (t.take k)) = .ok (some ⟨describe token, rangeOn t i start stop⟩) := by
  have hne : a.lines.isEmpty = false := by simpa using h.ne_nil
  have hmake := Position.make_ok h.number_lt (h.units_take_lt k)
  have hrange : Range.onLine a.lines i token.position token.stop = .ok (rangeOn t i start stop) := by
    rw [hstart, hstop, h.onLine hle hlen]
  simp only [hoverAt, hts, hne, hmake, h.ofClient hk, bind, Except.bind, pure, Except.pure, Bool.false_eq_true, if_false,
    htoken, hrange]

/-- A hover that shows a token of a line: its text names the kind, the lexeme, the subkind where there is one, and the offset
of the token, and its range runs from the first code unit of the token to the one behind its last. -/
structure Hover.Shows (hover : Hover) (token : Token) (i : Nat) (line : Text) : Prop where
  text_eq : hover.text = "(" ++ token.kind.label ++ ") `" ++ token.lexeme.toString ++ "`" ++
    (token.kind.subkind?.map (": " ++ ·)).getD "" ++ " at offset " ++ toString token.position
  start_eq : hover.range.start = ⟨i, units (line.take token.position.toNat)⟩
  stop_eq : hover.range.stop = ⟨i, units (line.take token.stop.toNat)⟩

/-- The hover of a token shows it. -/
theorem shows_describe {token : Token} {start stop : Nat} (hstart : token.position = start) (hstop : token.stop = stop)
    (line : Text) (i : Nat) : (⟨describe token, rangeOn line i start stop⟩ : Hover).Shows token i line := by
  refine ⟨?_, ?_, ?_⟩
  · rw [describe]
    cases token.kind.subkind? <;> rfl
  · rw [hstart]
    rfl
  · rw [hstop]
    rfl

end Client

/-- What is under the cursor at the character boundary `k` of an expression line: one token and no other covers the
character behind the boundary, and it is found and shown, in a range that the boundary lies in. -/
structure UnderCursor (a : Analysis) (i : Nat) (line : Text) (k : Nat) (token : Token) (hover : Hover) : Prop where
  covers_iff : ∃ tokens, a.tokensOn? i = some tokens ∧
    ∀ other : Token, other ∈ tokens ∧ other.position ≤ k ∧ k < other.stop ↔ other = token
  tokenAt?_eq : a.tokenAt? i k = some token
  hoverAt_eq : hoverAt a i (units (line.take k)) = .ok (some hover)
  shows : hover.Shows token i line
  start_le : hover.range.start.character ≤ units (line.take k)
  lt_stop : units (line.take k) < hover.range.stop.character

section

variable {source : Text} {i : Nat} {l : Text} {k : Nat}

/-- On an expression line the token at an offset is looked for among the tokens of the line. -/
theorem tokenAt?_analyse (rules : Rules) (strict : Bool) (hl : (documentLines source)[i]? = some l)
    (hx : isExpressionLine l = true) (k : Nat) :
    (analyse .default rules strict source).tokensOn? i = some (lineTokens .default rules l) ∧
      (analyse .default rules strict source).tokenAt? i k = (lineTokens .default rules l).find? (·.covers k) := by
  have hts : (analyse .default rules strict source).tokensOn? i = some (lineTokens .default rules l) :=
    tokensOn?_eq_some_iff.mpr ⟨i, l, rfl, hl, hx, rfl⟩
  exact ⟨hts, by rw [Analysis.tokenAt?, hts]; rfl⟩

/-- At whitespace and behind the last character no token is found. -/
theorem tokenAt?_eq_none_iff (rules : Rules) (strict : Bool) (hl : (documentLines source)[i]? = some l)
    (hx : isExpressionLine l = true) :
    (analyse .default rules strict source).tokenAt? i k = none ↔ ¬∃ c, l[k]? = some c ∧ isWhitespace c = false := by
  rw [(tokenAt?_analyse rules strict hl hx k).2, List.find?_eq_none, ← exists_covers_iff rules]
  simp

/-- Under every character that is no whitespace there is a token to be shown. -/
theorem exists_underCursor (h : Addressable source) (rules : Rules) (strict : Bool)
    (hl : (documentLines source)[i]? = some l) (hx : isExpressionLine l = true)
    (hk : ∃ c, l[k]? = some c ∧ isWhitespace c = false) :
    ∃ token hover, UnderCursor (analyse .default rules strict source) i l k token hover := by
  have hfits : Fits (analyse .default rules strict source).lines i l := h.fits hl
  obtain ⟨hts, hfind⟩ := tokenAt?_analyse rules strict hl hx k
  obtain ⟨c, hget, hc⟩ := hk
  have hlt : k < l.length := (List.getElem?_eq_some_iff.mp hget).1
  obtain ⟨t, ht, hcovers⟩ := (exists_covers_iff rules).mpr ⟨c, hget, hc⟩
  have hunique := eq_of_covers (rules.tokenize_pairwise (Pattern.default.fragments l)) (k := k)
  obtain ⟨start, hstart, -, hle, -⟩ := Pattern.isEnclosed_default.place ht
  have hstop : t.stop = ((start + t.lexeme.length : Nat) : Int) := by rw [Token.stop, hstart]; rfl
  have htoken : (analyse .default rules strict source).tokenAt? i k = some t := by
    obtain ⟨t', ht'⟩ := Option.isSome_iff_exists.mp
      (List.find?_isSome (p := fun t : Token => t.covers k).mpr ⟨t, ht, hcovers⟩)
    have hcovers' : t'.covers k = true := List.find?_some (p := fun t : Token => t.covers k) ht'
    rw [hfind, ht', hunique t' (List.mem_of_find?_eq_some ht') t ht hcovers' hcovers]
  rw [Token.covers_iff, hstart, hstop] at hcovers
  refine ⟨t, _, ⟨⟨_, hts, fun other => ⟨?_, ?_⟩⟩, htoken,
    hfits.hoverAt_token hts (Nat.le_of_lt hlt) htoken hstart hstop (Nat.le_add_right _ _) hle,
    shows_describe hstart hstop l i, ?_, ?_⟩⟩
  · rintro ⟨ho, hbounds⟩
    exact hunique other ho t ht (Token.covers_iff.mpr hbounds) (Token.covers_iff.mpr (by omega))
  · rintro rfl
    exact ⟨ht, by omega, by omega⟩
  · have hsplit := units_take_le (l.take k) start
    rwa [List.take_take, Nat.min_eq_left (by omega)] at hsplit
  · exact units_take_lt_units_take (by omega) hle

end

/-- Hovers are exact on character boundaries: on an expression line there is none behind the last character and at
whitespace, and at every other character the one token that covers it is found and shown; where a line holds no expression,
no column has a hover. -/
theorem hovers_exact_on_boundaries {source : Text} (h : Addressable source) (rules : Rules) (strict : Bool) :
    (∀ (i : Nat) (l : Text), (documentLines source)[i]? = some l → isExpressionLine l = true → ∀ k ≤ l.length,
      (hoverAt (analyse .default rules strict source) i (units (l.take k)) = .ok none ↔
        k = l.length ∨ ∃ c, l[k]? = some c ∧ isWhitespace c = true) ∧
      (¬(k = l.length ∨ ∃ c, l[k]? = some c ∧ isWhitespace c = true) →
        ∃ token hover, UnderCursor (analyse .default rules strict source) i l k token hover)) ∧
    ∀ line : Int, (¬∃ (i : Nat) (l : Text), line = i ∧ (documentLines source)[i]? = some l ∧ isExpressionLine l = true) →
      ∀ character : Int, hoverAt (analyse .default rules strict source) line character = .ok none := by
  refine ⟨fun i l hl hx k hk => ?_, fun line hline character => ?_⟩
  · have hclear : ¬(k = l.length ∨ ∃ c, l[k]? = some c ∧ isWhitespace c = true) ↔
        ∃ c, l[k]? = some c ∧ isWhitespace c = false := by
      rcases Nat.lt_or_eq_of_le hk with hlt | rfl
      · simp [List.getElem?_eq_getElem hlt, Nat.ne_of_lt hlt]
      · simp
    have hfits : Fits (analyse .default rules strict source).lines i l := h.fits hl
    have hts := (tokenAt?_analyse rules strict hl hx k).1
    refine ⟨⟨fun hnone => ?_, fun hblank => ?_⟩, fun hk => exists_underCursor h rules strict hl hx (hclear.mp hk)⟩
    · by_contra hk
      obtain ⟨token, hover, hunder⟩ := exists_underCursor h rules strict hl hx (hclear.mp hk)
      cases hnone.symm.trans hunder.hoverAt_eq
    · have hnone := (tokenAt?_eq_none_iff rules strict hl hx).mpr fun hk => hclear.mpr hk hblank
      exact hfits.hoverAt_none hts hk hnone
  · have hnone : (analyse .default rules strict source).tokensOn? line = none := by
      rw [Option.eq_none_iff_forall_not_mem]
      intro tokens htokens
      obtain ⟨i, l, hi, hl, hx, -⟩ := tokensOn?_eq_some_iff.mp htokens
      exact hline ⟨i, l, hi, hl, hx⟩
    rw [hoverAt, hnone]

/-- The second character of an unknown lexeme, both with two code units, behind a digit with two as well; the space before
the lexeme; and a column of the comment above. -/
theorem hovers_exact_on_boundaries_surrogates :
    Addressable "# 1\n(𝟙 𝒳😀".toList ∧ isExpressionLine "(𝟙 𝒳😀".toList = true ∧
      (∃ token hover, UnderCursor (analyse .default {} false "# 1\n(𝟙 𝒳😀".toList) 1 "(𝟙 𝒳😀".toList 4 token hover) ∧
      hoverAt (analyse .default {} false "# 1\n(𝟙 𝒳😀".toList) 1 (units ("(𝟙 𝒳😀".toList.take 2)) = .ok none ∧
      hoverAt (analyse .default {} false "# 1\n(𝟙 𝒳😀".toList) 0 2 = .ok none := by
  have haddressable : Addressable "# 1\n(𝟙 𝒳😀".toList := by
    unfold Addressable
    decide
  obtain ⟨hshown, hnone⟩ := hovers_exact_on_boundaries haddressable {} false
  refine ⟨haddressable, rfl, ?_, ?_, ?_⟩
  · refine (hshown 1 _ rfl rfl 4 (by decide)).2 ?_
    rintro (h | ⟨c, hc, hblank⟩)
    · exact absurd h (by decide)
    · cases hc
      exact absurd hblank (by decide)
  · exact ((hshown 1 _ rfl rfl 2 (by decide)).1).mpr (Or.inr ⟨' ', rfl, rfl⟩)
  · refine hnone 0 ?_ 2
    rintro ⟨i, l, hi, hl, hx⟩
    obtain rfl : i = 0 := by omega
    cases hl
    exact absurd hx (by decide)

end ExprLex
