import ExprLex.Proofs.Separators

/-!
# Printed expressions are read again

The lexemes of the tokens of an expression, printed one after another with whitespace between them, are an expression that
is read in the same way. The pieces that the tokens come from are found again: each is cut into itself, and no piece reaches
across whitespace.
-/

namespace ExprLex

/-- What lexemes are printed as, with a gap of its own between each two of them. -/
inductive Spaced : List Text → Text → Prop where
  | last (l : Text) : Spaced [l] l
  | next (l : Text) {gap : Text} (hgap : IsGap gap) {rest : List Text} {t : Text} (h : Spaced rest t) :
      Spaced (l :: rest) (l ++ gap ++ t)

/-- A print starts with its first lexeme, so it starts with whitespace only where a lexeme does. -/
theorem Spaced.head?_not_blank {lexemes : List Text} {t : Text} (h : Spaced lexemes t)
    (hl : ∀ l ∈ lexemes, l ≠ [] ∧ ∀ c ∈ l, isWhitespace c = false) :
    ∀ c, t.head? = some c → isWhitespace c = false := by
  intro c hc
  cases h with
  | last => exact (hl t List.mem_cons_self).2 c (List.mem_of_head? hc)
  | next l hgap h =>
    obtain ⟨hne, hclear⟩ := hl l List.mem_cons_self
    rw [List.append_assoc, List.head?_append_of_ne_nil l hne] at hc
    exact hclear c (List.mem_of_head? hc)

/-! ## The visible pieces of a print -/

theorem visiblePieces_text {p : Piece} (hp : p.Proper) (hs : p.shape ≠ .space) : visiblePieces p.text = [p] := by
  rw [visiblePieces, hp.pieces_text]
  simp [hs]

/-- A whole run of whitespace parts the visible pieces. -/
theorem visiblePieces_append_gap {a w b : Text} (hw : IsGap w) (ha : ∀ c, a.getLast? = some c → isWhitespace c = false)
    (hb : ∀ c, b.head? = some c → isWhitespace c = false) :
    visiblePieces (a ++ w ++ b) = visiblePieces a ++ visiblePieces b := by
  rw [visiblePieces, pieces_append_gap hw ha hb, List.filter_append, List.filter_cons_of_neg (by simp)]
  rfl

/-- The visible pieces of a print are the pieces whose texts were printed. The induction goes along the print. -/
theorem visiblePieces_of_spaced {ps : List Piece} (hp : ∀ p ∈ ps, p.Proper ∧ p.shape ≠ .space) {t : Text}
    (h : Spaced (ps.map (·.text)) t) : visiblePieces t = ps := by
  generalize hls : ps.map (·.text) = lexemes at h
  induction h generalizing ps with
  | last l =>
    obtain ⟨p, rfl, rfl⟩ := List.map_eq_singleton_iff.mp hls
    obtain ⟨hproper, hshape⟩ := hp p List.mem_cons_self
    exact visiblePieces_text hproper hshape
  | @next l gap hgap rest t h ih =>
    obtain ⟨p, qs, rfl, rfl, rfl⟩ := List.map_eq_cons_iff.mp hls
    have hclear : ∀ q ∈ p :: qs, q.text ≠ [] ∧ ∀ c ∈ q.text, isWhitespace c = false := by
      intro q hq
      obtain ⟨hproper, hshape⟩ := hp q hq
      exact ⟨hproper.text_ne_nil, hproper.isWhitespace_eq_false hshape⟩
    have hbefore : ∀ c, p.text.getLast? = some c → isWhitespace c = false := fun c hc =>
      (hclear p List.mem_cons_self).2 c (List.mem_of_getLast? hc)
    have hbehind : ∀ c, t.head? = some c → isWhitespace c = false := by
      refine h.head?_not_blank fun l hl => ?_
      obtain ⟨q, hq, rfl⟩ := List.mem_map.mp hl
      exact hclear q (List.mem_cons_of_mem _ hq)
    obtain ⟨hproper, hshape⟩ := hp p List.mem_cons_self
    rw [visiblePieces_append_gap hgap hbefore hbehind, visiblePieces_text hproper hshape,
      ih (fun q hq => hp q (List.mem_cons_of_mem _ hq)) rfl]
    rfl

/-- Printed expressions are read again: under the default pattern and any rules every expression has tokens, and however
their lexemes are printed with whitespace between them, the print has tokens with the same lexemes and kinds in the same
order. -/
theorem printed_expressions_read_again {s : Text} (hs : s ≠ []) (rules : Rules) : ∃ tokens,
    lexExpression (some s) (.pattern .default) rules = .ok tokens ∧
      ∀ printed, Spaced (tokens.map (·.lexeme)) printed → ∃ tokens',
        lexExpression (some printed) (.pattern .default) rules = .ok tokens' ∧
        tokens'.map Token.reading = tokens.map Token.reading := by
  refine ⟨_, lexExpression_default hs rules, fun printed h => ?_⟩
  rw [rules.map_lexeme_tokenize, filter_scan] at h
  have hpieces : visiblePieces printed = visiblePieces s :=
    visiblePieces_of_spaced (fun p hp => proper_of_mem_visiblePieces hp) h
  have hne : printed ≠ [] := by
    rintro rfl
    rw [← hpieces, visiblePieces, pieces_nil, List.filter_nil, List.map_nil] at h
    cases h
  have hsame : SameButBlank (scan printed) (scan s) := by
    rw [SameButBlank, filter_scan, filter_scan, hpieces]
  exact ⟨_, lexExpression_default hne rules, rules.map_reading_tokenize_congr hsame⟩

/-- Lone points, loose text and a name with a digit of another script, in contact with each other, printed with a gap of its
own at each place. -/
theorem printed_expressions_read_again_points : "1.²-(x٣.".toList ≠ [] ∧ ∃ tokens,
    lexExpression (some "1.²-(x٣.".toList) (.pattern .default) {} = .ok tokens ∧
      Spaced (tokens.map (·.lexeme)) "1 .²\t-\n( \u2003x٣\u2028.".toList ∧ ∃ tokens',
        lexExpression (some "1 .²\t-\n( \u2003x٣\u2028.".toList) (.pattern .default) {} = .ok tokens' ∧
        tokens'.map Token.reading = tokens.map Token.reading := by
  obtain ⟨tokens, hlex, hread⟩ := printed_expressions_read_again (s := "1.²-(x٣.".toList) (by decide) {}
  have hlexemes : tokens.map (·.lexeme) = ["1", ".²", "-", "(", "x٣", "."].map String.toList := by
    cases hlex
    rfl
  have hspaced : Spaced (tokens.map (·.lexeme)) "1 .²\t-\n( \u2003x٣\u2028.".toList := by
    rw [hlexemes]
    exact .next _ (show IsGap " ".toList by decide) <| .next _ (show IsGap "\t".toList by decide) <|
      .next _ (show IsGap "\n".toList by decide) <| .next _ (show IsGap " \u2003".toList by decide) <|
      .next _ (show IsGap "\u2028".toList by decide) <| .last _
  exact ⟨by decide, tokens, hlex, hspaced, hread _ hspaced⟩

end ExprLex
