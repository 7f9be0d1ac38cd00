import ExprLex.Proofs.Boundaries
import ExprLex.Proofs.Recognition

/-!
# Pieces on their own

A proper piece is cut into itself: whatever stood around it, the scanner finds in its text one piece and no other. A piece
that is not whitespace holds none, so the lexemes that tokens are made of are the texts of those pieces.
-/

namespace ExprLex

/-! ## Whitespace in pieces -/

namespace Piece.Proper

variable {p : Piece}

/-- A proper piece is whitespace throughout, or it holds none. -/
theorem isWhitespace_eq (h : p.Proper) : ∀ c ∈ p.text, isWhitespace c = (p.shape == .space) := by
  intro c hc
  cases h with
  | space _ hw => exact hw c hc
  | symbol hs =>
    rw [List.mem_singleton.mp hc]
    exact (classes_of_isSymbol hs).1
  | @number t hn =>
    have hclass : isDigit c = true ∨ c = '.' := by
      rcases (isNumber_iff t).mp hn with ⟨-, hds⟩ | ⟨ds, fs, rfl, hds, -, hfs⟩
      · exact Or.inl (hds c hc)
      · rcases List.mem_append.mp hc with hc | hc
        · exact Or.inl (hds c hc)
        · rcases List.mem_cons.mp hc with rfl | hc
          · exact Or.inr rfl
          · exact Or.inl (hfs c hc)
    rcases hclass with hd | rfl
    · exact (classes_of_isDigit hd).1
    · exact (by decide : isWhitespace '.' = false)
  | name hi => exact (classes_of_isWord (isWord_of_mem_identifier hi c hc)).1
  | loose _ hl => exact (isLoose_iff.mp (hl c hc)).1

/-- There is no whitespace in any other piece. -/
theorem isWhitespace_eq_false (h : p.Proper) (hs : p.shape ≠ .space) : ∀ c ∈ p.text, isWhitespace c = false := by
  intro c hc
  rw [h.isWhitespace_eq c hc]
  exact beq_eq_false_iff_ne.mpr hs

theorem text_ne_nil (h : p.Proper) : p.text ≠ [] := by
  cases h with
  | space hne _ => exact hne
  | symbol _ => exact List.cons_ne_nil _ _
  | number hn =>
    rintro rfl
    cases hn
  | name hi =>
    rintro rfl
    cases hi
  | loose hne _ => exact hne

/-- A piece is blank if it is one of whitespace. -/
theorem isBlank_eq (h : p.Proper) : Text.isBlank p.text = (p.shape == .space) := by
  obtain ⟨c, rest, ht⟩ := List.exists_cons_of_ne_nil h.text_ne_nil
  have hall : Text.isBlank p.text = p.text.all fun _ => p.shape == .space := by
    rw [Text.isBlank, Bool.eq_iff_iff, List.all_eq_true, List.all_eq_true]
    exact forall₂_congr fun c hc => by rw [h.isWhitespace_eq c hc]
  rw [hall, ht]
  cases p.shape == .space <;> simp

end Piece.Proper

/-! ## The pieces of the text of a piece -/

/-- A piece that is all of a text is the only one. -/
theorem pieces_of_piece?_self {t : Text} {p : Piece} (h : piece? t = some p) (ht : p.text = t) : pieces t = [p] := by
  cases t with
  | nil => cases h
  | cons c rest => rw [pieces_of_piece? h, ht, List.length_cons, Nat.add_sub_cancel, List.drop_length, pieces_nil]

/-- Whitespace is one piece, as far as it goes. -/
theorem piece?_space {c : Char} {rest : Text} (hc : isWhitespace c = true) :
    piece? (c :: rest) = some ⟨.space, c :: rest.takeWhile isWhitespace⟩ := by
  simp [piece?, hc]

theorem piece?_symbol {c : Char} (hc : isSymbol c = true) (rest : Text) : piece? (c :: rest) = some ⟨.symbol, [c]⟩ := by
  simp [piece?, hc, (classes_of_isSymbol hc).1]

/-- A number starts with a piece that is the whole number, for the alternatives of numbers span it. -/
theorem piece?_number {t : Text} (h : Lexeme.isNumber t = true) : piece? t = some ⟨.number, t⟩ := by
  rcases (Pattern.Default.spans_number_or_fraction t).mpr h with hspan | hspan
  · rw [Pattern.Default.takes_number.spans_iff] at hspan
    cases t with
    | nil => cases hspan
    | cons c rest =>
      dsimp only at hspan
      split at hspan
      · rename_i hd
        obtain ⟨hw, hs, -⟩ := classes_of_isDigit hd
        rw [Option.some.injEq] at hspan
        simp [piece?, hw, hs, hd, hspan]
      · cases hspan
  · rw [Pattern.Default.takes_fraction.spans_iff] at hspan
    split at hspan
    · cases hspan
    · rename_i hne
      rw [Option.some.injEq] at hspan
      rcases pointAndDigits_cases t with he | ⟨rest, rfl, -, -⟩
      · simp [he] at hne
      · have hclasses : isWhitespace '.' = false ∧ isSymbol '.' = false ∧ isDigit '.' = false := by decide
        simp [piece?, hclasses, hspan]

/-- A name is one piece. -/
theorem piece?_name {t : Text} (h : Lexeme.isIdentifier t = true) : piece? t = some ⟨.name, t⟩ := by
  cases t with
  | nil => cases h
  | cons c rest =>
    rw [isIdentifier_cons, Bool.and_eq_true, List.all_eq_true] at h
    obtain ⟨hw, hs, hd, -, hpoint⟩ := classes_of_isNameHead h.1
    have hfraction : pointAndDigits (c :: rest) = [] := by simp [pointAndDigits, hpoint]
    simp [piece?, hw, hs, hd, hfraction, h.1, List.takeWhile_eq_self_iff.mpr h.2]

/-- Loose characters are one piece: no point among them is followed by a digit. -/
theorem pieces_loose {t : Text} (hne : t ≠ []) (h : AllLoose t) : pieces t = [⟨.loose, t⟩] := by
  induction t with
  | nil => exact absurd rfl hne
  | cons c rest ih =>
    have hrest : AllLoose rest := fun d hd => h d (List.mem_cons_of_mem _ hd)
    have hhead : rest.head?.any isDigit = false := by
      cases rest with
      | nil => rfl
      | cons d more => exact (isLoose_iff.mp (hrest d List.mem_cons_self)).2.2.1
    have hnone : piece? (c :: rest) = none := by
      rw [← Option.isNone_iff_eq_none, ← standsLoose_eq, standsLoose, h c List.mem_cons_self, hhead, Bool.and_false]
      rfl
    rw [pieces_of_loose hnone]
    cases rest with
    | nil => rw [pieces_nil]; rfl
    | cons d more => rw [ih (List.cons_ne_nil d more) hrest]; rfl

/-- A proper piece is cut into itself. -/
theorem Piece.Proper.pieces_text {p : Piece} (h : p.Proper) : pieces p.text = [p] := by
  cases h with
  | @space t hne hw =>
    obtain ⟨c, rest, rfl⟩ := List.exists_cons_of_ne_nil hne
    have hrest : rest.takeWhile isWhitespace = rest :=
      List.takeWhile_eq_self_iff.mpr fun d hd => hw d (List.mem_cons_of_mem _ hd)
    refine pieces_of_piece?_self ?_ rfl
    rw [piece?_space (hw c List.mem_cons_self), hrest]
  | symbol hs => exact pieces_of_piece?_self (piece?_symbol hs []) rfl
  | number hn => exact pieces_of_piece?_self (piece?_number hn) rfl
  | name hi => exact pieces_of_piece?_self (piece?_name hi) rfl
  | loose hne hl => exact pieces_loose hne hl

/-! ## Tokens and pieces -/

/-- The pieces of a text that tokens are made of. -/
def visiblePieces (t : Text) : List Piece := (pieces t).filter (·.shape != .space)

/-- The visible pieces are proper, and none is whitespace. -/
theorem proper_of_mem_visiblePieces {t : Text} {p : Piece} (h : p ∈ visiblePieces t) : p.Proper ∧ p.shape ≠ .space := by
  obtain ⟨hp, hs⟩ := List.mem_filter.mp h
  exact ⟨proper_of_mem_pieces t p hp, bne_iff_ne.mp hs⟩

/-- The lexemes of a text that are not blank are those of its visible pieces. -/
theorem filter_scan (t : Text) : (scan t).filter (!Text.isBlank ·) = (visiblePieces t).map (·.text) := by
  rw [scan, visiblePieces, List.filter_map]
  refine congrArg _ (List.filter_congr fun p hp => ?_)
  rw [Function.comp_apply, (proper_of_mem_pieces t p hp).isBlank_eq]
  rfl

/-- The tokens of some lexemes have those that are not blank. -/
theorem Rules.map_lexeme_tokenize (rules : Rules) (lexemes : List Text) :
    (rules.tokenize lexemes).map (·.lexeme) = lexemes.filter (!Text.isBlank ·) := by
  have hplaces := congrArg (List.map Prod.fst) (rules.tokensFrom_places 0 none lexemes)
  rw [List.map_map, List.map_map] at hplaces
  calc (rules.tokenize lexemes).map (·.lexeme)
      = ((Lexeme.layOut 0 lexemes).filter fun l => !Text.isBlank l.text).map (·.text) := hplaces
    _ = ((Lexeme.layOut 0 lexemes).map (·.text)).filter (!Text.isBlank ·) := by rw [List.filter_map]; rfl
    _ = lexemes.filter (!Text.isBlank ·) := by rw [Lexeme.map_text_layOut]

/-- No token of an expression has whitespace in its lexeme. -/
theorem isWhitespace_of_mem_lexeme {rules : Rules} {s : Text} {t : Token}
    (ht : t ∈ rules.tokenize (Pattern.default.fragments s)) {c : Char} (hc : c ∈ t.lexeme) : isWhitespace c = false := by
  have hmem : t.lexeme ∈ (visiblePieces s).map (·.text) := by
    rw [← filter_scan, ← Pattern.fragments_default, ← rules.map_lexeme_tokenize]
    exact List.mem_map_of_mem ht
  obtain ⟨p, hp, he⟩ := List.mem_map.mp hmem
  obtain ⟨hproper, hshape⟩ := proper_of_mem_visiblePieces hp
  exact hproper.isWhitespace_eq_false hshape c (he ▸ hc)

end ExprLex
