import ExprLex.Proofs.Mending

/-!
# Boundaries between pieces

A symbol always starts a piece of its own, and so does whitespace where none stands before it. No piece reaches across such a
boundary, and no piece before it depends on what follows. So the pieces of a text with a boundary in it are those of its two
parts. In particular the whitespace at the end of an expression has no part in its tokens.
-/

namespace ExprLex

/-- What makes a character start a piece of its own behind a text. -/
inductive Boundary (t : Text) (d : Char) : Prop where
  | symbol (hd : isSymbol d = true)
  | blank (hd : isWhitespace d = true) (ht : ∀ c, t.getLast? = some c → isWhitespace c = false)

namespace Boundary

variable {c d : Char} {t rest : Text}

/-- Nothing that goes on where a boundary stands: no number and no name does, and no point is followed by a digit there. -/
theorem classes (h : Boundary t d) : isDigit d = false ∧ isWord d = false ∧ d ≠ '.' := by
  cases h with
  | symbol hd =>
    obtain ⟨-, hdigit, -, hword, hpoint⟩ := classes_of_isSymbol hd
    exact ⟨hdigit, hword, hpoint⟩
  | blank hd _ =>
    obtain ⟨-, hdigit, -, hword, hpoint⟩ := classes_of_isWhitespace hd
    exact ⟨hdigit, hword, hpoint⟩

/-- A boundary stands also behind the end of the text alone. -/
theorem drop (h : Boundary t d) (n : Nat) : Boundary (t.drop n) d := by
  cases h with
  | symbol hd => exact .symbol hd
  | blank hd ht =>
    refine .blank hd ?_
    intro c hc
    rw [List.getLast?_drop] at hc
    split at hc
    · cases hc
    · exact ht c hc

theorem tail (h : Boundary (c :: rest) d) : Boundary rest d := h.drop 1

/-- The character at a boundary starts a piece. -/
theorem piece?_isSome (h : Boundary t d) (b : Text) : (piece? (d :: b)).isSome = true := by
  cases h with
  | symbol hd => simp [piece?, hd, (classes_of_isSymbol hd).1]
  | blank hd _ => simp [piece?, hd]

/-- Whitespace before a boundary ends before it. -/
theorem takeWhile_blank (h : Boundary (c :: rest) d) (hc : isWhitespace c = true) (b : Text) :
    (rest ++ d :: b).takeWhile isWhitespace = rest.takeWhile isWhitespace := by
  cases h with
  | symbol hd =>
    rw [List.takeWhile_append, List.takeWhile_cons_of_neg (by simp [(classes_of_isSymbol hd).1]), List.append_nil]
    split
    · rename_i hall
      rw [List.takeWhile_prefix _ |>.eq_of_length hall]
    · rfl
  | blank hd ht =>
    rw [List.takeWhile_append, if_neg]
    intro hall
    -- whitespace throughout, the last character included
    have hrest : rest.takeWhile isWhitespace = rest := (List.takeWhile_prefix _).eq_of_length hall
    obtain ⟨last, hlast⟩ : ∃ last, (c :: rest).getLast? = some last := ⟨_, List.getLast?_eq_some_getLast (by simp)⟩
    have hblank : isWhitespace last = true := by
      rcases List.mem_cons.mp (List.mem_of_getLast? hlast) with rfl | hmem
      · exact hc
      · exact of_mem_takeWhile (hrest.symm ▸ hmem)
    rw [ht last hlast] at hblank
    cases hblank

end Boundary

/-! ## The pieces before a boundary -/

section

variable {d : Char}

/-- What a text takes while a test is passed that the character behind it does not pass. -/
theorem takeWhile_append_cons {p : Char → Bool} (hd : p d = false) (t b : Text) :
    (t ++ d :: b).takeWhile p = t.takeWhile p := by
  induction t with
  | nil => simp [hd]
  | cons c t ih => rw [List.cons_append, List.takeWhile_cons, List.takeWhile_cons, ih]

theorem dropWhile_append_cons {p : Char → Bool} (hd : p d = false) (t b : Text) :
    (t ++ d :: b).dropWhile p = t.dropWhile p ++ d :: b := by
  induction t with
  | nil => simp [hd]
  | cons c t ih =>
    rw [List.cons_append, List.dropWhile_cons, List.dropWhile_cons, ih]
    split <;> rfl

/-- A point at a boundary counts for nothing there, and one before it for what it counts without the boundary. -/
theorem pointAndDigits_append (t : Text) (hdigit : isDigit d = false) (hpoint : d ≠ '.') (b : Text) :
    pointAndDigits (t ++ d :: b) = pointAndDigits t := by
  match t with
  | [] => simp [pointAndDigits, hpoint]
  | c :: more =>
    by_cases hc : c = '.'
    · have hhead : (more ++ d :: b).head?.any isDigit = more.head?.any isDigit := by
        cases more with
        | nil => simpa using hdigit
        | cons e more => rfl
      subst hc
      simp only [List.cons_append, pointAndDigits, hhead, takeWhile_append_cons hdigit]
    · simp [pointAndDigits, hc]

/-- The piece that a text starts with is the same where a boundary stands behind the text. -/
theorem piece?_append {c : Char} {rest : Text} (h : Boundary (c :: rest) d) (b : Text) :
    piece? (c :: rest ++ d :: b) = piece? (c :: rest) := by
  obtain ⟨hdigit, hword, hpoint⟩ := h.classes
  have hfraction := pointAndDigits_append (c :: rest) hdigit hpoint b
  rw [List.cons_append] at hfraction ⊢
  simp only [piece?]
  by_cases hc : isWhitespace c = true
  · rw [if_pos hc, if_pos hc, h.takeWhile_blank hc]
  · rw [if_neg hc, if_neg hc, takeWhile_append_cons hdigit, dropWhile_append_cons hdigit,
      pointAndDigits_append _ hdigit hpoint, hfraction, takeWhile_append_cons hword]

/-- The loose text that pieces start with ends where another piece starts. -/
theorem cutLoose_append {q : Piece} (hq : q.shape ≠ .loose) (ps qs : List Piece) :
    cutLoose (ps ++ q :: qs) = ((cutLoose ps).1, (cutLoose ps).2 ++ q :: qs) := by
  match ps with
  | [] => exact cutLoose_cons hq qs
  | ⟨.loose, run⟩ :: more => rfl
  | ⟨.space, _⟩ :: more => rfl
  | ⟨.symbol, _⟩ :: more => rfl
  | ⟨.number, _⟩ :: more => rfl
  | ⟨.name, _⟩ :: more => rfl

/-- The pieces of a text with a boundary in it are those of what is before it and those of what starts there. -/
theorem pieces_append {t : Text} (h : Boundary t d) (b : Text) : pieces (t ++ d :: b) = pieces t ++ pieces (d :: b) := by
  fun_induction pieces t with
  | case1 => rfl
  | case2 c rest p hp ih =>
    have hlen : p.text.length - 1 ≤ rest.length := by
      have := (text_prefix_of_piece? hp).length_le
      rw [List.length_cons] at this
      omega
    have hsame : piece? (c :: (rest ++ d :: b)) = some p := (piece?_append h b).trans hp
    rw [List.cons_append, pieces_of_piece? hsame, List.drop_append_of_le_length hlen, ih (h.tail.drop _)]
    rfl
  | case3 c rest hp ih =>
    have hsame : piece? (c :: (rest ++ d :: b)) = none := (piece?_append h b).trans hp
    obtain ⟨q, hq⟩ := Option.isSome_iff_exists.mp (h.piece?_isSome b)
    rw [List.cons_append, pieces_of_loose hsame, ih h.tail, pieces_of_piece? hq, joinLoose,
      cutLoose_append (piece?_eq_some hq).1]
    rfl

theorem scan_append {t : Text} (h : Boundary t d) (b : Text) : scan (t ++ d :: b) = scan t ++ scan (d :: b) := by
  rw [scan, pieces_append h, List.map_append]
  rfl

end

/-! ## Whitespace at the end of an expression -/

/-- Blank lexemes at the end give no tokens. -/
theorem Rules.tokensFrom_append_blank (rules : Rules) {blank : List Text} (h : ∀ t ∈ blank, Text.isBlank t = true)
    (lexemes : List Text) (position : Nat) (previous : Option Token) :
    rules.tokensFrom position previous (lexemes ++ blank) = rules.tokensFrom position previous lexemes := by
  induction lexemes generalizing position previous with
  | nil =>
    have hnone := rules.tokensFrom_blank_append position previous h []
    rwa [List.append_nil] at hnone
  | cons t lexemes ih =>
    rw [List.cons_append, tokensFrom, tokensFrom]
    split
    · exact ih _ _
    · exact congrArg _ (ih _ _)

/-- A text of whitespace has blank lexemes only. -/
theorem isBlank_of_mem_scan {blank : Text} (h : ∀ c ∈ blank, isWhitespace c = true) {l : Text} (hl : l ∈ scan blank) :
    Text.isBlank l = true := by
  obtain ⟨p, hp, rfl⟩ := List.mem_map.mp hl
  refine List.all_eq_true.mpr ?_
  intro c hc
  refine h c ?_
  rw [← textOf_pieces blank, textOf]
  exact List.mem_flatMap.mpr ⟨p, hp, hc⟩

/-- What is left without the whitespace at the end does not end in whitespace. -/
theorem getLast?_trimRight (t : Text) : ∀ c, (Text.trimRight t).getLast? = some c → isWhitespace c = false := by
  intro c hc
  rw [Text.trimRight, List.getLast?_reverse] at hc
  have h := List.head?_dropWhile_not isWhitespace t.reverse
  rw [hc] at h
  simpa using h

/-- Whitespace at the end of a text goes with the rest of it. -/
theorem trimRight_append_blank (t : Text) {blank : Text} (h : ∀ c ∈ blank, isWhitespace c = true) :
    Text.trimRight (t ++ blank) = Text.trimRight t := by
  rw [Text.trimRight, Text.trimRight, List.reverse_append, List.dropWhile_append_of_pos]
  intro c hc
  exact h c (List.mem_reverse.mp hc)

/-- Whitespace is not taken from behind a character that is none. -/
theorem trimRight_append_of_visible {t : Text} {c : Char} (hlast : t.getLast? = some c) (hc : isWhitespace c = false)
    (u : Text) : Text.trimRight (t ++ u) = t ++ Text.trimRight u := by
  obtain ⟨before, rfl⟩ := List.getLast?_eq_some_iff.mp hlast
  have hkept : (before ++ [c]).reverse.dropWhile isWhitespace = (before ++ [c]).reverse := by
    rw [List.reverse_concat, List.dropWhile_cons_of_neg (by simp [hc])]
  rw [Text.trimRight, Text.trimRight, List.reverse_append, List.dropWhile_append, hkept]
  split
  · rename_i hblank
    rw [List.isEmpty_iff.mp hblank, List.reverse_reverse, List.reverse_nil, List.append_nil]
  · rw [List.reverse_append, List.reverse_reverse]

/-- The tokens of an expression are those of what is left of it without the whitespace at its end. -/
theorem tokenize_trimRight (rules : Rules) (t : Text) :
    rules.tokenize (Pattern.default.fragments t) = rules.tokenize (Pattern.default.fragments (Text.trimRight t)) := by
  obtain ⟨blank, ht, hblank⟩ := trimRight_append t
  rw [Pattern.fragments_default, Pattern.fragments_default]
  cases blank with
  | nil => rw [List.append_nil] at ht; rw [← ht]
  | cons d b =>
    have hd : Boundary (Text.trimRight t) d := .blank (hblank d List.mem_cons_self) (getLast?_trimRight t)
    have hscan : scan t = scan (Text.trimRight t) ++ scan (d :: b) := (congrArg scan ht).trans (scan_append hd b)
    rw [hscan]
    exact rules.tokensFrom_append_blank (fun l hl => isBlank_of_mem_scan hblank hl) _ _ _

/-- Whitespace at the end of an expression has no part in its tokens. -/
theorem tokenize_append_blank (rules : Rules) (t : Text) {blank : Text} (h : ∀ c ∈ blank, isWhitespace c = true) :
    rules.tokenize (Pattern.default.fragments (t ++ blank)) = rules.tokenize (Pattern.default.fragments t) := by
  rw [tokenize_trimRight, trimRight_append_blank t h, ← tokenize_trimRight]

end ExprLex
