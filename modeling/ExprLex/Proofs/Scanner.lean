import ExprLex.Text.Basic

/-!
# A scanner for the default lexemes

The lexemes of the default delimiter pattern, told without it: from left to right, each piece by the character that it starts
with. Whitespace and digits and the word characters of a name are taken as long as they last; a point counts where a digit
follows. What starts no piece is loose, and loose characters stay together.
-/

namespace ExprLex

/-- What a piece of an expression is, by the character that it starts with. -/
inductive Shape where
  | space | symbol | number | name
  /-- what starts no other piece -/
  | loose
  deriving DecidableEq, Repr

/-- A piece of an expression. -/
structure Piece where
  shape : Shape
  text : Text
  deriving DecidableEq, Repr

/-- The operator signs, the parentheses and the comma. -/
def isSymbol (c : Char) : Bool :=
  c == '+' || c == '-' || c == '*' || c == '/' || c == '(' || c == ')' || c == ','

/-- An ASCII letter or the underscore: what a name starts with. -/
def isNameHead (c : Char) : Bool := isAsciiLetter c || c == '_'

/-- A point that is directly followed by a digit, and all digits behind it. -/
def pointAndDigits : Text → Text
  | '.' :: rest => if rest.head?.any isDigit then '.' :: rest.takeWhile isDigit else []
  | _ => []

/-- The piece that a text starts with, if its first character starts one. -/
def piece? : Text → Option Piece
  | [] => none
  | c :: rest =>
    if isWhitespace c then some ⟨.space, c :: rest.takeWhile isWhitespace⟩
    else if isSymbol c then some ⟨.symbol, [c]⟩
    else if isDigit c then
      some ⟨.number, c :: rest.takeWhile isDigit ++ pointAndDigits (rest.dropWhile isDigit)⟩
    else if !(pointAndDigits (c :: rest)).isEmpty then some ⟨.number, pointAndDigits (c :: rest)⟩
    else if isNameHead c then some ⟨.name, c :: rest.takeWhile isWord⟩
    else none

/-- The loose text that pieces start with, empty if they start with none, and the pieces behind it. -/
def cutLoose : List Piece → Text × List Piece
  | ⟨.loose, run⟩ :: more => (run, more)
  | more => ([], more)

/-- The pieces with a loose character before them, which joins the loose text they start with. -/
def joinLoose (c : Char) (pieces : List Piece) : List Piece := ⟨.loose, c :: (cutLoose pieces).1⟩ :: (cutLoose pieces).2

/-- The pieces of a text, from left to right. -/
def pieces : Text → List Piece
  | [] => []
  | c :: rest =>
    match piece? (c :: rest) with
    | some p => p :: pieces (rest.drop (p.text.length - 1))
    | none => joinLoose c (pieces rest)
termination_by t => t.length
decreasing_by
  · simp only [List.length_drop, List.length_cons]
    omega
  · simp

/-- The lexemes that the scanner finds. -/
def scan (t : Text) : List Text := (pieces t).map (·.text)

/-! ## Stepping through the pieces -/

/-- What lies behind the characters that a text takes while they pass a test. -/
theorem drop_length_takeWhile (p : Char → Bool) (t : Text) : t.drop (t.takeWhile p).length = t.dropWhile p := by
  have h : t.takeWhile p ++ t.dropWhile p = t := List.takeWhile_append_dropWhile
  calc t.drop (t.takeWhile p).length = (t.takeWhile p ++ t.dropWhile p).drop (t.takeWhile p).length := by rw [h]
    _ = t.dropWhile p := List.drop_left

/-- A point counts where a digit follows. -/
theorem pointAndDigits_cases (t : Text) :
    pointAndDigits t = [] ∨ ∃ rest, t = '.' :: rest ∧ rest.head?.any isDigit = true ∧
      pointAndDigits t = '.' :: rest.takeWhile isDigit := by
  unfold pointAndDigits
  split
  · rename_i rest
    by_cases hd : rest.head?.any isDigit = true
    · exact Or.inr ⟨rest, rfl, hd, by rw [if_pos hd]⟩
    · exact Or.inl (by rw [if_neg hd])
  · exact Or.inl rfl

@[simp] theorem pieces_nil : pieces [] = [] := by
  rw [pieces]

/-- A piece that is found comes first, and then the pieces behind it. -/
theorem pieces_of_piece? {c : Char} {rest : Text} {p : Piece} (h : piece? (c :: rest) = some p) :
    pieces (c :: rest) = p :: pieces (rest.drop (p.text.length - 1)) := by
  rw [pieces, h]

/-- A loose character joins the loose ones behind it. -/
theorem pieces_of_loose {c : Char} {rest : Text} (h : piece? (c :: rest) = none) :
    pieces (c :: rest) = joinLoose c (pieces rest) := by
  rw [pieces, h]

/-- The pieces of a text, once more, are its loose start, if there is one, and the pieces behind it. -/
theorem map_text_cutLoose {ps : List Piece} (h : ∀ p ∈ ps, p.text ≠ []) :
    ps.map (·.text) = [(cutLoose ps).1].filter (!·.isEmpty) ++ (cutLoose ps).2.map (·.text) := by
  match ps with
  | [] => rfl
  | ⟨.loose, []⟩ :: more => exact absurd rfl (h _ List.mem_cons_self)
  | ⟨.loose, c :: run⟩ :: more => rfl
  | ⟨.space, _⟩ :: more => rfl
  | ⟨.symbol, _⟩ :: more => rfl
  | ⟨.number, _⟩ :: more => rfl
  | ⟨.name, _⟩ :: more => rfl

/-- A piece that is not loose is no loose start. -/
theorem cutLoose_cons {p : Piece} (hp : p.shape ≠ .loose) (ps : List Piece) : cutLoose (p :: ps) = ([], p :: ps) := by
  obtain ⟨shape, text⟩ := p
  cases shape
  · rfl
  · rfl
  · rfl
  · rfl
  · exact absurd rfl hp

/-- A piece that a text starts with takes its first character, and it is not loose. -/
theorem piece?_eq_some {c : Char} {rest : Text} {p : Piece} (h : piece? (c :: rest) = some p) :
    p.shape ≠ .loose ∧ ∃ more, p.text = c :: more := by
  simp only [piece?] at h
  split at h
  · cases h; exact ⟨nofun, _, rfl⟩
  · split at h
    · cases h; exact ⟨nofun, _, rfl⟩
    · split at h
      · cases h; exact ⟨nofun, _, rfl⟩
      · split at h
        · rename_i hp
          cases h
          rcases pointAndDigits_cases (c :: rest) with he | ⟨tail, ht, -, he⟩
          · simp [he] at hp
          · cases ht
            exact ⟨nofun, _, he⟩
        · split at h
          · cases h; exact ⟨nofun, _, rfl⟩
          · cases h

/-- A point with its digits is the start of the text. -/
theorem pointAndDigits_prefix (t : Text) : pointAndDigits t <+: t := by
  rcases pointAndDigits_cases t with h | ⟨rest, rfl, -, h⟩
  · rw [h]
    exact List.nil_prefix
  · rw [h]
    exact List.cons_prefix_cons.mpr ⟨rfl, List.takeWhile_prefix isDigit⟩

/-- A piece that a text starts with is the start of the text. -/
theorem text_prefix_of_piece? {t : Text} {p : Piece} (h : piece? t = some p) : p.text <+: t := by
  unfold piece? at h
  split at h
  · cases h
  · rename_i c rest
    split at h
    · cases h
      exact List.cons_prefix_cons.mpr ⟨rfl, List.takeWhile_prefix _⟩
    · split at h
      · cases h
        exact List.cons_prefix_cons.mpr ⟨rfl, List.nil_prefix⟩
      · split at h
        · cases h
          refine List.cons_prefix_cons.mpr ⟨rfl, ?_⟩
          obtain ⟨tail, ht⟩ := pointAndDigits_prefix (rest.dropWhile isDigit)
          refine ⟨tail, ?_⟩
          show rest.takeWhile isDigit ++ pointAndDigits (rest.dropWhile isDigit) ++ tail = rest
          rw [List.append_assoc, ht]
          exact List.takeWhile_append_dropWhile
        · split at h
          · cases h
            exact pointAndDigits_prefix _
          · split at h
            · cases h
              exact List.cons_prefix_cons.mpr ⟨rfl, List.takeWhile_prefix _⟩
            · cases h

/-- The pieces behind the loose ones are among all. -/
theorem cutLoose_snd_subset {ps : List Piece} {p : Piece} (h : p ∈ (cutLoose ps).2) : p ∈ ps := by
  unfold cutLoose at h
  split at h
  · exact List.mem_cons_of_mem _ h
  · exact h

/-- No piece is empty. -/
theorem text_ne_nil_of_mem_pieces {t : Text} {p : Piece} (h : p ∈ pieces t) : p.text ≠ [] := by
  fun_induction pieces t with
  | case1 => cases h
  | case2 c rest q hq ih =>
    rcases List.mem_cons.mp h with rfl | h
    · obtain ⟨-, more, ht⟩ := piece?_eq_some hq
      simp [ht]
    · exact ih h
  | case3 c rest hq ih =>
    rcases List.mem_cons.mp h with rfl | h
    · exact List.cons_ne_nil _ _
    · exact ih (cutLoose_snd_subset h)

end ExprLex
