import ExprLex.Proofs.Signs
import ExprLex.Proofs.WholePieces

/-!
# Symbols and whitespace separate

A symbol in an expression, and a whole run of whitespace, is a lexeme that parts the lexemes before it from those behind it:
either side is split as if it stood alone. So what whitespace there is between two lexemes has no part in how the expression
is read.
-/

namespace ExprLex

/-- The lexemes of a text under the default pattern. An empty text, which the splitter refuses, has none. -/
def defaultLexemes (t : Text) : List Text := (splitExpression (some t) (.pattern .default)).toOption.getD []

/-- A text of whitespace that is not empty. -/
def IsGap (w : Text) : Prop := w ≠ [] ∧ ∀ c ∈ w, isWhitespace c = true

instance (w : Text) : Decidable (IsGap w) :=
  decidable_of_iff (w ≠ [] ∧ w.all isWhitespace = true) (and_congr_right' List.all_eq_true)

/-! ## The pieces behind a separator -/

/-- The lexemes under the default pattern are those of the scanner. -/
theorem defaultLexemes_eq_scan (t : Text) : defaultLexemes t = scan t := by
  cases t with
  | nil => rw [scan, pieces_nil]; rfl
  | cons c rest => rw [defaultLexemes, split_default_eq_scan _ (List.cons_ne_nil c rest)]; rfl

/-- Under the default pattern every expression has lexemes, and they are all that the splitter gives. -/
theorem splitExpression_default {s : Text} (hs : s ≠ []) :
    splitExpression (some s) (.pattern .default) = .ok (defaultLexemes s) := by
  rw [defaultLexemes_eq_scan, split_default_eq_scan s hs]

/-- Under the default pattern and any rules every expression has tokens: those of the lexemes that the scanner finds. -/
theorem lexExpression_default {s : Text} (hs : s ≠ []) (rules : Rules) :
    lexExpression (some s) (.pattern .default) rules = .ok (rules.tokenize (scan s)) := by
  rw [lexExpression, split_default_eq_scan s hs]
  rfl

/-- A sign at the start is a lexeme by itself. -/
theorem scan_symbol {c : Char} (hc : isSymbol c = true) (b : Text) : scan (c :: b) = [c] :: scan b := by
  rw [scan, pieces_of_piece? (piece?_symbol hc b)]
  rfl

/-- A run of whitespace ends where no whitespace follows. -/
theorem pieces_gap {w : Text} (hw : IsGap w) {b : Text} (hb : ∀ c, b.head? = some c → isWhitespace c = false) :
    pieces (w ++ b) = ⟨.space, w⟩ :: pieces b := by
  obtain ⟨c, run, rfl⟩ := List.exists_cons_of_ne_nil hw.1
  have hrun : ∀ d ∈ run, isWhitespace d = true := fun d hd => hw.2 d (List.mem_cons_of_mem _ hd)
  have hend : b.takeWhile isWhitespace = [] := by
    cases b with
    | nil => rfl
    | cons d b => exact List.takeWhile_cons_of_neg (by simp [hb d rfl])
  have htake : (run ++ b).takeWhile isWhitespace = run := by
    rw [List.takeWhile_append_of_pos hrun, hend, List.append_nil]
  have hpiece : piece? (c :: (run ++ b)) = some ⟨.space, c :: run⟩ := by
    rw [piece?_space (hw.2 c List.mem_cons_self), htake]
  rw [List.cons_append, pieces_of_piece? hpiece, List.length_cons, Nat.add_sub_cancel, List.drop_left]

/-- Whitespace starts behind a text that does not end in it. -/
theorem IsGap.boundary {w : Text} (hw : IsGap w) {a : Text} (ha : ∀ c, a.getLast? = some c → isWhitespace c = false) :
    ∃ d more, w = d :: more ∧ Boundary a d := by
  obtain ⟨d, more, rfl⟩ := List.exists_cons_of_ne_nil hw.1
  exact ⟨d, more, rfl, .blank (hw.2 d List.mem_cons_self) ha⟩

/-- A whole run of whitespace is a piece between the pieces of the two sides. -/
theorem pieces_append_gap {a w b : Text} (hw : IsGap w) (ha : ∀ c, a.getLast? = some c → isWhitespace c = false)
    (hb : ∀ c, b.head? = some c → isWhitespace c = false) :
    pieces (a ++ w ++ b) = pieces a ++ ⟨.space, w⟩ :: pieces b := by
  obtain ⟨d, more, hd, hboundary⟩ := hw.boundary ha
  have hpieces := pieces_append hboundary (more ++ b)
  rw [← List.cons_append, ← hd, pieces_gap hw hb] at hpieces
  rw [List.append_assoc, hpieces]

/-- A gap between two texts is a lexeme, and both are scanned by themselves. -/
theorem scan_append_gap {a w b : Text} (hw : IsGap w) (ha : ∀ c, a.getLast? = some c → isWhitespace c = false)
    (hb : ∀ c, b.head? = some c → isWhitespace c = false) : scan (a ++ w ++ b) = scan a ++ w :: scan b := by
  rw [scan, pieces_append_gap hw ha hb, List.map_append, List.map_cons]
  rfl

/-! ## Whitespace in place of whitespace -/

/-- A text is the whitespace that it starts with and what is left of it without that. -/
theorem append_trimLeft (t : Text) : ∃ blank, t = blank ++ Text.trimLeft t ∧ ∀ c ∈ blank, isWhitespace c = true :=
  ⟨t.takeWhile isWhitespace, List.takeWhile_append_dropWhile.symm, fun _ hc => of_mem_takeWhile hc⟩

/-- What is trimmed does not begin with whitespace. -/
theorem head?_trimLeft (t : Text) : ∀ c, (Text.trimLeft t).head? = some c → isWhitespace c = false := by
  intro c hc
  have h := List.head?_dropWhile_not isWhitespace t
  rw [show t.dropWhile isWhitespace = Text.trimLeft t from rfl, hc] at h
  simpa using h

/-- What is left of a text without the whitespace in front of it: there is whitespace in front, and none at the start of the
rest. -/
theorem trimLeft_eq_iff {t u : Text} : Text.trimLeft t = u ↔
    (∃ gap, Text.isBlank gap = true ∧ t = gap ++ u) ∧ ∀ c, u.head? = some c → isWhitespace c = false := by
  constructor
  · rintro rfl
    obtain ⟨gap, ht, hgap⟩ := append_trimLeft t
    exact ⟨⟨gap, List.all_eq_true.mpr hgap, ht⟩, head?_trimLeft t⟩
  · rintro ⟨⟨gap, hgap, rfl⟩, hhead⟩
    rw [Text.trimLeft, List.dropWhile_append_of_pos (List.all_eq_true.mp hgap)]
    cases u with
    | nil => rfl
    | cons c u => rw [List.dropWhile_cons_of_neg (by simp [hhead c rfl])]

/-- Whitespace anywhere in a text is part of one run, and the lexemes that are not blank are those of what is before the run
and behind it. -/
theorem sameButBlank_scan_gap {w : Text} (hw : IsGap w) (a b : Text) :
    SameButBlank (scan (a ++ w ++ b)) (scan (Text.trimRight a) ++ scan (Text.trimLeft b)) := by
  obtain ⟨before, ha, hbefore⟩ := trimRight_append a
  obtain ⟨behind, hb, hbehind⟩ := append_trimLeft b
  have hrun : IsGap (before ++ w ++ behind) := by
    refine ⟨by simp [hw.1], ?_⟩
    intro c hc
    rcases List.mem_append.mp hc with hc | hc
    · rcases List.mem_append.mp hc with hc | hc
      · exact hbefore c hc
      · exact hw.2 c hc
    · exact hbehind c hc
  have hsplit : a ++ w ++ b = Text.trimRight a ++ (before ++ w ++ behind) ++ Text.trimLeft b := by
    calc a ++ w ++ b = (Text.trimRight a ++ before) ++ w ++ (behind ++ Text.trimLeft b) := by rw [← ha, ← hb]
      _ = Text.trimRight a ++ (before ++ w ++ behind) ++ Text.trimLeft b := by simp only [List.append_assoc]
  rw [hsplit, scan_append_gap hrun (getLast?_trimRight a) (head?_trimLeft b), List.append_cons]
  refine sameButBlank_insert ?_ _ _
  intro l hl
  rw [List.mem_singleton.mp hl]
  exact List.all_eq_true.mpr hrun.2

/-- Symbols and whitespace separate: every expression has lexemes, and a symbol anywhere in a text is a lexeme between those
of the two sides, and so is a whole run of whitespace; and an expression is read in the same way with other whitespace in
place of some of its own, whatever the rules are. -/
theorem symbols_and_whitespace_separate :
    (∀ s : Text, s ≠ [] → splitExpression (some s) (.pattern .default) = .ok (defaultLexemes s)) ∧
    (∀ (a b : Text) (c : Char), isSymbol c = true →
      defaultLexemes (a ++ [c] ++ b) = defaultLexemes a ++ [[c]] ++ defaultLexemes b) ∧
    (∀ a w b : Text, IsGap w → (∀ c, a.getLast? = some c → isWhitespace c = false) →
      (∀ c, b.head? = some c → isWhitespace c = false) →
      defaultLexemes (a ++ w ++ b) = defaultLexemes a ++ [w] ++ defaultLexemes b) ∧
    ∀ (rules : Rules) (a w w' b : Text), IsGap w → IsGap w' → ∃ tokens tokens',
      lexExpression (some (a ++ w ++ b)) (.pattern .default) rules = .ok tokens ∧
      lexExpression (some (a ++ w' ++ b)) (.pattern .default) rules = .ok tokens' ∧
      tokens.map Token.reading = tokens'.map Token.reading := by
  refine ⟨fun s hs => splitExpression_default hs, fun a b c hc => ?_, fun a w b hw ha hb => ?_,
    fun rules a w w' b hw hw' => ?_⟩
  · rw [defaultLexemes_eq_scan, defaultLexemes_eq_scan, defaultLexemes_eq_scan, List.append_assoc, List.append_assoc,
      List.singleton_append, List.singleton_append, scan_append (.symbol hc), scan_symbol hc]
  · rw [defaultLexemes_eq_scan, defaultLexemes_eq_scan, defaultLexemes_eq_scan, scan_append_gap hw ha hb,
      List.append_assoc, List.singleton_append]
  · have hne : ∀ {w : Text}, IsGap w → a ++ w ++ b ≠ [] := fun hw => by simp [hw.1]
    refine ⟨_, _, lexExpression_default (hne hw) rules, lexExpression_default (hne hw') rules, ?_⟩
    exact rules.map_reading_tokenize_congr ((sameButBlank_scan_gap hw a b).trans (sameButBlank_scan_gap hw' a b).symm)

/-- A point before a digit, with a comma and with whitespace between them; and a part of the whitespace before a sign, with
other whitespace in its place. -/
theorem symbols_and_whitespace_separate_point_before :
    isSymbol ',' = true ∧ IsGap "\u2003\n".toList ∧ IsGap "\t".toList ∧
      splitExpression (some "1.".toList) (.pattern .default) = .ok (defaultLexemes "1.".toList) ∧
      defaultLexemes ("1.".toList ++ [','] ++ "5".toList) =
        defaultLexemes "1.".toList ++ [[',']] ++ defaultLexemes "5".toList ∧
      defaultLexemes ("1.".toList ++ "\u2003\n".toList ++ "5".toList) =
        defaultLexemes "1.".toList ++ ["\u2003\n".toList] ++ defaultLexemes "5".toList ∧
      ∃ tokens tokens',
        lexExpression (some ("x² ".toList ++ "\u2003\n".toList ++ " -1".toList)) (.pattern .default) signsForNumbers =
          .ok tokens ∧
        lexExpression (some ("x² ".toList ++ "\t".toList ++ " -1".toList)) (.pattern .default) signsForNumbers =
          .ok tokens' ∧
        tokens.map Token.reading = tokens'.map Token.reading := by
  obtain ⟨hsplit, hsymbol, hgap, hreading⟩ := symbols_and_whitespace_separate
  have hwide : IsGap "\u2003\n".toList := by decide
  have htab : IsGap "\t".toList := by decide
  have hbefore : ∀ c, "1.".toList.getLast? = some c → isWhitespace c = false := by
    rintro c ⟨⟩
    decide
  have hbehind : ∀ c, "5".toList.head? = some c → isWhitespace c = false := by
    rintro c ⟨⟩
    decide
  exact ⟨by decide, hwide, htab, hsplit _ (by decide), hsymbol _ _ ',' (by decide), hgap _ _ _ hwide hbefore hbehind,
    hreading signsForNumbers _ _ _ _ hwide htab⟩

end ExprLex
