import ExprLex.Proofs.LinesAndWords
import ExprLex.Proofs.Separators

/-!
# Lists of names

Function names are listed in a text, one on a line, with whitespace around them and comments behind them. What is listed are
names in a normal form, and every list of such names, written one on a line, lists itself. Any line break puts two lists
together, whatever stands on its two sides: where a carriage return meets a line feed the two are one break, and where a break
stands behind another one there is an empty line between them, which lists nothing.
-/

namespace ExprLex

/-! ## Whitespace at both ends -/

/-- A text that neither starts nor ends with whitespace. -/
structure Trimmed (t : Text) : Prop where
  head : ∀ c, t.head? = some c → isWhitespace c = false
  last : ∀ c, t.getLast? = some c → isWhitespace c = false

theorem trimmed_nil : Trimmed [] := ⟨by simp, by simp⟩

/-- What is trimmed has no whitespace at its ends. -/
theorem trimmed_trim (t : Text) : Trimmed (Text.trim t) := by
  refine ⟨fun c hc => ?_, getLast?_trimRight _⟩
  rw [Text.trim] at hc
  rcases trimLeft_cases t with ⟨-, hleft⟩ | ⟨d, rest, -, hleft, hd⟩
  · rw [hleft] at hc
    cases hc
  · obtain ⟨more, hright⟩ := exists_trimRight_cons hd rest
    rw [hleft, hright] at hc
    cases hc
    exact hd

/-- Nothing is trimmed from what ends without whitespace. -/
theorem trimRight_eq_self {t : Text} (h : ∀ c, t.getLast? = some c → isWhitespace c = false) : Text.trimRight t = t := by
  cases hlast : t.getLast? with
  | none => rw [List.getLast?_eq_none_iff.mp hlast]; rfl
  | some c =>
    have hkept := trimRight_append_of_visible hlast (h c hlast) []
    rw [List.append_nil] at hkept
    exact hkept.trans (List.append_nil t)

/-- What is left of a text without the whitespace around it. -/
theorem trim_eq_iff {t u : Text} : Text.trim t = u ↔ Trimmed u ∧
    ∃ before behind, Text.isBlank before = true ∧ Text.isBlank behind = true ∧ t = before ++ u ++ behind := by
  constructor
  · rintro rfl
    obtain ⟨before, hleft, hbefore⟩ := append_trimLeft t
    obtain ⟨behind, hright, hbehind⟩ := trimRight_append (Text.trimLeft t)
    refine ⟨trimmed_trim t, before, behind, List.all_eq_true.mpr hbefore, List.all_eq_true.mpr hbehind, ?_⟩
    rw [List.append_assoc, Text.trim, ← hright]
    exact hleft
  · rintro ⟨htrimmed, before, behind, hbefore, hbehind, rfl⟩
    cases u with
    | nil =>
      have hblank : Text.isBlank (before ++ [] ++ behind) = true := by
        rw [List.append_nil, Text.isBlank, List.all_append, Bool.and_eq_true]
        exact ⟨hbefore, hbehind⟩
      have hleft : Text.trimLeft (before ++ [] ++ behind) = [] :=
        trimLeft_eq_iff.mpr ⟨⟨_, hblank, (List.append_nil _).symm⟩, trimmed_nil.head⟩
      rw [Text.trim, hleft]
      rfl
    | cons c u =>
      have hleft : Text.trimLeft (before ++ c :: u ++ behind) = c :: u ++ behind :=
        trimLeft_eq_iff.mpr ⟨⟨before, hbefore, List.append_assoc _ _ _⟩, htrimmed.head⟩
      rw [Text.trim, hleft, trimRight_append_blank _ (List.all_eq_true.mp hbehind), trimRight_eq_self htrimmed.last]

namespace Registry

/-! ## The name on a line -/

/-- The name on a line; it is empty where there is none. -/
def nameOn (line : Text) : Text := Text.trim (line.takeWhile (· != '#'))

/-- The names on some lines. -/
def namesOn (lines : List Text) : List Text := (lines.map nameOn).filter (!·.isEmpty)

theorem parseNames_eq (t : Text) : parseNames t = namesOn t.lines := rfl

/-- The names on lines and on more lines, one after the other. -/
theorem namesOn_append (lines more : List Text) : namesOn (lines ++ more) = namesOn lines ++ namesOn more := by
  rw [namesOn, List.map_append, List.filter_append]
  rfl

theorem namesOn_of_forall_nil {blank : List Text} (h : ∀ l ∈ blank, l = []) : namesOn blank = [] := by
  refine List.filter_eq_nil_iff.mpr fun name hname => ?_
  obtain ⟨l, hl, rfl⟩ := List.mem_map.mp hname
  rw [h l hl]
  decide

/-- A line with a text on it and nothing else but whitespace around it and a comment at the end. -/
def Holds (line t : Text) : Prop :=
  ∃ before behind comment : Text, Text.isBlank before = true ∧ Text.isBlank behind = true ∧
    (∀ c, comment.head? = some c → c = '#') ∧ line = before ++ t ++ behind ++ comment

/-- What stands on a line before the mark of a comment, without the whitespace around it. -/
theorem nameOn_eq_iff {line name : Text} : nameOn line = name ↔ Trimmed name ∧ '#' ∉ name ∧ Holds line name := by
  constructor
  · intro h
    obtain ⟨htrimmed, before, behind, hbefore, hbehind, hcut⟩ := trim_eq_iff.mp h
    have hmark : '#' ∉ line.takeWhile (· != '#') := fun hmem => by simpa using List.mem_takeWhile_imp hmem
    have hcomment : ∀ c, (line.dropWhile (· != '#')).head? = some c → c = '#' := by
      intro c hc
      have hnot := List.head?_dropWhile_not (· != '#') line
      rw [hc] at hnot
      simpa using hnot
    refine ⟨htrimmed, fun hmem => hmark ?_, before, behind, line.dropWhile (· != '#'), hbefore, hbehind, hcomment, ?_⟩
    · rw [hcut]
      exact List.mem_append_left _ (List.mem_append_right _ hmem)
    · rw [← hcut, List.takeWhile_append_dropWhile]
  · rintro ⟨htrimmed, hmark, before, behind, comment, hbefore, hbehind, hcomment, rfl⟩
    have hblank : ∀ {blank : Text}, Text.isBlank blank = true → '#' ∉ blank := by
      intro blank hblank hmem
      exact absurd (List.all_eq_true.mp hblank _ hmem) (by decide)
    have hclear : ∀ c ∈ before ++ name ++ behind, (c != '#') = true := by
      intro c hc
      rw [bne_iff_ne]
      rintro rfl
      rcases List.mem_append.mp hc with hc | hc
      · exact (List.mem_append.mp hc).elim (hblank hbefore) hmark
      · exact hblank hbehind hc
    have hrest : comment.takeWhile (· != '#') = [] := by
      cases comment with
      | nil => rfl
      | cons c comment => rw [hcomment c rfl]; rfl
    rw [nameOn, List.takeWhile_append_of_pos hclear, hrest, List.append_nil]
    exact trim_eq_iff.mpr ⟨htrimmed, before, behind, hbefore, hbehind, rfl⟩

/-- A name as it is listed. -/
structure IsName (name : Text) : Prop where
  ne_nil : name ≠ []
  trimmed : Trimmed name
  no_comment : '#' ∉ name
  unbroken : Unbroken name

/-- What a line holds is a name, unless there is nothing. -/
theorem isName_nameOn {line : Text} (h : Unbroken line) (hne : nameOn line ≠ []) : IsName (nameOn line) := by
  obtain ⟨htrimmed, hmark, before, behind, comment, -, -, -, hline⟩ := nameOn_eq_iff.mp (rfl : nameOn line = nameOn line)
  refine ⟨hne, htrimmed, hmark, ?_⟩
  rw [hline, unbroken_append, unbroken_append, unbroken_append] at h
  exact h.1.1.2

/-- What a line lists: nothing, or the name that it holds. -/
inductive Lists (line : Text) : List Text → Prop where
  | nothing (h : Holds line []) : Lists line []
  | name {name : Text} (hname : IsName name) (h : Holds line name) : Lists line [name]

/-- A line lists one name or none. -/
theorem namesOn_eq_iff {line : Text} (h : Unbroken line) {names : List Text} : namesOn [line] = names ↔ Lists line names := by
  constructor
  · rintro rfl
    by_cases hne : nameOn line = []
    · have hnothing : namesOn [line] = [] := by simp [namesOn, hne]
      rw [hnothing]
      exact .nothing (nameOn_eq_iff.mp hne).2.2
    · have hone : namesOn [line] = [nameOn line] := by simp [namesOn, hne]
      rw [hone]
      exact .name (isName_nameOn h hne) (nameOn_eq_iff.mp rfl).2.2
  · rintro (hholds | ⟨hname, hholds⟩)
    · have hnil : nameOn line = [] := nameOn_eq_iff.mpr ⟨trimmed_nil, List.not_mem_nil, hholds⟩
      simp [namesOn, hnil]
    · have heq := nameOn_eq_iff.mpr ⟨hname.trimmed, hname.no_comment, hholds⟩
      simp [namesOn, heq, hname.ne_nil]

/-! ## Lists of names -/

/-- All that is parsed is a name. -/
theorem isName_of_mem_parseNames {t name : Text} (h : name ∈ parseNames t) : IsName name := by
  rw [parseNames_eq] at h
  obtain ⟨hmem, hne⟩ := List.mem_filter.mp h
  obtain ⟨line, hline, rfl⟩ := List.mem_map.mp hmem
  exact isName_nameOn (unbroken_of_mem_lines hline) (by simpa using hne)

/-- A text without line breaks is one line. -/
theorem parseNames_of_unbroken {line : Text} (h : Unbroken line) : parseNames line = namesOn [line] := by
  cases line with
  | nil => rfl
  | cons c line => rw [parseNames_eq, lines_of_unbroken h (List.cons_ne_nil c line)]

/-- A name is parsed as the one name that it is. -/
theorem IsName.parseNames_eq {name : Text} (h : IsName name) : parseNames name = [name] := by
  rw [parseNames_of_unbroken h.unbroken, namesOn_eq_iff h.unbroken]
  exact .name h ⟨[], [], [], rfl, rfl, by simp, by simp⟩

/-- At a line break a list may be cut in two, unless the break is cut itself. -/
theorem parseNames_append_of_break {t u : Text} {c : Char} (hlast : t.getLast? = some c) (hc : Text.isLineBreak c = true)
    (hu : c = '\r' → u.head? ≠ some '\n') : parseNames (t ++ u) = parseNames t ++ parseNames u := by
  rw [parseNames_eq, lines_append_of_break hlast hc hu, namesOn_append]
  rfl

/-- A line break at the end adds no name. -/
theorem parseNames_append_singleton {c : Char} (hc : Text.isLineBreak c = true) (t : Text) :
    parseNames (t ++ [c]) = parseNames t := by
  obtain ⟨blank, hlines, hblank⟩ := lines_append_break hc t
  rw [parseNames_eq, hlines, namesOn_append, namesOn_of_forall_nil hblank, List.append_nil]
  rfl

/-- A line break between two texts puts their lists of names together. -/
theorem parseNames_append_break {c : Char} (hc : Text.isLineBreak c = true) (t u : Text) :
    parseNames (t ++ c :: u) = parseNames t ++ parseNames u := by
  rw [List.append_cons]
  by_cases hmeet : c = '\r' ∧ u.head? = some '\n'
  · obtain ⟨rfl, hu⟩ := hmeet
    obtain ⟨u, rfl⟩ := List.head?_eq_some_iff.mp hu
    -- the two breaks are one, so the seam is behind the line feed
    have hfeed : parseNames ('\n' :: u) = parseNames u := rfl
    rw [List.append_cons, parseNames_append_of_break List.getLast?_concat rfl fun h => absurd h (by decide),
      parseNames_append_singleton rfl, parseNames_append_singleton hc, hfeed]
  · rw [parseNames_append_of_break List.getLast?_concat hc fun hreturn hu => hmeet ⟨hreturn, hu⟩,
      parseNames_append_singleton hc]

/-- Names written one on a line list themselves. -/
theorem parseNames_intercalate {names : List Text} (h : ∀ name ∈ names, IsName name) :
    parseNames (['\n'].intercalate names) = names := by
  induction names with
  | nil => rfl
  | cons name rest ih =>
    have hname := h name List.mem_cons_self
    have hrest := ih fun other hother => h other (List.mem_cons_of_mem _ hother)
    cases rest with
    | nil => rw [List.intercalate_singleton, hname.parseNames_eq]
    | cons other rest =>
      rw [List.intercalate_cons_cons, List.append_assoc, List.singleton_append, parseNames_append_break rfl,
        hname.parseNames_eq, hrest]
      rfl

/-- What a text lists are names. Exactly the lists of names list themselves when they are written one on a line, so what is
listed lists the same again. A line lists the name that it holds, and any line break between two texts, a line feed or
another one, puts their lists together, whatever the first one ends with. -/
theorem name_lists_normalise_and_concatenate (t : Text) :
    (∀ name ∈ parseNames t, IsName name) ∧
      parseNames (['\n'].intercalate (parseNames t)) = parseNames t ∧
      (∀ names, parseNames (['\n'].intercalate names) = names ↔ ∀ name ∈ names, IsName name) ∧
      (∀ line, Unbroken line → ∀ names, parseNames line = names ↔ Lists line names) ∧
      ∀ c, Text.isLineBreak c = true → ∀ u, parseNames (t ++ c :: u) = parseNames t ++ parseNames u := by
  have hnames : ∀ name ∈ parseNames t, IsName name := fun name => isName_of_mem_parseNames
  refine ⟨hnames, parseNames_intercalate hnames, fun names => ⟨fun h => ?_, parseNames_intercalate⟩, fun line h names => ?_,
    fun c hc u => parseNames_append_break hc t u⟩
  · rw [← h]
    exact fun name => isName_of_mem_parseNames
  · rw [parseNames_of_unbroken h, namesOn_eq_iff h]

/-- A carriage return at the end of the first text meets the line feed at the seam. Behind the seam the name stands between
whitespace that is no line break and a comment. -/
theorem name_lists_normalise_and_concatenate_at_return :
    "cot".toList ∈ parseNames "sec\u2028 cot #x\r".toList ∧ IsName "cot".toList ∧
      Unbroken "\x1fcsc\t# cos".toList ∧ Lists "\x1fcsc\t# cos".toList ["csc".toList] ∧ Text.isLineBreak '\n' = true ∧
      parseNames ("sec\u2028 cot #x\r".toList ++ '\n' :: "\x1fcsc\t# cos".toList) =
        parseNames "sec\u2028 cot #x\r".toList ++ parseNames "\x1fcsc\t# cos".toList := by
  obtain ⟨hnames, -, -, hline, hbreak⟩ := name_lists_normalise_and_concatenate "sec\u2028 cot #x\r".toList
  have hcot : "cot".toList ∈ parseNames "sec\u2028 cot #x\r".toList := by decide
  have hunbroken : Unbroken "\x1fcsc\t# cos".toList := by decide
  exact ⟨hcot, hnames _ hcot, hunbroken, (hline _ hunbroken _).mp (by decide), rfl, hbreak _ rfl _⟩

end Registry

end ExprLex
