import ExprLex.Fixture.Basic
import ExprLex.Proofs.Separators
import ExprLex.Proofs.Views
import Mathlib.Data.List.Basic

/-!
# Directives stand anywhere

The lines of a fixture are of four kinds: expressions, lists of function names, expectations, and all other lines, which are
blank or comments. No line is of two kinds. The first expression counts, the last list of names, and for each field the last
expectation, so it does not matter how the lines of different kinds are interleaved, nor what other lines there are.
-/

namespace ExprLex

namespace Fixture

/-! ## What a line says -/

/-- A comment with a keyword and a text behind it. There may be whitespace around the whole and around the keyword. -/
def IsDirective (keyword : String) (line text : Text) : Prop :=
  ∃ gap gap' : Text, Text.isBlank gap = true ∧ Text.isBlank gap' = true ∧
    Text.trim line = '#' :: (gap ++ keyword.toList ++ gap' ++ text) ∧ ∀ c, text.head? = some c → isWhitespace c = false

/-- A line that gives a list of function names. -/
def GivesFunctions (line : Text) (names : List Text) : Prop :=
  ∃ items, IsDirective "FUNCTIONS:" line items ∧ names = Text.commaItems items

/-- A line that gives an expectation about a field: its name, an equals sign and the value, where whitespace in the value
counts as one space and as none at its ends. -/
def GivesExpectation (field : Field) (line value : Text) : Prop :=
  ∃ gap raw, IsDirective "EXPECT:" line (field.name.toList ++ gap ++ '=' :: raw) ∧ Text.isBlank gap = true ∧
    value = Text.normaliseSpaces raw

/-- A keyword that is found behind whitespace, as it starts with something else. -/
def IsKeyword (keyword : String) : Prop := ∃ c rest, keyword.toList = c :: rest ∧ isWhitespace c = false

theorem isKeyword_functions : IsKeyword "FUNCTIONS:" := ⟨'F', _, rfl, by decide⟩

theorem isKeyword_expect : IsKeyword "EXPECT:" := ⟨'E', _, rfl, by decide⟩

/-- What stands behind a keyword on a line is the text of a directive. -/
theorem afterKeyword?_trim_eq_some_iff {keyword : String} (hkeyword : IsKeyword keyword) {line text : Text} :
    afterKeyword? keyword (Text.trim line) = some text ↔ IsDirective keyword line text := by
  obtain ⟨first, more, hfirst, hvisible⟩ := hkeyword
  unfold IsDirective
  generalize Text.trim line = t
  constructor
  · intro h
    unfold afterKeyword? at h
    split at h
    · rename_i rest
      obtain ⟨behind, hprefix, hbehind⟩ := Option.map_eq_some_iff.mp h
      rw [List.isPrefixOf?_eq_some_iff_append_eq] at hprefix
      obtain ⟨⟨gap, hgap, hrest⟩, -⟩ := trimLeft_eq_iff.mp hprefix.symm
      obtain ⟨⟨gap', hgap', rfl⟩, hhead⟩ := trimLeft_eq_iff.mp hbehind
      exact ⟨gap, gap', hgap, hgap', by rw [hrest]; simp only [List.append_assoc], hhead⟩
    · cases h
  · rintro ⟨gap, gap', hgap, hgap', rfl, hhead⟩
    have htrim : Text.trimLeft (gap ++ keyword.toList ++ gap' ++ text) = keyword.toList ++ (gap' ++ text) := by
      refine trimLeft_eq_iff.mpr ⟨⟨gap, hgap, by simp only [List.append_assoc]⟩, ?_⟩
      intro c hc
      rw [hfirst] at hc
      cases hc
      exact hvisible
    have hprefix : keyword.toList.isPrefixOf? (keyword.toList ++ (gap' ++ text)) = some (gap' ++ text) :=
      List.isPrefixOf?_eq_some_iff_append_eq.mpr rfl
    rw [afterKeyword?, htrim, hprefix, Option.map_some, trimLeft_eq_iff.mpr ⟨⟨gap', hgap', rfl⟩, hhead⟩]

/-- The value of a field stands behind its name and an equals sign, with single spaces. -/
theorem valueOf?_eq_some_iff {t value : Text} {field : Field} : valueOf? t field = some value ↔
    ∃ gap raw, t = field.name.toList ++ gap ++ '=' :: raw ∧ Text.isBlank gap = true ∧ value = Text.normaliseSpaces raw := by
  constructor
  · intro h
    unfold valueOf? at h
    split at h
    · rename_i raw hmap
      obtain ⟨behind, hprefix, hbehind⟩ := Option.map_eq_some_iff.mp hmap
      rw [List.isPrefixOf?_eq_some_iff_append_eq] at hprefix
      obtain ⟨⟨gap, hgap, rfl⟩, -⟩ := trimLeft_eq_iff.mp hbehind
      exact ⟨gap, raw, by rw [← hprefix, List.append_assoc], hgap, (Option.some.inj h).symm⟩
    · cases h
  · rintro ⟨gap, raw, rfl, hgap, rfl⟩
    have hprefix : field.name.toList.isPrefixOf? (field.name.toList ++ gap ++ '=' :: raw) = some (gap ++ '=' :: raw) :=
      List.isPrefixOf?_eq_some_iff_append_eq.mpr (List.append_assoc _ _ _).symm
    have htrim : Text.trimLeft (gap ++ '=' :: raw) = '=' :: raw := by
      refine trimLeft_eq_iff.mpr ⟨⟨gap, hgap, rfl⟩, ?_⟩
      intro c hc
      cases hc
      decide
    rw [valueOf?, hprefix, Option.map_some, htrim]
    rfl

/-- The names of two fields start with different characters. -/
theorem eq_of_name_append {field other : Field} {t u : Text} (h : field.name.toList ++ t = other.name.toList ++ u) :
    field = other := by
  cases field <;> cases other <;> first | rfl | simp [Field.name] at h

/-- The function names that a line gives. -/
def functionsOf? (line : Text) : Option (List Text) :=
  (afterKeyword? "FUNCTIONS:" (Text.trim line)).map Text.commaItems

/-- The field that a line gives an expectation about, and the value. -/
def expectationOf? (line : Text) : Option (Field × Text) :=
  (afterKeyword? "EXPECT:" (Text.trim line)).bind fun e => Field.all.findSome? fun f => (valueOf? e f).map (f, ·)

/-- A line gives function names if it is such a directive. -/
theorem functionsOf?_eq_some_iff {line : Text} {names : List Text} :
    functionsOf? line = some names ↔ GivesFunctions line names := by
  simp only [functionsOf?, GivesFunctions, Option.map_eq_some_iff, afterKeyword?_trim_eq_some_iff isKeyword_functions,
    eq_comm (a := names)]

/-- At most one field is found at the start of a text. -/
theorem findSome?_valueOf?_eq_some_iff {t value : Text} {field : Field} :
    (Field.all.findSome? fun f => (valueOf? t f).map (f, ·)) = some (field, value) ↔ valueOf? t field = some value := by
  have hsound : ∀ {f v}, (Field.all.findSome? fun f => (valueOf? t f).map (f, ·)) = some (f, v) →
      valueOf? t f = some v := by
    intro f v h
    obtain ⟨f', -, hf'⟩ := List.exists_of_findSome?_eq_some h
    obtain ⟨v', hv', hpair⟩ := Option.map_eq_some_iff.mp hf'
    cases hpair
    exact hv'
  refine ⟨hsound, fun h => ?_⟩
  cases hfound : Field.all.findSome? fun f => (valueOf? t f).map (f, ·) with
  | none =>
    have hall : field ∈ Field.all := by cases field <;> decide
    have hnone := List.findSome?_eq_none_iff.mp hfound field hall
    rw [h] at hnone
    cases hnone
  | some found =>
    obtain ⟨f, v⟩ := found
    have hv := hsound hfound
    obtain ⟨gap, raw, ht, -, -⟩ := valueOf?_eq_some_iff.mp h
    obtain ⟨gap', raw', ht', -, -⟩ := valueOf?_eq_some_iff.mp hv
    rw [ht, List.append_assoc, List.append_assoc] at ht'
    obtain rfl := eq_of_name_append ht'
    cases h.symm.trans hv
    rfl

/-- A line gives what is expected of a field if it is such a directive. -/
theorem expectationOf?_eq_some_iff {line : Text} {field : Field} {value : Text} :
    expectationOf? line = some (field, value) ↔ GivesExpectation field line value := by
  simp only [expectationOf?, GivesExpectation, Option.bind_eq_some_iff, findSome?_valueOf?_eq_some_iff,
    valueOf?_eq_some_iff, afterKeyword?_trim_eq_some_iff isKeyword_expect]
  constructor
  · rintro ⟨e, he, gap, raw, rfl, hgap, hvalue⟩
    exact ⟨gap, raw, he, hgap, hvalue⟩
  · rintro ⟨gap, raw, he, hgap, hvalue⟩
    exact ⟨_, he, gap, raw, rfl, hgap, hvalue⟩

/-! ## No line is of two kinds -/

/-- A directive is no expression. -/
theorem not_isExpressionLine_of_isDirective {keyword : String} {line text : Text} (h : IsDirective keyword line text) :
    isExpressionLine line = false := by
  obtain ⟨gap, gap', -, -, hline, -⟩ := h
  rw [isExpressionLine, hline]
  rfl

/-- A line starts with one keyword only. -/
theorem not_isDirective_of_isDirective {line text text' : Text} (h : IsDirective "FUNCTIONS:" line text) :
    ¬ IsDirective "EXPECT:" line text' := by
  intro h'
  have hfunctions := (afterKeyword?_trim_eq_some_iff isKeyword_functions).mpr h
  have hexpect := (afterKeyword?_trim_eq_some_iff isKeyword_expect).mpr h'
  revert hfunctions hexpect
  generalize Text.trim line = t
  unfold afterKeyword?
  split
  · rename_i rest
    generalize Text.trimLeft rest = u
    intro hfunctions hexpect
    obtain ⟨b, hb, -⟩ := Option.map_eq_some_iff.mp hfunctions
    obtain ⟨b', hb', -⟩ := Option.map_eq_some_iff.mp hexpect
    rw [List.isPrefixOf?_eq_some_iff_append_eq] at hb hb'
    rw [← hb] at hb'
    simp at hb'
  · intro h
    cases h

/-- A line that gives function names is nothing else. -/
theorem of_functionsOf? {line : Text} {names : List Text} (h : functionsOf? line = some names) :
    isExpressionLine line = false ∧ expectationOf? line = none := by
  obtain ⟨items, hitems, -⟩ := functionsOf?_eq_some_iff.mp h
  refine ⟨not_isExpressionLine_of_isDirective hitems, ?_⟩
  rw [Option.eq_none_iff_forall_not_mem]
  rintro ⟨field, value⟩ he
  obtain ⟨gap, raw, hdirective, -⟩ := expectationOf?_eq_some_iff.mp he
  exact not_isDirective_of_isDirective hitems hdirective

/-- A line that gives an expectation is nothing else. -/
theorem of_expectationOf? {line : Text} {e : Field × Text} (h : expectationOf? line = some e) :
    isExpressionLine line = false ∧ functionsOf? line = none := by
  obtain ⟨gap, raw, hdirective, -⟩ := expectationOf?_eq_some_iff.mp h
  refine ⟨not_isExpressionLine_of_isDirective hdirective, ?_⟩
  rw [Option.eq_none_iff_forall_not_mem]
  intro names hnames
  cases h.symm.trans (of_functionsOf? hnames).2

/-- An expression is no directive. -/
theorem of_isExpressionLine {line : Text} (h : isExpressionLine line = true) :
    expectationOf? line = none ∧ functionsOf? line = none := by
  constructor
  · rw [Option.eq_none_iff_forall_not_mem]
    intro e he
    cases h.symm.trans (of_expectationOf? he).1
  · rw [Option.eq_none_iff_forall_not_mem]
    intro names hnames
    cases h.symm.trans (of_functionsOf? hnames).1

/-! ## What the lines make of a fixture -/

theorem Line.ofText_eq (line : Text) : ofText line =
    match functionsOf? line, expectationOf? line with
    | some names, _ => .functions names
    | none, some (field, value) => .expect field value
    | none, none => if isExpressionLine line then .expression else .remark := by
  simp only [ofText, functionsOf?, expectationOf?]
  generalize ((afterKeyword? "EXPECT:" (Text.trim line)).bind fun e =>
    Field.all.findSome? fun f => (valueOf? e f).map (f, ·)) = expectation
  cases afterKeyword? "FUNCTIONS:" (Text.trim line) with
  | some items => rfl
  | none => cases expectation <;> rfl

/-- What one more line makes of a fixture. -/
theorem addLine_eq (fx : Fixture) (line : Text) : fx.addLine line =
    ⟨fx.expression.or (if isExpressionLine line then some line else none),
      (expectationOf? line).elim fx.expected fun e => fx.expected.put e.1 e.2,
      (functionsOf? line).or fx.functions⟩ := by
  rw [addLine, Line.ofText_eq]
  cases hfunctions : functionsOf? line with
  | some names =>
    obtain ⟨hexpression, hexpectation⟩ := of_functionsOf? hfunctions
    rw [hexpectation, hexpression]
    simp
  | none =>
    cases hexpectation : expectationOf? line with
    | some e =>
      rw [(of_expectationOf? hexpectation).1]
      simp
    | none =>
      cases isExpressionLine line <;> simp

/-- A fixture with more lines: the first expression counts, the expectations are put one after another, and the last list of
names counts. -/
theorem foldl_addLine (fx : Fixture) (lines : List Text) : lines.foldl addLine fx =
    ⟨fx.expression.or (lines.find? isExpressionLine),
      (lines.filterMap expectationOf?).foldl (fun m e => m.put e.1 e.2) fx.expected,
      (lines.filterMap functionsOf?).getLast?.or fx.functions⟩ := by
  induction lines generalizing fx with
  | nil => simp
  | cons line rest ih =>
    rw [List.foldl_cons, ih, addLine_eq, mk.injEq]
    refine ⟨?_, ?_, ?_⟩
    · rw [List.find?_cons]
      cases isExpressionLine line <;> simp
    · cases he : expectationOf? line <;> simp [he]
    · cases hf : functionsOf? line <;> simp [hf, List.getLast?_cons]

/-- A fixture is put together from what its lines give, sort by sort. -/
theorem parse_eq (source : Text) : parse source =
    ⟨source.lines.find? isExpressionLine, (source.lines.filterMap expectationOf?).foldl (fun m e => m.put e.1 e.2) [],
      (source.lines.filterMap functionsOf?).getLast?⟩ := by
  rw [parse, foldl_addLine]
  simp

/-! ## The last line that counts -/

/-- What the last of some lines to give anything gives, if one of them gives anything. -/
def LastGiven {α : Type} (gives : Text → α → Prop) (lines : List Text) : Option α → Prop
  | none => ∀ l ∈ lines, ∀ x, ¬ gives l x
  | some x => ∃ above l below, lines = above ++ l :: below ∧ gives l x ∧ ∀ m ∈ below, ∀ y, ¬ gives m y

/-- The last line that gives something decides. -/
theorem lastGiven_filterMap {α : Type} {gives : Text → α → Prop} {given? : Text → Option α}
    (h : ∀ l x, given? l = some x ↔ gives l x) (lines : List Text) :
    LastGiven gives lines (lines.filterMap given?).getLast? := by
  induction lines using List.reverseRecOn with
  | nil => exact fun l hl => absurd hl List.not_mem_nil
  | append_singleton lines l ih =>
    rw [List.filterMap_append]
    cases hl : given? l with
    | some x =>
      have hlast : (lines.filterMap given? ++ [l].filterMap given?).getLast? = some x := by simp [hl]
      rw [hlast]
      exact ⟨lines, l, [], rfl, (h l x).mp hl, fun m hm => absurd hm List.not_mem_nil⟩
    | none =>
      have hsilent : ∀ x, ¬ gives l x := by
        intro x hx
        cases hl.symm.trans ((h l x).mpr hx)
      have hlast : lines.filterMap given? ++ [l].filterMap given? = lines.filterMap given? := by simp [hl]
      rw [hlast]
      cases hbefore : (lines.filterMap given?).getLast? with
      | none =>
        rw [hbefore] at ih
        intro m hm
        rcases List.mem_append.mp hm with hm | hm
        · exact ih m hm
        · exact List.mem_singleton.mp hm ▸ hsilent
      | some x =>
        rw [hbefore] at ih
        obtain ⟨above, m, below, rfl, hm, hbelow⟩ := ih
        refine ⟨above, m, below ++ [l], by simp, hm, ?_⟩
        intro m' hm'
        rcases List.mem_append.mp hm' with hm' | hm'
        · exact hbelow m' hm'
        · exact List.mem_singleton.mp hm' ▸ hsilent

/-- Of the values put for a key the last one stays. -/
theorem get?_foldl_put (entries : List (Field × Text)) (m : Keyed Field Text) (field : Field) :
    (entries.foldl (fun m e => m.put e.1 e.2) m).get? field =
      (entries.filterMap fun e => if e.1 = field then some e.2 else none).getLast?.or (m.get? field) := by
  induction entries generalizing m with
  | nil => simp
  | cons e rest ih =>
    rw [List.foldl_cons, ih]
    by_cases he : e.1 = field
    · simp [he, Keyed.get?_put_self, List.getLast?_cons]
    · simp [he, Keyed.get?_put_other _ (Ne.symm he)]

/-- The value that a line gives a field. -/
def valueFor? (field : Field) (line : Text) : Option Text :=
  (expectationOf? line).bind fun e => if e.1 = field then some e.2 else none

/-- A line gives a value for a field if it gives an expectation of that field. -/
theorem valueFor?_eq_some_iff {field : Field} {line value : Text} :
    valueFor? field line = some value ↔ GivesExpectation field line value := by
  rw [← expectationOf?_eq_some_iff, valueFor?]
  cases expectationOf? line with
  | none => simp
  | some e =>
    obtain ⟨f, v⟩ := e
    simp

/-- The expected value of a field is the last one that a line gives it. -/
theorem get?_expected (source : Text) (field : Field) :
    (parse source).expected.get? field = (source.lines.filterMap (valueFor? field)).getLast? := by
  rw [parse_eq, get?_foldl_put, List.filterMap_filterMap, Keyed.get?, Option.or_none]
  rfl

/-! ## Lines put together -/

/-- Lines with expressions, lines with expectations and lines with function names put together in any way, each kind in its
own order, with lines of no kind anywhere between them: blank lines and other comments, among them expectations about what is
no field. -/
inductive Interleaved : (expressions expectations functions lines : List Text) → Prop where
  | nil : Interleaved [] [] [] []
  | expression {l : Text} {es xs fs ls : List Text} (h : isExpressionLine l = true) (hrest : Interleaved es xs fs ls) :
      Interleaved (l :: es) xs fs (l :: ls)
  | expectation {l : Text} {es xs fs ls : List Text} {field : Field} {value : Text} (h : GivesExpectation field l value)
      (hrest : Interleaved es xs fs ls) : Interleaved es (l :: xs) fs (l :: ls)
  | functions {l : Text} {es xs fs ls : List Text} {names : List Text} (h : GivesFunctions l names)
      (hrest : Interleaved es xs fs ls) : Interleaved es xs (l :: fs) (l :: ls)
  | other {l : Text} {es xs fs ls : List Text} (h : isExpressionLine l = false)
      (hexpectation : ∀ field value, ¬ GivesExpectation field l value) (hfunctions : ∀ names, ¬ GivesFunctions l names)
      (hrest : Interleaved es xs fs ls) : Interleaved es xs fs (l :: ls)

/-- What is read from lines that are put together is read from the lines of one kind each. -/
theorem Interleaved.read {es xs fs ls : List Text} (h : Interleaved es xs fs ls) :
    ls.find? isExpressionLine = es.head? ∧ ls.filterMap expectationOf? = xs.filterMap expectationOf? ∧
      ls.filterMap functionsOf? = fs.filterMap functionsOf? := by
  induction h with
  | nil => exact ⟨rfl, rfl, rfl⟩
  | expression h hrest ih =>
    obtain ⟨hexpectation, hfunctions⟩ := of_isExpressionLine h
    simp [h, hexpectation, hfunctions, ih]
  | expectation h hrest ih =>
    have h := expectationOf?_eq_some_iff.mpr h
    obtain ⟨hexpression, hfunctions⟩ := of_expectationOf? h
    simp [h, hexpression, hfunctions, ih]
  | functions h hrest ih =>
    have h := functionsOf?_eq_some_iff.mpr h
    obtain ⟨hexpression, hexpectation⟩ := of_functionsOf? h
    simp [h, hexpression, hexpectation, ih]
  | @other l es xs fs ls h hexpectation hfunctions hrest ih =>
    have hx : expectationOf? l = none := by
      rw [Option.eq_none_iff_forall_not_mem]
      rintro ⟨field, value⟩ he
      exact hexpectation field value (expectationOf?_eq_some_iff.mp he)
    have hf : functionsOf? l = none := by
      rw [Option.eq_none_iff_forall_not_mem]
      intro names hnames
      exact hfunctions names (functionsOf?_eq_some_iff.mp hnames)
    simp [h, hx, hf, ih]

/-- Directives stand anywhere: the expression of a fixture is its first expression line, its function names are those of the
last line that gives any, and the expected value of a field is that of the last line that gives it one. So two texts with the
same lines of each kind in the same order, put together in any way and with any other lines between them, are one fixture. -/
theorem directives_stand_anywhere (source : Text) :
    (parse source).expression = source.lines.find? isExpressionLine ∧
      LastGiven GivesFunctions source.lines (parse source).functions ∧
      (∀ field, LastGiven (GivesExpectation field) source.lines ((parse source).expected.get? field)) ∧
      ∀ (es xs fs : List Text) (other : Text), Interleaved es xs fs source.lines → Interleaved es xs fs other.lines →
        parse other = parse source := by
  refine ⟨?_, ?_, ?_, ?_⟩
  · rw [parse_eq]
  · rw [parse_eq]
    exact lastGiven_filterMap (fun _ _ => functionsOf?_eq_some_iff) source.lines
  · intro field
    rw [get?_expected]
    exact lastGiven_filterMap (fun _ _ => valueFor?_eq_some_iff) source.lines
  · intro es xs fs other h h'
    obtain ⟨hexpression, hexpectations, hfunctions⟩ := h.read
    obtain ⟨hexpression', hexpectations', hfunctions'⟩ := h'.read
    rw [parse_eq, parse_eq, hexpression, hexpression', hexpectations, hexpectations', hfunctions, hfunctions']

/-- Two expressions with an expectation between them, and function names at the end. -/
def namesLast : Text := "1\n#EXPECT:codes=a\n x\n#FUNCTIONS: f".toList

/-- The same lines with the names first and the expressions last, with a blank line and a note between them. -/
def namesFirst : Text := "#FUNCTIONS: f\r\n\r\n#EXPECT:codes=a\r# f\n1\n x\n".toList

/-- The names may come first or last. -/
theorem directives_stand_anywhere_names_first : ∃ es xs fs : List Text,
    Interleaved es xs fs namesLast.lines ∧ Interleaved es xs fs namesFirst.lines ∧ parse namesFirst = parse namesLast := by
  have hlast : namesLast.lines = ["1".toList, "#EXPECT:codes=a".toList, " x".toList, "#FUNCTIONS: f".toList] := by
    decide +kernel
  have hfirst : namesFirst.lines = ["#FUNCTIONS: f".toList, [], "#EXPECT:codes=a".toList, "# f".toList, "1".toList,
      " x".toList] := by decide +kernel
  have hexpectation : GivesExpectation .codes "#EXPECT:codes=a".toList ['a'] :=
    expectationOf?_eq_some_iff.mp (by decide +kernel)
  have hfunctions : GivesFunctions "#FUNCTIONS: f".toList [['f']] := functionsOf?_eq_some_iff.mp (by decide +kernel)
  have hother : ∀ l : Text, expectationOf? l = none → functionsOf? l = none →
      (∀ field value, ¬ GivesExpectation field l value) ∧ ∀ names, ¬ GivesFunctions l names := by
    intro l hx hf
    constructor
    · intro field value h
      cases hx.symm.trans (expectationOf?_eq_some_iff.mpr h)
    · intro names h
      cases hf.symm.trans (functionsOf?_eq_some_iff.mpr h)
  obtain ⟨hblank, hblank'⟩ := hother [] (by decide) (by decide)
  obtain ⟨hnote, hnote'⟩ := hother "# f".toList (by decide +kernel) (by decide +kernel)
  have hone : isExpressionLine "1".toList = true := by decide
  have hname : isExpressionLine " x".toList = true := by decide
  have hlines : Interleaved ["1".toList, " x".toList] ["#EXPECT:codes=a".toList] ["#FUNCTIONS: f".toList]
      namesLast.lines := by
    rw [hlast]
    exact .expression hone (.expectation hexpectation (.expression hname (.functions hfunctions .nil)))
  have hlines' : Interleaved ["1".toList, " x".toList] ["#EXPECT:codes=a".toList] ["#FUNCTIONS: f".toList]
      namesFirst.lines := by
    rw [hfirst]
    exact .functions hfunctions (.other (by decide) hblank hblank' (.expectation hexpectation
      (.other (by decide) hnote hnote' (.expression hone (.expression hname .nil)))))
  exact ⟨_, _, _, hlines, hlines', (directives_stand_anywhere namesLast).2.2.2 _ _ _ _ hlines hlines'⟩

end Fixture

end ExprLex
