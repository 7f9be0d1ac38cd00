import ExprLex.Fixture.Run
import ExprLex.Proofs.Directives
import ExprLex.Proofs.FileBytes
import ExprLex.Proofs.PrintedLines

/-!
# Fixtures written from what they give

The value that a fixture gives for a field is a list of words; a number is one word. Written into a line behind the fixture it
is read back as it is: no line break cuts it, and its words stand apart by single spaces. The lines behind a fixture are the
last, so it is their values that count, and they change neither its expression nor its function names. So a fixture with the
values that it gives passes, and with any other value for some field it fails.
-/

namespace ExprLex

namespace Fixture

/-! ## What a fixture gives -/

/-- What a fixture with an expression gives for a field. -/
def result (fx : Fixture) (expression : Text) (field : Field) : Text :=
  (actual (fx.tokens expression) (reported false (diagnose (fx.tokens expression))) field).toList

/-- Words with single spaces between them are words. -/
theorem exists_words_of_map {α : Type} {as : List α} {f : α → String} (h : ∀ a ∈ as, SingleWord (f a).toList) :
    ∃ ws, (" ".intercalate (as.map f)).toList = [' '].intercalate ws ∧ ∀ w ∈ ws, SingleWord w := by
  refine ⟨as.map fun a => (f a).toList, ?_, by simpa using h⟩
  rw [String.toList_intercalate, List.map_map]
  rfl

/-- What a fixture gives for a field is some words with single spaces between them. -/
theorem exists_words_result (fx : Fixture) (expression : Text) (field : Field) :
    ∃ ws, fx.result expression field = [' '].intercalate ws ∧ ∀ w ∈ ws, SingleWord w := by
  have hnumber : ∀ n : Nat, ∃ ws, (toString n).toList = [' '].intercalate ws ∧ ∀ w ∈ ws, SingleWord w :=
    fun n => ⟨[(toString n).toList], (List.intercalate_singleton).symm, by simpa using singleWord_nat n⟩
  cases field with
  | tokens => exact hnumber _
  | kinds => exact exists_words_of_map fun t _ => singleWord_spelling t.kind
  | positions => exact exists_words_of_map fun t _ => singleWord_int t.position
  | diagnostics => exact hnumber _
  | codes =>
    apply exists_words_of_map
    intro d hd
    obtain ⟨t, -, ht⟩ := exists_token_of_mem_diagnose (List.mem_filter.mp hd).1
    exact ht.singleWord_code

/-- A result has single spaces already. -/
theorem normaliseSpaces_result (fx : Fixture) (expression : Text) (field : Field) :
    Text.normaliseSpaces (fx.result expression field) = fx.result expression field := by
  obtain ⟨ws, hresult, hws⟩ := fx.exists_words_result expression field
  rw [hresult, normaliseSpaces_intercalate hws]

/-- A result is one line. -/
theorem unbroken_result (fx : Fixture) (expression : Text) (field : Field) : Unbroken (fx.result expression field) := by
  obtain ⟨ws, hresult, hws⟩ := fx.exists_words_result expression field
  rw [hresult]
  exact unbroken_intercalate hws

/-! ## When a fixture passes -/

/-- There is one expectation for each field. -/
theorem nodup_keys_expected (source : Text) : (parse source).expected.keys.Nodup := by
  have hput : ∀ (entries : List (Field × Text)) (m : Keyed Field Text), m.keys.Nodup →
      (entries.foldl (fun m e => m.put e.1 e.2) m).keys.Nodup := by
    intro entries
    induction entries with
    | nil => exact fun m hm => hm
    | cons e rest ih => exact fun m hm => ih _ (Keyed.nodup_keys_put hm e.1 e.2)
  rw [parse_eq]
  exact hput _ [] List.nodup_nil

/-- A fixture passes if what it expects is what it gives. -/
theorem check_fst_eq_true_iff (source expression : Text) : ((parse source).check expression).1 = true ↔
    ∀ field want, (parse source).expected.get? field = some want → want = (parse source).result expression field := by
  simp only [check, List.isEmpty_iff, mismatches, List.filterMap_eq_nil_iff, ← Keyed.mem_iff_get? (nodup_keys_expected source)]
  constructor
  · intro h field want hmem
    have h := h (field, want) hmem
    simp only [ite_eq_left_iff, reduceCtorEq, imp_false, not_not] at h
    exact h.symm
  · rintro h ⟨field, want⟩ hmem
    rw [h field want hmem]
    exact if_pos rfl

/-- The run of a fixture that can be read. -/
theorem run_fst {files : FileSystem} {path source expression : Text} (hread : files.read path = .ok source)
    (he : (parse source).expression = some expression) :
    (run files path).1 = .ok ((parse source).check expression).1 := by
  have hthere : files.isThere path = .ok true := by rw [FileSystem.isThere, hread]
  simp only [run, hthere, hread, he]

/-! ## Lines behind a fixture -/

/-- The line that states an expectation about a field. -/
def expectLine (field : Field) (value : Text) : Text := "# EXPECT: ".toList ++ field.name.toList ++ " = ".toList ++ value

/-- A text with lines added behind it. The first of them starts behind a line break, which may be there already, and the last
one may end with a line feed. -/
def AddsLines (source : Text) (added : List Text) (text : Text) : Prop :=
  ∃ seam ending : Text, text = source ++ seam ++ ['\n'].intercalate added ++ ending ∧
    (seam = ['\n'] ∨ seam = [] ∧ ∃ c, source.getLast? = some c ∧ Text.isLineBreak c = true) ∧
    (ending = [] ∨ ending = ['\n'])

/-- Lines with line feeds between them, and behind the last one or not, are these lines. -/
theorem lines_intercalate {added : List Text} (hne : added ≠ []) (h : ∀ l ∈ added, l ≠ [] ∧ Unbroken l) {ending : Text}
    (hending : ending = [] ∨ ending = ['\n']) : Text.lines (['\n'].intercalate added ++ ending) = added := by
  induction added with
  | nil => exact absurd rfl hne
  | cons l rest ih =>
    obtain ⟨hl, hunbroken⟩ := h l List.mem_cons_self
    cases rest with
    | nil =>
      rw [List.intercalate_singleton]
      rcases hending with rfl | rfl
      · rw [List.append_nil, lines_of_unbroken hunbroken hl]
      · exact lines_append_cons_feed hunbroken []
    | cons m rest =>
      rw [List.intercalate_cons_cons, List.append_assoc, List.append_assoc, List.singleton_append,
        lines_append_cons_feed hunbroken, ih (List.cons_ne_nil m rest) fun x hx => h x (List.mem_cons_of_mem _ hx)]

/-- The lines that are added come last. -/
theorem AddsLines.lines_eq {source text : Text} {added : List Text} (h : AddsLines source added text) (hne : added ≠ [])
    (hadded : ∀ l ∈ added, l ≠ [] ∧ Unbroken l) :
    ∃ blank, text.lines = source.lines ++ blank ++ added ∧ ∀ l ∈ blank, l = [] := by
  obtain ⟨seam, ending, rfl, hseam, hending⟩ := h
  have hbehind : Text.lines (['\n'].intercalate added ++ ending) = added :=
    lines_intercalate hne hadded hending
  have hhead : (['\n'].intercalate added ++ ending).head? ≠ some '\n' := by
    intro h
    obtain ⟨u, hu⟩ := List.head?_eq_some_iff.mp h
    rw [hu, lines_cons_feed] at hbehind
    exact (hadded [] (hbehind ▸ List.mem_cons_self)).1 rfl
  rw [List.append_assoc]
  rcases hseam with rfl | ⟨rfl, c, hlast, hc⟩
  · obtain ⟨blank, hlines, hblank⟩ := lines_append_break (c := '\n') rfl source
    refine ⟨blank, ?_, hblank⟩
    rw [lines_append_of_break List.getLast?_concat rfl fun _ => hhead, hlines, hbehind]
  · refine ⟨[], ?_, fun l hl => absurd hl List.not_mem_nil⟩
    rw [List.append_nil, List.append_nil, lines_append_of_break hlast hc fun _ => hhead, hbehind]

/-! ## Values read back -/

theorem singleWord_name (field : Field) : SingleWord field.name.toList := by
  cases field <;> decide

/-- The line that states an expectation gives it. -/
theorem givesExpectation_expectLine (field : Field) (value : Text) :
    GivesExpectation field (expectLine field value) (Text.normaliseSpaces value) := by
  have hline : expectLine field value =
      ('#' :: ([' '] ++ "EXPECT:".toList ++ [' '] ++ (field.name.toList ++ [' '] ++ ['=']))) ++ ' ' :: value := by
    cases field <;> rfl
  have hlast : ('#' :: ([' '] ++ "EXPECT:".toList ++ [' '] ++ (field.name.toList ++ [' '] ++ ['=']))).getLast? = some '=' := by
    cases field <;> rfl
  have htrim : Text.trim (expectLine field value) =
      '#' :: ([' '] ++ "EXPECT:".toList ++ [' '] ++ (field.name.toList ++ [' '] ++ '=' :: Text.trimRight (' ' :: value))) := by
    have hleft : Text.trimLeft (expectLine field value) = expectLine field value := rfl
    rw [Text.trim, hleft, hline, trimRight_append_of_visible hlast (by decide)]
    cases field <;> rfl
  have hhead : ∀ c, (field.name.toList ++ [' '] ++ '=' :: Text.trimRight (' ' :: value)).head? = some c →
      isWhitespace c = false := by
    intro c hc
    rw [List.append_assoc, List.head?_append_of_ne_nil _ (singleWord_name field).1] at hc
    exact (singleWord_name field).2 c (List.mem_of_head? hc)
  refine ⟨[' '], Text.trimRight (' ' :: value), ⟨[' '], [' '], by decide, by decide, htrim, hhead⟩, by decide, ?_⟩
  rw [Text.normaliseSpaces, Text.normaliseSpaces, words_trimRight, words_cons (by decide)]

/-- A line that states a value is one line if the value is. -/
theorem unbroken_expectLine {field : Field} {value : Text} (h : Unbroken value) : Unbroken (expectLine field value) := by
  have hstart : Unbroken "# EXPECT: ".toList := by decide
  have hsign : Unbroken " = ".toList := by decide
  have hname := (singleWord_name field).unbroken
  exact unbroken_append.mpr ⟨unbroken_append.mpr ⟨unbroken_append.mpr ⟨hstart, hname⟩, hsign⟩, h⟩

/-! ## The fixture with the lines behind it -/

/-- Fixtures read the same, whichever line breaks they have. -/
theorem parse_unifyBreaks (text : Text) : parse (Text.unifyBreaks text) = parse text := by
  rw [parse, parse, lines_unifyBreaks]

theorem result_congr {fx other : Fixture} (h : fx.functions = other.functions) : fx.result = other.result := by
  funext expression field
  simp only [result, tokens, rules, h]

/-- A line that states a value gives it, and no other field. -/
theorem valueFor?_expectLine (field other : Field) (value : Text) :
    valueFor? field (expectLine other value) = if other = field then some (Text.normaliseSpaces value) else none := by
  rw [valueFor?, expectationOf?_eq_some_iff.mpr (givesExpectation_expectLine other value)]
  rfl

/-- What all of the later items are is the last one. -/
theorem getLast?_append_of_forall {α : Type} {l m : List α} {x : α} (hx : x ∈ m) (h : ∀ y ∈ m, y = x) :
    (l ++ m).getLast? = some x := by
  have hne := List.ne_nil_of_mem hx
  rw [List.getLast?_append, List.getLast?_eq_some_getLast hne, Option.some_or, h _ (List.getLast_mem hne)]

section

variable {source text : Text} {order : List Field} {values : Field → Text}
  (h : AddsLines source (order.map fun field => expectLine field (values field)) text)
  (hvalues : ∀ field, Unbroken (values field)) (horder : ∀ field, field ∈ order)
include h hvalues horder

/-- The lines of a fixture with lines added to it. -/
theorem AddsLines.exists_lines : ∃ blank, (∀ l ∈ blank, l = []) ∧
    text.lines = source.lines ++ blank ++ order.map fun field => expectLine field (values field) := by
  have hne : (order.map fun field => expectLine field (values field)) ≠ [] := by
    intro he
    exact List.ne_nil_of_mem (horder .tokens) (List.map_eq_nil_iff.mp he)
  have hadded : ∀ l ∈ order.map fun field => expectLine field (values field), l ≠ [] ∧ Unbroken l := by
    intro l hl
    obtain ⟨field, -, rfl⟩ := List.mem_map.mp hl
    exact ⟨List.cons_ne_nil _ _, unbroken_expectLine (hvalues field)⟩
  obtain ⟨blank, hlines, hblank⟩ := h.lines_eq hne hadded
  exact ⟨blank, hblank, hlines⟩

/-- The lines behind it change neither the expression of a fixture nor its function names. -/
theorem AddsLines.parse_same {expression : Text} (he : (parse source).expression = some expression) :
    (parse text).expression = some expression ∧ (parse text).functions = (parse source).functions := by
  obtain ⟨blank, hblank, hlines⟩ := h.exists_lines hvalues horder
  have hnone : blank.filterMap functionsOf? = [] := by
    apply List.filterMap_eq_nil_iff.mpr
    intro l hl
    rw [hblank l hl]
    rfl
  have hadded : (order.map fun field => expectLine field (values field)).filterMap functionsOf? = [] := by
    apply List.filterMap_eq_nil_iff.mpr
    intro l hl
    obtain ⟨field, -, rfl⟩ := List.mem_map.mp hl
    exact (of_expectationOf? (expectationOf?_eq_some_iff.mpr (givesExpectation_expectLine field (values field)))).2
  rw [parse_eq] at he ⊢
  rw [parse_eq]
  simp only at he ⊢
  rw [hlines, List.find?_append, List.find?_append, he, List.filterMap_append, List.filterMap_append, hnone, hadded,
    List.append_nil, List.append_nil]
  exact ⟨rfl, rfl⟩

/-- The values in the lines behind it are what a fixture expects. -/
theorem AddsLines.get?_expected (field : Field) :
    (parse text).expected.get? field = some (Text.normaliseSpaces (values field)) := by
  obtain ⟨blank, -, hlines⟩ := h.exists_lines hvalues horder
  rw [Fixture.get?_expected, hlines, List.filterMap_append]
  refine getLast?_append_of_forall ?_ ?_
  · refine List.mem_filterMap.mpr ⟨_, List.mem_map_of_mem (horder field), ?_⟩
    rw [valueFor?_expectLine, if_pos rfl]
  · intro value hvalue
    obtain ⟨l, hl, hgives⟩ := List.mem_filterMap.mp hvalue
    obtain ⟨other, -, rfl⟩ := List.mem_map.mp hl
    rw [valueFor?_expectLine] at hgives
    split at hgives
    · rename_i hfield
      rw [← Option.some.inj hgives, hfield]
    · cases hgives

/-- A fixture with lines for all fields behind it passes if their values are what it gives. -/
theorem AddsLines.run_iff {expression : Text} (he : (parse source).expression = some expression) {files : FileSystem}
    {path : Text} (hpath : '\x00' ∉ path) (hfile : files.bytes (.ofText path) = .ok text.toString.toUTF8.toList) :
    ∃ passed, (run files path).1 = .ok passed ∧ (passed = true ↔
      ∀ field, Text.normaliseSpaces (values field) = (parse source).result expression field) := by
  obtain ⟨hexpression, hfunctions⟩ := h.parse_same hvalues horder he
  have hrun := run_fst (FileSystem.read_of_holds hpath hfile) (by rw [parse_unifyBreaks, hexpression])
  rw [parse_unifyBreaks] at hrun
  refine ⟨_, hrun, ?_⟩
  rw [check_fst_eq_true_iff, result_congr hfunctions]
  simp only [h.get?_expected hvalues horder]
  constructor
  · exact fun hall field => hall field _ rfl
  · rintro hall field want ⟨⟩
    exact hall field

end

/-- A fixture written from what it gives passes, and a wrong value for a field makes it fail. Whatever a fixture with an
expression expects, with a line behind it for each field, in any order, that states what it gives for the field, it passes; and
if for one field the line states any other value that no line break cuts, it fails. Values are compared up to whitespace. -/
theorem passes_as_written {source expression path : Text} (he : (parse source).expression = some expression)
    (hpath : '\x00' ∉ path) {order : List Field} (horder : ∀ field, field ∈ order) :
    let result := (parse source).result expression
    let holds := fun (files : FileSystem) (text : Text) => files.bytes (.ofText path) = .ok text.toString.toUTF8.toList
    (∀ files text, AddsLines source (order.map fun f => expectLine f (result f)) text → holds files text →
      (run files path).1 = .ok true) ∧
    ∀ (field : Field) (value : Text), Unbroken value → Text.normaliseSpaces value ≠ result field → ∀ files text,
      AddsLines source (order.map fun f => expectLine f (if f = field then value else result f)) text → holds files text →
      (run files path).1 = .ok false := by
  intro result holds
  have hresult : ∀ field, Unbroken (result field) := (parse source).unbroken_result expression
  constructor
  · intro files text hadds hfile
    obtain ⟨passed, hrun, hpassed⟩ := hadds.run_iff hresult horder he hpath hfile
    rw [hrun, hpassed.mpr fun field => (parse source).normaliseSpaces_result expression field]
  · intro field value hvalue hwrong files text hadds hfile
    have hvalues : ∀ f, Unbroken (if f = field then value else result f) := by
      intro f
      split
      · exact hvalue
      · exact hresult f
    obtain ⟨passed, hrun, hpassed⟩ := hadds.run_iff hvalues horder he hpath hfile
    have hfailed : passed ≠ true := by
      intro hp
      have hf := hpassed.mp hp field
      rw [if_pos rfl] at hf
      exact hwrong hf
    rw [hrun, Bool.eq_false_iff.mpr hfailed]

/-- A fixture with an expectation that does not hold, and without a line break at its end. -/
def outdated : Text := "# EXPECT: tokens = 9\n1 +".toList

/-- The same fixture with what it gives behind it, which is nothing in the case of the codes. -/
def renewed : Text := outdated ++ "\n# EXPECT: codes = \n# EXPECT: tokens = 2\n# EXPECT: positions = 0 2\n".toList ++
  "# EXPECT: kinds = Operand.Numeric Operator.Addition\n# EXPECT: diagnostics = 0".toList

/-- The same with a value of the codes that looks like a line itself. -/
def spoiled : Text := outdated ++ "\n# EXPECT: codes = # EXPECT: codes = \n# EXPECT: tokens = 2\n".toList ++
  "# EXPECT: positions = 0 2\n# EXPECT: kinds = Operand.Numeric Operator.Addition\n# EXPECT: diagnostics = 0".toList

/-- An outdated expectation is renewed, and spoiled again. -/
theorem passes_as_written_outdated :
    (run (.holding renewed) ['e']).1 = .ok true ∧ (run (.holding spoiled) ['e']).1 = .ok false := by
  have horder : ∀ field : Field, field ∈ [.codes, .tokens, .positions, .kinds, .diagnostics] := by
    intro field
    cases field <;> decide
  have he : (parse outdated).expression = some "1 +".toList := by decide +kernel
  have hpath : '\x00' ∉ ['e'] := by decide
  obtain ⟨hpass, hfail⟩ := passes_as_written he hpath horder
  refine ⟨hpass _ renewed ⟨['\n'], [], ?_, Or.inl rfl, Or.inl rfl⟩ (FileSystem.bytes_holding renewed),
    hfail .codes "# EXPECT: codes = ".toList (by decide) ?_ _ spoiled ⟨['\n'], [], ?_, Or.inl rfl, Or.inl rfl⟩
      (FileSystem.bytes_holding spoiled)⟩
  · decide +kernel
  · decide +kernel
  · decide +kernel

end Fixture

end ExprLex
