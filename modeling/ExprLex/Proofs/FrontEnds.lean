import ExprLex.CommandLine.Run
import ExprLex.Proofs.Boundaries
import ExprLex.Proofs.FileBytes
import ExprLex.Proofs.LineByLine
import Mathlib.Data.List.Forall2
import Mathlib.Data.List.TakeWhile

/-!
# The command and the analysis of documents agree

The command cuts a file into lines after its line breaks have been unified, and any line break ends a line there; the
analysis of a document cuts at line feeds alone, so that its lines may end in a carriage return. The command tells comments
by the whitespace in front, the analysis by a line trimmed at both ends. Where a text has no line breaks but line feeds and
carriage returns before them, none of this makes a difference: the expressions are the same but for the carriage returns, and
these are whitespace at the end, which has no part in tokens and diagnostics.
-/

namespace ExprLex

/-! ## Texts with plain line breaks -/

/-- The characters that end lines of a file, but neither lines of a document nor lines of a text with unified breaks. -/
def otherBreaks : List Char := ['\x0b', '\x0c', '\x1c', '\x1d', '\x1e', '\u0085', '\u2028', '\u2029']

/-- A text in which only line feeds end lines, alone or with a carriage return before them. -/
structure PlainBreaks (t : Text) : Prop where
  returns : ∀ i : Nat, t[i]? = some '\r' → t[i + 1]? = some '\n'
  others : ∀ c ∈ otherBreaks, c ∉ t

/-- It is enough to look at the characters that are there. -/
theorem plainBreaks_iff (t : Text) : PlainBreaks t ↔
    (∀ i < t.length, t[i]? = some '\r' → t[i + 1]? = some '\n') ∧ (otherBreaks.all fun c => !t.contains c) = true := by
  constructor
  · intro h
    refine ⟨fun i _ => h.returns i, ?_⟩
    simpa using h.others
  · rintro ⟨hreturns, hothers⟩
    refine ⟨?_, by simpa using hothers⟩
    intro i hi
    exact hreturns i (List.getElem?_eq_some_iff.mp hi).1 hi

instance (t : Text) : Decidable (PlainBreaks t) := decidable_of_iff _ (plainBreaks_iff t).symm

/-- A text whose breaks are plain has plain breaks behind its first character. -/
theorem PlainBreaks.tail {c : Char} {t : Text} (h : PlainBreaks (c :: t)) : PlainBreaks t where
  returns i hi := h.returns (i + 1) hi
  others d hd hm := h.others d hd (List.mem_cons_of_mem _ hm)

/-- A line without the carriage return at its end. -/
def withoutFinalReturn (l : Text) : Text := if l.getLast? = some '\r' then l.dropLast else l

/-- A first character that is no carriage return stays. -/
theorem withoutFinalReturn_cons {c : Char} (hc : c ≠ '\r') (l : Text) :
    withoutFinalReturn (c :: l) = c :: withoutFinalReturn l := by
  unfold withoutFinalReturn
  cases l with
  | nil => simp [hc]
  | cons d l =>
    rw [List.getLast?_cons_cons, List.dropLast_cons_cons]
    split <;> rfl

/-- What is taken from the end of a line is whitespace. -/
theorem exists_blank_withoutFinalReturn (l : Text) :
    ∃ blank, l = withoutFinalReturn l ++ blank ∧ ∀ c ∈ blank, isWhitespace c = true := by
  unfold withoutFinalReturn
  split
  · rename_i h
    refine ⟨['\r'], (List.dropLast_append_getLast? _ h).symm, ?_⟩
    intro c hc
    rw [List.mem_singleton.mp hc]
    decide
  · exact ⟨[], (List.append_nil l).symm, by simp⟩

/-! ## The lines of a file and of a document -/

/-- The document lines of a text with unified breaks are those of the text without the carriage returns at their ends. -/
theorem documentLines_unifyBreaks {t : Text} (h : PlainBreaks t) :
    documentLines (Text.unifyBreaks t) = (documentLines t).map withoutFinalReturn := by
  fun_induction Text.unifyBreaks t with
  | case1 => rfl
  | case2 t ih =>
    rw [documentLines_cons, if_pos rfl, ih h.tail.tail, documentLines_cons, if_neg (by decide), documentLines_cons,
      if_pos rfl]
    rfl
  | case3 t hne ih =>
    have hnext := h.returns 0 rfl
    cases t with
    | nil => cases hnext
    | cons d t =>
      obtain rfl : d = '\n' := by simpa using hnext
      exact absurd rfl (hne t)
  | case4 c t hcr hreturn ih =>
    have hc : c ≠ '\r' := hreturn
    rw [documentLines_cons, documentLines_cons, ih h.tail]
    split
    · rfl
    · obtain ⟨first, rest, ht⟩ := List.exists_cons_of_ne_nil (documentLines_ne_nil t)
      rw [ht, Text.joinFirst, List.map_cons, List.map_cons, withoutFinalReturn_cons hc]
      rfl

/-- After line breaks are unified there are no carriage returns, and no new characters but line feeds. -/
theorem mem_unifyBreaks {t : Text} {c : Char} (h : c ∈ Text.unifyBreaks t) : c ≠ '\r' ∧ (c = '\n' ∨ c ∈ t) := by
  fun_induction Text.unifyBreaks t with
  | case1 => cases h
  | case2 t ih =>
    rcases List.mem_cons.mp h with rfl | h
    · exact ⟨by decide, Or.inl rfl⟩
    · exact ⟨(ih h).1, (ih h).2.imp_right fun hm => List.mem_cons_of_mem _ (List.mem_cons_of_mem _ hm)⟩
  | case3 t hne ih =>
    rcases List.mem_cons.mp h with rfl | h
    · exact ⟨by decide, Or.inl rfl⟩
    · exact ⟨(ih h).1, (ih h).2.imp_right (List.mem_cons_of_mem _)⟩
  | case4 d t hcr hreturn ih =>
    rcases List.mem_cons.mp h with rfl | h
    · exact ⟨hreturn, Or.inr List.mem_cons_self⟩
    · exact ⟨(ih h).1, (ih h).2.imp_right (List.mem_cons_of_mem _)⟩

/-- A line break is a line feed, a carriage return or one of the others. -/
theorem isLineBreak_iff {c : Char} :
    Text.isLineBreak c = true ↔ c = '\n' ∨ c = '\r' ∨ c ∈ otherBreaks := by
  simp [Text.isLineBreak, otherBreaks, or_assoc]

/-- Only line feeds are left where plain breaks are unified. -/
theorem PlainBreaks.eq_feed {t : Text} (h : PlainBreaks t) {c : Char} (hc : c ∈ Text.unifyBreaks t)
    (hb : Text.isLineBreak c = true) : c = '\n' := by
  obtain ⟨hreturn, hmem⟩ := mem_unifyBreaks hc
  rcases isLineBreak_iff.mp hb with hfeed | hr | hother
  · exact hfeed
  · exact absurd hr hreturn
  · rcases hmem with hfeed | hmem
    · exact hfeed
    · exact absurd hmem (h.others c hother)

theorem lines_cons_feed (t : Text) : Text.lines ('\n' :: t) = [] :: Text.lines t := rfl

/-- Any other character begins the first line. -/
theorem lines_cons_of_not_break {c : Char} (hc : Text.isLineBreak c = false) (t : Text) :
    Text.lines (c :: t) = Text.joinFirst c (Text.lines t) := by
  conv => lhs; unfold Text.lines
  split
  · contradiction
  · rename_i heq
    cases heq
    cases hc
  · rename_i heq
    cases heq
    rw [if_neg (by simp [hc])]

/-- Where only line feeds end lines, a document has the lines of a file, and an empty one more behind a line feed at the
end. -/
theorem documentLines_eq_lines {u : Text} (h : ∀ c ∈ u, Text.isLineBreak c = true → c = '\n') :
    documentLines u = Text.lines u ∨ documentLines u = Text.lines u ++ [[]] := by
  induction u with
  | nil => exact Or.inr rfl
  | cons c t ih =>
    have ih := ih fun d hd => h d (List.mem_cons_of_mem _ hd)
    rw [documentLines_cons]
    by_cases hc : c = '\n'
    · rw [if_pos hc, hc, lines_cons_feed]
      exact ih.imp (congrArg _) (congrArg _)
    · have hbreak : Text.isLineBreak c = false := by
        cases hb : Text.isLineBreak c with
        | false => rfl
        | true => exact absurd (h c List.mem_cons_self hb) hc
      rw [if_neg hc, lines_cons_of_not_break hbreak]
      rcases ih with ih | ih
      · exact Or.inl (congrArg _ ih)
      · rw [ih]
        cases Text.lines t with
        | nil => exact Or.inl rfl
        | cons first rest => exact Or.inr rfl

/-! ## Lines that hold an expression -/

/-- What is left of a line without the whitespace in front of it is nothing if the line is blank, and else starts with a
character that is not blank. -/
theorem trimLeft_cases (l : Text) : Text.isBlank l = true ∧ Text.trimLeft l = [] ∨
    ∃ c rest, Text.isBlank l = false ∧ Text.trimLeft l = c :: rest ∧ isWhitespace c = false := by
  cases hl : l.dropWhile isWhitespace with
  | nil => exact Or.inl ⟨List.all_eq_true.mpr (List.dropWhile_eq_nil_iff.mp hl), hl⟩
  | cons c rest =>
    have hc : isWhitespace c = false := by
      have h := List.head?_dropWhile_not isWhitespace l
      rw [hl] at h
      simpa using h
    have hm : c ∈ l := List.dropWhile_subset isWhitespace (hl ▸ List.mem_cons_self)
    exact Or.inr ⟨c, rest, List.all_eq_false.mpr ⟨c, hm, by simp [hc]⟩, hl, hc⟩

/-- A character that is not blank at the start of a text stays there when whitespace is taken from the end. -/
theorem exists_trimRight_cons {c : Char} (hc : isWhitespace c = false) (rest : Text) :
    ∃ more, Text.trimRight (c :: rest) = c :: more := by
  obtain ⟨blank, hsplit, hblank⟩ := trimRight_append (c :: rest)
  cases htrim : Text.trimRight (c :: rest) with
  | nil =>
    rw [htrim, List.nil_append] at hsplit
    rw [hblank c (hsplit ▸ List.mem_cons_self)] at hc
    cases hc
  | cons d more =>
    rw [htrim, List.cons_append] at hsplit
    exact ⟨more, by rw [(List.cons.inj hsplit).1]⟩

/-- The test of the analysis for lines that hold an expression is that of the command. -/
theorem isExpressionLine_eq (l : Text) :
    isExpressionLine l = (!Text.isBlank l && (Text.trimLeft l).head? != some '#') := by
  unfold isExpressionLine Text.trim
  rcases trimLeft_cases l with ⟨hblank, hl⟩ | ⟨c, rest, hblank, hl, hc⟩
  · rw [hl, hblank]
    rfl
  · obtain ⟨more, htrim⟩ := exists_trimRight_cons hc rest
    rw [hl, hblank, htrim]
    rfl

/-- Whitespace at its end does not make a line an expression, nor keep it from being one. -/
theorem isExpressionLine_append_blank (l : Text) {blank : Text} (h : ∀ c ∈ blank, isWhitespace c = true) :
    isExpressionLine (l ++ blank) = isExpressionLine l := by
  have hall : blank.all isWhitespace = true := List.all_eq_true.mpr h
  rw [isExpressionLine_eq, isExpressionLine_eq, Text.isBlank, Text.isBlank, List.all_append, hall, Bool.and_true,
    Text.trimLeft, Text.trimLeft, List.dropWhile_append]
  split
  · rename_i he
    rw [List.dropWhile_eq_nil_iff.mpr h, List.isEmpty_iff.mp he]
  · rename_i he
    cases hl : l.dropWhile isWhitespace with
    | nil => exact absurd (List.isEmpty_iff.mpr hl) he
    | cons c rest => rfl

/-- A carriage return at its end does not make a line an expression. -/
theorem isExpressionLine_withoutFinalReturn (l : Text) : isExpressionLine (withoutFinalReturn l) = isExpressionLine l := by
  obtain ⟨blank, hl, hblank⟩ := exists_blank_withoutFinalReturn l
  calc isExpressionLine (withoutFinalReturn l) = isExpressionLine (withoutFinalReturn l ++ blank) :=
        (isExpressionLine_append_blank _ hblank).symm
    _ = isExpressionLine l := by rw [← hl]

/-- The expression lines, without their numbers. -/
theorem map_fst_expressionLines (number : Nat) (lines : List Text) :
    (expressionLines number lines).map (·.1) = lines.filter isExpressionLine := by
  rw [← List.zipIdx_map_fst number lines, List.filter_map]
  simp [expressionLines, Function.comp_def]

/-- The lines of a document that hold an expression, without the carriage returns at their ends. -/
def expressionsIn (t : Text) : List Text := ((documentLines t).filter isExpressionLine).map withoutFinalReturn

theorem ne_nil_of_mem_expressionsIn {t e : Text} (h : e ∈ expressionsIn t) : e ≠ [] := by
  obtain ⟨l, hl, rfl⟩ := List.mem_map.mp h
  have hx : isExpressionLine (withoutFinalReturn l) = true := by
    rw [isExpressionLine_withoutFinalReturn]
    exact (List.mem_filter.mp hl).2
  exact ne_nil_of_isExpressionLine hx

/-- The tokens of a line are those of the line without the carriage return at its end. -/
theorem lineTokens_withoutFinalReturn (rules : Rules) (l : Text) :
    lineTokens .default rules (withoutFinalReturn l) = lineTokens .default rules l := by
  obtain ⟨blank, hl, hblank⟩ := exists_blank_withoutFinalReturn l
  calc lineTokens .default rules (withoutFinalReturn l)
      = lineTokens .default rules (withoutFinalReturn l ++ blank) := (tokenize_append_blank rules _ hblank).symm
    _ = lineTokens .default rules l := by rw [← hl]

/-! ## The command -/

namespace CommandLine

/-- The expressions of a file that holds a text with plain line breaks. -/
theorem readExpressions_of_holds {files : FileSystem} {path t : Text} (ht : PlainBreaks t) (hpath : '\x00' ∉ path)
    (h : files.bytes (.ofText path) = .ok t.toString.toUTF8.toList) :
    readExpressions files path = .ok (expressionsIn t) := by
  have hfilter : (Text.lines (Text.unifyBreaks t)).filter isExpressionLine =
      (documentLines (Text.unifyBreaks t)).filter isExpressionLine := by
    rcases documentLines_eq_lines fun c hc hb => ht.eq_feed hc hb with he | he
    · rw [he]
    · rw [he, List.filter_append, List.filter_cons_of_neg (by decide), List.filter_nil, List.append_nil]
  rw [readExpressions, FileSystem.read_of_holds hpath h]
  simp only [← isExpressionLine_eq]
  show Except.ok ((Text.lines (Text.unifyBreaks t)).filter isExpressionLine) = _
  rw [hfilter, documentLines_unifyBreaks ht, List.filter_map]
  simp only [Function.comp_def, isExpressionLine_withoutFinalReturn, expressionsIn]

section

variable {pattern : Pattern} {rules : Rules} {strict lexemes : Bool} {expressions : List Text}

/-- A report counts what is found in the tokens of its expression. -/
theorem reportExpression_snd (expression : Text) : (reportExpression pattern rules strict lexemes expression).2 =
    reported strict (diagnose (lineTokens pattern rules expression)) :=
  rfl

/-- Expressions that are not empty are all reported on, one after another. -/
theorem reportAll_eq (h : ∀ e ∈ expressions, e ≠ []) :
    reportAll pattern rules strict lexemes (expressions.map some) =
      (expressions.flatMap fun e => (reportExpression pattern rules strict lexemes e).1,
        .ok (expressions.flatMap fun e => (reportExpression pattern rules strict lexemes e).2)) := by
  induction expressions with
  | nil => rfl
  | cons e rest ih =>
    obtain ⟨c, t, rfl⟩ := List.exists_cons_of_ne_nil (h e List.mem_cons_self)
    rw [List.map_cons, reportAll, ih fun e he => h e (List.mem_cons_of_mem _ he)]
    rfl

end

/-- A request for the tokens of the expressions of a file under the default pattern, in a mode and with rules that can be
read. -/
structure Request.AsksFor (r : Request) (path : Text) (files : FileSystem) (rules : Rules) (strict : Bool) : Prop where
  tests : r.tests = false
  file : r.file = some path
  path_ne_nil : path ≠ []
  pattern : r.pattern = .unset
  strict : r.strict = strict
  rules : rulesOf r files = .ok rules

/-- What the command prints about expressions with the given diagnostics, and how it ends. -/
def reportOn (r : Request) (rules : Rules) (expressions : List Text) (elapsed : Nat) (diagnostics : List Diagnostic) :
    Outcome :=
  let (last, code) := verdict r expressions.length elapsed diagnostics
  ⟨endLines (expressions.flatMap (fun e => (reportExpression .default rules r.strict r.lexemes e).1) ++ last), "",
    .returned code⟩

/-- A run on a file reports on its expressions, if it can be read. -/
theorem run_eq_reportOn {installation : Installation} {arguments : List Text} {r : Request} {path : Text}
    {files : FileSystem} {rules : Rules} {strict : Bool} {expressions : List Text}
    (hr : Request.ofTexts installation.conventions arguments = .ok r)
    (hasks : r.AsksFor path files rules strict) (hread : readExpressions files path = .ok expressions)
    (hne : ∀ e ∈ expressions, e ≠ []) (elapsed : Nat) :
    run installation arguments files elapsed = reportOn r rules expressions elapsed
      (expressions.flatMap fun e => (reportExpression .default rules strict r.lexemes e).2) := by
  obtain ⟨c, rest, rfl⟩ := List.exists_cons_of_ne_nil hasks.path_ne_nil
  obtain rfl := hasks.strict
  have hexpressions : expressionsOf r files = .ok (expressions.map some) := by
    simp only [expressionsOf, hasks.file, hread]
    rfl
  have hinputs : inputsOf r files = .ok (rules, expressions.map some) := by
    rw [inputsOf, hasks.rules, hexpressions]
    rfl
  have hserve : run installation arguments files elapsed =
      ⟨endLines (lexWith .default r files elapsed).1, "", (lexWith .default r files elapsed).2⟩ := by
    simp only [run, hr, serve, hasks.tests, hasks.file, lexAll, hasks.pattern]
    simp
  rw [hserve, lexWith, hinputs]
  simp only [reportAll_eq hne, List.length_map, reportOn]

/-- What the command makes of the expressions of a file is what the analysis of a document keeps. -/
structure Agrees (rules : Rules) (strict : Bool) (expressions : List Text) (a : Analysis) : Prop where
  /-- they are the lines that hold an expression, each without the carriage return at its end -/
  lines : expressions = (a.lines.filter isExpressionLine).map withoutFinalReturn
  /-- the tokens of an expression are those kept of its line, and what is reported about it is what is reported there -/
  each : List.Forall₂ (fun e numbered => (∃ ts, lexExpression (some e) (.pattern .default) rules = .ok ts ∧
      a.tokensOn? (numbered.2 : Int) = some ts) ∧
    ∀ lexemes, (reportExpression .default rules strict lexemes e).2 = a.diagnosticsOn numbered.2)
    expressions (expressionLines 0 a.lines)
  /-- all that is reported, from top to bottom -/
  reported : ∀ lexemes, (reportAll .default rules strict lexemes (expressions.map some)).2 = .ok (a.diagnostics.map (·.2))

/-- What is reported about the expressions of a document is what its analysis reports. -/
theorem flatMap_reportExpression (rules : Rules) (strict lexemes : Bool) (t : Text) :
    ((expressionsIn t).flatMap fun e => (reportExpression .default rules strict lexemes e).2) =
      (analyse .default rules strict t).diagnostics.map (·.2) := by
  rw [diagnostics_analyse, tokens_analyse, expressionsIn, ← map_fst_expressionLines 0, List.flatMap_map, List.map_flatMap,
    List.flatMap_map, List.flatMap_map]
  congr 1
  funext numbered
  simp [diagnosticsEntries, tokensEntry, reportExpression_snd, lineTokens_withoutFinalReturn, Function.comp_def]

/-- The analysis of a document agrees with the expressions in it, one by one. -/
theorem agrees_analyse (rules : Rules) (strict : Bool) (t : Text) :
    Agrees rules strict (expressionsIn t) (analyse .default rules strict t) := by
  refine ⟨rfl, ?_, ?_⟩
  · rw [lines_analyse, expressionsIn, ← map_fst_expressionLines 0, List.map_map, List.forall₂_map_left_iff, List.forall₂_same]
    rintro ⟨l, i⟩ hl
    obtain ⟨hi, hx⟩ := mem_expressionLines.mp hl
    have htokens : (analyse .default rules strict t).tokensOn? (i : Int) = some (lineTokens .default rules l) :=
      tokensOn?_eq_some_iff.mpr ⟨i, l, rfl, hi, hx, rfl⟩
    have hlex : lexExpression (some (withoutFinalReturn l)) (.pattern .default) rules = .ok (lineTokens .default rules l) := by
      rw [lexExpression_of_isExpressionLine (by rw [isExpressionLine_withoutFinalReturn, hx]),
        ← lineTokens_withoutFinalReturn rules l]
      rfl
    refine ⟨⟨_, hlex, htokens⟩, ?_⟩
    intro lexemes
    show (reportExpression .default rules strict lexemes (withoutFinalReturn l)).2 = _
    rw [reportExpression_snd, lineTokens_withoutFinalReturn, diagnosticsOn_analyse, htokens]
    rfl
  · intro lexemes
    rw [reportAll_eq fun e he => ne_nil_of_mem_expressionsIn he, flatMap_reportExpression]

/-- The command and the analysis of documents agree: of a file that holds a text with plain line breaks the command reads the
lines of the document that hold an expression, their tokens and diagnostics are those that the analysis keeps, and any run of
the command on the file reports on these expressions with the diagnostics of the analysis. -/
theorem command_agrees_with_analysis {t path : Text} {files : FileSystem} (ht : PlainBreaks t) (hpath : '\x00' ∉ path)
    (hfile : files.bytes (.ofText path) = .ok t.toString.toUTF8.toList) (rules : Rules) (strict : Bool) :
    ∃ expressions, readExpressions files path = .ok expressions ∧
      Agrees rules strict expressions (analyse .default rules strict t) ∧
      ∀ (installation : Installation) (arguments : List Text) (r : Request) (elapsed : Nat),
        Request.ofTexts installation.conventions arguments = .ok r → r.AsksFor path files rules strict →
        run installation arguments files elapsed =
          reportOn r rules expressions elapsed ((analyse .default rules strict t).diagnostics.map (·.2)) := by
  have hread := readExpressions_of_holds ht hpath hfile
  refine ⟨expressionsIn t, hread, agrees_analyse rules strict t, ?_⟩
  intro installation arguments r elapsed hr hasks
  rw [run_eq_reportOn hr hasks hread fun e he => ne_nil_of_mem_expressionsIn he, flatMap_reportExpression]

/-- A file with carriage returns, an indented comment, a blank line and a line break at its end, read in strict mode. -/
theorem command_agrees_with_analysis_returns : ∃ (files : FileSystem) (r : Request) (expressions : List Text),
    PlainBreaks "1 + \r\n # 2\r\n\r\nx²\r\n".toList ∧
      files.bytes (.ofText ['e']) = .ok "1 + \r\n # 2\r\n\r\nx²\r\n".toUTF8.toList ∧
      readExpressions files ['e'] = .ok expressions ∧ expressions = ["1 + ".toList, "x²".toList] ∧
      run .plain ["--strict".toList, "--file".toList, ['e']] files 0 =
        reportOn r (.ofFunctions (.build [] true)) expressions 0
          ((analyse .default (.ofFunctions (.build [] true)) true "1 + \r\n # 2\r\n\r\nx²\r\n".toList).diagnostics.map
            (·.2)) := by
  have ht : PlainBreaks "1 + \r\n # 2\r\n\r\nx²\r\n".toList := by decide +kernel
  have hfile : ∀ bytes, (FileTree.toFileSystem [([['e']], .file bytes)]).bytes (.ofText ['e']) = .ok bytes := by
    intro bytes
    simp [FileTree.toFileSystem, FileTree.bytes]
    rfl
  have hholds := (hfile "1 + \r\n # 2\r\n\r\nx²\r\n".toUTF8.toList).trans
    (congrArg (fun s : String => Except.ok s.toUTF8.toList) String.ofList_toList.symm)
  obtain ⟨expressions, hread, hagrees, hrun⟩ :=
    command_agrees_with_analysis ht (show '\x00' ∉ ['e'] by decide) hholds (.ofFunctions (.build [] true)) true
  refine ⟨_, { file := some ['e'], strict := true }, expressions, ht, hfile _, hread, ?_, ?_⟩
  · rw [hagrees.lines]
    rfl
  · exact hrun .plain _ _ 0 rfl ⟨rfl, rfl, by decide, rfl, rfl, rfl⟩

end CommandLine

end ExprLex
