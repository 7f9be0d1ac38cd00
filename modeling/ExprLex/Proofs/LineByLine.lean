import ExprLex.Proofs.Lines

/-!
# Documents analysed line by line

The analysis of a document keeps one entry for each line that holds an expression, and what it keeps of a line depends on
that line alone. So it is a homomorphism: the analysis of one document above another is the analysis of the one above that
of the other, with the line numbers of the lower one moved down (`Analysis.above`). The analysis hands each expression line
to the splitter as an expression of its own, and no such line is refused.
-/

namespace ExprLex

/-! ## One document above another -/

/-- An entry of a document that is moved down by a number of lines. -/
def movedDown {α : Type} (count : Nat) (entry : Int × α) : Int × α := (entry.1 + count, entry.2)

/-- The analysis of one document above another. -/
def Analysis.above (upper lower : Analysis) : Analysis where
  lines := upper.lines ++ lower.lines
  tokens := upper.tokens ++ lower.tokens.map (movedDown upper.lines.length)
  diagnostics := upper.diagnostics ++ lower.diagnostics.map (movedDown upper.lines.length)

/-- A line feed between two documents puts the lines of the one above those of the other. -/
theorem documentLines_append_feed (a b : Text) : documentLines (a ++ '\n' :: b) = documentLines a ++ documentLines b :=
  Text.splitWhere_append_cons rfl a b

/-! ## The entries of a document -/

section

variable (pattern : Pattern) (rules : Rules) (strict : Bool)

/-- The tokens of a line. -/
def lineTokens (line : Text) : List Token := rules.tokenize (pattern.fragments line)

/-- The entry of a line with its number. -/
def tokensEntry (numbered : Text × Nat) : Int × List Token := ((numbered.2 : Int), lineTokens pattern rules numbered.1)

/-- The entries of the reported diagnostics of some tokens, for the tokens' own. -/
def diagnosticsEntries (entry : Int × List Token) : List (Int × Diagnostic) :=
  (reported strict (diagnose entry.2)).map (entry.1, ·)

/-- The lines that hold an expression, each with its number; the first line has the given one. -/
def expressionLines (number : Nat) (lines : List Text) : List (Text × Nat) :=
  (lines.zipIdx number).filter fun numbered => isExpressionLine numbered.1

variable {pattern rules strict}

/-- The analysis of a document, told from its expression lines. -/
theorem analyse_eq (pattern : Pattern) (source : Text) : analyse pattern rules strict source =
    ⟨documentLines source, (expressionLines 0 (documentLines source)).map (tokensEntry pattern rules),
      ((expressionLines 0 (documentLines source)).map (tokensEntry pattern rules)).flatMap (diagnosticsEntries strict)⟩ :=
  rfl

theorem lines_analyse (source : Text) : (analyse pattern rules strict source).lines = documentLines source := rfl

/-- Its tokens are those of the lines with expressions. -/
theorem tokens_analyse (source : Text) : (analyse pattern rules strict source).tokens =
    (expressionLines 0 (documentLines source)).map (tokensEntry pattern rules) := rfl

/-- Its diagnostics are those of these tokens. -/
theorem diagnostics_analyse (source : Text) : (analyse pattern rules strict source).diagnostics =
    (analyse pattern rules strict source).tokens.flatMap (diagnosticsEntries strict) := rfl

/-- The lines with expressions in two halves, the second one counted from where the first ends. -/
theorem expressionLines_append (number : Nat) (upper lower : List Text) :
    expressionLines number (upper ++ lower) =
      expressionLines number upper ++ expressionLines (number + upper.length) lower := by
  rw [expressionLines, List.zipIdx_append, List.filter_append]
  rfl

/-- Lines with other numbers in front hold the same expressions, further down. -/
theorem expressionLines_eq_map (number : Nat) (lines : List Text) :
    expressionLines number lines = (expressionLines 0 lines).map fun numbered => (numbered.1, number + numbered.2) := by
  rw [expressionLines, List.zipIdx_eq_map_add, List.filter_map]
  rfl

/-- The tokens of a line further down are the same, further down. -/
theorem tokensEntry_movedDown (line : Text) (i count : Nat) :
    tokensEntry pattern rules (line, count + i) = movedDown count (tokensEntry pattern rules (line, i)) := by
  simp [tokensEntry, movedDown, Int.add_comm]

/-- The diagnostics of a line further down are the same, further down. -/
theorem diagnosticsEntries_movedDown (count : Nat) (entry : Int × List Token) :
    diagnosticsEntries strict (movedDown count entry) = (diagnosticsEntries strict entry).map (movedDown count) := by
  simp [diagnosticsEntries, movedDown, Function.comp_def]

/-- The analysis of one document above another is that of the one above that of the other. -/
theorem analyse_append_feed (a b : Text) : analyse pattern rules strict (a ++ '\n' :: b) =
    (analyse pattern rules strict a).above (analyse pattern rules strict b) := by
  have htokens : (analyse pattern rules strict (a ++ '\n' :: b)).tokens =
      ((analyse pattern rules strict a).above (analyse pattern rules strict b)).tokens := by
    rw [tokens_analyse, documentLines_append_feed, expressionLines_append, List.map_append, Nat.zero_add,
      expressionLines_eq_map (documentLines a).length, List.map_map, Analysis.above, tokens_analyse, tokens_analyse,
      List.map_map, lines_analyse]
    congr 2
    funext ⟨line, i⟩
    exact tokensEntry_movedDown line i _
  have hdiagnostics : (analyse pattern rules strict (a ++ '\n' :: b)).diagnostics =
      ((analyse pattern rules strict a).above (analyse pattern rules strict b)).diagnostics := by
    rw [diagnostics_analyse, htokens]
    simp only [Analysis.above, List.flatMap_append, List.flatMap_map, diagnosticsEntries_movedDown, ← List.map_flatMap]
    rfl
  have hlines : (analyse pattern rules strict (a ++ '\n' :: b)).lines =
      ((analyse pattern rules strict a).above (analyse pattern rules strict b)).lines :=
    documentLines_append_feed a b
  calc analyse pattern rules strict (a ++ '\n' :: b)
      = ⟨(analyse pattern rules strict (a ++ '\n' :: b)).lines, (analyse pattern rules strict (a ++ '\n' :: b)).tokens,
          (analyse pattern rules strict (a ++ '\n' :: b)).diagnostics⟩ := rfl
    _ = _ := by rw [hlines, htokens, hdiagnostics]

/-! ## The entry of a line -/

/-- The diagnostics that the analysis of a document reports on one line. -/
def Analysis.diagnosticsOn (a : Analysis) (line : Int) : List Diagnostic :=
  (a.diagnostics.filter fun e => e.1 == line).map (·.2)

/-- Expression lines come in the order of their numbers. -/
theorem expressionLines_ascend (number : Nat) (lines : List Text) :
    (expressionLines number lines).Pairwise fun a b => a.2 < b.2 := by
  have h : ((lines.zipIdx number).map Prod.snd).Pairwise (· < ·) := by
    rw [List.zipIdx_map_snd]
    exact List.pairwise_lt_range'
  exact (List.pairwise_map.mp h).filter _

/-- A line with an expression stands where its number says. -/
theorem mem_expressionLines {lines : List Text} {l : Text} {i : Nat} :
    (l, i) ∈ expressionLines 0 lines ↔ lines[i]? = some l ∧ isExpressionLine l = true := by
  rw [expressionLines, List.mem_filter, List.mem_zipIdx_iff_getElem?]

/-- The lines are told in their order, each once. -/
theorem tokens_ascend (source : Text) :
    (analyse pattern rules strict source).tokens.Pairwise fun a b => a.1 < b.1 := by
  rw [tokens_analyse, List.pairwise_map]
  exact (expressionLines_ascend 0 _).imp fun h => Int.ofNat_lt.mpr h

/-- The entries of a document are those of its expression lines. -/
theorem mem_tokens_analyse {source : Text} {n : Int} {ts : List Token} :
    (n, ts) ∈ (analyse pattern rules strict source).tokens ↔ ∃ (i : Nat) (l : Text), n = i ∧
      (documentLines source)[i]? = some l ∧ isExpressionLine l = true ∧ ts = lineTokens pattern rules l := by
  rw [tokens_analyse, List.mem_map]
  constructor
  · rintro ⟨⟨l, i⟩, h, he⟩
    obtain ⟨hl, hx⟩ := mem_expressionLines.mp h
    cases he
    exact ⟨i, l, rfl, hl, hx, rfl⟩
  · rintro ⟨i, l, rfl, hl, hx, rfl⟩
    exact ⟨(l, i), mem_expressionLines.mpr ⟨hl, hx⟩, rfl⟩

/-- Where the keys ascend, an entry is found by its key. -/
theorem lookup_eq_some_iff_mem {α : Type} {entries : List (Int × α)} (h : entries.Pairwise fun a b => a.1 < b.1) {n : Int}
    {v : α} : entries.lookup n = some v ↔ (n, v) ∈ entries := by
  induction h with
  | nil => simp
  | @cons e entries hlt _ ih =>
    obtain ⟨k, w⟩ := e
    rw [List.lookup_cons, List.mem_cons, Prod.mk.injEq]
    by_cases hk : n = k
    · subst hk
      have hlater : (n, v) ∉ entries := fun hm => absurd (hlt _ hm) (Int.lt_irrefl n)
      simp [hlater, eq_comm]
    · have hother : (n == k) = false := by simpa using hk
      simp [hother, hk, ih]

/-- There are tokens on the lines with expressions, namely those of the line. -/
theorem tokensOn?_eq_some_iff {source : Text} {n : Int} {ts : List Token} :
    (analyse pattern rules strict source).tokensOn? n = some ts ↔ ∃ (i : Nat) (l : Text), n = i ∧
      (documentLines source)[i]? = some l ∧ isExpressionLine l = true ∧ ts = lineTokens pattern rules l := by
  rw [Analysis.tokensOn?, lookup_eq_some_iff_mem (tokens_ascend source), mem_tokens_analyse]

/-- The diagnostics of a document are those of its expression lines, as far as the mode reports them. -/
theorem mem_diagnostics_analyse {source : Text} {n : Int} {d : Diagnostic} :
    (n, d) ∈ (analyse pattern rules strict source).diagnostics ↔ ∃ (i : Nat) (l : Text), n = i ∧
      (documentLines source)[i]? = some l ∧ isExpressionLine l = true ∧
      d ∈ reported strict (diagnose (lineTokens pattern rules l)) := by
  rw [diagnostics_analyse, List.mem_flatMap]
  constructor
  · rintro ⟨⟨k, ts⟩, h, hd⟩
    obtain ⟨i, l, hk, hl, hx, rfl⟩ := mem_tokens_analyse.mp h
    obtain ⟨d', hd', he⟩ := List.mem_map.mp hd
    cases he
    exact ⟨i, l, hk, hl, hx, hd'⟩
  · rintro ⟨i, l, rfl, hl, hx, hd⟩
    exact ⟨(i, lineTokens pattern rules l), mem_tokens_analyse.mpr ⟨i, l, rfl, hl, hx, rfl⟩, List.mem_map_of_mem hd⟩

/-- Where the keys ascend, the diagnostics with one key are those of its entry. -/
theorem filter_diagnosticsEntries {entries : List (Int × List Token)} (h : entries.Pairwise fun a b => a.1 < b.1)
    (n : Int) : ((entries.flatMap (diagnosticsEntries strict)).filter fun e => e.1 == n).map (·.2) =
      ((entries.lookup n).map fun ts => reported strict (diagnose ts)).getD [] := by
  induction h with
  | nil => rfl
  | @cons e entries hlt _ ih =>
    obtain ⟨k, ts⟩ := e
    rw [List.flatMap_cons, List.filter_append, List.map_append, ih, List.lookup_cons]
    by_cases hk : n = k
    · subst hk
      have hlater : entries.lookup n = none := by
        rw [List.lookup_eq_none_iff]
        intro e he
        simpa using Int.ne_of_lt (hlt e he)
      simp [diagnosticsEntries, hlater, List.filter_map, Function.comp_def]
    · have hother : (n == k) = false := by simpa using hk
      simp [diagnosticsEntries, hother, Ne.symm hk]

/-- The diagnostics on a line are those of its tokens. -/
theorem diagnosticsOn_analyse (source : Text) (n : Int) : (analyse pattern rules strict source).diagnosticsOn n =
    (((analyse pattern rules strict source).tokensOn? n).map fun ts => reported strict (diagnose ts)).getD [] :=
  filter_diagnosticsEntries (tokens_ascend source) n

/-- What is kept of a line depends on the text that stands there. -/
theorem tokensOn?_congr {source edited : Text} {n : Int}
    (h : ∀ i : Nat, n = i → (documentLines edited)[i]? = (documentLines source)[i]?) :
    (analyse pattern rules strict edited).tokensOn? n = (analyse pattern rules strict source).tokensOn? n := by
  refine Option.ext fun ts => ?_
  rw [tokensOn?_eq_some_iff, tokensOn?_eq_some_iff]
  refine exists_congr fun i => exists_congr fun l => and_congr_right fun hn => ?_
  rw [h i hn]

end

/-! ## Each line as an expression of its own -/

/-- The analysis of a document that hands each expression line to the splitter. -/
def analyseByLine (delimiter : Delimiter) (rules : Rules) (strict : Bool) (source : Text) : Except LexError Analysis := do
  let tokens ← (expressionLines 0 (documentLines source)).mapM fun numbered => do
    return ((numbered.2 : Int), ← lexExpression (some numbered.1) delimiter rules)
  return ⟨documentLines source, tokens, tokens.flatMap (diagnosticsEntries strict)⟩

section

variable {delimiter : Delimiter} {rules : Rules} {strict : Bool}

/-- A line with an expression is not empty. -/
theorem ne_nil_of_isExpressionLine {l : Text} (h : isExpressionLine l = true) : l ≠ [] := by
  rintro rfl
  cases h

/-- A line that holds an expression is accepted by the splitter. -/
theorem lexExpression_of_isExpressionLine {l : Text} (h : isExpressionLine l = true) :
    lexExpression (some l) delimiter rules = delimiter.pattern?.map fun p => lineTokens p rules l := by
  obtain ⟨c, t, rfl⟩ := List.exists_cons_of_ne_nil (ne_nil_of_isExpressionLine h)
  simp only [lexExpression, splitExpression]
  cases delimiter.pattern? <;> rfl

/-- If every item can be made, all of them are. -/
theorem mapM_eq_ok {α β ε : Type} {f : α → Except ε β} {g : α → β} {xs : List α} (h : ∀ x ∈ xs, f x = .ok (g x)) :
    xs.mapM f = .ok (xs.map g) := by
  induction xs with
  | nil => rfl
  | cons x xs ih =>
    rw [List.mapM_cons, h x List.mem_cons_self, ih fun y hy => h y (List.mem_cons_of_mem _ hy)]
    rfl

/-- There is a line with an expression if the list of them is not empty. -/
theorem any_isExpressionLine (lines : List Text) :
    lines.any isExpressionLine = !(expressionLines 0 lines).isEmpty := by
  rw [Bool.eq_iff_iff, List.any_eq_true, Bool.not_eq_true', List.isEmpty_eq_false_iff_exists_mem]
  constructor
  · rintro ⟨l, hl, hx⟩
    obtain ⟨i, hi⟩ := List.mem_iff_getElem?.mp hl
    exact ⟨(l, i), mem_expressionLines.mpr ⟨hi, hx⟩⟩
  · rintro ⟨⟨l, i⟩, h⟩
    obtain ⟨hl, hx⟩ := mem_expressionLines.mp h
    exact ⟨l, List.mem_of_getElem? hl, hx⟩

/-- No line that the analysis hands to the splitter is refused: what fails is the reading of the pattern, if anything. -/
theorem analyseByLine_eq_analyseWith (source : Text) :
    analyseByLine delimiter rules strict source = analyseWith delimiter rules strict source := by
  have hlex : ∀ numbered ∈ expressionLines 0 (documentLines source),
      lexExpression (some numbered.1) delimiter rules = delimiter.pattern?.map fun p => lineTokens p rules numbered.1 :=
    fun numbered h => lexExpression_of_isExpressionLine (List.mem_filter.mp h).2
  rw [analyseByLine, analyseWith, any_isExpressionLine, analyse_eq .default]
  cases hx : expressionLines 0 (documentLines source) with
  | nil => rfl
  | cons first others =>
    rw [hx] at hlex
    cases hp : delimiter.pattern? with
    | error e =>
      rw [List.mapM_cons, hlex first List.mem_cons_self, hp]
      rfl
    | ok p =>
      have hentries : ∀ numbered ∈ first :: others,
          (do return ((numbered.2 : Int), ← lexExpression (some numbered.1) delimiter rules) : Except LexError _) =
            .ok (tokensEntry p rules numbered) := by
        intro numbered h
        rw [hlex numbered h, hp]
        rfl
      rw [mapM_eq_ok hentries]
      show Except.ok _ = Except.ok (analyse p rules strict source)
      rw [analyse_eq, hx]

/-- Under a pattern that can be read the analysis is there. -/
theorem analyseWith_eq_ok {p : Pattern} (hp : delimiter.pattern? = .ok p) (source : Text) :
    analyseWith delimiter rules strict source = .ok (analyse p rules strict source) := by
  rw [analyseWith, any_isExpressionLine, hp, analyse_eq .default]
  cases hx : expressionLines 0 (documentLines source) with
  | nil =>
    rw [analyse_eq p, hx]
    rfl
  | cons first others => rfl

end

/-- What the analysis of a document keeps: an entry for each line that holds an expression and for no other one, with the
tokens of the line as an expression of its own, and their diagnostics as far as the mode reports them. -/
structure KeepsLines (delimiter : Delimiter) (rules : Rules) (strict : Bool) (source : Text) (a : Analysis) : Prop where
  lines_eq : a.lines = documentLines source
  /-- no line has two entries -/
  keys_ascend : a.tokens.Pairwise fun e e' => e.1 < e'.1
  keys : ∀ n : Int, (a.tokensOn? n).isSome = true ↔
    ∃ (i : Nat) (l : Text), n = i ∧ a.lines[i]? = some l ∧ isExpressionLine l = true
  values : ∀ (i : Nat) (l : Text) (ts : List Token), a.lines[i]? = some l → a.tokensOn? i = some ts →
    lexExpression (some l) delimiter rules = .ok ts
  diagnostics : ∀ n : Int,
    a.diagnosticsOn n = ((a.tokensOn? n).map fun ts => reported strict (diagnose ts)).getD []

/-- An analysis tells every line as it stands by itself. -/
theorem keepsLines_analyse {delimiter : Delimiter} {p : Pattern} (hp : delimiter.pattern? = .ok p) (rules : Rules)
    (strict : Bool) (source : Text) : KeepsLines delimiter rules strict source (analyse p rules strict source) := by
  refine ⟨rfl, tokens_ascend source, fun n => ?_, fun i l ts hl hts => ?_, diagnosticsOn_analyse source⟩
  · rw [Option.isSome_iff_exists]
    constructor
    · rintro ⟨ts, hts⟩
      obtain ⟨i, l, hn, hl, hx, -⟩ := tokensOn?_eq_some_iff.mp hts
      exact ⟨i, l, hn, hl, hx⟩
    · rintro ⟨i, l, hn, hl, hx⟩
      exact ⟨_, tokensOn?_eq_some_iff.mpr ⟨i, l, hn, hl, hx, rfl⟩⟩
  · obtain ⟨j, l', hj, hl', hx, rfl⟩ := tokensOn?_eq_some_iff.mp hts
    obtain rfl : i = j := Int.ofNat_inj.mp hj
    obtain rfl : l = l' := Option.some.inj (hl.symm.trans hl')
    rw [lexExpression_of_isExpressionLine hx, hp]
    rfl

/-- Documents are analysed line by line: under a pattern that can be read every document has an analysis, also where each
expression line is handed to the splitter, and it keeps the expression lines; the analysis of one document above another is
that of the one above that of the other; and replacing one line of a document changes nothing on any other line. -/
theorem analysed_line_by_line {delimiter : Delimiter} {p : Pattern} (hp : delimiter.pattern? = .ok p) (rules : Rules)
    (strict : Bool) : ∃ analysisOf : Text → Analysis,
      (∀ source, analyseWith delimiter rules strict source = .ok (analysisOf source) ∧
        analyseByLine delimiter rules strict source = .ok (analysisOf source) ∧
        KeepsLines delimiter rules strict source (analysisOf source)) ∧
      (∀ a b, analysisOf (a ++ '\n' :: b) = (analysisOf a).above (analysisOf b)) ∧
      ∀ source edited (line : Nat), (∀ i ≠ line, (documentLines edited)[i]? = (documentLines source)[i]?) →
        ∀ n : Int, n ≠ line → (analysisOf edited).tokensOn? n = (analysisOf source).tokensOn? n ∧
          (analysisOf edited).diagnosticsOn n = (analysisOf source).diagnosticsOn n := by
  refine ⟨analyse p rules strict, fun source => ?_, analyse_append_feed, fun source edited line h n hn => ?_⟩
  · have hok : analyseWith delimiter rules strict source = .ok (analyse p rules strict source) := analyseWith_eq_ok hp source
    exact ⟨hok, (analyseByLine_eq_analyseWith source).trans hok, keepsLines_analyse hp rules strict source⟩
  · have htokens : (analyse p rules strict edited).tokensOn? n = (analyse p rules strict source).tokensOn? n :=
      tokensOn?_congr fun i hi => h i (by omega)
    exact ⟨htokens, by rw [diagnosticsOn_analyse, diagnosticsOn_analyse, htokens]⟩

/-- A pattern of a user that matches in empty places, on a document with a comment and a blank line. -/
theorem analysed_line_by_line_comment_between : ∃ (p : Pattern) (analysisOf : Text → Analysis),
    (Delimiter.source .plain "(x?|[+*])".toList).pattern? = .ok p ∧
      analyseWith (.source .plain "(x?|[+*])".toList) {} false "1+\n# 2\n \r\nx²".toList =
        .ok ((analysisOf "1+\n# 2".toList).above (analysisOf " \r\nx²".toList)) ∧
      KeepsLines (.source .plain "(x?|[+*])".toList) {} false "1+\n# 2".toList (analysisOf "1+\n# 2".toList) := by
  obtain ⟨analysisOf, hok, habove, -⟩ :=
    analysed_line_by_line (show (Delimiter.source .plain "(x?|[+*])".toList).pattern? = .ok _ from rfl) {} false
  refine ⟨_, analysisOf, rfl, ?_, (hok _).2.2⟩
  rw [← habove]
  exact (hok _).1

end ExprLex
