import ExprLex.Proofs.DiagnosticOrder
import ExprLex.Proofs.Endings
import ExprLex.Proofs.PrintedLines

/-!
# The verdict of the command

Where a request can be met, its run ends with a verdict about all its expressions. In strict mode the exit code is 1 if any
diagnostic is reported, and a line tells of errors if any diagnostic is more than advisory. The tokens decide both: an
expression has errors if a lexeme is not recognised or a parenthesis has no partner, and apart from errors only an operator at
the end counts in strict mode. Nothing else that is printed looks like the line that tells of errors.
-/

namespace ExprLex

/-! ## What the tokens say -/

/-- Tokens with an error: one is not recognised, or a parenthesis has no partner. -/
def HasError (ts : List Token) : Prop := (∃ t ∈ ts, t.kind = .unknown) ∨ ∃ i, LacksPartner ts i

/-- Tokens that end with an operator other than a function name. -/
def EndsWithOperator (ts : List Token) : Prop := ∃ t, ts.getLast? = some t ∧ ∃ o, t.kind = .operator o ∧ o ≠ .function

section

variable {ts : List Token}

/-- There is an operator at the end exactly if that pass finds something. -/
theorem trailing_ne_nil_iff : trailing ts ≠ [] ↔ EndsWithOperator ts := by
  rw [Ne, trailing_eq_nil_iff]
  simp [EndsWithOperator]

/-- There are tokens at the places that are asked for, if these places are in the stream. -/
theorem tokensAt_ne_nil_iff {p : Nat → Prop} [DecidablePred p] (h : ∀ i, p i → ts[i]?.isSome = true) :
    tokensAt p ts ≠ [] ↔ ∃ i, p i := by
  constructor
  · intro hne
    obtain ⟨t, ht⟩ := List.exists_mem_of_ne_nil _ hne
    obtain ⟨i, -, hi⟩ := mem_tokensAt.mp ht
    exact ⟨i, hi⟩
  · rintro ⟨i, hi⟩
    obtain ⟨t, ht⟩ := Option.isSome_iff_exists.mp (h i hi)
    exact List.ne_nil_of_mem (mem_tokensAt.mpr ⟨i, ht, hi⟩)

theorem isSome_of_any {q : Token → Bool} {o : Option Token} (h : o.any q = true) : o.isSome = true := by
  cases o with
  | none => cases h
  | some t => rfl

theorem isSome_of_faultyAt {i : Nat} (h : FaultyAt ts i) : ts[i]?.isSome = true :=
  h.elim isSome_of_any fun h => isSome_of_any h.1

/-- Some place holds an unknown token if some token is unknown. -/
theorem exists_unknownAt_iff : (∃ i, UnknownAt ts i) ↔ ∃ t ∈ ts, t.kind = .unknown := by
  simp only [UnknownAt, Option.any_eq_true, beq_iff_eq]
  constructor
  · rintro ⟨i, t, ht, hk⟩
    exact ⟨t, List.mem_of_getElem? ht, hk⟩
  · rintro ⟨t, ht, hk⟩
    obtain ⟨i, hi⟩ := List.mem_iff_getElem?.mp ht
    exact ⟨i, t, hi, hk⟩

/-- The faults of a stream are the errors of its tokens. -/
theorem faults_ne_nil_iff : faults [] ts ≠ [] ↔ HasError ts := by
  have hfaulty : faultyTokens 0 ts ≠ [] ↔ ∃ i, FaultyAt ts i := by
    rw [faultyTokens, ← tokensAt_congr (faultyAt_iff ts) ts, tokensAt_ne_nil_iff fun i => isSome_of_faultyAt]
  have hopen : openTokens ts ≠ [] ↔ ∃ i, StaysOpen ts i := by
    rw [openTokens, ← tokensAt_congr (staysOpen_iff_openAt ts) ts, tokensAt_ne_nil_iff fun i h => isSome_of_any h.1]
  have hfaults : faults [] ts ≠ [] ↔ faultyTokens 0 ts ≠ [] ∨ openTokens ts ≠ [] := by
    rw [faults_eq]
    simp [or_iff_not_imp_left]
  rw [hfaults, hfaulty, hopen, HasError, ← exists_unknownAt_iff]
  simp only [FaultyAt, LacksPartner, exists_or, or_assoc]

/-- Errors are reported in either mode. -/
theorem hasErrors_reported_iff (strict : Bool) : hasErrors (reported strict (diagnose ts)) = true ↔ HasError ts := by
  have hmode : hasErrors (reported strict (diagnose ts)) = true ↔ reported false (diagnose ts) ≠ [] := by
    simp only [hasErrors, reported, List.any_filter, List.any_eq_true, Ne, List.filter_eq_nil_iff]
    cases strict <;> simp
  rw [hmode, ← faults_ne_nil_iff, Ne, Ne, ← List.length_eq_zero_iff, (reported_diagnose_perm ts).length_eq,
    List.length_eq_zero_iff]

/-- In strict mode an operator at the end is reported too. -/
theorem reported_strict_ne_nil_iff : reported true (diagnose ts) ≠ [] ↔ HasError ts ∨ EndsWithOperator ts := by
  have hall : reported true (diagnose ts) = diagnose ts := by simp [reported]
  rw [hall, Ne, diagnose_eq_nil_iff, not_and_or, ← faults_ne_nil_iff, ← trailing_ne_nil_iff]

end

instance (ts : List Token) : Decidable (HasError ts) := decidable_of_iff _ faults_ne_nil_iff

instance (ts : List Token) : Decidable (EndsWithOperator ts) := decidable_of_iff _ trailing_ne_nil_iff

namespace CommandLine

/-! ## The line that tells of errors -/

/-- The line that tells of errors. -/
def errorLine : String := "Unrecognized or unbalanced input detected (W_UNKNOWN_TOKEN, W_UNBALANCED_PARENTHESIS)"

/-- What has been printed tells of errors: it has a line that says so. -/
def TellsOfErrors (s : String) : Prop := errorLine.toList ∈ linesOf s

theorem head?_errorLine : errorLine.toList.head? = some 'U' := by
  simp [errorLine]

theorem errorLine_ne_nil : errorLine.toList ≠ [] := by
  intro h
  have hhead := head?_errorLine
  rw [h] at hhead
  cases hhead

/-- An empty line before makes no difference. -/
theorem tellsOfErrors_feed (s : String) : TellsOfErrors ("\n" ++ s) ↔ TellsOfErrors s := by
  rw [TellsOfErrors, linesOf_feed, List.mem_cons, or_iff_right errorLine_ne_nil]
  rfl

/-- An output tells of errors if one of the strings that are printed does. -/
theorem tellsOfErrors_endLines (strings : List String) :
    TellsOfErrors (endLines strings) ↔ ∃ s ∈ strings, TellsOfErrors s := mem_linesOf_endLines errorLine_ne_nil

/-- The summary of errors does. -/
theorem tellsOfErrors_errorSummary : TellsOfErrors errorSummary := by
  have hsummary : errorSummary = "\n" ++ errorLine := by simp [errorSummary, errorLine]
  have hline : OneLine errorLine := by decide
  rw [hsummary, tellsOfErrors_feed, TellsOfErrors, linesOf_of_oneLine hline]
  exact List.mem_singleton_self _

/-- A line that starts with another character does not tell of errors. -/
theorem not_tellsOfErrors {s : String} {c : Char} (hstart : s.toList.head? = some c) (hc : c ≠ 'U') (h : OneLine s) :
    ¬ TellsOfErrors s := by
  rw [TellsOfErrors, linesOf_of_oneLine h, List.mem_singleton]
  intro he
  rw [← he, head?_errorLine] at hstart
  exact hc (Option.some.inj hstart).symm

/-- A single line that begins with another letter does not. -/
theorem not_tellsOfErrors_append {start rest : String} {c : Char} (hstart : start.toList.head? = some c) (hc : c ≠ 'U')
    (h : OneLine start) (h' : OneLine rest) : ¬ TellsOfErrors (start ++ rest) := by
  refine not_tellsOfErrors ?_ hc ((oneLine_append _ _).mpr ⟨h, h'⟩)
  rw [String.toList_append, List.head?_append, hstart, Option.some_or]

/-- Padding keeps one line one line. -/
theorem oneLine_padLeft {s : String} (h : OneLine s) (width : Nat) : OneLine (padLeft width s) := by
  refine (oneLine_append _ _).mpr ⟨?_, h⟩
  rw [OneLine, String.toList_ofList]
  intro hm
  cases List.eq_of_mem_replicate hm

/-- A number with a decimal is one line. -/
theorem oneLine_tenths (num den : Nat) : OneLine (tenths num den) := by
  have hpoint : OneLine "." := by decide
  simp only [tenths, oneLine_append, oneLine_nat, hpoint, and_self]

section

variable {pattern : Pattern} {rules : Rules} {strict lexemes : Bool}

/-- The lines about an expression do not tell of errors. -/
theorem not_tellsOfErrors_of_mem_report {expression : Text} {s : String}
    (h : s ∈ (reportExpression pattern rules strict lexemes expression).1) : ¬ TellsOfErrors s := by
  simp only [reportExpression, List.cons_append, List.mem_append, List.mem_cons, List.mem_map] at h
  rcases h with rfl | (h | ⟨t, -, rfl⟩) | h
  · have hrest : OneLine (expression.quoted ++ " ===") := (oneLine_append _ _).mpr ⟨oneLine_quoted _, by decide⟩
    rw [String.append_assoc]
    exact not_tellsOfErrors_append rfl (by decide) (by decide) hrest
  · split at h
    · rcases List.mem_cons.mp h with rfl | h
      · exact not_tellsOfErrors rfl (by decide) (by decide)
      · obtain ⟨l, -, rfl⟩ := List.mem_map.mp h
        have hrest : OneLine (padLeft 4 (toString l.offset) ++ (" " ++ l.text.quoted)) := by
          rw [oneLine_append, oneLine_append]
          exact ⟨oneLine_padLeft (oneLine_nat _) 4, by decide, oneLine_quoted _⟩
        rw [String.append_assoc, String.append_assoc]
        exact not_tellsOfErrors_append rfl (by decide) (by decide) hrest
    · cases h
  · exact not_tellsOfErrors_append rfl (by decide) (by decide) t.oneLine_render
  · split at h
    · cases h
    · rcases List.mem_cons.mp h with rfl | h
      · exact not_tellsOfErrors rfl (by decide) (by decide)
      · obtain ⟨d, hd, rfl⟩ := List.mem_map.mp h
        obtain ⟨t, -, ht⟩ := exists_token_of_mem_diagnose (List.mem_filter.mp hd).1
        exact not_tellsOfErrors_append rfl (by decide) (by decide) ht.oneLine_render

end

/-- The line about the number of expressions. -/
theorem not_tellsOfErrors_count (count : Nat) :
    ¬ TellsOfErrors ("\n--- Benchmark (" ++ toString count ++ " expressions) ---") := by
  have hbreak : "\n--- Benchmark (" = "\n" ++ "--- Benchmark (" := by simp
  have hrest : OneLine (toString count ++ " expressions) ---") := (oneLine_append _ _).mpr ⟨oneLine_nat _, by decide⟩
  rw [hbreak, String.append_assoc, String.append_assoc, tellsOfErrors_feed]
  exact not_tellsOfErrors_append rfl (by decide) (by decide) hrest

/-- The line about the time. -/
theorem not_tellsOfErrors_total (elapsed : Nat) :
    ¬ TellsOfErrors ("  Total:     " ++ padLeft 7 (tenths elapsed 1) ++ "ms") := by
  have hrest : OneLine (padLeft 7 (tenths elapsed 1) ++ "ms") :=
    (oneLine_append _ _).mpr ⟨oneLine_padLeft (oneLine_tenths _ _) 7, by decide⟩
  rw [String.append_assoc]
  exact not_tellsOfErrors_append rfl (by decide) (by decide) hrest

/-- The line about the number of diagnostics. -/
theorem not_tellsOfErrors_strict (count : Nat) :
    ¬ TellsOfErrors ("\nSTRICT MODE: " ++ toString count ++ " diagnostic(s) reported") := by
  have hbreak : "\nSTRICT MODE: " = "\n" ++ "STRICT MODE: " := by simp
  have hrest : OneLine (toString count ++ " diagnostic(s) reported") := (oneLine_append _ _).mpr ⟨oneLine_nat _, by decide⟩
  rw [hbreak, String.append_assoc, String.append_assoc, tellsOfErrors_feed]
  exact not_tellsOfErrors_append rfl (by decide) (by decide) hrest

section

variable (r : Request) (count elapsed : Nat) (diagnostics : List Diagnostic)

/-- The last lines tell of errors exactly if there are any. -/
theorem tellsOfErrors_verdict_iff :
    (∃ s ∈ (verdict r count elapsed diagnostics).1, TellsOfErrors s) ↔ hasErrors diagnostics = true := by
  have hcount := not_tellsOfErrors_count count
  have htotal := not_tellsOfErrors_total elapsed
  have hstrict := not_tellsOfErrors_strict diagnostics.length
  have hsummary := tellsOfErrors_errorSummary
  simp only [verdict]
  generalize "\n--- Benchmark (" ++ toString count ++ " expressions) ---" = counted at hcount ⊢
  generalize "\nSTRICT MODE: " ++ toString diagnostics.length ++ " diagnostic(s) reported" = closing at hstrict ⊢
  cases r.benchmark <;> cases hasErrors diagnostics <;> cases r.strict && !diagnostics.isEmpty <;>
    simp [hcount, htotal, hstrict, hsummary]

/-- The exit code is 1 exactly in strict mode with something to report. -/
theorem verdict_code : (verdict r count elapsed diagnostics).2 = if r.strict = true ∧ diagnostics ≠ [] then 1 else 0 := by
  simp only [verdict]
  split <;> simp_all

end

/-! ## Requests that can be met -/

/-- A request for tokens that can be met: the pattern, the rules and the expressions can be read, and no expression is
empty. -/
structure Request.Reads (r : Request) (files : FileSystem) (engine : Pattern.Engine) (pattern : Pattern) (rules : Rules)
    (expressions : List Text) : Prop where
  tests : r.tests = false
  pattern : r.pattern.read engine = .ok pattern
  rules : rulesOf r files = .ok rules
  given : expressionsOf r files = .ok (expressions.map some)
  ne_nil : ∀ e ∈ expressions, e ≠ []

section

variable {installation : Installation} {engine : Pattern.Engine} {r : Request} {files : FileSystem} {pattern : Pattern}
  {rules : Rules} {expressions : List Text}

/-- What a request reads are its materials. -/
theorem Request.Reads.materials (h : r.Reads files engine pattern rules expressions) :
    r.materials files engine = .ok (pattern, rules, expressions) := by
  rw [materials_of_inputsOf_eq_ok h.pattern (inputsOf_eq_ok_iff.mpr ⟨h.rules, h.given⟩),
    any_isEmpty_map_some h.ne_nil, if_neg Bool.false_ne_true, List.filterMap_map]
  simp

/-- Something is asked for. -/
theorem Request.Reads.not_asksNothing (h : r.Reads files engine pattern rules expressions) : ¬ r.AsksNothing := by
  rintro ⟨hexpression, hfile⟩
  have hgiven := h.given
  rw [expressionsOf_of_unnamed (by rw [hfile]; rfl), hexpression] at hgiven
  cases hmap : expressions with
  | nil =>
    rw [hmap] at hgiven
    cases hgiven
  | cons e rest =>
    rw [hmap] at hgiven
    cases hgiven

/-- So the run reports on them. -/
theorem Request.Reads.run_eq (h : r.Reads files installation.engine pattern rules expressions) {arguments : List Text}
    (hr : Request.ofTexts installation.conventions arguments = .ok r) (elapsed : Nat) :
    let report := reportWith r elapsed pattern rules expressions
    run installation arguments files elapsed = ⟨endLines report.1, "", report.2⟩ := by
  rw [run_eq_conclude hr h.tests h.not_asksNothing, h.materials]
  rfl

/-- The mode, and what is printed besides, have no part in what can be read. -/
theorem Request.Reads.with_flags (h : r.Reads files engine pattern rules expressions) (strict lexemes benchmark : Bool) :
    Request.Reads { r with strict, lexemes, benchmark } files engine pattern rules expressions :=
  ⟨h.tests, h.pattern, h.rules, h.given, h.ne_nil⟩

variable {strict : Bool}

/-- There are errors among the diagnostics of all expressions if one of these has some. -/
theorem hasErrors_flatMap_iff (lexemes : Bool) :
    hasErrors (expressions.flatMap fun e => (reportExpression pattern rules strict lexemes e).2) = true ↔
      ∃ e ∈ expressions, HasError (lineTokens pattern rules e) := by
  rw [hasErrors, List.any_flatMap, List.any_eq_true]
  exact exists_congr fun e => and_congr_right fun _ => hasErrors_reported_iff strict

/-- In strict mode there is something to report if one of them has an error or ends with an operator. -/
theorem flatMap_strict_ne_nil_iff (lexemes : Bool) :
    (expressions.flatMap fun e => (reportExpression pattern rules true lexemes e).2) ≠ [] ↔
      ∃ e ∈ expressions, HasError (lineTokens pattern rules e) ∨ EndsWithOperator (lineTokens pattern rules e) := by
  rw [Ne, List.flatMap_eq_nil_iff]
  simp only [not_forall, exists_prop]
  exact exists_congr fun e => and_congr_right fun _ => reported_strict_ne_nil_iff

variable {arguments : List Text} (hr : Request.ofTexts installation.conventions arguments = .ok r)
  (h : r.Reads files installation.engine pattern rules expressions) (elapsed : Nat)
include hr h

/-- The output tells of errors exactly if an expression has some. -/
theorem tellsOfErrors_run_iff :
    TellsOfErrors (run installation arguments files elapsed).out ↔
      ∃ e ∈ expressions, HasError (lineTokens pattern rules e) := by
  have hreport : ¬ ∃ s ∈ expressions.flatMap fun e => (reportExpression pattern rules r.strict r.lexemes e).1,
      TellsOfErrors s := by
    rintro ⟨s, hs, htells⟩
    obtain ⟨e, -, he⟩ := List.mem_flatMap.mp hs
    exact not_tellsOfErrors_of_mem_report he htells
  rw [h.run_eq hr, tellsOfErrors_endLines, reportWith]
  simp only [List.mem_append, or_and_right, exists_or]
  rw [or_iff_right hreport, tellsOfErrors_verdict_iff, hasErrors_flatMap_iff]

/-- The run ends with the exit code of the verdict. -/
theorem ending_run : (run installation arguments files elapsed).ending = .returned (if r.strict = true ∧
    (expressions.flatMap fun e => (reportExpression pattern rules r.strict r.lexemes e).2) ≠ [] then 1 else 0) := by
  rw [h.run_eq hr, ← verdict_code]
  rfl

/-- In strict mode that is 1 exactly if there is something to report. -/
theorem ending_run_of_strict (hstrict : r.strict = true) :
    let counts := ∃ e ∈ expressions, HasError (lineTokens pattern rules e) ∨ EndsWithOperator (lineTokens pattern rules e)
    ((run installation arguments files elapsed).ending = .returned 1 ↔ counts) ∧
      ((run installation arguments files elapsed).ending = .returned 0 ↔ ¬ counts) := by
  intro counts
  have hcounts : _ ↔ counts := flatMap_strict_ne_nil_iff r.lexemes
  rw [ending_run hr h, hstrict, ← hcounts]
  split <;> simp_all

theorem ending_run_of_not_strict (hstrict : r.strict = false) :
    (run installation arguments files elapsed).ending = .returned 0 := by
  rw [ending_run hr h, if_neg (by simp [hstrict])]

end

/-- The verdict of the command, for arguments whose request can be met. In strict mode the exit code is 1 if the tokens of an
expression have an error or end with an operator other than a function name, and else it is 0; in the other mode it is 0. In
either mode a line tells of errors exactly if the tokens of an expression have one. The listing of lexemes and the timing have
no part in this. -/
theorem verdict_of_tokens (installation : Installation) {arguments : List Text} {r : Request}
    (hr : Request.ofTexts installation.conventions arguments = .ok r) {files : FileSystem} {pattern : Pattern} {rules : Rules}
    {expressions : List Text} (h : r.Reads files installation.engine pattern rules expressions) (elapsed : Nat) :
    let outcome := run installation arguments files elapsed
    let counts := ∃ e ∈ expressions, HasError (lineTokens pattern rules e) ∨ EndsWithOperator (lineTokens pattern rules e)
    (r.strict = true → (outcome.ending = .returned 1 ↔ counts) ∧ (outcome.ending = .returned 0 ↔ ¬ counts)) ∧
    (r.strict = false → outcome.ending = .returned 0) ∧
    (TellsOfErrors outcome.out ↔ ∃ e ∈ expressions, HasError (lineTokens pattern rules e)) ∧
    ∀ (arguments' : List Text) (strict lexemes benchmark : Bool) (elapsed' : Nat),
      Request.ofTexts installation.conventions arguments' = .ok { r with strict, lexemes, benchmark } →
      let outcome' := run installation arguments' files elapsed'
      (TellsOfErrors outcome'.out ↔ TellsOfErrors outcome.out) ∧
        (strict = r.strict → outcome'.ending = outcome.ending) := by
  intro outcome counts
  refine ⟨ending_run_of_strict hr h elapsed, ending_run_of_not_strict hr h elapsed, tellsOfErrors_run_iff hr h elapsed, ?_⟩
  intro arguments' strict lexemes benchmark elapsed' hr' outcome'
  have h' := h.with_flags strict lexemes benchmark
  refine ⟨(tellsOfErrors_run_iff hr' h' elapsed').trans (tellsOfErrors_run_iff hr h elapsed).symm, ?_⟩
  rintro rfl
  exact (ending_run hr' h' elapsed').trans (ending_run hr h elapsed).symm

/-- An expression that has nothing wrong with it, a comment, and an expression that ends with an operator. -/
def operatorAtEnd : Text := "1 + 2\n# (\n3 *\n".toList

/-- The operator at the end counts in strict mode, and it is no error. -/
theorem verdict_of_tokens_operator_at_end :
    let strictly := run .plain ["--strict".toList, "--file".toList, ['e']] (.holding operatorAtEnd) 0
    strictly.ending = .returned 1 ∧ ¬ TellsOfErrors strictly.out ∧
      (run .plain ["--benchmark".toList, "--file".toList, ['e']] (.holding operatorAtEnd) 7).ending = .returned 0 := by
  have hr : Request.ofTexts .early ["--strict".toList, "--file".toList, ['e']] =
    .ok { file := some ['e'], strict := true } := rfl
  have hr' : Request.ofTexts .early ["--benchmark".toList, "--file".toList, ['e']] =
    .ok { file := some ['e'], strict := false, lexemes := false, benchmark := true } := rfl
  have hread : readExpressions (.holding operatorAtEnd) ['e'] = .ok ["1 + 2".toList, "3 *".toList] :=
    readExpressions_of_holds (by decide +kernel) (by decide) (FileSystem.bytes_holding operatorAtEnd)
  have hreads : Request.Reads { file := some ['e'], strict := true } (.holding operatorAtEnd) .plain .default
      (.ofFunctions (.build [] true)) ["1 + 2".toList, "3 *".toList] := by
    refine ⟨rfl, rfl, rfl, ?_, by decide⟩
    simp only [expressionsOf, hread]
    rfl
  obtain ⟨hstrict, -, herrors, -⟩ := verdict_of_tokens .plain hr hreads 0
  obtain ⟨-, hloose, -, -⟩ := verdict_of_tokens .plain hr' (hreads.with_flags false false true) 7
  refine ⟨(hstrict rfl).1.mpr ⟨"3 *".toList, by decide, Or.inr ?_⟩, ?_, hloose rfl⟩
  · decide +kernel
  · rw [herrors]
    decide +kernel

end CommandLine

end ExprLex
