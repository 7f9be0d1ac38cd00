import ExprLex.Proofs.FrontEnds

/-!
# How the command ends

A request for tokens needs a pattern, the rules, and expressions that are there. It is prepared in this order
(`Request.materials`), and the first failure on the way ends the run: either it is reported on a line of its own, with exit
code 1, or nothing deals with it. The latter happens in three cases only. The pattern option has lost its value, which the
early conventions alone allow; the pattern is not malformed but has another fault, which is a bound that is too large, flags
that contradict each other or groups that nest too deep; or a path holds a null character. With the materials at hand nothing
fails any more.
-/

namespace ExprLex

/-! ## Files that are looked for -/

/-- Looking for a file fails for reasons of the system alone. -/
def FileSystem.Looks (files : FileSystem) : Prop := ∀ path e, files.bytes path = .error e → e.isSystem = true

/-- A walk through a tree of files fails for reasons of the system. -/
theorem FileTree.isSystem_of_walk {tree : FileTree} {path : Path} {reached : Place} {names : List Text} {e : FileError}
    (h : tree.walk path reached names = .error e) : e.isSystem = true := by
  induction names generalizing reached with
  | nil =>
    simp only [walk] at h
    split at h
    · cases h
      rfl
    · cases h
  | cons name rest ih =>
    simp only [walk] at h
    split at h
    · cases h
      rfl
    · cases h
      rfl
    · split at h
      · cases h
        rfl
      · split at h
        · cases h
          rfl
        · exact ih h

/-- So it is with a tree of files. -/
theorem FileTree.looks (tree : FileTree) : tree.toFileSystem.Looks := by
  intro path e h
  simp only [toFileSystem, bytes] at h
  split at h
  · cases h
    rfl
  · split at h
    · rename_i hwalk
      cases h
      exact isSystem_of_walk hwalk
    · cases h
      rfl
    · cases h

/-- The reason that is not the system's is a null character in the path. -/
theorem FileSystem.Looks.isSystem_eq_false_iff {files : FileSystem} (hfiles : files.Looks) {path : Text} {e : FileError}
    (h : files.read path = .error e) : e.isSystem = false ↔ '\x00' ∈ path := by
  by_cases hnull : '\x00' ∈ path
  · rw [FileSystem.read, if_pos (by simpa using hnull)] at h
    cases h
    simp [FileError.isSystem, hnull]
  · rw [FileSystem.read, if_neg (by simpa using hnull)] at h
    cases hb : files.bytes (.ofText path) with
    | ok bytes =>
      rw [hb] at h
      cases h
    | error e' =>
      rw [hb] at h
      cases h
      simp [hfiles _ _ hb, hnull]

/-- A path with a null character cannot be read. -/
theorem FileSystem.exists_read_eq_error (files : FileSystem) {path : Text} (h : '\x00' ∈ path) :
    ∃ e, files.read path = .error e :=
  ⟨.nullCharacter, by rw [FileSystem.read, if_pos (by simpa using h)]⟩

namespace CommandLine

/-! ## The choice of a pattern -/

namespace Request

/-- An option without a value does not touch the choice. -/
theorem pattern_setFlag (r : Request) (s : Switch) : (r.setFlag s).pattern = r.pattern := by
  cases s <;> rfl

/-- A value that is kept is there. -/
theorem pattern_setValue_ne_void {r : Request} (h : r.pattern ≠ .void) (s : Switch) (value : Text) :
    (r.setValue s value).pattern ≠ .void := by
  cases s with
  | pattern => exact PatternChoice.noConfusion
  | _ => exact h

/-- The late conventions keep the values that are attached. -/
theorem attachValue_late (r : Request) (s : Switch) (value : Text) : attachValue .late r s value = r.setValue s value := rfl

/-- By the late conventions no argument leaves the pattern option without its value. -/
theorem collect_pattern_ne_void {r r' : Request} {placed : Bool} {extras : List Text} {arguments : List Argument}
    (h : r.pattern ≠ .void) (hr : collect .late r placed extras arguments = .ok r') : r'.pattern ≠ .void := by
  fun_induction collect Conventions.late r placed extras arguments with
  | case1 =>
    cases hr
    exact h
  | case2 | case10 | case12 | case13 | case16 | case17 => cases hr
  | case3 _ _ _ _ ih | case4 _ _ _ _ ih | case5 _ _ _ _ _ ih | case6 _ _ _ ih | case7 _ _ _ _ ih | case8 _ _ _ _ ih
  | case9 _ _ _ _ _ ih => exact ih h hr
  | case11 _ _ _ s _ value _ _ _ ih =>
    rw [attachValue_late] at ih hr
    exact ih (pattern_setValue_ne_void h s value) hr
  | case14 _ _ _ s _ value _ _ _ ih => exact ih (pattern_setValue_ne_void h s value) hr
  | case15 _ _ _ _ _ _ _ _ _ ih | case18 _ _ _ _ _ _ _ _ _ ih => exact ih (by rwa [pattern_setFlag]) hr

/-- So a request by the late conventions has a pattern to read, if it has the option. -/
theorem pattern_ne_void_of_ofTexts {arguments : List Text} {r : Request} (h : ofTexts .late arguments = .ok r) :
    r.pattern ≠ .void := by
  simp only [ofTexts] at h
  cases hparsed : (Argument.ofTexts arguments).mapError Stop.usage with
  | error e =>
    rw [hparsed] at h
    cases h
  | ok parsed =>
    rw [hparsed] at h
    exact collect_pattern_ne_void PatternChoice.noConfusion h

/-- By the early conventions it may have none. -/
example : ofTexts .early ["--pattern=--".toList] = .ok { pattern := .void } := rfl

end Request

/-! ## What a request needs -/

/-- The pattern that the arguments choose. -/
def PatternChoice.read (engine : Pattern.Engine) : PatternChoice → Except Failure Pattern
  | .unset => .ok .default
  | .void => .error .voidPattern
  | .source t => (Pattern.compile engine t).mapError fun fault => .lexing (.badPattern t fault)

/-- The pattern, the rules and the expressions of a request, or the first reason why there are none. -/
def Request.materials (r : Request) (files : FileSystem) (engine : Pattern.Engine) :
    Except Failure (Pattern × Rules × List Text) := do
  let pattern ← r.pattern.read engine
  let (rules, expressions) ← (inputsOf r files).mapError .reading
  if expressions.any fun e => (e.getD []).isEmpty then .error (.lexing .noExpression)
  else return (pattern, rules, expressions.filterMap id)

/-- Whether a failure is reported and dealt with. -/
def Failure.isReported : Failure → Bool
  | .lexing (.badPattern _ fault) => fault.isMalformed
  | .lexing _ => true
  | .reading e => e.isSystem
  | .voidPattern => false

/-- How a failure is reported. -/
def Failure.report : Failure → String
  | .lexing (.badPattern source fault) => "invalid pattern " ++ source.quoted ++ ": " ++ fault.message source
  | f => f.message

theorem Failure.report_badPattern (t : Text) (fault : Pattern.Fault) :
    (Failure.lexing (.badPattern t fault)).report = "invalid pattern " ++ t.quoted ++ ": " ++ fault.message t := rfl

/-- What is printed when the materials are there, and how the run ends. -/
def reportWith (r : Request) (elapsed : Nat) (pattern : Pattern) (rules : Rules) (expressions : List Text) :
    List String × Ending :=
  let (last, code) := verdict r expressions.length elapsed
    (expressions.flatMap fun e => (reportExpression pattern rules r.strict r.lexemes e).2)
  (expressions.flatMap (fun e => (reportExpression pattern rules r.strict r.lexemes e).1) ++ last, .returned code)

/-- What is printed with the materials at hand or for want of them, and how the run ends. -/
def conclude (r : Request) (elapsed : Nat) : Except Failure (Pattern × Rules × List Text) → List String × Ending
  | .error f => if f.isReported then (["ERROR: " ++ f.report], .returned 1) else ([], .failed f)
  | .ok (pattern, rules, expressions) => reportWith r elapsed pattern rules expressions

/-- The file that the arguments name by a path, if they do, cannot be read. An empty path names none. -/
def Unread (files : FileSystem) (path : Option Text) (e : FileError) : Prop :=
  ∃ t, path = some t ∧ t ≠ [] ∧ files.read t = .error e

/-- So it is with a file that the arguments name. -/
theorem Unread.isSystem_eq_false_iff {files : FileSystem} (hfiles : files.Looks) {path : Option Text} {e : FileError}
    (h : Unread files path e) : e.isSystem = false ↔ '\x00' ∈ path.getD [] := by
  obtain ⟨t, rfl, -, hread⟩ := h
  exact hfiles.isSystem_eq_false_iff hread

/-- A path among the arguments names a file unless it is missing or empty. -/
theorem path_cases (path : Option Text) : path.getD [] = [] ∨ ∃ c t, path = some (c :: t) := by
  rcases path with _ | _ | ⟨c, t⟩
  · exact Or.inl rfl
  · exact Or.inl rfl
  · exact Or.inr ⟨c, t, rfl⟩

theorem not_unread_of_unnamed {files : FileSystem} {path : Option Text} {e : FileError} (h : path.getD [] = []) :
    ¬ Unread files path e := by
  rintro ⟨t, rfl, hne, -⟩
  exact hne h

/-- A file whose path holds a null character fails to be read. -/
theorem exists_unread {path : Option Text} (h : '\x00' ∈ path.getD []) (files : FileSystem) : ∃ e, Unread files path e := by
  cases path with
  | none => cases h
  | some t =>
    obtain ⟨e, he⟩ := files.exists_read_eq_error h
    exact ⟨e, t, rfl, List.ne_nil_of_mem h, he⟩

section

variable {engine : Pattern.Engine} {r : Request} {files : FileSystem} {elapsed : Nat} {e : FileError}

/-- Where no file is named, the expression among the arguments is the only one. -/
theorem expressionsOf_of_unnamed (h : r.file.getD [] = []) : expressionsOf r files = .ok [r.expression] := by
  unfold expressionsOf
  split
  · rename_i c path hfile
    rw [hfile] at h
    cases h
  · rfl

/-- Where no file is named, the expression is the one among the arguments, and the expressions of a file are not empty. -/
theorem expressionsOf_cases {expressions : List (Option Text)} (h : expressionsOf r files = .ok expressions) :
    (r.file.getD [] = [] ∧ expressions = [r.expression]) ∨
      r.file.getD [] ≠ [] ∧ ∃ given : List Text, (∀ e ∈ given, e ≠ []) ∧ expressions = given.map some := by
  rcases path_cases r.file with hunnamed | ⟨c, path, hfile⟩
  · rw [expressionsOf_of_unnamed hunnamed] at h
    cases h
    exact Or.inl ⟨hunnamed, rfl⟩
  · simp only [expressionsOf, hfile, readExpressions] at h
    cases hread : files.read (c :: path) with
    | error e =>
      rw [hread] at h
      cases h
    | ok t =>
      rw [hread] at h
      refine Or.inr ⟨by simp [hfile], _, fun e he => ?_, (Except.ok.inj h).symm⟩
      rintro rfl
      cases (List.mem_filter.mp he).2

/-- Among expressions that are not empty none is missing. -/
theorem any_isEmpty_map_some {given : List Text} (h : ∀ e ∈ given, e ≠ []) :
    ((given.map some).any fun e => (e.getD []).isEmpty) = false := by
  simpa using h

/-- An expression is missing only among the arguments. -/
theorem missing_iff {expressions : List (Option Text)} (h : expressionsOf r files = .ok expressions) :
    (expressions.any fun e => (e.getD []).isEmpty) = true ↔ r.file.getD [] = [] ∧ r.expression.getD [] = [] := by
  rcases expressionsOf_cases h with ⟨hfile, rfl⟩ | ⟨hfile, given, hgiven, rfl⟩
  · simp [hfile]
  · simp [hfile, any_isEmpty_map_some hgiven]

/-- The rules cannot be had exactly if the file of function names cannot be read. -/
theorem rulesOf_eq_error_iff : rulesOf r files = .error e ↔ Unread files r.functionsFile e := by
  rcases path_cases r.functionsFile with hunnamed | ⟨c, path, hpath⟩
  · refine iff_of_false ?_ (not_unread_of_unnamed hunnamed)
    rw [rulesOf, hunnamed]
    exact nofun
  · rw [rulesOf, Unread, hpath]
    cases hread : files.read (c :: path) <;> simp [hread, Except.map, pure, Except.pure, bind, Except.bind]

/-- The expressions cannot be had exactly if their file cannot be read. -/
theorem expressionsOf_eq_error_iff : expressionsOf r files = .error e ↔ Unread files r.file e := by
  rcases path_cases r.file with hunnamed | ⟨c, path, hpath⟩
  · refine iff_of_false ?_ (not_unread_of_unnamed hunnamed)
    rw [expressionsOf_of_unnamed hunnamed]
    exact nofun
  · rw [Unread, hpath]
    simp only [expressionsOf, hpath, readExpressions]
    cases hread : files.read (c :: path) <;> simp [hread, pure, Except.pure, bind, Except.bind]

/-- The rules are read before the expressions. -/
theorem inputsOf_eq_error_iff : inputsOf r files = .error e ↔
    Unread files r.functionsFile e ∨ (∃ rules, rulesOf r files = .ok rules) ∧ Unread files r.file e := by
  rw [← rulesOf_eq_error_iff, ← expressionsOf_eq_error_iff, inputsOf]
  cases rulesOf r files <;> cases expressionsOf r files <;> simp [bind, Except.bind, pure, Except.pure]

/-- Rules and expressions are there if each of them is. -/
theorem inputsOf_eq_ok_iff {rules : Rules} {expressions : List (Option Text)} : inputsOf r files = .ok (rules, expressions) ↔
    rulesOf r files = .ok rules ∧ expressionsOf r files = .ok expressions := by
  rw [inputsOf]
  cases rulesOf r files <;> cases expressionsOf r files <;> simp [bind, Except.bind, pure, Except.pure]

theorem read_of_compile_eq_ok {t : Text} {pattern : Pattern} (hp : r.pattern = .source t)
    (hc : Pattern.compile engine t = .ok pattern) : r.pattern.read engine = .ok pattern := by
  rw [hp, PatternChoice.read, hc]
  rfl

theorem read_of_compile_eq_error {t : Text} {fault : Pattern.Fault} (hp : r.pattern = .source t)
    (hc : Pattern.compile engine t = .error fault) : r.pattern.read engine = .error (.lexing (.badPattern t fault)) := by
  rw [hp, PatternChoice.read, hc]
  rfl

/-- The pattern is read before the rest. -/
theorem materials_of_read_eq_error {f : Failure} (h : r.pattern.read engine = .error f) :
    r.materials files engine = .error f := by
  rw [Request.materials, h]
  rfl

/-- With a pattern, the first failure is that of the rules or the expressions. -/
theorem materials_of_inputsOf_eq_error {pattern : Pattern} (hp : r.pattern.read engine = .ok pattern)
    (h : inputsOf r files = .error e) : r.materials files engine = .error (.reading e) := by
  rw [Request.materials, hp, h]
  rfl

/-- With all of these, only a missing expression is left to fail. -/
theorem materials_of_inputsOf_eq_ok {pattern : Pattern} (hp : r.pattern.read engine = .ok pattern) {rules : Rules}
    {expressions : List (Option Text)} (h : inputsOf r files = .ok (rules, expressions)) :
    r.materials files engine = if expressions.any fun e => (e.getD []).isEmpty then .error (.lexing .noExpression)
      else .ok (pattern, rules, expressions.filterMap id) := by
  rw [Request.materials, hp, h]
  rfl

/-- A run under a pattern that could be read. -/
theorem lexWith_eq {pattern : Pattern} (hp : r.pattern.read engine = .ok pattern) :
    lexWith pattern r files elapsed = conclude r elapsed (r.materials files engine) := by
  rw [lexWith]
  cases hinputs : inputsOf r files with
  | error e =>
    rw [materials_of_inputsOf_eq_error hp hinputs]
    rfl
  | ok inputs =>
    obtain ⟨rules, expressions⟩ := inputs
    rw [materials_of_inputsOf_eq_ok hp hinputs]
    rcases expressionsOf_cases (inputsOf_eq_ok_iff.mp hinputs).2 with ⟨-, rfl⟩ | ⟨-, given, hgiven, rfl⟩
    · rcases r.expression with _ | _ | ⟨c, t⟩
      · rfl
      · rfl
      · rfl
    · simp only [reportAll_eq hgiven, any_isEmpty_map_some hgiven]
      simp [conclude, reportWith]

/-- The line about a malformed pattern. -/
theorem line_badPattern (t : Text) (fault : Pattern.Fault) :
    "ERROR: invalid pattern " ++ t.quoted ++ ": " ++ fault.message t =
      "ERROR: " ++ (Failure.lexing (.badPattern t fault)).report := by
  have hstart : "ERROR: invalid pattern " = "ERROR: " ++ "invalid pattern " := by simp
  rw [Failure.report_badPattern]
  simp only [hstart, String.append_assoc]

/-- A run goes as far as its materials are there. -/
theorem lexAll_eq (engine : Pattern.Engine) (r : Request) (files : FileSystem) (elapsed : Nat) :
    lexAll engine r files elapsed = conclude r elapsed (r.materials files engine) := by
  cases hpattern : r.pattern with
  | unset =>
    have hread : r.pattern.read engine = .ok .default := by rw [hpattern, PatternChoice.read]
    rw [← lexWith_eq hread, lexAll, hpattern]
  | void =>
    have hread : r.pattern.read engine = .error .voidPattern := by rw [hpattern, PatternChoice.read]
    rw [materials_of_read_eq_error hread, lexAll, hpattern]
    rfl
  | source t =>
    cases hc : Pattern.compile engine t with
    | ok pattern =>
      rw [← lexWith_eq (read_of_compile_eq_ok hpattern hc), lexAll, hpattern]
      simp only [hc]
    | error fault =>
      rw [materials_of_read_eq_error (read_of_compile_eq_error hpattern hc), lexAll, hpattern]
      simp only [hc, line_badPattern]
      rfl

/-- The exit code is 0 or 1. -/
theorem verdict_le_one (r : Request) (count elapsed : Nat) (diagnostics : List Diagnostic) :
    (verdict r count elapsed diagnostics).2 ≤ 1 := by
  simp only [verdict]
  split
  · exact Nat.le_refl 1
  · exact Nat.zero_le 1

/-- A run with its materials ends with an exit code. -/
theorem exists_code_reportWith (pattern : Pattern) (rules : Rules) (expressions : List Text) :
    ∃ code ≤ 1, (reportWith r elapsed pattern rules expressions).2 = .returned code :=
  ⟨_, verdict_le_one r _ _ _, rfl⟩

end

/-! ## Failures -/

/-- A request for nothing: there is neither an expression nor a file. -/
def Request.AsksNothing (r : Request) : Prop := r.expression = none ∧ r.file = none

/-- A request with a failure that nothing deals with, before any other failure. -/
inductive Request.Escapes (r : Request) (files : FileSystem) (engine : Pattern.Engine) : Prop where
  | void (h : r.pattern = .void)
  | fault {t : Text} {fault : Pattern.Fault} (hp : r.pattern = .source t) (hc : Pattern.compile engine t = .error fault)
    (hm : fault.isMalformed = false)
  | functionsFile {pattern : Pattern} (hp : r.pattern.read engine = .ok pattern) (h : '\x00' ∈ r.functionsFile.getD [])
  | file {pattern : Pattern} {rules : Rules} (hp : r.pattern.read engine = .ok pattern) (hr : rulesOf r files = .ok rules)
    (h : '\x00' ∈ r.file.getD [])

/-- A request that cannot be met: the expression is missing or empty, the pattern cannot be read, or one of the files. -/
inductive Request.Troubled (r : Request) (files : FileSystem) (engine : Pattern.Engine) : Prop where
  | expression (hf : r.file.getD [] = []) (he : r.expression.getD [] = [])
  | pattern {t : Text} {fault : Pattern.Fault} (hp : r.pattern = .source t) (hc : Pattern.compile engine t = .error fault)
  | functionsFile {e : FileError} (h : Unread files r.functionsFile e)
  | file {e : FileError} (h : Unread files r.file e)

section

variable {engine : Pattern.Engine} {r : Request} {files : FileSystem} {elapsed : Nat} {e : FileError}

/-- What escapes is exactly what is not reported. -/
theorem escapes_iff (hfiles : files.Looks) :
    r.Escapes files engine ↔ ∃ f, r.materials files engine = .error f ∧ f.isReported = false := by
  constructor
  · intro h
    cases h with
    | void h => exact ⟨_, materials_of_read_eq_error (by rw [h, PatternChoice.read]), rfl⟩
    | fault hp hc hm => exact ⟨_, materials_of_read_eq_error (read_of_compile_eq_error hp hc), hm⟩
    | functionsFile hp h =>
      obtain ⟨e, he⟩ := exists_unread h files
      exact ⟨_, materials_of_inputsOf_eq_error hp (inputsOf_eq_error_iff.mpr (Or.inl he)),
        (he.isSystem_eq_false_iff hfiles).mpr h⟩
    | file hp hr h =>
      obtain ⟨e, he⟩ := exists_unread h files
      exact ⟨_, materials_of_inputsOf_eq_error hp (inputsOf_eq_error_iff.mpr (Or.inr ⟨⟨_, hr⟩, he⟩)),
        (he.isSystem_eq_false_iff hfiles).mpr h⟩
  · rintro ⟨f, hf, hunreported⟩
    cases hread : r.pattern.read engine with
    | error f' =>
      cases (materials_of_read_eq_error hread).symm.trans hf
      cases hpattern : r.pattern with
      | void => exact .void hpattern
      | unset =>
        rw [hpattern, PatternChoice.read] at hread
        cases hread
      | source t =>
        cases hc : Pattern.compile engine t with
        | ok pattern => cases (read_of_compile_eq_ok hpattern hc).symm.trans hread
        | error fault =>
          cases (read_of_compile_eq_error hpattern hc).symm.trans hread
          exact .fault hpattern hc hunreported
    | ok pattern =>
      cases hinputs : inputsOf r files with
      | error e =>
        cases (materials_of_inputsOf_eq_error hread hinputs).symm.trans hf
        rcases inputsOf_eq_error_iff.mp hinputs with he | ⟨⟨rules, hrules⟩, he⟩
        · exact .functionsFile hread ((he.isSystem_eq_false_iff hfiles).mp hunreported)
        · exact .file hread hrules ((he.isSystem_eq_false_iff hfiles).mp hunreported)
      | ok inputs =>
        rw [materials_of_inputsOf_eq_ok hread hinputs] at hf
        split at hf
        · cases hf
          cases hunreported
        · cases hf

/-- What cannot be met fails. -/
theorem Request.Troubled.materials (h : r.Troubled files engine) : ∃ f, r.materials files engine = .error f := by
  cases hread : r.pattern.read engine with
  | error f => exact ⟨f, materials_of_read_eq_error hread⟩
  | ok pattern =>
    cases hinputs : inputsOf r files with
    | error e => exact ⟨_, materials_of_inputsOf_eq_error hread hinputs⟩
    | ok inputs =>
      obtain ⟨rules, expressions⟩ := inputs
      obtain ⟨hrules, hexpressions⟩ := inputsOf_eq_ok_iff.mp hinputs
      cases h with
      | expression hf he =>
        refine ⟨.lexing .noExpression, ?_⟩
        rw [materials_of_inputsOf_eq_ok hread hinputs, if_pos ((missing_iff hexpressions).mpr ⟨hf, he⟩)]
      | pattern hp hc => cases hread.symm.trans (read_of_compile_eq_error hp hc)
      | functionsFile h => cases hrules.symm.trans (rulesOf_eq_error_iff.mpr h)
      | file h => cases hexpressions.symm.trans (expressionsOf_eq_error_iff.mpr h)

section

variable {installation : Installation} {arguments : List Text}
  (hr : Request.ofTexts installation.conventions arguments = .ok r)
  (htests : r.tests = false)
include hr htests

/-- A request for nothing is answered by the help. -/
theorem run_of_asksNothing (h : r.AsksNothing) :
    run installation arguments files elapsed = ⟨endLines help, "", .returned 1⟩ := by
  simp [run, hr, serve, htests, h.1, h.2]

/-- Any other one goes as far as its materials are there. -/
theorem run_eq_conclude (h : ¬ r.AsksNothing) : run installation arguments files elapsed =
    let (lines, ending) := conclude r elapsed (r.materials files installation.engine)
    ⟨endLines lines, "", ending⟩ := by
  have hgiven : (r.expression.isNone && r.file.isNone) = false := by
    rw [← Bool.not_eq_true, Bool.and_eq_true, Option.isNone_iff_eq_none, Option.isNone_iff_eq_none]
    exact h
  simp [run, hr, serve, htests, hgiven, lexAll_eq]

/-- A failure that is dealt with is one line and the exit code 1. -/
theorem run_of_reported (h : ¬ r.AsksNothing) {f : Failure} (hf : r.materials files installation.engine = .error f)
    (hreported : f.isReported = true) :
    run installation arguments files elapsed = ⟨endLines ["ERROR: " ++ f.report], "", .returned 1⟩ := by
  rw [run_eq_conclude hr htests h, hf, conclude, if_pos hreported]

/-- One that is not leaves the run with nothing printed. -/
theorem run_of_unreported (h : ¬ r.AsksNothing) {f : Failure} (hf : r.materials files installation.engine = .error f)
    (hreported : f.isReported = false) : run installation arguments files elapsed = ⟨"", "", .failed f⟩ := by
  rw [run_eq_conclude hr htests h, hf, conclude, if_neg (by simp [hreported])]
  rfl

/-- A run that does not escape ends with an exit code. -/
theorem exists_code_of_not_escapes (hfiles : files.Looks) (h : r.AsksNothing ∨ ¬ r.Escapes files installation.engine) :
    ∃ code ≤ 1, (run installation arguments files elapsed).ending = .returned code := by
  by_cases hasks : r.AsksNothing
  · exact ⟨1, Nat.le_refl 1, by rw [run_of_asksNothing hr htests hasks]⟩
  cases hm : r.materials files installation.engine with
  | ok found =>
    obtain ⟨pattern, rules, expressions⟩ := found
    rw [run_eq_conclude hr htests hasks, hm]
    exact exists_code_reportWith pattern rules expressions
  | error f =>
    cases hreported : f.isReported with
    | true => exact ⟨1, Nat.le_refl 1, by rw [run_of_reported hr htests hasks hm hreported]⟩
    | false => exact absurd ((escapes_iff hfiles).mpr ⟨f, hm, hreported⟩) (h.resolve_left hasks)

end

end

/-- How the command ends, for arguments that ask for tokens. It ends with an exit code, which is 0 or 1, unless it is asked
for something and the request escapes; then it has printed nothing, and the run ends with the failure. Where nothing is asked
for the help is printed, with exit code 1. Any other trouble that does not escape is reported with exit code 1, on one line
about the first failure. -/
theorem ends_with_exit_code_iff (installation : Installation) {arguments : List Text} {r : Request}
    (hr : Request.ofTexts installation.conventions arguments = .ok r) (htests : r.tests = false) {files : FileSystem}
    (hfiles : files.Looks) (elapsed : Nat) :
    let engine := installation.engine
    let outcome := run installation arguments files elapsed
    ((∃ code ≤ 1, outcome.ending = .returned code) ↔ r.AsksNothing ∨ ¬ r.Escapes files engine) ∧
      (¬ r.AsksNothing → r.Escapes files engine → ∃ f, r.materials files engine = .error f ∧ outcome = ⟨"", "", .failed f⟩) ∧
      (r.AsksNothing → outcome = ⟨endLines help, "", .returned 1⟩) ∧
      (¬ r.AsksNothing → r.Troubled files engine → ¬ r.Escapes files engine →
        ∃ f, r.materials files engine = .error f ∧ outcome = ⟨endLines ["ERROR: " ++ f.report], "", .returned 1⟩) := by
  intro engine outcome
  have hfailed : ¬ r.AsksNothing → r.Escapes files engine →
      ∃ f, r.materials files engine = .error f ∧ outcome = ⟨"", "", .failed f⟩ := by
    intro hasks hescapes
    obtain ⟨f, hf, hunreported⟩ := (escapes_iff hfiles).mp hescapes
    exact ⟨f, hf, run_of_unreported hr htests hasks hf hunreported⟩
  refine ⟨⟨?_, exists_code_of_not_escapes hr htests hfiles⟩, hfailed, run_of_asksNothing hr htests, ?_⟩
  · rintro ⟨code, -, hcode⟩
    by_contra hnot
    obtain ⟨hasks, hescapes⟩ := not_or.mp hnot
    obtain ⟨f, -, houtcome⟩ := hfailed hasks (not_not.mp hescapes)
    rw [houtcome] at hcode
    cases hcode
  · intro hasks htroubled hescapes
    obtain ⟨f, hf⟩ := htroubled.materials
    refine ⟨f, hf, run_of_reported hr htests hasks hf ?_⟩
    by_contra hunreported
    exact hescapes ((escapes_iff hfiles).mpr ⟨f, hf, Bool.eq_false_iff.mpr hunreported⟩)

/-- Arguments that name a file that is not there. -/
def missingFileNamed : List Text := ["--strict".toList, "--file".toList, "e.expr".toList]

/-- A file that is not there is reported. -/
theorem ends_with_exit_code_iff_missing_file : run .plain missingFileNamed (FileTree.toFileSystem []) 0 =
    ⟨endLines ["ERROR: " ++ (FileError.notFound (.ofText "e.expr".toList)).message], "", .returned 1⟩ := by
  have hr : Request.ofTexts .early missingFileNamed = .ok { strict := true, file := some "e.expr".toList } := rfl
  have hunread : Unread (FileTree.toFileSystem []) (some "e.expr".toList) (.notFound (.ofText "e.expr".toList)) :=
    ⟨_, rfl, by decide, rfl⟩
  have hescapes : ¬ Request.Escapes { strict := true, file := some "e.expr".toList } (FileTree.toFileSystem []) .plain := by
    rintro (⟨⟨⟩⟩ | ⟨⟨⟩, -, -⟩ | ⟨-, h⟩ | ⟨-, -, h⟩)
    · cases h
    · exact absurd h (by decide)
  have hasks : ¬ Request.AsksNothing { strict := true, file := some "e.expr".toList } := by
    rintro ⟨-, ⟨⟩⟩
  obtain ⟨-, -, -, h⟩ := ends_with_exit_code_iff .plain hr rfl (FileTree.looks []) 0
  obtain ⟨f, hf, houtcome⟩ := h hasks (.file hunread) hescapes
  have hinputs : inputsOf { strict := true, file := some "e.expr".toList } (FileTree.toFileSystem []) = .error _ :=
    inputsOf_eq_error_iff.mpr (Or.inr ⟨⟨_, rfl⟩, hunread⟩)
  cases hf.symm.trans (materials_of_inputsOf_eq_error rfl hinputs)
  exact houtcome

/-- A bound of a repetition that is too large, and an expression. -/
def overlongBoundGiven : List Text := ["--pattern".toList, "a\x7b4294967295\x7d".toList, "1".toList]

/-- A pattern that cannot be read may end the run with a failure. -/
theorem not_ends_with_exit_code_overlong_bound :
    ∃ r, Request.ofTexts .early overlongBoundGiven = .ok r ∧ r.tests = false ∧
      ¬ ∃ code, (run .plain overlongBoundGiven (FileTree.toFileSystem []) 0).ending = .returned code := by
  refine ⟨_, rfl, rfl, ?_⟩
  rintro ⟨code, h⟩
  have hfailed : (run .plain overlongBoundGiven (FileTree.toFileSystem []) 0).ending =
      .failed (.lexing (.badPattern "a\x7b4294967295\x7d".toList .boundTooLarge)) := rfl
  cases h.symm.trans hfailed

end CommandLine

end ExprLex
