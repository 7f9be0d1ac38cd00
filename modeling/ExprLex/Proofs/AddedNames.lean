import ExprLex.Proofs.PublishedRanges
import ExprLex.Proofs.Signs
import Mathlib.Data.List.Forall2

/-!
# More function names

Where more function names are registered, an expression is read as before but for the lexemes that become function names
(`Rules.adopts`) and the signs directly behind them. The change stops there: whether a sign is unary or not, it is an
operator, so nothing behind it can tell. Parentheses stay what they are and so does an operator at the end; the only
diagnostics that change are those of the unknown lexemes that are now known, which are gone.
-/

namespace ExprLex

/-- Whether a lexeme is one of the seven symbols. -/
def isSymbolLexeme : Text → Bool
  | [c] => isSymbol c
  | _ => false

namespace Rules

/-- The rules with more function names. -/
def extend (rules : Rules) (names : Registry) : Rules := rules.withFunctions (rules.functions ∪ names)

/-- Whether a lexeme becomes a function where names are registered: it is one of the names and was no function name before,
and it is neither a symbol nor a number. -/
def adopts (rules : Rules) (names : Registry) (lexeme : Text) : Bool :=
  names.contains lexeme && !rules.isFunction lexeme && !isSymbolLexeme lexeme && !rules.isNumber lexeme

/-! ## The kind of one lexeme -/

section

variable {rules : Rules} {names : Registry} {lexeme : Text}

/-- A function name was one before, or it is among the added ones. -/
theorem isFunction_extend (rules : Rules) (names : Registry) (lexeme : Text) :
    (rules.extend names).isFunction lexeme = (rules.isFunction lexeme || names.contains lexeme) := by
  rw [Bool.eq_iff_iff, Bool.or_eq_true]
  simp only [isFunction, extend, withFunctions, List.contains_iff_mem, List.mem_union_iff]

/-- The rules have no say in symbols. -/
theorem kindOf_of_isSymbolLexeme (h : isSymbolLexeme lexeme = true) (rules rules' : Rules) (previous : Option Token) :
    rules.kindOf previous lexeme = rules'.kindOf previous lexeme := by
  unfold isSymbolLexeme at h
  split at h
  · rcases eq_of_isSymbol h with rfl | rfl | rfl | rfl | rfl | rfl | rfl <;> rfl
  · cases h

/-- What is no symbol has no sign for its only character. -/
theorem not_symbol_of_isSymbolLexeme (h : isSymbolLexeme lexeme = false) : ∀ c, lexeme = [c] → isSymbol c = false := by
  rintro c rfl
  exact h

/-- A lexeme that becomes a function was a name or unknown. -/
theorem kindOf_of_adopts (h : rules.adopts names lexeme = true) (previous previous' : Option Token) :
    (rules.kindOf previous lexeme = .operand .name ∨ rules.kindOf previous lexeme = .unknown) ∧
      (rules.extend names).kindOf previous' lexeme = .operator .function := by
  simp only [adopts, Bool.and_eq_true, Bool.not_eq_true'] at h
  obtain ⟨⟨⟨hnames, hfunction⟩, hsymbol⟩, hnumber⟩ := h
  have hnot := not_symbol_of_isSymbolLexeme hsymbol
  have hnumber' : (rules.extend names).isNumber lexeme = false := hnumber
  constructor
  · rw [rules.kindOf_of_not_symbol previous hnot, hnumber, hfunction]
    cases rules.isIdentifier lexeme with
    | true => exact Or.inl rfl
    | false => exact Or.inr rfl
  · rw [(rules.extend names).kindOf_of_not_symbol previous' hnot, hnumber', isFunction_extend, hnames, Bool.or_true]
    rfl

/-- No sign becomes a function name. -/
theorem adopts_sign (rules : Rules) (names : Registry) (s : Sign) : rules.adopts names s.lexeme = false := by
  have hsymbol : isSymbolLexeme s.lexeme = true := by cases s <;> rfl
  rw [adopts, hsymbol, Bool.not_true, Bool.and_false, Bool.false_and]

/-- A lexeme that does not become a function keeps its kind, behind the same token. -/
theorem kindOf_extend_of_not_adopts (h : rules.adopts names lexeme = false) (previous : Option Token) :
    (rules.extend names).kindOf previous lexeme = rules.kindOf previous lexeme := by
  cases hsymbol : isSymbolLexeme lexeme with
  | true => exact kindOf_of_isSymbolLexeme hsymbol _ _ previous
  | false =>
    have hnot := not_symbol_of_isSymbolLexeme hsymbol
    rw [(rules.extend names).kindOf_of_not_symbol previous hnot, rules.kindOf_of_not_symbol previous hnot,
      isFunction_extend]
    show (if rules.isNumber lexeme then _ else _) = _
    simp only [adopts, hsymbol, Bool.not_false, Bool.and_true, Bool.and_eq_false_iff, Bool.not_eq_false'] at h
    rcases h with (hnames | hfunction) | hnumber
    · rw [hnames, Bool.or_false]
      rfl
    · rw [hfunction, Bool.true_or]
      rfl
    · rw [if_pos hnumber, if_pos hnumber]

/-- The token before a lexeme counts for signs only. -/
theorem kindOf_of_not_sign (rules : Rules) (h : ∀ s : Sign, lexeme ≠ s.lexeme) (previous previous' : Option Token) :
    rules.kindOf previous lexeme = rules.kindOf previous' lexeme := by
  unfold kindOf
  split
  · exact absurd rfl (h .plus)
  · exact absurd rfl (h .minus)
  all_goals rfl

/-- The token before a lexeme has no say in what may follow the lexeme: either reading of a sign is an operator. -/
theorem startsOperand_kindOf (rules : Rules) (lexeme : Text) (previous previous' : Option Token) :
    (rules.kindOf previous lexeme).startsOperand = (rules.kindOf previous' lexeme).startsOperand := by
  by_cases h : ∃ s : Sign, lexeme = s.lexeme
  · obtain ⟨s, rfl⟩ := h
    rw [kindOf_sign, kindOf_sign]
    rfl
  · rw [kindOf_of_not_sign rules (fun s hs => h ⟨s, hs⟩) previous previous']

/-- Behind a lexeme that becomes a function a sign is unary, and behind every other one it is what it was. -/
theorem startsOperand_kindOf_extend (rules : Rules) (names : Registry) (lexeme : Text)
    (previous previous' : Option Token) : ((rules.extend names).kindOf previous' lexeme).startsOperand =
      ((rules.kindOf previous lexeme).startsOperand || rules.adopts names lexeme) := by
  cases h : rules.adopts names lexeme with
  | true =>
    rw [(kindOf_of_adopts h previous previous').2, Bool.or_true]
    rfl
  | false => rw [kindOf_extend_of_not_adopts h, Bool.or_false, startsOperand_kindOf rules lexeme previous previous']

end

end Rules

/-! ## The tokens of one list of lexemes, read twice -/

/-- Whether the token before a place becomes a function. -/
def Rules.adoptsBefore (rules : Rules) (names : Registry) (before : Option Token) : Bool :=
  before.any fun b => rules.adopts names b.lexeme

/-- What becomes of a token behind a given one where names are registered. -/
inductive Token.RereadAs (rules : Rules) (names : Registry) (before : Option Token) (t : Token) : Token → Prop where
  | function (h : rules.adopts names t.lexeme = true) (hk : t.kind = .operand .name ∨ t.kind = .unknown) :
      RereadAs rules names before t { t with kind := .operator .function }
  | sign (s : Sign) (hs : t.lexeme = s.lexeme) (hbefore : rules.adoptsBefore names before = true)
      (hk : t.kind = .operator s.binary) : RereadAs rules names before t { t with kind := .operator s.unary }
  | alike (h : rules.adopts names t.lexeme = false)
      (hsign : (∃ s : Sign, t.lexeme = s.lexeme) → rules.adoptsBefore names before = false) :
      RereadAs rules names before t t

namespace Token.RereadAs

variable {rules : Rules} {names : Registry} {before : Option Token} {t t' : Token}

/-- A token is another one exactly if its lexeme is adopted, or it is a sign behind one that is. -/
theorem ne_iff (h : t.RereadAs rules names before t') : t ≠ t' ↔ rules.adopts names t.lexeme = true ∨
    (∃ s : Sign, t.lexeme = s.lexeme) ∧ rules.adoptsBefore names before = true := by
  cases h with
  | function hadopts hk =>
    refine iff_of_true (fun he => ?_) (Or.inl hadopts)
    rcases hk with hk | hk <;> cases hk.symm.trans (congrArg Token.kind he)
  | sign s hs hbefore hk =>
    refine iff_of_true (fun he => ?_) (Or.inr ⟨⟨s, hs⟩, hbefore⟩)
    exact s.unary_ne_binary (Kind.operator.inj (hk.symm.trans (congrArg Token.kind he))).symm
  | alike hadopts hsign =>
    refine iff_of_false (fun hne => hne rfl) ?_
    rintro (hadopts' | ⟨hs, hbefore⟩)
    · exact Bool.noConfusion (hadopts.symm.trans hadopts')
    · exact Bool.noConfusion ((hsign hs).symm.trans hbefore)

/-- An adopted lexeme was a name or unknown, and it is a function now. -/
theorem kinds_of_adopts (h : t.RereadAs rules names before t') (hadopts : rules.adopts names t.lexeme = true) :
    (t.kind = .operand .name ∨ t.kind = .unknown) ∧ t'.kind = .operator .function := by
  cases h with
  | function _ hk => exact ⟨hk, rfl⟩
  | sign s hs =>
    rw [hs, Rules.adopts_sign] at hadopts
    cases hadopts
  | alike hadopts' => exact Bool.noConfusion (hadopts'.symm.trans hadopts)

/-- A sign behind it was a binary operator, and it is a sign of a number now. -/
theorem kinds_of_adoptsBefore (h : t.RereadAs rules names before t') (hbefore : rules.adoptsBefore names before = true)
    {s : Sign} (hs : t.lexeme = s.lexeme) : t.kind = .operator s.binary ∧ t'.kind = .operator s.unary := by
  cases h with
  | function hadopts =>
    rw [hs, Rules.adopts_sign] at hadopts
    cases hadopts
  | sign s' hs' _ hk =>
    obtain rfl : s' = s := Sign.lexeme_injective (hs'.symm.trans hs)
    exact ⟨hk, rfl⟩
  | alike _ hsign => exact Bool.noConfusion ((hsign ⟨s, hs⟩).symm.trans hbefore)

end Token.RereadAs

section

variable {rules : Rules} {names : Registry} {lexemes : List Text} {i : Nat} {t t' : Token}

/-- The tokens stand where they stood. -/
theorem places_tokenize_extend (rules : Rules) (names : Registry) (lexemes : List Text) :
    ((rules.extend names).tokenize lexemes).map (fun t => (t.lexeme, t.position)) =
      (rules.tokenize lexemes).map fun t => (t.lexeme, t.position) := by
  rw [Rules.tokenize, Rules.tokenize, Rules.tokensFrom_places, Rules.tokensFrom_places]

/-- There are as many tokens as before. -/
theorem length_tokenize_extend (rules : Rules) (names : Registry) (lexemes : List Text) :
    ((rules.extend names).tokenize lexemes).length = (rules.tokenize lexemes).length := by
  simpa using congrArg List.length (places_tokenize_extend rules names lexemes)

/-- The tokens stand where they stood, with the lexemes that they had. -/
theorem place_of_tokenize_extend (h : (rules.tokenize lexemes)[i]? = some t)
    (h' : ((rules.extend names).tokenize lexemes)[i]? = some t') : t'.lexeme = t.lexeme ∧ t'.position = t.position := by
  have hplace := congrArg (·[i]?) (places_tokenize_extend rules names lexemes)
  simpa [h, h'] using hplace

/-- The context of a sign: it is one of an operand as before, or now because the token before became a function. -/
theorem isSignContext_tokenBefore_extend (rules : Rules) (names : Registry) (lexemes : List Text) {i : Nat}
    (hi : i < (rules.tokenize lexemes).length) :
    isSignContext (tokenBefore none ((rules.extend names).tokenize lexemes) i) =
      (isSignContext (tokenBefore none (rules.tokenize lexemes) i) ||
        rules.adoptsBefore names (tokenBefore none (rules.tokenize lexemes) i)) := by
  cases i with
  | zero => rfl
  | succ n =>
    have hn : n < (rules.tokenize lexemes).length := Nat.lt_of_succ_lt hi
    have hb := List.getElem?_eq_getElem hn
    have hb' := List.getElem?_eq_getElem (length_tokenize_extend rules names lexemes ▸ hn)
    have hkind := rules.kind_of_tokenize lexemes hb
    have hkind' := (rules.extend names).kind_of_tokenize lexemes hb'
    rw [(place_of_tokenize_extend hb hb').1] at hkind'
    simp only [tokenBefore, hb, hb', isSignContext, Rules.adoptsBefore, Option.any_some]
    rw [hkind, hkind']
    exact Rules.startsOperand_kindOf_extend rules names _ _ _

/-- A token behind one that becomes a function is in no context of a sign before. -/
theorem isSignContext_of_adoptsBefore
    (h : rules.adoptsBefore names (tokenBefore none (rules.tokenize lexemes) i) = true) :
    isSignContext (tokenBefore none (rules.tokenize lexemes) i) = false := by
  cases i with
  | zero => cases h
  | succ n =>
    cases hb : (rules.tokenize lexemes)[n]? with
    | none => simp [tokenBefore, hb, Rules.adoptsBefore] at h
    | some b =>
      simp only [tokenBefore, hb, Rules.adoptsBefore, Option.any_some, isSignContext] at h ⊢
      rw [rules.kind_of_tokenize lexemes hb]
      rcases (Rules.kindOf_of_adopts h (tokenBefore none (rules.tokenize lexemes) n) none).1 with hk | hk <;> rw [hk] <;> rfl

/-- What becomes of each token where names are registered depends on its lexeme and on the one before. -/
theorem rereadAs_tokenize (h : (rules.tokenize lexemes)[i]? = some t)
    (h' : ((rules.extend names).tokenize lexemes)[i]? = some t') :
    t.RereadAs rules names (tokenBefore none (rules.tokenize lexemes) i) t' := by
  have hkind := rules.kind_of_tokenize lexemes h
  have hkind' := (rules.extend names).kind_of_tokenize lexemes h'
  obtain ⟨hlexeme, hposition⟩ := place_of_tokenize_extend h h'
  have heq : ∀ {k : Kind}, t'.kind = k → t' = { t with kind := k } := by
    rintro k rfl
    cases t
    cases t'
    cases hlexeme
    cases hposition
    rfl
  rw [hlexeme] at hkind'
  cases hadopts : rules.adopts names t.lexeme with
  | true =>
    have hboth := Rules.kindOf_of_adopts hadopts (tokenBefore none (rules.tokenize lexemes) i)
      (tokenBefore none ((rules.extend names).tokenize lexemes) i)
    rw [heq (hkind'.trans hboth.2)]
    exact .function hadopts (by rw [hkind]; exact hboth.1)
  | false =>
    rw [Rules.kindOf_extend_of_not_adopts hadopts] at hkind'
    -- only a sign is read by the token before it
    by_cases hsign : ∃ s : Sign, t.lexeme = s.lexeme
    · obtain ⟨s, hs⟩ := hsign
      have hcontext := isSignContext_tokenBefore_extend rules names lexemes (List.getElem?_eq_some_iff.mp h).1
      rw [hs, Rules.kindOf_sign] at hkind hkind'
      rw [hcontext] at hkind'
      cases hbefore : rules.adoptsBefore names (tokenBefore none (rules.tokenize lexemes) i) with
      | true =>
        rw [isSignContext_of_adoptsBefore hbefore] at hkind
        rw [hbefore, Bool.or_true] at hkind'
        rw [heq hkind']
        exact .sign s hs hbefore hkind
      | false =>
        rw [hbefore, Bool.or_false] at hkind'
        rw [heq (hkind'.trans hkind.symm)]
        exact .alike hadopts fun _ => hbefore
    · have hsame := rules.kindOf_of_not_sign (fun s hs => hsign ⟨s, hs⟩)
        (tokenBefore none ((rules.extend names).tokenize lexemes) i) (tokenBefore none (rules.tokenize lexemes) i)
      rw [heq (hkind'.trans (hsame.trans hkind.symm))]
      exact .alike hadopts fun hs => absurd hs hsign

end

/-! ## The diagnostics of the tokens -/

/-- A choice among the diagnostics of tokens that leaves out the unknown ones that become functions, and nothing else. -/
structure LeavesOutAdopted (rules : Rules) (names : Registry) (tokens : List Token) (keep : Diagnostic → Bool) : Prop where
  unknownToken : ∀ t ∈ tokens, t.kind = .unknown → keep (.unknownToken t) = !rules.adopts names t.lexeme
  neverOpened : ∀ t, keep (.neverOpened t) = true
  neverClosed : ∀ t, keep (.neverClosed t) = true
  trailingOperator : ∀ t, keep (.trailingOperator t) = true

section

variable {rules : Rules} {names : Registry} {tokens tokens' : List Token} {keep : Diagnostic → Bool}

theorem LeavesOutAdopted.tail {t : Token} (h : LeavesOutAdopted rules names (t :: tokens) keep) :
    LeavesOutAdopted rules names tokens keep :=
  ⟨fun u hu => h.unknownToken u (List.mem_cons_of_mem _ hu), h.neverOpened, h.neverClosed, h.trailingOperator⟩

/-- Plain tokens have no part in the faults. -/
theorem faults_cons_of_plain {t t' : Token} (ht : t.kind.isPlain = true) (ht' : t'.kind.isPlain = true)
    (hrest : ∀ opened, faults opened tokens' = (faults opened tokens).filter keep) (opened : List Token) :
    faults opened (t' :: tokens') = (faults opened (t :: tokens)).filter keep := by
  rw [faults_plain ht, faults_plain ht', hrest]

/-- A token that stays has the same part in the faults before and after. -/
theorem LeavesOutAdopted.faults_cons {t : Token} (h : LeavesOutAdopted rules names (t :: tokens) keep)
    (ht : rules.adopts names t.lexeme = false)
    (hrest : ∀ opened, faults opened tokens' = (faults opened tokens).filter keep) (opened : List Token) :
    faults opened (t :: tokens') = (faults opened (t :: tokens)).filter keep := by
  have hplain : t.kind.isPlain = true → faults opened (t :: tokens') = (faults opened (t :: tokens)).filter keep := by
    intro hplain
    exact faults_cons_of_plain hplain hplain hrest opened
  cases hk : t.kind with
  | operator o => exact hplain (by rw [hk]; rfl)
  | operand o => exact hplain (by rw [hk]; rfl)
  | unknown =>
    have hkeep : keep (.unknownToken t) = true := by rw [h.unknownToken t List.mem_cons_self hk, ht]; rfl
    rw [faults_unknown hk, faults_unknown hk, List.filter_cons_of_pos hkeep, hrest]
  | punctuation p =>
    cases p with
    | leftParenthesis => rw [faults_opening hk, faults_opening hk, hrest]
    | rightParenthesis =>
      cases opened with
      | nil =>
        rw [faults_closing_nil hk, faults_closing_nil hk, List.filter_cons_of_pos (h.neverOpened t), hrest]
      | cons o outer => rw [faults_closing_cons hk, faults_closing_cons hk, hrest]
    | comma => exact hplain (by rw [hk]; rfl)

/-- It leaves an operator at the end alone. -/
theorem LeavesOutAdopted.filter_trailing (h : LeavesOutAdopted rules names tokens keep) :
    (trailing tokens).filter keep = trailing tokens := by
  rw [List.filter_eq_self]
  intro d hd
  unfold trailing at hd
  split at hd
  · cases hd
  · split at hd
    · rw [List.mem_singleton.mp hd]
      exact h.trailingOperator _
    · cases hd

/-- The faults of tokens that are read again are those they had, without the unknown ones that become functions. The
induction goes along both streams, with the same open parentheses. -/
theorem faults_of_rereadAs (h : List.Forall₂ (fun t t' => ∃ before, t.RereadAs rules names before t') tokens tokens')
    (hkeep : LeavesOutAdopted rules names tokens keep) (opened : List Token) :
    faults opened tokens' = (faults opened tokens).filter keep := by
  induction h generalizing opened with
  | nil =>
    refine (List.filter_eq_self.mpr ?_).symm
    intro d hd
    obtain ⟨t, -, rfl⟩ := List.mem_map.mp hd
    exact hkeep.neverClosed t
  | @cons t t' tokens tokens' hread _ ih =>
    have ih := ih hkeep.tail
    obtain ⟨before, hread⟩ := hread
    cases hread with
    | function hadopts hk =>
      rcases hk with hk | hk
      · exact faults_cons_of_plain (by rw [hk]; rfl) rfl ih opened
      · have hout : keep (.unknownToken t) = false := by
          rw [hkeep.unknownToken t List.mem_cons_self hk, hadopts]
          rfl
        rw [faults_plain (t := { t with kind := .operator .function }) rfl, faults_unknown hk,
          List.filter_cons_of_neg (by simp [hout]), ih]
    | sign s _ _ hk => exact faults_cons_of_plain (by rw [hk]; rfl) rfl ih opened
    | alike hadopts _ => exact hkeep.faults_cons hadopts ih opened

/-- An operator at the end stays one. -/
theorem trailing_of_rereadAs
    (h : List.Forall₂ (fun t t' => ∃ before, t.RereadAs rules names before t') tokens tokens') :
    trailing tokens' = trailing tokens := by
  induction h with
  | nil => rfl
  | cons hread hrest ih =>
    cases hrest with
    | nil =>
      obtain ⟨before, hread⟩ := hread
      cases hread with
      | function _ hk => rcases hk with hk | hk <;> simp [trailing, hk, Kind.isDangling]
      | sign s _ _ hk =>
        cases s <;> simp [trailing, hk, Kind.isDangling, Sign.unary, Sign.binary, Diagnostic.trailingOperator]
      | alike => rfl
    | cons =>
      rw [trailing, trailing, List.getLast?_cons_cons, List.getLast?_cons_cons]
      exact ih

end

/-! ## Sorting what is left -/

section

variable {α : Type} {le : α → α → Bool}

/-- A list that is cut where a test is passed from then on is cut in one way. -/
theorem cut_unique {p : α → Bool} {a b c d : List α} (h : a ++ b = c ++ d) (ha : ∀ x ∈ a, p x = false)
    (hb : ∀ x ∈ b, p x = true) (hc : ∀ x ∈ c, p x = false) (hd : ∀ x ∈ d, p x = true) : a = c ∧ b = d := by
  have hpassed : ∀ {u v : List α}, (∀ x ∈ u, p x = false) → (∀ x ∈ v, p x = true) → (u ++ v).filter p = v := by
    intro u v hu hv
    rw [List.filter_append, List.filter_eq_self.mpr hv, List.filter_eq_nil_iff.mpr (by simpa using hu), List.nil_append]
  have hbd : b = d := by rw [← hpassed ha hb, h, hpassed hc hd]
  subst hbd
  exact ⟨List.append_cancel_right h, rfl⟩

/-- Sorting puts an element before the first one that it is not greater than. -/
theorem exists_mergeSort_cons (trans : ∀ a b c, le a b → le b c → le a c) (total : ∀ a b, le a b || le b a) (a : α)
    (l : List α) : ∃ before behind, (a :: l).mergeSort le = before ++ a :: behind ∧ l.mergeSort le = before ++ behind ∧
      (∀ b ∈ before, le a b = false) ∧ ∀ b ∈ behind, le a b = true := by
  obtain ⟨before, behind, hsort, hrest, hbefore⟩ := List.mergeSort_cons trans total a l
  refine ⟨before, behind, hsort, hrest, fun b hb => by simpa using hbefore b hb, ?_⟩
  have hsorted := List.pairwise_mergeSort trans total (a :: l)
  rw [hsort] at hsorted
  exact (List.pairwise_cons.mp (List.pairwise_append.mp hsorted).2.1).1

/-- Elements can be left out before sorting or after it: those that are equal in the order keep their order. -/
theorem filter_mergeSort (trans : ∀ a b c, le a b → le b c → le a c) (total : ∀ a b, le a b || le b a)
    (keep : α → Bool) (l : List α) : (l.mergeSort le).filter keep = (l.filter keep).mergeSort le := by
  induction l with
  | nil => simp
  | cons a l ih =>
    obtain ⟨before, behind, hsort, hrest, hbefore, hbehind⟩ := exists_mergeSort_cons trans total a l
    rw [hrest, List.filter_append] at ih
    rw [hsort, List.filter_append]
    cases ha : keep a with
    | false => rw [List.filter_cons_of_neg (by simp [ha]), List.filter_cons_of_neg (by simp [ha]), ih]
    | true =>
      obtain ⟨before', behind', hsort', hrest', hbefore', hbehind'⟩ := exists_mergeSort_cons trans total a (l.filter keep)
      obtain ⟨hb, hb'⟩ := cut_unique (ih.trans hrest') (fun b hb => hbefore b (List.mem_filter.mp hb).1)
        (fun b hb => hbehind b (List.mem_filter.mp hb).1) hbefore' hbehind'
      rw [List.filter_cons_of_pos ha, List.filter_cons_of_pos ha, hsort', hb, hb']

end

theorem byPosition_trans (a b c : Diagnostic) (hab : decide (a.position ≤ b.position) = true)
    (hbc : decide (b.position ≤ c.position) = true) : decide (a.position ≤ c.position) = true := by
  rw [decide_eq_true_eq] at hab hbc ⊢
  exact Int.le_trans hab hbc

theorem byPosition_total (a b : Diagnostic) :
    (decide (a.position ≤ b.position) || decide (b.position ≤ a.position)) = true := by
  rw [Bool.or_eq_true, decide_eq_true_eq, decide_eq_true_eq]
  exact Int.le_total a.position b.position

/-- Diagnostics can be left out of the findings about tokens or out of the result. -/
theorem filter_diagnose (keep : Diagnostic → Bool) (tokens : List Token) : (diagnose tokens).filter keep =
    ((faults [] tokens ++ trailing tokens).filter keep).mergeSort fun a b => decide (a.position ≤ b.position) :=
  filter_mergeSort byPosition_trans byPosition_total keep _

/-! ## Registering names -/

/-- Tokens of lexemes stand one behind the other. -/
theorem Rules.tokenize_ascend (rules : Rules) (lexemes : List Text) :
    (rules.tokenize lexemes).Pairwise fun a b => a.position < b.position := by
  refine (rules.tokenize_pairwise lexemes).imp_of_mem ?_
  intro a b ha _ hab
  obtain ⟨l, -, hblank, htext, -⟩ := exists_lexeme_of_mem_tokenize ha
  have hpos : 0 < a.lexeme.length := by
    rw [List.length_pos_iff, htext]
    rintro he
    rw [he] at hblank
    cases hblank
  rw [Token.stop] at hab
  omega

/-- Whether a diagnostic is that of an unknown token that becomes a function. -/
def Rules.settles (rules : Rules) (names : Registry) (tokens : List Token) (d : Diagnostic) : Bool :=
  tokens.any fun t => rules.adopts names t.lexeme && d == .unknownToken t

/-- Leaving out what the names settle leaves out the adopted ones. -/
theorem leavesOutAdopted_settles (rules : Rules) (names : Registry) {tokens : List Token}
    (h : tokens.Pairwise fun a b => a.position < b.position) :
    LeavesOutAdopted rules names tokens fun d => !rules.settles names tokens d := by
  have hother : ∀ d : Diagnostic, d.code ≠ .unknownToken → (!rules.settles names tokens d) = true := by
    intro d hd
    rw [Bool.not_eq_true', Rules.settles, List.any_eq_false]
    intro t _ ht
    rw [Bool.and_eq_true, beq_iff_eq] at ht
    exact hd (ht.2 ▸ rfl)
  have hunbalanced : Code.unbalancedParenthesis ≠ .unknownToken := by decide
  have htrailing : Code.trailingOperator ≠ .unknownToken := by decide
  refine ⟨?_, fun t => hother _ hunbalanced, fun t => hother _ hunbalanced, fun t => hother _ htrailing⟩
  intro t ht _
  rw [Bool.not_inj_iff, Bool.eq_iff_iff, Rules.settles, List.any_eq_true]
  constructor
  · rintro ⟨u, hu, he⟩
    rw [Bool.and_eq_true, beq_iff_eq] at he
    -- the positions tell the tokens apart
    rw [eq_of_position_eq h ht hu (congrArg Diagnostic.position he.2)]
    exact he.1
  · intro hadopts
    exact ⟨t, ht, by rw [hadopts, beq_self_eq_true]; rfl⟩

/-- How tokens differ from those of the same lexemes with more names registered. -/
structure ReadWithNames (rules : Rules) (names : Registry) (tokens tokens' : List Token) : Prop where
  places_eq : tokens'.map (fun t => (t.lexeme, t.position)) = tokens.map fun t => (t.lexeme, t.position)
  /-- exactly the lexemes that become functions are read otherwise, and the signs directly behind them -/
  ne_iff : ∀ (i : Nat) (t t' : Token), tokens[i]? = some t → tokens'[i]? = some t' →
    (t ≠ t' ↔ rules.adopts names t.lexeme = true ∨
      (∃ s : Sign, t.lexeme = s.lexeme) ∧ rules.adoptsBefore names (tokenBefore none tokens i) = true)
  function_of_adopts : ∀ (i : Nat) (t t' : Token), tokens[i]? = some t → tokens'[i]? = some t' →
    rules.adopts names t.lexeme = true →
      (t.kind = .operand .name ∨ t.kind = .unknown) ∧ t'.kind = .operator .function
  unary_of_adoptsBefore : ∀ (i : Nat) (t t' : Token), tokens[i]? = some t → tokens'[i]? = some t' →
    rules.adoptsBefore names (tokenBefore none tokens i) = true → ∀ s : Sign, t.lexeme = s.lexeme →
      t.kind = .operator s.binary ∧ t'.kind = .operator s.unary
  diagnose_eq : diagnose tokens' = (diagnose tokens).filter fun d => !rules.settles names tokens d

/-- Tokens that are read again as tokens of a stream are, each behind the one before it. -/
theorem forall₂_rereadAs_tokenize (rules : Rules) (names : Registry) (lexemes : List Text) :
    List.Forall₂ (fun t t' => ∃ before, t.RereadAs rules names before t') (rules.tokenize lexemes)
      ((rules.extend names).tokenize lexemes) := by
  refine List.forall₂_iff_get.mpr ⟨(length_tokenize_extend rules names lexemes).symm, fun i h h' =>
    ⟨tokenBefore none (rules.tokenize lexemes) i, ?_⟩⟩
  exact rereadAs_tokenize (List.getElem?_eq_getElem h) (List.getElem?_eq_getElem h')

/-- Registering more names turns names and unknown lexemes into functions and the signs directly behind these into unary
ones. Every other token stays as it is, and of the diagnostics those of the unknown lexemes that are functions now are
gone. -/
theorem registered_names_read_as_functions (rules : Rules) (names : Registry) (lexemes : List Text) :
    ReadWithNames rules names (rules.tokenize lexemes)
      ((rules.withFunctions (rules.functions ∪ names)).tokenize lexemes) where
  places_eq := places_tokenize_extend rules names lexemes
  ne_iff i t t' h h' := (rereadAs_tokenize h h').ne_iff
  function_of_adopts i t t' h h' := (rereadAs_tokenize h h').kinds_of_adopts
  unary_of_adoptsBefore i t t' h h' hbefore s hs := (rereadAs_tokenize h h').kinds_of_adoptsBefore hbefore hs
  diagnose_eq := by
    have hkeep := leavesOutAdopted_settles rules names (rules.tokenize_ascend lexemes)
    have hread := forall₂_rereadAs_tokenize rules names lexemes
    rw [filter_diagnose, List.filter_append, ← faults_of_rereadAs hread hkeep, hkeep.filter_trailing,
      ← trailing_of_rereadAs hread]
    rfl

end ExprLex
