import ExprLex.Diagnostic
import ExprLex.Proofs.LooseRuns
import ExprLex.Token.Stream

/-!
# Faults, told from the pieces

Under the default rules a piece is unknown exactly if it is loose, and parentheses are pieces of their own. So the number of
faults of an expression can be told from its text: its loose pieces, the parentheses that close nothing, and those that are
open at the end. Each fault points at the piece it is about.
-/

namespace ExprLex

/-! ## Parentheses along a text -/

/-- The number of open parentheses behind a text, given their number before it. -/
def depthAfter : (depth : Nat) → Text → Nat
  | depth, [] => depth
  | depth, c :: rest => depthAfter (if c = '(' then depth + 1 else if c = ')' then depth - 1 else depth) rest

/-- The number of parentheses of a text that close nothing, given the number of those that are open before it. -/
def strayClosings : (depth : Nat) → Text → Nat
  | _, [] => 0
  | depth, c :: rest =>
    (if c = ')' ∧ depth = 0 then 1 else 0) +
      strayClosings (if c = '(' then depth + 1 else if c = ')' then depth - 1 else depth) rest

/-- The parentheses of a text that have no partner. -/
def unbalanced (t : Text) : Nat := strayClosings 0 t + depthAfter 0 t

/-- No character is a parenthesis. -/
def NoParens (t : Text) : Prop := ∀ c ∈ t, c ≠ '(' ∧ c ≠ ')'

@[simp] theorem depthAfter_nil (depth : Nat) : depthAfter depth [] = depth := rfl

@[simp] theorem strayClosings_nil (depth : Nat) : strayClosings depth [] = 0 := rfl

/-- The depth after two texts is the depth after the second, from where the first has led. -/
theorem depthAfter_append (depth : Nat) (t u : Text) : depthAfter depth (t ++ u) = depthAfter (depthAfter depth t) u := by
  induction t generalizing depth with
  | nil => rfl
  | cons c t ih => exact ih _

/-- What strays in two texts strays in the one or, from there, in the other. -/
theorem strayClosings_append (depth : Nat) (t u : Text) :
    strayClosings depth (t ++ u) = strayClosings depth t + strayClosings (depthAfter depth t) u := by
  induction t generalizing depth with
  | nil => exact (Nat.zero_add _).symm
  | cons c t ih => simp only [List.cons_append, strayClosings, depthAfter, ih, Nat.add_assoc]

/-- Without parentheses the depth stays. -/
theorem depthAfter_of_noParens {t : Text} (h : NoParens t) (depth : Nat) : depthAfter depth t = depth := by
  induction t generalizing depth with
  | nil => rfl
  | cons c t ih =>
    obtain ⟨h1, h2⟩ := h c List.mem_cons_self
    rw [depthAfter, if_neg h1, if_neg h2]
    exact ih (fun d hd => h d (List.mem_cons_of_mem _ hd)) depth

/-- Without parentheses nothing strays. -/
theorem strayClosings_of_noParens {t : Text} (h : NoParens t) (depth : Nat) : strayClosings depth t = 0 := by
  induction t generalizing depth with
  | nil => rfl
  | cons c t ih =>
    obtain ⟨h1, h2⟩ := h c List.mem_cons_self
    rw [strayClosings, if_neg h1, if_neg h2, if_neg (fun hc => h2 hc.1), Nat.zero_add]
    exact ih (fun d hd => h d (List.mem_cons_of_mem _ hd)) depth

/-- Text without parentheses may be taken out. -/
theorem unbalanced_remove_noParens (t : Text) {run : Text} (h : NoParens run) (u : Text) :
    unbalanced (t ++ (run ++ u)) = unbalanced (t ++ u) := by
  simp only [unbalanced, strayClosings_append, depthAfter_append, strayClosings_of_noParens h, depthAfter_of_noParens h,
    Nat.zero_add]

/-- A closing parenthesis that closes nothing may be taken out, and is one less. -/
theorem unbalanced_remove_stray {t : Text} (h : depthAfter 0 t = 0) (u : Text) :
    unbalanced (t ++ ')' :: u) = unbalanced (t ++ u) + 1 := by
  simp only [unbalanced, strayClosings_append, depthAfter_append, h, strayClosings, depthAfter]
  simp
  omega

/-- A closing parenthesis at the end is one open parenthesis less. -/
theorem unbalanced_insert {t : Text} (h : 0 < depthAfter 0 t) {blank : Text} (hb : NoParens blank) :
    unbalanced (t ++ ')' :: blank) + 1 = unbalanced (t ++ blank) := by
  have hd : depthAfter 0 t ≠ 0 := by omega
  simp only [unbalanced, strayClosings_append, depthAfter_append, strayClosings, depthAfter, strayClosings_of_noParens hb,
    depthAfter_of_noParens hb]
  simp [hd]
  omega

/-! ## What the default rules make of a piece -/

/-- A kind that gives no fault, and no part in one. -/
def Kind.isPlain : Kind → Bool
  | .unknown | .punctuation .leftParenthesis | .punctuation .rightParenthesis => false
  | _ => true

/-- What a piece does to the faults: nothing, one fault of its own, or opening and closing a parenthesis. -/
inductive Piece.Role : Piece → Prop where
  | quiet {p : Piece} (hs : p.shape ≠ .loose) (hp : NoParens p.text)
      (h : Text.isBlank p.text = true ∨ ∀ previous, (Rules.kindOf {} previous p.text).isPlain = true) : Role p
  | unknown {run : Text} (hp : NoParens run) (hb : Text.isBlank run = false)
      (h : ∀ previous, Rules.kindOf {} previous run = .unknown) : Role ⟨.loose, run⟩
  | opening : Role ⟨.symbol, ['(']⟩
  | closing : Role ⟨.symbol, [')']⟩

/-- The rules decide on a lexeme that is not a symbol. -/
theorem Rules.kindOf_of_not_symbol (rules : Rules) (previous : Option Token) {t : Text}
    (h : ∀ c, t = [c] → isSymbol c = false) : rules.kindOf previous t =
      if rules.isNumber t then .operand .number
      else if rules.isFunction t then .operator .function
      else if rules.isIdentifier t then .operand .name
      else .unknown := by
  unfold Rules.kindOf
  split
  case h_8 => rfl
  all_goals exact absurd (h _ rfl) (by decide)

/-- The well-known function names start like names. -/
theorem Registry.head_of_mem_default {t : Text} (h : t ∈ Registry.default) : ∃ c rest, t = c :: rest ∧ isNameHead c = true := by
  have hall : ∀ t ∈ Registry.default, t.head?.any isNameHead = true := by decide
  cases t with
  | nil => exact absurd (hall _ h) (by decide)
  | cons c rest => exact ⟨c, rest, rfl, by simpa using hall _ h⟩

/-- A text of characters of a class without parentheses has none. -/
theorem noParens_of_forall {q : Char → Bool} (hl : q '(' = false) (hr : q ')' = false) {t : Text}
    (h : ∀ c ∈ t, q c = true) : NoParens t := by
  intro c hc
  have := h c hc
  constructor
  · rintro rfl
    rw [hl] at this
    cases this
  · rintro rfl
    rw [hr] at this
    cases this

/-- Numbers have none. -/
theorem noParens_of_isNumber {t : Text} (h : Lexeme.isNumber t = true) : NoParens t := by
  refine noParens_of_forall (q := fun c => isDigit c || c == '.') (by decide) (by decide) ?_
  intro c hc
  rcases (isNumber_iff t).mp h with ⟨-, hds⟩ | ⟨ds, fs, rfl, hds, -, hfs⟩
  · simp [hds c hc]
  · rcases List.mem_append.mp hc with hc | hc
    · simp [hds c hc]
    · rcases List.mem_cons.mp hc with rfl | hc
      · rfl
      · simp [hfs c hc]

/-- Names are made of word characters. -/
theorem isWord_of_mem_identifier {t : Text} (h : Lexeme.isIdentifier t = true) : ∀ c ∈ t, isWord c = true := by
  cases t with
  | nil => cases h
  | cons c rest =>
    rw [isIdentifier_cons, Bool.and_eq_true, List.all_eq_true] at h
    intro d hd
    rcases List.mem_cons.mp hd with rfl | hd
    · exact (classes_of_isNameHead h.1).2.2.2.1
    · exact h.2 d hd

/-- Loose text is no number. -/
theorem isNumber_of_loose {t : Text} (h : ∀ c ∈ t, isLoose c = true) : Lexeme.isNumber t = false := by
  have hd : ∀ c ∈ t, isDigit c = false := fun c hc => (isLoose_iff.mp (h c hc)).2.2.1
  cases hn : Lexeme.isNumber t with
  | false => rfl
  | true =>
    rcases (isNumber_iff t).mp hn with ⟨hne, hds⟩ | ⟨ds, fs, rfl, -, hne, hfs⟩
    · cases t with
      | nil => exact absurd rfl hne
      | cons c rest => rw [← hd c List.mem_cons_self, hds c List.mem_cons_self]
    · cases fs with
      | nil => exact absurd rfl hne
      | cons f fs => rw [← hd f (by simp), hfs f List.mem_cons_self]

/-- What loose text is: a function where it is a registered name, and else unknown. -/
theorem kindOf_loose_ofFunctions {t : Text} (hne : t ≠ []) (h : ∀ c ∈ t, isLoose c = true) (functions : Registry)
    (previous : Option Token) : (Rules.ofFunctions functions).kindOf previous t =
      if functions.contains t then .operator .function else .unknown := by
  obtain ⟨c, rest, rfl⟩ := List.exists_cons_of_ne_nil hne
  obtain ⟨-, hs, -, hn⟩ := isLoose_iff.mp (h c List.mem_cons_self)
  have hi : Lexeme.isIdentifier (c :: rest) = false := by rw [isIdentifier_cons, hn, Bool.false_and]
  rw [Rules.kindOf_of_not_symbol _ _ (by rintro d he; cases he; exact hs)]
  simp [Rules.ofFunctions, Rules.isFunction, isNumber_of_loose h, hi]

/-- What loose text is under the default rules. -/
theorem kindOf_loose {t : Text} (hne : t ≠ []) (h : ∀ c ∈ t, isLoose c = true) (previous : Option Token) :
    Rules.kindOf {} previous t = .unknown := by
  have hf : Registry.default.contains t = false := by
    rw [Bool.eq_false_iff]
    intro hf
    obtain ⟨c, rest, rfl, hc⟩ := Registry.head_of_mem_default (List.contains_iff_mem.mp hf)
    rw [(isLoose_iff.mp (h c List.mem_cons_self)).2.2.2] at hc
    cases hc
  rw [show ({} : Rules) = .ofFunctions .default from rfl, kindOf_loose_ofFunctions hne h, hf]
  rfl

/-- Every proper piece has its role. -/
theorem Piece.Proper.role {p : Piece} (h : p.Proper) : p.Role := by
  cases h with
  | space hne hs =>
    refine .quiet nofun (noParens_of_forall (by decide) (by decide) hs) (Or.inl ?_)
    exact List.all_eq_true.mpr hs
  | @symbol c hs =>
    have hquiet : ∀ c, c ≠ '(' ∧ c ≠ ')' → (∀ previous, (Rules.kindOf {} previous [c]).isPlain = true) →
        Role ⟨.symbol, [c]⟩ := by
      intro c hc hk
      refine .quiet nofun ?_ (Or.inr hk)
      intro d hd
      rw [List.mem_singleton.mp hd]
      exact hc
    rcases eq_of_isSymbol hs with rfl | rfl | rfl | rfl | rfl | rfl | rfl
    · exact hquiet '+' (by decide) fun _ => rfl
    · exact hquiet '-' (by decide) fun _ => rfl
    · exact hquiet '*' (by decide) fun _ => rfl
    · exact hquiet '/' (by decide) fun _ => rfl
    · exact .opening
    · exact .closing
    · exact hquiet ',' (by decide) fun _ => rfl
  | @number t hn =>
    refine .quiet nofun (noParens_of_isNumber hn) (Or.inr fun previous => ?_)
    rw [Rules.kindOf_of_not_symbol]
    · simp [hn, Kind.isPlain]
    · rintro c rfl
      rcases head_of_isNumber hn with hd | rfl
      · exact (classes_of_isDigit hd).2.1
      · decide
  | @name t hi =>
    have hw := isWord_of_mem_identifier hi
    refine .quiet nofun (noParens_of_forall (by decide) (by decide) hw) (Or.inr fun previous => ?_)
    rw [Rules.kindOf_of_not_symbol]
    · simp only [hi, if_true]
      split
      · rfl
      · split <;> rfl
    · rintro c rfl
      exact (classes_of_isWord (hw c (List.mem_singleton_self c))).2.1
  | @loose t hne hl =>
    refine .unknown (noParens_of_forall (by decide) (by decide) hl) ?_ (kindOf_loose hne hl)
    cases t with
    | nil => exact absurd rfl hne
    | cons c rest => simp [Text.isBlank, (isLoose_iff.mp (hl c List.mem_cons_self)).1]

/-! ## Tokens and faults, one at a time -/

namespace Rules

/-- A blank lexeme makes no token; it only takes its place. -/
theorem tokensFrom_blank (rules : Rules) (position : Nat) (previous : Option Token) {t : Text}
    (h : Text.isBlank t = true) (rest : List Text) :
    rules.tokensFrom position previous (t :: rest) = rules.tokensFrom (position + t.length) previous rest := by
  rw [tokensFrom, if_pos h]

/-- Blank lexemes in front only move the tokens. -/
theorem tokensFrom_blank_append (rules : Rules) (position : Nat) (previous : Option Token) {blank : List Text}
    (h : ∀ t ∈ blank, Text.isBlank t = true) (rest : List Text) :
    rules.tokensFrom position previous (blank ++ rest) =
      rules.tokensFrom (position + blank.flatten.length) previous rest := by
  induction blank generalizing position with
  | nil => rfl
  | cons t blank ih =>
    rw [List.cons_append, tokensFrom_blank _ _ _ (h t List.mem_cons_self),
      ih _ (fun u hu => h u (List.mem_cons_of_mem _ hu)), List.flatten_cons, List.length_append, Nat.add_assoc]

theorem tokensFrom_cons (rules : Rules) (position : Nat) (previous : Option Token) {t : Text}
    (h : Text.isBlank t = false) (rest : List Text) :
    rules.tokensFrom position previous (t :: rest) = rules.classify t position previous ::
      rules.tokensFrom (position + t.length) (some (rules.classify t position previous)) rest := by
  rw [tokensFrom, if_neg (by simp [h])]

end Rules

/-- A plain token is no fault. -/
theorem faults_plain {t : Token} (h : t.kind.isPlain = true) (opened rest : List Token) :
    faults opened (t :: rest) = faults opened rest := by
  obtain ⟨kind, lexeme, position⟩ := t
  cases kind with
  | operator o => rfl
  | punctuation p =>
    cases p with
    | leftParenthesis => cases h
    | rightParenthesis => cases h
    | comma => rfl
  | operand o => rfl
  | unknown => cases h

theorem faults_unknown {t : Token} (h : t.kind = .unknown) (opened rest : List Token) :
    faults opened (t :: rest) = .unknownToken t :: faults opened rest := by
  simp only [faults, h]

theorem faults_opening {t : Token} (h : t.kind = .punctuation .leftParenthesis) (opened rest : List Token) :
    faults opened (t :: rest) = faults (t :: opened) rest := by
  simp only [faults, h]

/-- A closing one is a fault where nothing is open. -/
theorem faults_closing_nil {t : Token} (h : t.kind = .punctuation .rightParenthesis) (rest : List Token) :
    faults [] (t :: rest) = .neverOpened t :: faults [] rest := by
  simp only [faults, h]

/-- A closing parenthesis closes what was opened last. -/
theorem faults_closing_cons {t : Token} (h : t.kind = .punctuation .rightParenthesis) (o : Token) (outer rest : List Token) :
    faults (o :: outer) (t :: rest) = faults outer rest := by
  simp only [faults, h]

/-- The tokens of some pieces under the default rules. -/
def tokensOf (position : Nat) (previous : Option Token) (ps : List Piece) : List Token :=
  Rules.tokensFrom {} position previous (ps.map (·.text))

/-- A piece that has no part in the faults leaves them to what follows it. -/
theorem faults_quiet {p : Piece}
    (h : Text.isBlank p.text = true ∨ ∀ previous, (Rules.kindOf {} previous p.text).isPlain = true) (opened : List Token)
    (position : Nat) (previous : Option Token) (ps : List Piece) : ∃ next,
      faults opened (tokensOf position previous (p :: ps)) = faults opened (tokensOf (position + p.text.length) next ps) := by
  cases hb : Text.isBlank p.text with
  | true => exact ⟨previous, by rw [tokensOf, List.map_cons, Rules.tokensFrom_blank _ _ _ hb]; rfl⟩
  | false =>
    have hk : ∀ previous, (Rules.kindOf {} previous p.text).isPlain = true := h.resolve_left (by simp [hb])
    refine ⟨some (Rules.classify {} p.text position previous), ?_⟩
    rw [tokensOf, List.map_cons, Rules.tokensFrom_cons _ _ _ hb, faults_plain (hk previous)]
    rfl

/-- The faults of proper pieces: the loose ones, the parentheses that close nothing, and those that are open at the end. -/
theorem length_faults {ps : List Piece} (h : ∀ p ∈ ps, p.Proper) (opened : List Token) (position : Nat)
    (previous : Option Token) : (faults opened (tokensOf position previous ps)).length =
      looseCount ps + (strayClosings opened.length (textOf ps) + depthAfter opened.length (textOf ps)) := by
  induction ps generalizing opened position previous with
  | nil => simp [tokensOf, Rules.tokensFrom, faults]
  | cons p ps ih =>
    have ih := fun opened position previous => ih (fun q hq => h q (List.mem_cons_of_mem _ hq)) opened position previous
    rw [looseCount_cons, textOf_cons, strayClosings_append, depthAfter_append]
    cases (h p List.mem_cons_self).role with
    | quiet hs hp hq =>
      obtain ⟨next, hn⟩ := faults_quiet hq opened position previous ps
      rw [hn, ih, if_neg hs, strayClosings_of_noParens hp, depthAfter_of_noParens hp]
      omega
    | unknown hp hb hk =>
      rw [tokensOf, List.map_cons, Rules.tokensFrom_cons _ _ _ hb, faults_unknown (hk previous), List.length_cons,
        ← tokensOf, ih, strayClosings_of_noParens hp, depthAfter_of_noParens hp]
      simp
      omega
    | opening =>
      rw [tokensOf, List.map_cons, Rules.tokensFrom_cons _ _ _ (by decide), faults_opening rfl, ← tokensOf, ih]
      simp [strayClosings, depthAfter]
    | closing =>
      rw [tokensOf, List.map_cons, Rules.tokensFrom_cons _ _ _ (by decide)]
      cases opened with
      | nil =>
        rw [faults_closing_nil rfl, List.length_cons, ← tokensOf, ih]
        simp [strayClosings, depthAfter]
        omega
      | cons o outer =>
        rw [faults_closing_cons rfl, ← tokensOf, ih]
        simp [strayClosings, depthAfter]

/-! ## Where faults are -/

/-- A diagnostic that stands at a piece and is as long as the piece. -/
def Diagnostic.At (d : Diagnostic) (before : List Piece) (p : Piece) : Prop :=
  d.position = (textOf before).length ∧ d.length = p.text.length

/-- The piece of a text that a fault is about, and what is wrong there. -/
inductive Points (t : Text) (d : Diagnostic) : Prop where
  | unknown {before after : List Piece} {run : Text} (ht : pieces t = before ++ ⟨.loose, run⟩ :: after)
      (hd : d.At before ⟨.loose, run⟩) (hc : d.code = .unknownToken)
  | stray {before after : List Piece} (ht : pieces t = before ++ ⟨.symbol, [')']⟩ :: after)
      (hd : d.At before ⟨.symbol, [')']⟩) (hc : d.code = .unbalancedParenthesis) (h : depthAfter 0 (textOf before) = 0)
  | unclosed {before after : List Piece} (ht : pieces t = before ++ ⟨.symbol, ['(']⟩ :: after)
      (hd : d.At before ⟨.symbol, ['(']⟩) (hc : d.code = .unbalancedParenthesis) (h : 0 < depthAfter 0 t)

/-- A fault stands at some piece. -/
theorem Points.exists_at {t : Text} {d : Diagnostic} (h : Points t d) :
    ∃ before p after, pieces t = before ++ p :: after ∧ d.At before p := by
  cases h with
  | unknown ht hd => exact ⟨_, _, _, ht, hd⟩
  | stray ht hd => exact ⟨_, _, _, ht, hd⟩
  | unclosed ht hd => exact ⟨_, _, _, ht, hd⟩

/-- There are faults of two sorts. -/
theorem Points.code {t : Text} {d : Diagnostic} (h : Points t d) :
    d.code = .unknownToken ∨ d.code = .unbalancedParenthesis := by
  cases h with
  | unknown _ _ hc => exact Or.inl hc
  | stray _ _ hc => exact Or.inr hc
  | unclosed _ _ hc => exact Or.inr hc

/-- Tokens that each stand at an opening parenthesis among some pieces. -/
def Opened (done : List Piece) (opened : List Token) : Prop :=
  ∀ o ∈ opened, ∃ before after, done = before ++ ⟨.symbol, ['(']⟩ :: after ∧ o.position = (textOf before).length

/-- What is open stays so while more is read. -/
theorem Opened.append {done : List Piece} {opened : List Token} (h : Opened done opened) (more : List Piece) :
    Opened (done ++ more) opened := by
  intro o ho
  obtain ⟨before, after, hdone, hpos⟩ := h o ho
  exact ⟨before, after ++ more, by rw [hdone, List.append_assoc]; rfl, hpos⟩

/-- Each fault points at its piece. The induction goes along the pieces; of those that are done it is known where the
parentheses are that are still open, and how many. -/
theorem points_of_mem_faults {t : Text} {ps done : List Piece} (ht : pieces t = done ++ ps) {opened : List Token}
    (hopened : Opened done opened) (hdepth : depthAfter 0 (textOf done) = opened.length) {position : Nat}
    (hpos : position = (textOf done).length) {previous : Option Token} {d : Diagnostic}
    (hd : d ∈ faults opened (tokensOf position previous ps)) : Points t d := by
  induction ps generalizing done opened position previous with
  | nil =>
    rw [List.append_nil] at ht
    obtain ⟨o, ho, rfl⟩ := List.mem_map.mp hd
    have ho := List.mem_reverse.mp ho
    obtain ⟨before, after, hdone, hpos⟩ := hopened o ho
    refine .unclosed (ht.trans hdone) ⟨hpos, rfl⟩ rfl ?_
    rw [← textOf_pieces t, ht, hdepth]
    exact List.length_pos_of_mem ho
  | cons p ps ih =>
    have hproper : p.Proper := proper_of_mem_pieces t p (by simp [ht])
    have ht' : pieces t = (done ++ [p]) ++ ps := by rw [ht, List.append_assoc]; rfl
    have hpos' : position + p.text.length = (textOf (done ++ [p])).length := by simp [hpos]
    have hdepth' : depthAfter 0 (textOf (done ++ [p])) = depthAfter opened.length p.text := by
      rw [textOf_append, depthAfter_append, hdepth, textOf_cons, textOf_nil, List.append_nil]
    cases hproper.role with
    | quiet hs hp hq =>
      obtain ⟨next, hn⟩ := faults_quiet hq opened position previous ps
      rw [hn] at hd
      exact ih ht' (hopened.append [p]) (by rw [hdepth', depthAfter_of_noParens hp]) hpos' hd
    | @unknown run hp hb hk =>
      rw [tokensOf, List.map_cons, Rules.tokensFrom_cons _ _ _ hb, faults_unknown (hk previous)] at hd
      rcases List.mem_cons.mp hd with rfl | hd
      · exact .unknown ht ⟨by rw [← hpos]; rfl, rfl⟩ rfl
      · exact ih ht' (hopened.append [_]) (by rw [hdepth', depthAfter_of_noParens hp]) hpos' hd
    | opening =>
      rw [tokensOf, List.map_cons, Rules.tokensFrom_cons _ _ _ (by decide), faults_opening rfl] at hd
      refine ih ht' ?_ (by rw [hdepth']; rfl) hpos' hd
      -- the new one stands behind what is done, the others stand where they stood
      intro o ho
      rcases List.mem_cons.mp ho with rfl | ho
      · exact ⟨done, [], rfl, by rw [← hpos]; rfl⟩
      · exact hopened.append [_] o ho
    | closing =>
      rw [tokensOf, List.map_cons, Rules.tokensFrom_cons _ _ _ (by decide)] at hd
      cases opened with
      | nil =>
        rw [faults_closing_nil rfl] at hd
        rcases List.mem_cons.mp hd with rfl | hd
        · exact .stray ht ⟨by rw [← hpos]; rfl, rfl⟩ rfl hdepth
        · exact ih ht' (hopened.append [_]) (by rw [hdepth']; rfl) hpos' hd
      | cons o outer =>
        rw [faults_closing_cons rfl] at hd
        refine ih ht' ?_ (by rw [hdepth']; rfl) hpos' hd
        intro o' ho
        exact hopened.append [_] o' (List.mem_cons_of_mem _ ho)

end ExprLex
