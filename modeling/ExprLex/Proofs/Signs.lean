import ExprLex.Proofs.Faults

/-!
# Signs

A plus and a minus are two operators each: the one stands in front of its only operand, the other between two operands.
Which of them a sign is follows from the kind of the token before it (`Rules.kind_of_tokenize`), and that is all the context
there is: the rules have no say in signs, and a blank lexeme is no token. So a stream is read alike wherever blank lexemes
are put in or left out (`Rules.map_reading_tokensFrom`), however long its chains of signs are.
-/

namespace ExprLex

/-- The two signs. -/
inductive Sign where
  | plus | minus
  deriving DecidableEq, Repr

namespace Sign

/-- The lexeme of a sign. -/
def lexeme : Sign → Text
  | .plus => ['+']
  | .minus => ['-']

/-- A sign in front of its only operand. -/
def unary : Sign → Operator
  | .plus => .unaryPlus
  | .minus => .unaryMinus

/-- A sign between two operands. -/
def binary : Sign → Operator
  | .plus => .addition
  | .minus => .subtraction

theorem unary_ne_binary (s : Sign) : s.unary ≠ s.binary := by
  cases s <;> decide

theorem lexeme_injective : Function.Injective lexeme := by
  intro s s' h
  cases s <;> cases s' <;> first | rfl | cases h

end Sign

/-- A kind of which an operand is still to come: an operator, an opening parenthesis or a comma. -/
def Kind.LeavesOperand (k : Kind) : Prop :=
  (∃ o, k = .operator o) ∨ k = .punctuation .leftParenthesis ∨ k = .punctuation .comma

/-- Behind which tokens an operand is due. -/
theorem Kind.startsOperand_iff (k : Kind) : k.startsOperand = true ↔ k.LeavesOperand := by
  unfold LeavesOperand
  cases k with
  | operator o => simp [startsOperand]
  | punctuation p => cases p <;> simp [startsOperand]
  | operand o => simp [startsOperand]
  | unknown => simp [startsOperand]

namespace Rules

variable {rules : Rules} {previous previous' : Option Token}

/-! ## One lexeme -/

/-- The kind of a sign is a matter of the token before it. -/
theorem kindOf_sign (rules : Rules) (previous : Option Token) (s : Sign) :
    rules.kindOf previous s.lexeme = .operator (if isSignContext previous then s.unary else s.binary) := by
  cases s <;> rfl

/-- A lexeme with the kind of a sign is the sign: numbers, names and function names have other kinds. -/
theorem eq_lexeme_of_kindOf {lexeme : Text} {s : Sign}
    (h : rules.kindOf previous lexeme = .operator s.unary ∨ rules.kindOf previous lexeme = .operator s.binary) :
    lexeme = s.lexeme := by
  unfold kindOf at h
  split at h
  case h_1 => cases s <;> grind [Sign.unary, Sign.binary, Sign.lexeme]
  case h_2 => cases s <;> grind [Sign.unary, Sign.binary, Sign.lexeme]
  all_goals cases s <;> grind [Sign.unary, Sign.binary]

/-- A lexeme is a sign exactly if it is read as one or as the operation. -/
theorem lexeme_eq_iff {lexeme : Text} (s : Sign) : lexeme = s.lexeme ↔
    rules.kindOf previous lexeme = .operator s.unary ∨ rules.kindOf previous lexeme = .operator s.binary := by
  refine ⟨?_, eq_lexeme_of_kindOf⟩
  rintro rfl
  rw [kindOf_sign]
  split
  · exact Or.inl rfl
  · exact Or.inr rfl

/-- It is read as a sign of a number exactly where an operand is due. -/
theorem kindOf_sign_eq_unary_iff (s : Sign) :
    rules.kindOf previous s.lexeme = .operator s.unary ↔ isSignContext previous = true := by
  rw [kindOf_sign]
  split
  next h => exact iff_of_true rfl h
  next h => exact iff_of_false (fun he => s.unary_ne_binary (Kind.operator.inj he).symm) h

/-- All that counts of the token before a lexeme is its kind. -/
theorem kindOf_congr (h : previous.map (·.kind) = previous'.map (·.kind)) (lexeme : Text) :
    rules.kindOf previous lexeme = rules.kindOf previous' lexeme := by
  have hcontext : isSignContext previous = isSignContext previous' := by
    cases previous with
    | none =>
      cases previous' with
      | none => rfl
      | some t' => cases h
    | some t =>
      cases previous' with
      | none => cases h
      | some t' => exact congrArg Kind.startsOperand (Option.some.inj h)
  simp only [kindOf, hcontext]

end Rules

/-! ## Streams -/

/-- The token before a place of a stream that follows a token, or that starts the expression. -/
def tokenBefore (previous : Option Token) (tokens : List Token) : (place : Nat) → Option Token
  | 0 => previous
  | n + 1 => tokens[n]?

/-- An operand is due at the start and behind what leaves one out. -/
theorem isSignContext_tokenBefore_iff {tokens : List Token} {i : Nat} (h : i < tokens.length) :
    isSignContext (tokenBefore none tokens i) = true ↔
      i = 0 ∨ ∃ before, tokens[i - 1]? = some before ∧ before.kind.LeavesOperand := by
  cases i with
  | zero => exact iff_of_true rfl (Or.inl rfl)
  | succ n =>
    have hn : tokens[n]? = some tokens[n] := List.getElem?_eq_getElem (Nat.lt_of_succ_lt h)
    simp [tokenBefore, hn, isSignContext, Kind.startsOperand_iff]

namespace Rules

/-- The kind of a token is that of its lexeme behind the token before it. The induction goes along the lexemes: a blank one
changes neither the tokens nor the one before them. -/
theorem kind_of_tokensFrom (rules : Rules) (position : Nat) (previous : Option Token) (lexemes : List Text) {i : Nat}
    {t : Token} (h : (rules.tokensFrom position previous lexemes)[i]? = some t) :
    t.kind = rules.kindOf (tokenBefore previous (rules.tokensFrom position previous lexemes) i) t.lexeme := by
  induction lexemes generalizing position previous i with
  | nil => simp [tokensFrom] at h
  | cons lexeme rest ih =>
    cases hblank : Text.isBlank lexeme with
    | true =>
      rw [tokensFrom_blank _ _ _ hblank] at h ⊢
      exact ih _ _ h
    | false =>
      rw [tokensFrom_cons _ _ _ hblank] at h ⊢
      cases i with
      | zero =>
        cases h
        rfl
      | succ n =>
        have hkind := ih _ _ h
        cases n with
        | zero => exact hkind
        | succ n => exact hkind

/-- The kind of a token goes by the token before it. -/
theorem kind_of_tokenize (rules : Rules) (lexemes : List Text) {i : Nat} {t : Token}
    (h : (rules.tokenize lexemes)[i]? = some t) :
    t.kind = rules.kindOf (tokenBefore none (rules.tokenize lexemes) i) t.lexeme :=
  rules.kind_of_tokensFrom 0 none lexemes h

end Rules

/-- How a token is read: its lexeme, and its kind with the subkind. -/
def Token.reading (t : Token) : Text × Kind := (t.lexeme, t.kind)

/-- Lists of lexemes that are the same but for blank lexemes, which may be put in and left out anywhere. -/
def SameButBlank (lexemes lexemes' : List Text) : Prop :=
  lexemes.filter (!Text.isBlank ·) = lexemes'.filter (!Text.isBlank ·)

/-- Blank lexemes put in at one place. -/
theorem sameButBlank_insert {blank : List Text} (h : ∀ l ∈ blank, Text.isBlank l = true) (before behind : List Text) :
    SameButBlank (before ++ blank ++ behind) (before ++ behind) := by
  have hnone : blank.filter (!Text.isBlank ·) = [] := by
    rw [List.filter_eq_nil_iff]
    intro l hl
    simp [h l hl]
  rw [SameButBlank, List.filter_append, List.filter_append, List.filter_append, hnone, List.append_nil]

namespace Rules

/-- Lexemes are read as they are without the blank ones among them. Blank lexemes move the positions of the tokens, which do
not count for the kinds. -/
theorem map_reading_tokensFrom (rules : Rules) (position position' : Nat) {previous previous' : Option Token}
    (h : previous.map (·.kind) = previous'.map (·.kind)) (lexemes : List Text) :
    (rules.tokensFrom position previous lexemes).map Token.reading =
      (rules.tokensFrom position' previous' (lexemes.filter (!Text.isBlank ·))).map Token.reading := by
  induction lexemes generalizing position position' previous previous' with
  | nil => rfl
  | cons lexeme rest ih =>
    cases hblank : Text.isBlank lexeme with
    | true =>
      rw [tokensFrom_blank _ _ _ hblank, List.filter_cons_of_neg (by simp [hblank])]
      exact ih _ _ h
    | false =>
      have hkind : rules.kindOf previous lexeme = rules.kindOf previous' lexeme := kindOf_congr h lexeme
      have hreading : (rules.classify lexeme position previous).reading =
          (rules.classify lexeme position' previous').reading := by
        simp only [Token.reading, classify, hkind]
      rw [tokensFrom_cons _ _ _ hblank, List.filter_cons_of_pos (by simp [hblank]), tokensFrom_cons _ _ _ hblank,
        List.map_cons, List.map_cons, hreading]
      exact congrArg _ (ih _ _ (congrArg some hkind))

/-- Blank lexemes make no difference to what is read. -/
theorem map_reading_tokenize_congr (rules : Rules) {lexemes lexemes' : List Text} (h : SameButBlank lexemes lexemes') :
    (rules.tokenize lexemes).map Token.reading = (rules.tokenize lexemes').map Token.reading := by
  rw [tokenize, tokenize, rules.map_reading_tokensFrom 0 0 rfl lexemes, rules.map_reading_tokensFrom 0 0 rfl lexemes', h]

end Rules

/-- Signs are resolved by what is before them, whatever the rules say about any lexeme. A token is a sign exactly if it has
one of the two kinds of the sign; it is the unary one exactly if it comes first or the token before it is an operator, an
opening parenthesis or a comma; and lexemes that are the same but for blank ones are read alike. -/
theorem signs_resolved (rules : Rules) (lexemes : List Text) :
    (∀ i t, (rules.tokenize lexemes)[i]? = some t → ∀ s : Sign,
      (t.lexeme = s.lexeme ↔ t.kind = .operator s.unary ∨ t.kind = .operator s.binary) ∧
      (t.lexeme = s.lexeme → (t.kind = .operator s.unary ↔
        i = 0 ∨ ∃ before, (rules.tokenize lexemes)[i - 1]? = some before ∧ before.kind.LeavesOperand))) ∧
    ∀ lexemes', SameButBlank lexemes lexemes' →
      (rules.tokenize lexemes).map Token.reading = (rules.tokenize lexemes').map Token.reading := by
  refine ⟨fun i t h s => ?_, fun lexemes' hsame => rules.map_reading_tokenize_congr hsame⟩
  have hkind := rules.kind_of_tokenize lexemes h
  obtain ⟨hi, -⟩ := List.getElem?_eq_some_iff.mp h
  constructor
  · rw [hkind]
    exact Rules.lexeme_eq_iff s
  · intro hs
    rw [hkind, hs, Rules.kindOf_sign_eq_unary_iff, isSignContext_tokenBefore_iff hi]

/-- Rules that take every lexeme for a number, and signs for functions too. -/
def signsForNumbers : Rules where
  isNumber _ := true
  functions := [['+'], ['-']]

/-- The signs of a chain, in front of a number and behind one, and the same with blank lexemes put in. -/
theorem signs_resolved_signs_for_numbers :
    signsForNumbers.tokenize (["-".toList] ++ [" ".toList, []] ++ ["+".toList, "2".toList, "-".toList, "-".toList]) =
        [⟨.operator .unaryMinus, ['-'], 0⟩, ⟨.operator .unaryPlus, ['+'], 2⟩, ⟨.operand .number, ['2'], 3⟩,
          ⟨.operator .subtraction, ['-'], 4⟩, ⟨.operator .unaryMinus, ['-'], 5⟩] ∧
      (Kind.operator .subtraction = .operator Sign.minus.unary ↔
        3 = 0 ∨ ∃ before, some (⟨.operand .number, ['2'], 3⟩ : Token) = some before ∧ before.kind.LeavesOperand) ∧
      (signsForNumbers.tokenize (["-".toList] ++ [" ".toList, []] ++
          ["+".toList, "2".toList, "-".toList, "-".toList])).map Token.reading =
        (signsForNumbers.tokenize (["-".toList] ++ ["+".toList, "2".toList, "-".toList, "-".toList])).map Token.reading := by
  obtain ⟨hsigns, hsame⟩ := signs_resolved signsForNumbers
    (["-".toList] ++ [" ".toList, []] ++ ["+".toList, "2".toList, "-".toList, "-".toList])
  exact ⟨rfl, (hsigns 3 _ rfl .minus).2 rfl, hsame _ (sameButBlank_insert (by decide) _ _)⟩

end ExprLex
