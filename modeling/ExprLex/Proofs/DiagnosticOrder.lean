import ExprLex.Proofs.AddedNames
import ExprLex.Proofs.Balance

/-!
# The order of diagnostics

What is wrong with a stream is found in three passes, each in the order of the tokens: what a token shows as soon as it is
met, the parentheses that are open at the end, and an operator that the stream ends with. Which tokens these are is told from
the balance of the parentheses (`findings`), and then the findings are sorted by position. The sort keeps findings at one
position in the order in which they were found. The passes look at different tokens, so where the tokens stand one behind the
other, as those of lexemes do, no two diagnostics stand at one position.
-/

namespace ExprLex

/-! ## What is found, pass by pass -/

/-- At this place there is a token that is not recognised. -/
def UnknownAt (ts : List Token) (i : Nat) : Prop := (ts[i]?).any (·.kind == .unknown) = true

/-- At this place there is a token that is a fault as soon as it is met. -/
def FaultyAt (ts : List Token) (i : Nat) : Prop := UnknownAt ts i ∨ ClosesNothing ts i

/-- At this place the stream ends, with an operator that asks for an operand. -/
def DanglesAt (ts : List Token) (i : Nat) : Prop := i + 1 = ts.length ∧ (ts[i]?).any (·.kind.isDangling) = true

instance (ts : List Token) (i : Nat) : Decidable (UnknownAt ts i) := inferInstanceAs (Decidable (_ = true))

instance (ts : List Token) (i : Nat) : Decidable (FaultyAt ts i) := inferInstanceAs (Decidable (_ ∨ _))

instance (ts : List Token) (i : Nat) : Decidable (DanglesAt ts i) := inferInstanceAs (Decidable (_ ∧ _))

/-- The diagnostic of a token that is a fault as soon as it is met. -/
def Token.faultMet (t : Token) : Diagnostic := if t.kind = .unknown then .unknownToken t else .neverOpened t

/-- What is wrong with a stream: first the tokens that are faults as soon as they are met, then the parentheses that stay
open, and then the operator at the end; each of these in the order of the tokens. -/
def findings (ts : List Token) : List Diagnostic :=
  (tokensAt (FaultyAt ts) ts).map Token.faultMet ++ (tokensAt (StaysOpen ts) ts).map .neverClosed ++
    (tokensAt (DanglesAt ts) ts).map .trailingOperator

/-! ## The stack of open parentheses -/

/-- Whether there is a token at a place that is a fault as soon as it is met, given how many parentheses are open before the
stream. -/
def faultyAt (depth : Nat) (ts : List Token) (i : Nat) : Bool :=
  (ts[i]?).any (·.kind == .unknown) || (ts[i]?).any (·.isClosing) && depthAfter depth (marks (ts.take i)) == 0

/-- Whether there is a parenthesis at a place that stays open: every closing one behind it closes another one. -/
def openAt (ts : List Token) (i : Nat) : Bool :=
  (ts[i]?).any (·.isOpening) && strayClosings 0 (marks (ts.drop (i + 1))) == 0

/-- The scan finds the faults that are met on the way. -/
theorem faultyAt_iff (ts : List Token) (i : Nat) : FaultyAt ts i ↔ faultyAt 0 ts i = true := by
  rw [FaultyAt, closesNothing_iff, faultyAt, Bool.or_eq_true, Bool.and_eq_true, beq_iff_eq]
  rfl

/-- The scan finds the parentheses that stay open. -/
theorem staysOpen_iff_openAt (ts : List Token) (i : Nat) : StaysOpen ts i ↔ openAt ts i = true := by
  rw [staysOpen_iff, openAt, Bool.and_eq_true, beq_iff_eq]

/-- The tokens that are faults as soon as they are met. -/
def faultyTokens (depth : Nat) (ts : List Token) : List Token := tokensAt (fun i => faultyAt depth ts i = true) ts

/-- The parentheses that stay open. -/
def openTokens (ts : List Token) : List Token := tokensAt (fun i => openAt ts i = true) ts

theorem faultyTokens_cons (depth : Nat) (t : Token) (ts : List Token) : faultyTokens depth (t :: ts) =
    if t.kind == .unknown || t.isClosing && depth == 0 then t :: faultyTokens (depthAfter depth [t.mark]) ts
    else faultyTokens (depthAfter depth [t.mark]) ts := tokensAt_cons t ts

theorem openTokens_cons (t : Token) (ts : List Token) : openTokens (t :: ts) =
    if t.isOpening && strayClosings 0 (marks ts) == 0 then t :: openTokens ts else openTokens ts := tokensAt_cons t ts

/-- The faults of a stream, in the order in which they are found. Of the parentheses that are open before the stream its stray
closing ones take the innermost, and the others are told of before those that the stream opens itself. -/
theorem faults_eq (opened ts : List Token) : faults opened ts = (faultyTokens opened.length ts).map Token.faultMet ++
    ((opened.drop (strayClosings 0 (marks ts))).reverse ++ openTokens ts).map .neverClosed := by
  induction ts generalizing opened with
  | nil => simp [faults, faultyTokens, openTokens, tokensAt]
  | cons t ts ih =>
    rw [marks_cons, faultyTokens_cons, openTokens_cons]
    cases t.part with
    | opening ho hc hm hw =>
      have hk := Token.kind_of_isOpening ho
      rw [faults_opening hk, ih, hm, hk, hc, ho, strayClosings_opening]
      cases strayClosings 0 (marks ts) with
      | zero => simp [depthAfter]
      | succ n => simp [depthAfter]
    | closing ho hc hm hw =>
      have hk := Token.kind_of_isClosing hc
      rw [hm, hk, hc, ho]
      cases opened with
      | nil =>
        rw [faults_closing_nil hk, ih]
        simp [depthAfter, Token.faultMet, hk]
      | cons o outer =>
        rw [faults_closing_cons hk, ih]
        simp [depthAfter, strayClosings, Nat.add_comm 1]
    | none ho hc hm hw =>
      rw [hm, hc, ho]
      rcases faults_of_no_part ho hc opened ts with ⟨hk, h⟩ | ⟨hk, h⟩
      · rw [h, ih]
        simp [depthAfter, strayClosings, hk, Token.faultMet]
      · rw [h, ih]
        simp [depthAfter, strayClosings, hk]

/-- Only the last token may be an operator that the stream ends with. -/
theorem trailing_eq (ts : List Token) : trailing ts = (tokensAt (DanglesAt ts) ts).map .trailingOperator := by
  induction ts with
  | nil => rfl
  | cons t ts ih =>
    have hlater : ∀ i, DanglesAt (t :: ts) (i + 1) ↔ DanglesAt ts i := by
      intro i
      simp [DanglesAt]
    rw [tokensAt_cons, tokensAt_congr hlater]
    cases ts with
    | nil =>
      cases hk : t.kind.isDangling with
      | true => simp [DanglesAt, trailing, tokensAt, hk]
      | false => simp [DanglesAt, trailing, tokensAt, hk]
    | cons u ts =>
      rw [if_neg (by simp [DanglesAt]), ← ih, trailing, trailing, List.getLast?_cons_cons]

/-- All that both passes find, in the order in which they find it. -/
theorem findings_eq (ts : List Token) : faults [] ts ++ trailing ts = findings ts := by
  have hfaulty : tokensAt (FaultyAt ts) ts = faultyTokens 0 ts := tokensAt_congr (faultyAt_iff ts) ts
  have hopen : tokensAt (StaysOpen ts) ts = openTokens ts := tokensAt_congr (staysOpen_iff_openAt ts) ts
  rw [findings, hfaulty, hopen, faults_eq, trailing_eq]
  simp

/-! ## Sorting by position -/

/-- The diagnostics of a stream are what is found, in another order. -/
theorem perm_findings (ts : List Token) : (diagnose ts).Perm (findings ts) := by
  rw [diagnose, findings_eq]
  exact List.mergeSort_perm _ _

/-- Diagnostics are sorted by positions. -/
theorem diagnose_sorted (ts : List Token) : (diagnose ts).Pairwise fun a b => a.position ≤ b.position := by
  have hsorted := List.pairwise_mergeSort byPosition_trans byPosition_total (faults [] ts ++ trailing ts)
  exact hsorted.imp fun h => of_decide_eq_true h

/-- Diagnostics at one position stay in the order in which they are found: by themselves they are sorted already. -/
theorem filter_diagnose_position (ts : List Token) (position : Int) :
    (diagnose ts).filter (·.position == position) = (findings ts).filter (·.position == position) := by
  rw [filter_diagnose, findings_eq]
  refine List.mergeSort_of_pairwise (List.pairwise_of_forall_mem_list ?_)
  intro a ha b hb
  have ha := eq_of_beq (List.mem_filter.mp ha).2
  have hb := eq_of_beq (List.mem_filter.mp hb).2
  exact decide_eq_true (Int.le_of_eq (ha.trans hb.symm))

/-! ## The passes look at different tokens -/

section

variable {p q : Nat → Prop} [DecidablePred p] [DecidablePred q] {ts : List Token}

/-- The tokens at some places stand at one of them. -/
theorem mem_tokensAt {t : Token} : t ∈ tokensAt p ts ↔ ∃ i, ts[i]? = some t ∧ p i := by
  simp only [tokensAt, List.mem_map, List.mem_filter, decide_eq_true_eq]
  constructor
  · rintro ⟨⟨u, i⟩, ⟨hmem, hp⟩, rfl⟩
    exact ⟨i, List.mem_zipIdx_iff_getElem?.mp hmem, hp⟩
  · rintro ⟨i, ht, hp⟩
    exact ⟨(t, i), ⟨List.mem_zipIdx_iff_getElem?.mpr ht, hp⟩, rfl⟩

/-- Tokens at different places, taken together. -/
theorem tokensAt_or_perm (h : ∀ i, p i → ¬ q i) (ts : List Token) :
    (tokensAt p ts ++ tokensAt q ts).Perm (tokensAt (fun i => p i ∨ q i) ts) := by
  have hsplit := List.filter_append_perm (fun e => decide (p e.2)) (ts.zipIdx.filter fun e => decide (p e.2 ∨ q e.2))
  have hp : ∀ e ∈ ts.zipIdx, (decide (p e.2) && decide (p e.2 ∨ q e.2)) = decide (p e.2) := by
    intro e _
    by_cases hp : p e.2
    · simp [hp]
    · simp [hp]
  have hq : ∀ e ∈ ts.zipIdx, (!decide (p e.2) && decide (p e.2 ∨ q e.2)) = decide (q e.2) := by
    intro e _
    by_cases hp : p e.2
    · simp [hp, h e.2 hp]
    · simp [hp]
  rw [List.filter_filter, List.filter_filter, List.filter_congr hp, List.filter_congr hq] at hsplit
  rw [tokensAt, tokensAt, tokensAt, ← List.map_append]
  exact hsplit.map Prod.fst

end

/-- A fault that is met at once is none that stays open. -/
theorem not_staysOpen_of_faultyAt {ts : List Token} {i : Nat} (h : FaultyAt ts i) : ¬ StaysOpen ts i := by
  rintro ⟨hopening, -⟩
  cases ht : ts[i]? with
  | none => simp [ht] at hopening
  | some t =>
    have hk : t.kind = .punctuation .leftParenthesis := Token.kind_of_isOpening (by simpa [ht] using hopening)
    rcases h with hunknown | ⟨hclosing, -⟩
    · simp [UnknownAt, ht, hk] at hunknown
    · simp [ht, Token.isClosing, hk] at hclosing

/-- A token that one of the first two passes tells of is no operator. -/
theorem not_danglesAt {ts : List Token} {i : Nat} (h : FaultyAt ts i ∨ StaysOpen ts i) : ¬ DanglesAt ts i := by
  rintro ⟨-, hdangling⟩
  cases ht : ts[i]? with
  | none => simp [ht] at hdangling
  | some t =>
    rw [ht, Option.any_some] at hdangling
    have hkind : t.kind = .unknown ∨ ∃ p, t.kind = .punctuation p := by
      rcases h with (hunknown | ⟨hclosing, -⟩) | ⟨hopening, -⟩
      · exact Or.inl (by simpa [UnknownAt, ht] using hunknown)
      · exact Or.inr ⟨_, Token.kind_of_isClosing (by simpa [ht] using hclosing)⟩
      · exact Or.inr ⟨_, Token.kind_of_isOpening (by simpa [ht] using hopening)⟩
    rcases hkind with hk | ⟨p, hk⟩
    · rw [hk] at hdangling
      cases hdangling
    · rw [hk] at hdangling
      cases hdangling

/-- A diagnostic about a token stands where the token does. -/
theorem position_faultMet (t : Token) : t.faultMet.position = t.position := by
  unfold Token.faultMet
  split <;> rfl

/-- No two findings are about one token. -/
theorem positions_findings_subperm (ts : List Token) :
    ((findings ts).map (·.position)).Subperm (ts.map (·.position)) := by
  have hmet : (tokensAt (FaultyAt ts) ts ++ tokensAt (StaysOpen ts) ts).Perm
      (tokensAt (fun i => FaultyAt ts i ∨ StaysOpen ts i) ts) :=
    tokensAt_or_perm (fun _ => not_staysOpen_of_faultyAt) ts
  have hall := (hmet.append_right _).trans (tokensAt_or_perm (fun _ => not_danglesAt) ts)
  have hpositions : (findings ts).map (·.position) =
      (tokensAt (FaultyAt ts) ts ++ tokensAt (StaysOpen ts) ts ++ tokensAt (DanglesAt ts) ts).map (·.position) := by
    simp only [findings, List.map_append, List.map_map, Function.comp_def, position_faultMet]
    rfl
  rw [hpositions]
  exact ⟨_, (hall.map _).symm, (tokensAt_sublist ts).map _⟩

/-! ## Tokens that stand one behind the other -/

section

variable {ts : List Token}

/-- Where tokens have positions of their own, so have diagnostics. -/
theorem diagnose_ascend (h : ts.Pairwise fun a b => a.position < b.position) :
    (diagnose ts).Pairwise fun a b => a.position < b.position := by
  have hplaces : (ts.map (·.position)).Nodup := List.pairwise_map.mpr (h.imp Int.ne_of_lt)
  obtain ⟨positions, hperm, hsub⟩ := positions_findings_subperm ts
  have hnodup : ((diagnose ts).map (·.position)).Nodup := by
    rw [((perm_findings ts).map _).nodup_iff, ← hperm.nodup_iff]
    exact hplaces.sublist hsub
  exact (diagnose_sorted ts).imp₂ (fun a b hle hne => lt_of_le_of_ne hle hne) (List.pairwise_map.mp hnodup)

/-- Where diagnostics stand one behind the other, its position tells each one from the others. -/
theorem filter_position_eq {ds : List Diagnostic} (h : ds.Pairwise fun a b => a.position < b.position) {d : Diagnostic}
    (hd : d ∈ ds) : ds.filter (·.position == d.position) = [d] := by
  induction h with
  | nil => cases hd
  | @cons e ds hlt hrest ih =>
    rcases List.mem_cons.mp hd with rfl | hd
    · have hnone : ds.filter (·.position == d.position) = [] := by
        rw [List.filter_eq_nil_iff]
        intro e he
        have hlt := hlt e he
        rw [beq_iff_eq]
        omega
      rw [List.filter_cons_of_pos (by simp), hnone]
    · have hlt := hlt d hd
      have hne : ¬ (e.position == d.position) = true := by
        rw [beq_iff_eq]
        omega
      rw [List.filter_cons, if_neg hne, ih hd]

/-- An unknown token is reported. -/
theorem unknownToken_mem_diagnose {t : Token} (ht : t ∈ ts) (hk : t.kind = .unknown) : .unknownToken t ∈ diagnose ts := by
  obtain ⟨i, hi⟩ := List.getElem?_of_mem ht
  have hfaulty : FaultyAt ts i := Or.inl (by simp [UnknownAt, hi, hk])
  rw [(perm_findings ts).mem_iff, findings, List.mem_append, List.mem_append]
  refine Or.inl (Or.inl (List.mem_map.mpr ⟨t, mem_tokensAt.mpr ⟨i, hi, hfaulty⟩, ?_⟩))
  rw [Token.faultMet, if_pos hk]

/-- A trailing operator is the last token. -/
theorem eq_trailingOperator_of_code {d : Diagnostic} (hd : d ∈ diagnose ts) (hc : d.code = .trailingOperator) :
    ∃ before t, ts = before ++ [t] ∧ d = .trailingOperator t := by
  rw [(perm_findings ts).mem_iff, findings, List.mem_append, List.mem_append, ← trailing_eq] at hd
  rcases hd with (hd | hd) | hd
  · obtain ⟨t, -, rfl⟩ := List.mem_map.mp hd
    unfold Token.faultMet at hc
    split at hc
    · cases hc
    · cases hc
  · obtain ⟨t, -, rfl⟩ := List.mem_map.mp hd
    cases hc
  · unfold trailing at hd
    cases hlast : ts.getLast? with
    | none => simp [hlast] at hd
    | some t =>
      obtain ⟨before, rfl⟩ := List.getLast?_eq_some_iff.mp hlast
      simp only [hlast, List.mem_ite_nil_right, List.mem_singleton] at hd
      exact ⟨before, t, rfl, hd.2⟩

/-- Only the last diagnostic may be that of a trailing operator: every other one stands before it, but no token stands behind
the last one. -/
theorem code_ne_trailingOperator (h : ts.Pairwise fun a b => a.position < b.position) :
    ∀ d ∈ (diagnose ts).dropLast, d.code ≠ .trailingOperator := by
  intro d hd hc
  rcases List.eq_nil_or_concat (diagnose ts) with hnil | ⟨earlier, e, hsplit⟩
  · rw [hnil] at hd
    cases hd
  · rw [List.concat_eq_append] at hsplit
    rw [hsplit, List.dropLast_concat] at hd
    have hascend := diagnose_ascend h
    rw [hsplit] at hascend
    have hbehind : d.position < e.position :=
      (List.pairwise_append.mp hascend).2.2 d hd e (List.mem_singleton_self e)
    have hmem : ∀ d' ∈ earlier ++ [e], d' ∈ diagnose ts := by
      intro d' hd'
      rwa [hsplit]
    obtain ⟨before, t, rfl, rfl⟩ := eq_trailingOperator_of_code (hmem d (List.mem_append_left _ hd)) hc
    obtain ⟨u, hu, habout⟩ := exists_token_of_mem_diagnose (hmem e (by simp))
    have hlast : u.position ≤ t.position := by
      rcases List.mem_append.mp hu with hu | hu
      · exact Int.le_of_lt ((List.pairwise_append.mp h).2.2 u hu t (List.mem_singleton_self t))
      · rw [List.mem_singleton.mp hu]
    have hposition := habout.position_eq
    have htrailing : (Diagnostic.trailingOperator t).position = t.position := rfl
    omega

end

/-! ## Main statement -/

/-- Diagnostics of some tokens, one behind the other and no two about one token. -/
structure InTokenOrder (tokens : List Token) (ds : List Diagnostic) : Prop where
  ascend : ds.Pairwise fun a b => a.position < b.position
  /-- each one covers the lexeme of one token -/
  covers_token : ∀ d ∈ ds, ∃! t, t ∈ tokens ∧ d.position = t.position ∧ d.length = t.lexeme.length
  /-- an unknown token is told of once -/
  unknown_once : ∀ t ∈ tokens, t.kind = .unknown →
    ds.filter (fun d => d.code == .unknownToken && d.position == t.position) = [.unknownToken t]
  /-- a trailing operator is told of at the end, if at all -/
  trailing_last : ∀ d ∈ ds.dropLast, d.code ≠ .trailingOperator

/-- Diagnostics by position, and those at one position in the order in which they were found. -/
structure StablySorted (found ds : List Diagnostic) : Prop where
  sorted : ds.Pairwise fun a b => a.position ≤ b.position
  ties : ∀ position : Int, ds.filter (·.position == position) = found.filter (·.position == position)

/-- Diagnostics are in order. Those of the tokens of lexemes stand one behind the other, each at one token and as long as its
lexeme; there is one for each unknown token, and that of a trailing operator comes last. Whatever the tokens are and wherever
they stand, what is found about them is sorted by position, and what is found at one position stays in the order of the passes
and of the tokens in each pass. -/
theorem diagnostics_in_order :
    (∀ (rules : Rules) (lexemes : List Text),
      InTokenOrder (rules.tokenize lexemes) (diagnose (rules.tokenize lexemes))) ∧
    ∀ ts : List Token, StablySorted (findings ts) (diagnose ts) := by
  refine ⟨fun rules lexemes => ?_, fun ts => ⟨diagnose_sorted ts, filter_diagnose_position ts⟩⟩
  have htokens := rules.tokenize_ascend lexemes
  have hascend := diagnose_ascend htokens
  refine ⟨hascend, fun d hd => ?_, fun t ht hk => ?_, code_ne_trailingOperator htokens⟩
  · obtain ⟨t, ht, habout⟩ := exists_token_of_mem_diagnose hd
    obtain ⟨hposition, hlength⟩ := habout.place ht
    refine ⟨t, ⟨ht, hposition, hlength⟩, ?_⟩
    rintro u ⟨hu, hposition', -⟩
    exact eq_of_position_eq htokens hu ht (hposition'.symm.trans hposition)
  · have honce : (diagnose (rules.tokenize lexemes)).filter (·.position == t.position) = [.unknownToken t] :=
      filter_position_eq hascend (unknownToken_mem_diagnose ht hk)
    rw [← List.filter_filter, honce]
    rfl

/-- Tokens of which the last three stand at one place, the first one of all behind them. -/
def heaped : List Token :=
  [⟨.punctuation .rightParenthesis, [')'], 7⟩, ⟨.punctuation .leftParenthesis, ['('], 4⟩, ⟨.unknown, ['$'], 4⟩,
    ⟨.operator .addition, ['+'], 4⟩]

/-- At one place an unknown token is told of before a parenthesis that stays open, although it comes behind it, and the operator
at the end last. -/
theorem diagnostics_in_order_heaped : (diagnose heaped).filter (·.position == 4) =
    [.unknownToken ⟨.unknown, ['$'], 4⟩, .neverClosed ⟨.punctuation .leftParenthesis, ['('], 4⟩,
      .trailingOperator ⟨.operator .addition, ['+'], 4⟩] :=
  ((diagnostics_in_order.2 heaped).ties 4).trans (by decide)

end ExprLex
