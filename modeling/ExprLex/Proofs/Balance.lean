import ExprLex.Proofs.Faults
import Mathlib.Combinatorics.Enumerative.DyckWord

/-!
# The balance of parentheses

The diagnoses of parentheses are found with a stack. They can be told without one, from the balance of the parentheses of a
stream: a closing parenthesis closes nothing where the balance falls below all it has been before, and an opening one stays
open where the balance never comes back to what it was. These are the parentheses that have no partner. A stream without
them is balanced, and no smaller set of parentheses can be deleted to make it so.
-/

namespace ExprLex

namespace Token

def isOpening (t : Token) : Bool := t.kind == .punctuation .leftParenthesis

def isClosing (t : Token) : Bool := t.kind == .punctuation .rightParenthesis

/-- The step of a Dyck word that a token is, if it is a parenthesis. -/
def step? (t : Token) : Option DyckStep :=
  if t.isOpening then some .U else if t.isClosing then some .D else none

/-- The diagnosis of a parenthesis that has no partner. -/
def partnerMissing (t : Token) : Diagnostic := if t.isOpening then .neverClosed t else .neverOpened t

/-- The character that a token counts as where only parentheses count. -/
def mark (t : Token) : Char := if t.isOpening then '(' else if t.isClosing then ')' else ' '

/-- What a token adds to the balance of the parentheses. -/
def weight (t : Token) : Int := if t.isOpening then 1 else if t.isClosing then -1 else 0

end Token

/-- The opening parentheses of a stream less the closing ones. -/
def balance (ts : List Token) : Int := (ts.countP (·.isOpening) : Int) - ts.countP (·.isClosing)

/-- At this place there is a closing parenthesis behind which the balance is smaller than behind every shorter prefix. -/
def ClosesNothing (ts : List Token) (i : Nat) : Prop :=
  (ts[i]?).any (·.isClosing) = true ∧ ∀ k ≤ i, balance (ts.take (i + 1)) < balance (ts.take k)

/-- At this place there is an opening parenthesis before which the balance is smaller than behind every later token. -/
def StaysOpen (ts : List Token) (i : Nat) : Prop :=
  (ts[i]?).any (·.isOpening) = true ∧ ∀ k ≤ ts.length, i < k → balance (ts.take i) < balance (ts.take k)

/-- At this place there is a parenthesis that has no partner. -/
def LacksPartner (ts : List Token) (i : Nat) : Prop := ClosesNothing ts i ∨ StaysOpen ts i

instance (ts : List Token) (i : Nat) : Decidable (ClosesNothing ts i) := inferInstanceAs (Decidable (_ ∧ _))

instance (ts : List Token) (i : Nat) : Decidable (StaysOpen ts i) := inferInstanceAs (Decidable (_ ∧ _))

instance (ts : List Token) : DecidablePred (LacksPartner ts) := fun _ => inferInstanceAs (Decidable (_ ∨ _))

/-- The tokens at the places that are asked for. -/
def tokensAt (p : Nat → Prop) [DecidablePred p] (ts : List Token) : List Token :=
  (ts.zipIdx.filter fun e => decide (p e.2)).map (·.1)

/-- The diagnoses of a stream that are about parentheses. -/
def parenthesisFaults (ts : List Token) : List Diagnostic :=
  (diagnose ts).filter fun d => d.code = .unbalancedParenthesis

/-! ## Tokens as characters -/

/-- A stream as a text in which only the parentheses are told apart. -/
def marks (ts : List Token) : Text := ts.map Token.mark

namespace Token

variable {t : Token}

/-- An opening parenthesis, by its kind. -/
theorem kind_of_isOpening (h : t.isOpening = true) : t.kind = .punctuation .leftParenthesis := eq_of_beq h

/-- A closing one, by its kind. -/
theorem kind_of_isClosing (h : t.isClosing = true) : t.kind = .punctuation .rightParenthesis := eq_of_beq h

/-- What opens does not close. -/
theorem isClosing_of_isOpening (h : t.isOpening = true) : t.isClosing = false := by
  rw [isClosing, kind_of_isOpening h]
  rfl

/-- What a token is to the parentheses. -/
inductive Part (t : Token) : Prop where
  | opening (ho : t.isOpening = true) (hc : t.isClosing = false) (hm : t.mark = '(') (hw : t.weight = 1)
  | closing (ho : t.isOpening = false) (hc : t.isClosing = true) (hm : t.mark = ')') (hw : t.weight = -1)
  | none (ho : t.isOpening = false) (hc : t.isClosing = false) (hm : t.mark = ' ') (hw : t.weight = 0)

/-- Every token opens, closes or does neither. -/
theorem part (t : Token) : t.Part := by
  cases ho : t.isOpening with
  | true => exact .opening ho (isClosing_of_isOpening ho) (by simp [mark, ho]) (by simp [weight, ho])
  | false =>
    cases hc : t.isClosing with
    | true => exact .closing ho hc (by simp [mark, ho, hc]) (by simp [weight, ho, hc])
    | false => exact .none ho hc (by simp [mark, ho, hc]) (by simp [weight, ho, hc])

end Token

@[simp] theorem marks_nil : marks [] = [] := rfl

@[simp] theorem marks_cons (t : Token) (ts : List Token) : marks (t :: ts) = t.mark :: marks ts := rfl

/-- Every token has one mark. -/
@[simp] theorem length_marks (ts : List Token) : (marks ts).length = ts.length := List.length_map _

@[simp] theorem balance_nil : balance [] = 0 := rfl

/-- The first token counts, and so do the rest. -/
theorem balance_cons (t : Token) (ts : List Token) : balance (t :: ts) = t.weight + balance ts := by
  unfold balance
  cases t.part with
  | opening ho hc hm hw =>
    simp [ho, hc, hw]
    omega
  | closing ho hc hm hw =>
    simp [ho, hc, hw]
    omega
  | none ho hc hm hw => simp [ho, hc, hw]

/-- The balances of two halves add up. -/
theorem balance_append (ts us : List Token) : balance (ts ++ us) = balance ts + balance us := by
  induction ts with
  | nil => simp
  | cons t ts ih => rw [List.cons_append, balance_cons, balance_cons, ih, Int.add_assoc]

/-- The balance before a token and the token itself make the balance behind it. -/
theorem balance_take_succ {ts : List Token} {i : Nat} {t : Token} (h : ts[i]? = some t) :
    balance (ts.take (i + 1)) = balance (ts.take i) + t.weight := by
  induction ts generalizing i with
  | nil => cases h
  | cons u ts ih =>
    cases i with
    | zero =>
      cases h
      simp [balance_cons]
    | succ i =>
      have := ih (i := i) (by simpa using h)
      rw [List.take_succ_cons, List.take_succ_cons, balance_cons, balance_cons, this, Int.add_assoc]

/-- A bound for the balance of every prefix, told from the first token on. -/
theorem forall_take_cons {P : Int → Prop} (t : Token) (ts : List Token) :
    (∀ k ≤ (t :: ts).length, P (balance ((t :: ts).take k))) ↔
      P 0 ∧ ∀ k ≤ ts.length, P (t.weight + balance (ts.take k)) := by
  constructor
  · intro h
    refine ⟨h 0 (Nat.zero_le _), fun k hk => ?_⟩
    rw [← balance_cons]
    exact h (k + 1) (Nat.succ_le_succ hk)
  · intro ⟨h0, h⟩ k hk
    cases k with
    | zero => exact h0
    | succ k =>
      rw [List.take_succ_cons, balance_cons]
      exact h k (Nat.le_of_succ_le_succ hk)

/-! ## Open parentheses and the balance -/

/-- The parentheses that are open behind a stream, told from the balance. -/
theorem depthAfter_marks (depth : Nat) (ts : List Token) :
    (depthAfter depth (marks ts) : Int) = depth + balance ts + strayClosings depth (marks ts) := by
  induction ts generalizing depth with
  | nil => simp
  | cons t ts ih =>
    rw [marks_cons, depthAfter, strayClosings, balance_cons, ih]
    cases t.part with
    | opening ho hc hm hw =>
      simp [hm, hw]
      omega
    | closing ho hc hm hw =>
      cases depth with
      | zero =>
        simp [hm, hw]
        omega
      | succ depth => simp [hm, hw]
    | none ho hc hm hw => simp [hm, hw]

/-- Every closing parenthesis closes one where no prefix closes more than are open. -/
theorem strayClosings_marks_eq_zero_iff (depth : Nat) (ts : List Token) :
    strayClosings depth (marks ts) = 0 ↔ ∀ k ≤ ts.length, 0 ≤ depth + balance (ts.take k) := by
  induction ts generalizing depth with
  | nil => simp
  | cons t ts ih =>
    rw [forall_take_cons (P := fun b => 0 ≤ depth + b), marks_cons, strayClosings]
    have hzero : (0 : Int) ≤ depth + 0 := by omega
    simp only [hzero, true_and]
    cases t.part with
    | opening ho hc hm hw =>
      simp only [hm, hw, if_true, Char.reduceEq, false_and, if_false, Nat.zero_add, ih]
      refine forall₂_congr fun k _ => ?_
      push_cast
      omega
    | closing ho hc hm hw =>
      cases depth with
      | zero =>
        have hfirst : ¬ ∀ k ≤ ts.length, (0 : Int) ≤ ((0 : Nat) : Int) + (-1 + balance (ts.take k)) := by
          intro h
          have := h 0 (Nat.zero_le _)
          simp at this
        simp only [hm, hw, hfirst, iff_false]
        simp
      | succ depth =>
        simp only [hm, hw, Char.reduceEq, if_true, if_false, Nat.succ_ne_zero, and_false, Nat.zero_add,
          Nat.add_sub_cancel, ih]
        refine forall₂_congr fun k _ => ?_
        push_cast
        omega
    | none ho hc hm hw =>
      simp only [hm, hw, Char.reduceEq, if_false, false_and, Nat.zero_add, ih, Int.zero_add]

/-- No parenthesis is open behind a stream where the balance is nowhere smaller than at the end. -/
theorem depthAfter_marks_eq_zero_iff (depth : Nat) (ts : List Token) :
    depthAfter depth (marks ts) = 0 ↔
      depth + balance ts ≤ 0 ∧ ∀ k ≤ ts.length, balance ts ≤ balance (ts.take k) := by
  induction ts generalizing depth with
  | nil => simp
  | cons t ts ih =>
    have hlast : balance (t :: ts) ≤ 0 ∧ (∀ k ≤ ts.length, balance (t :: ts) ≤ t.weight + balance (ts.take k)) ↔
        balance (t :: ts) ≤ 0 ∧ ∀ k ≤ ts.length, balance ts ≤ balance (ts.take k) := by
      simp only [balance_cons, Int.add_le_add_iff_left]
    rw [forall_take_cons (P := fun b => balance (t :: ts) ≤ b), hlast, marks_cons, depthAfter, ih, ← and_assoc]
    refine and_congr_left fun h => ?_
    -- the balance of the rest, which is at most that of its empty prefix
    have hrest := h 0 (Nat.zero_le _)
    rw [List.take_zero, balance_nil] at hrest
    rw [balance_cons]
    cases t.part with
    | opening ho hc hm hw =>
      simp only [hm, hw, if_true]
      push_cast
      omega
    | closing ho hc hm hw =>
      simp only [hm, hw, Char.reduceEq, if_true, if_false]
      omega
    | none ho hc hm hw =>
      simp only [hm, hw, Char.reduceEq, if_false]
      omega

/-- One more parenthesis that is open takes one closing parenthesis that would close nothing. -/
theorem strayClosings_succ (depth : Nat) (t : Text) : strayClosings (depth + 1) t = strayClosings depth t - 1 := by
  induction t generalizing depth with
  | nil => rfl
  | cons c t ih =>
    by_cases ho : c = '('
    · simp [strayClosings, ho, ih]
    · by_cases hc : c = ')'
      · cases depth with
        | zero => simp [strayClosings, hc]
        | succ depth => simp [strayClosings, hc, ih]
      · simp [strayClosings, ho, hc, ih]

/-- A parenthesis that opens takes the first one that strays. -/
theorem strayClosings_opening (t : Text) : strayClosings 0 ('(' :: t) = strayClosings 0 t - 1 := by
  rw [← strayClosings_succ]
  exact Nat.zero_add _

/-! ## Parentheses without a partner, along the stream -/

/-- Whether there is a parenthesis without a partner at a place, given how many are open before the stream: a closing one
where none is open, or an opening one behind which every closing parenthesis closes another one. -/
def loneAt (depth : Nat) (ts : List Token) (i : Nat) : Bool :=
  (ts[i]?).any (·.isClosing) && depthAfter depth (marks (ts.take i)) == 0 ||
    (ts[i]?).any (·.isOpening) && strayClosings 0 (marks (ts.drop (i + 1))) == 0

/-- Whether the first token is alone: it closes nothing, or nothing closes it. -/
theorem loneAt_zero (depth : Nat) (t : Token) (ts : List Token) : loneAt depth (t :: ts) 0 =
    (t.isClosing && depth == 0 || t.isOpening && strayClosings 0 (marks ts) == 0) := rfl

/-- A closing parenthesis closes nothing if none is open before it. -/
theorem closesNothing_iff (ts : List Token) (i : Nat) : ClosesNothing ts i ↔
    (ts[i]?).any (·.isClosing) = true ∧ depthAfter 0 (marks (ts.take i)) = 0 := by
  refine and_congr_right fun h => ?_
  cases ht : ts[i]? with
  | none => simp [ht] at h
  | some t =>
    have hi : i < ts.length := (List.getElem?_eq_some_iff.mp ht).1
    have hw : t.weight = -1 := by
      rw [ht] at h
      cases t.part with
      | opening ho hc hm hw => simp [hc] at h
      | closing ho hc hm hw => exact hw
      | none ho hc hm hw => simp [hc] at h
    have hlen : (ts.take i).length = i := by
      rw [List.length_take]
      omega
    rw [depthAfter_marks_eq_zero_iff, balance_take_succ ht, hw, hlen]
    constructor
    · intro hk
      refine ⟨?_, fun k hki => ?_⟩
      · have := hk 0 (Nat.zero_le _)
        rw [List.take_zero, balance_nil] at this
        omega
      · have := hk k hki
        rw [List.take_take, Nat.min_eq_left hki]
        omega
    · intro ⟨_, hk⟩ k hki
      have := hk k hki
      rw [List.take_take, Nat.min_eq_left hki] at this
      omega

/-- An opening one stays open if nothing strays behind it. -/
theorem staysOpen_iff (ts : List Token) (i : Nat) : StaysOpen ts i ↔
    (ts[i]?).any (·.isOpening) = true ∧ strayClosings 0 (marks (ts.drop (i + 1))) = 0 := by
  refine and_congr_right fun h => ?_
  cases ht : ts[i]? with
  | none => simp [ht] at h
  | some t =>
    have hi : i < ts.length := (List.getElem?_eq_some_iff.mp ht).1
    have hw : t.weight = 1 := by
      rw [ht] at h
      cases t.part with
      | opening ho hc hm hw => exact hw
      | closing ho hc hm hw => simp [ho] at h
      | none ho hc hm hw => simp [ho] at h
    have hbehind : ∀ k, balance (ts.take (i + 1 + k)) = balance (ts.take i) + 1 + balance ((ts.drop (i + 1)).take k) := by
      intro k
      rw [List.take_add, balance_append, balance_take_succ ht, hw]
    rw [strayClosings_marks_eq_zero_iff, List.length_drop]
    constructor
    · intro hk k hki
      have := hk (i + 1 + k) (by omega) (by omega)
      rw [hbehind] at this
      omega
    · intro hk k hkl hki
      obtain ⟨j, rfl⟩ := Nat.exists_eq_add_of_le (Nat.succ_le_of_lt hki)
      have := hk j (by omega)
      rw [Nat.succ_eq_add_one, hbehind]
      omega

/-- A token lacks its partner in the sense of balances exactly if the scan finds it alone. -/
theorem lacksPartner_iff (ts : List Token) (i : Nat) : LacksPartner ts i ↔ loneAt 0 ts i = true := by
  rw [LacksPartner, closesNothing_iff, staysOpen_iff, loneAt, Bool.or_eq_true, Bool.and_eq_true, Bool.and_eq_true, beq_iff_eq,
    beq_iff_eq]

section

variable {p q : Nat → Prop} [DecidablePred p] [DecidablePred q]

theorem tokensAt_congr (h : ∀ i, p i ↔ q i) (ts : List Token) : tokensAt p ts = tokensAt q ts := by
  simp only [tokensAt, h]

theorem tokensAt_cons (t : Token) (ts : List Token) :
    tokensAt p (t :: ts) = if p 0 then t :: tokensAt (fun i => p (i + 1)) ts else tokensAt (fun i => p (i + 1)) ts := by
  have hrest : ((ts.zipIdx 1).filter fun e => decide (p e.2)).map (·.1) = tokensAt (fun i => p (i + 1)) ts := by
    rw [List.zipIdx_succ, List.filter_map, List.map_map]
    rfl
  by_cases h : p 0
  · simp [tokensAt, List.zipIdx_cons, h, hrest]
  · simp [tokensAt, List.zipIdx_cons, h, hrest]

/-- They stand in their order. -/
theorem tokensAt_sublist (ts : List Token) : (tokensAt p ts).Sublist ts := by
  have h := (List.filter_sublist (l := ts.zipIdx) (p := fun e => decide (p e.2))).map Prod.fst
  rwa [List.zipIdx_map_fst] at h

end

/-- Leaving out the tokens at some places leaves out no more tokens than there are places. -/
theorem length_le_length_tokensAt_add_card (places : Finset Nat) (ts : List Token) :
    ts.length ≤ (tokensAt (· ∉ places) ts).length + places.card := by
  have hleft : (ts.zipIdx.filter fun e => decide (e.2 ∈ places)).length ≤ places.card := by
    have hnodup : ((ts.zipIdx.filter fun e => decide (e.2 ∈ places)).map (·.2)).Nodup := by
      refine List.Nodup.sublist ((List.filter_sublist).map _) ?_
      rw [List.zipIdx_map_snd]
      exact List.nodup_range'
    rw [← List.length_map (·.2), ← List.toFinset_card_of_nodup hnodup]
    refine Finset.card_le_card fun i hi => ?_
    obtain ⟨e, he, rfl⟩ := List.mem_map.mp (List.mem_toFinset.mp hi)
    exact of_decide_eq_true (List.mem_filter.mp he).2
  have hsplit := List.length_eq_length_filter_add (l := ts.zipIdx) fun e => decide (e.2 ∈ places)
  rw [List.length_zipIdx] at hsplit
  have hkept : (tokensAt (· ∉ places) ts).length = (ts.zipIdx.filter fun e => !decide (e.2 ∈ places)).length := by
    rw [tokensAt, List.length_map]
    simp only [decide_not]
  omega

/-! ## The diagnoses of parentheses -/

/-- The diagnoses among some that are about parentheses. -/
def aboutParentheses (ds : List Diagnostic) : List Diagnostic := ds.filter fun d => d.code = .unbalancedParenthesis

@[simp] theorem aboutParentheses_unknownToken (t : Token) (ds : List Diagnostic) :
    aboutParentheses (.unknownToken t :: ds) = aboutParentheses ds := rfl

@[simp] theorem aboutParentheses_neverOpened (t : Token) (ds : List Diagnostic) :
    aboutParentheses (.neverOpened t :: ds) = .neverOpened t :: aboutParentheses ds := rfl

/-- At the end all that is still open is reported, the outermost first. -/
theorem aboutParentheses_faults_nil (opened : List Token) :
    aboutParentheses (faults opened []) = opened.reverse.map .neverClosed := by
  refine List.filter_eq_self.mpr fun d hd => ?_
  obtain ⟨t, -, rfl⟩ := List.mem_map.mp hd
  rfl

/-- A token that is no parenthesis is a fault of its own or none. -/
theorem faults_of_no_part {t : Token} (ho : t.isOpening = false) (hc : t.isClosing = false) (opened rest : List Token) :
    (t.kind = .unknown ∧ faults opened (t :: rest) = .unknownToken t :: faults opened rest) ∨
      (t.kind ≠ .unknown ∧ faults opened (t :: rest) = faults opened rest) := by
  cases hk : t.kind with
  | unknown => exact Or.inl ⟨rfl, faults_unknown hk opened rest⟩
  | operator o => exact Or.inr ⟨nofun, faults_plain (by rw [hk]; rfl) opened rest⟩
  | operand o => exact Or.inr ⟨nofun, faults_plain (by rw [hk]; rfl) opened rest⟩
  | punctuation p =>
    cases p with
    | leftParenthesis => simp [Token.isOpening, hk] at ho
    | rightParenthesis => simp [Token.isClosing, hk] at hc
    | comma => exact Or.inr ⟨nofun, faults_plain (by rw [hk]; rfl) opened rest⟩

/-- The parentheses without a partner. -/
def loneTokens (depth : Nat) (ts : List Token) : List Token := tokensAt (fun i => loneAt depth ts i = true) ts

/-- The other tokens. -/
def matchedTokens (depth : Nat) (ts : List Token) : List Token := tokensAt (fun i => ¬ loneAt depth ts i = true) ts

theorem loneTokens_cons (depth : Nat) (t : Token) (ts : List Token) : loneTokens depth (t :: ts) =
    if loneAt depth (t :: ts) 0 = true then t :: loneTokens (depthAfter depth [t.mark]) ts
    else loneTokens (depthAfter depth [t.mark]) ts := tokensAt_cons t ts

theorem matchedTokens_cons (depth : Nat) (t : Token) (ts : List Token) : matchedTokens depth (t :: ts) =
    if loneAt depth (t :: ts) 0 = true then matchedTokens (depthAfter depth [t.mark]) ts
    else t :: matchedTokens (depthAfter depth [t.mark]) ts := by
  rw [matchedTokens, tokensAt_cons, ite_not]
  rfl

/-- What is diagnosed of the parentheses: of those that are open before the stream the outer ones stay open, and in the stream
those without a partner are reported. -/
theorem aboutParentheses_faults_perm (opened ts : List Token) : (aboutParentheses (faults opened ts)).Perm
    ((opened.drop (strayClosings 0 (marks ts))).reverse.map .neverClosed ++
      (loneTokens opened.length ts).map Token.partnerMissing) := by
  induction ts generalizing opened with
  | nil =>
    rw [aboutParentheses_faults_nil]
    simp [loneTokens, tokensAt]
  | cons t ts ih =>
    rw [marks_cons, loneTokens_cons, loneAt_zero]
    cases t.part with
    | opening ho hc hm hw =>
      have ih := ih (t :: opened)
      rw [faults_opening (Token.kind_of_isOpening ho), hm, hc, ho]
      -- the new one has a partner exactly if a closing one behind it is left over
      rw [strayClosings_opening]
      cases hs : strayClosings 0 (marks ts) with
      | zero =>
        rw [hs] at ih
        simpa [depthAfter, Token.partnerMissing, ho] using ih
      | succ n =>
        rw [hs] at ih
        simpa [depthAfter] using ih
    | closing ho hc hm hw =>
      rw [hm, hc, ho]
      cases opened with
      | nil =>
        rw [faults_closing_nil (Token.kind_of_isClosing hc)]
        simpa [depthAfter, Token.partnerMissing, ho] using ih []
      | cons o outer =>
        rw [faults_closing_cons (Token.kind_of_isClosing hc)]
        simpa [depthAfter, strayClosings, Nat.add_comm 1] using ih outer
    | none ho hc hm hw =>
      have hsame : aboutParentheses (faults opened (t :: ts)) = aboutParentheses (faults opened ts) := by
        rcases faults_of_no_part ho hc opened ts with ⟨-, h⟩ | ⟨-, h⟩
        · rw [h, aboutParentheses_unknownToken]
        · rw [h]
      rw [hsame, hm, hc, ho]
      simpa [depthAfter, strayClosings] using ih opened

/-- The number of diagnoses of parentheses. -/
theorem length_aboutParentheses_faults (opened ts : List Token) : (aboutParentheses (faults opened ts)).length =
    strayClosings opened.length (marks ts) + depthAfter opened.length (marks ts) := by
  induction ts generalizing opened with
  | nil =>
    rw [aboutParentheses_faults_nil]
    simp
  | cons t ts ih =>
    rw [marks_cons]
    cases t.part with
    | opening ho hc hm hw =>
      rw [faults_opening (Token.kind_of_isOpening ho), ih, hm]
      simp [strayClosings, depthAfter]
    | closing ho hc hm hw =>
      rw [hm]
      cases opened with
      | nil =>
        rw [faults_closing_nil (Token.kind_of_isClosing hc), aboutParentheses_neverOpened, List.length_cons, ih]
        simp [strayClosings, depthAfter]
        omega
      | cons o outer =>
        rw [faults_closing_cons (Token.kind_of_isClosing hc), ih]
        simp [strayClosings, depthAfter]
    | none ho hc hm hw =>
      rw [hm]
      rcases faults_of_no_part ho hc opened ts with ⟨-, h⟩ | ⟨-, h⟩
      · rw [h, aboutParentheses_unknownToken, ih]
        simp [strayClosings, depthAfter]
      · rw [h, ih]
        simp [strayClosings, depthAfter]

/-- A stream has no faults exactly if no token is unknown and none is diagnosed for its parentheses. -/
theorem faults_eq_nil_iff (opened ts : List Token) :
    faults opened ts = [] ↔ (∀ t ∈ ts, t.kind ≠ .unknown) ∧ aboutParentheses (faults opened ts) = [] := by
  induction ts generalizing opened with
  | nil =>
    rw [aboutParentheses_faults_nil]
    simp [faults]
  | cons t ts ih =>
    rw [List.forall_mem_cons]
    cases t.part with
    | opening ho hc hm hw =>
      have hk := Token.kind_of_isOpening ho
      rw [faults_opening hk, ih, hk]
      simp
    | closing ho hc hm hw =>
      have hk := Token.kind_of_isClosing hc
      cases opened with
      | nil =>
        rw [faults_closing_nil hk]
        simp
      | cons o outer =>
        rw [faults_closing_cons hk, ih, hk]
        simp
    | none ho hc hm hw =>
      rcases faults_of_no_part ho hc opened ts with ⟨hk, h⟩ | ⟨hk, h⟩
      · simp [h, hk]
      · rw [h, ih]
        simp [hk]

/-- The parentheses that are reported are those that the scan reports, in another order. -/
theorem parenthesisFaults_perm (ts : List Token) : (parenthesisFaults ts).Perm (aboutParentheses (faults [] ts)) := by
  have ht : (trailing ts).filter (fun d => decide (d.code = .unbalancedParenthesis)) = [] := by
    refine List.filter_eq_nil_iff.mpr fun d hd => ?_
    unfold trailing at hd
    split at hd
    · cases hd
    · split at hd
      · cases List.mem_singleton.mp hd
        exact nofun
      · cases hd
  have hp := (List.mergeSort_perm (faults [] ts ++ trailing ts) (fun a b => decide (a.position ≤ b.position))).filter
    fun d => decide (d.code = .unbalancedParenthesis)
  rwa [List.filter_append, ht, List.append_nil] at hp

/-- There are as many of them as are left over by counting. -/
theorem length_parenthesisFaults (ts : List Token) : (parenthesisFaults ts).length = unbalanced (marks ts) := by
  rw [(parenthesisFaults_perm ts).length_eq, length_aboutParentheses_faults]
  rfl

/-- No parentheses are reported if none are left over by counting. -/
theorem parenthesisFaults_eq_nil_iff (ts : List Token) : parenthesisFaults ts = [] ↔ unbalanced (marks ts) = 0 := by
  rw [← length_parenthesisFaults, List.length_eq_zero_iff]

/-! ## Deleting parentheses -/

/-- The tokens that are left when those without a partner are taken out: nothing in them closes nothing, and nothing stays
open, if as many parentheses are open before them as they close. -/
theorem balanced_matchedTokens (depth : Nat) (ts : List Token) :
    strayClosings (min depth (strayClosings 0 (marks ts))) (marks (matchedTokens depth ts)) = 0 ∧
      depthAfter (min depth (strayClosings 0 (marks ts))) (marks (matchedTokens depth ts)) = 0 := by
  induction ts generalizing depth with
  | nil => simp [matchedTokens, tokensAt]
  | cons t ts ih =>
    rw [matchedTokens_cons, loneAt_zero, marks_cons]
    cases t.part with
    | opening ho hc hm hw =>
      have ih := ih (depth + 1)
      rw [hm, strayClosings_opening, hc, ho]
      cases hs : strayClosings 0 (marks ts) with
      | zero =>
        rw [hs] at ih
        simpa [depthAfter] using ih
      | succ n =>
        rw [hs, Nat.add_min_add_right] at ih
        simpa [depthAfter, strayClosings, hm] using ih
    | closing ho hc hm hw =>
      rw [hm, hc, ho]
      cases depth with
      | zero => simpa [depthAfter] using ih 0
      | succ depth =>
        have hmin : min (depth + 1) (1 + strayClosings 0 (marks ts)) = min depth (strayClosings 0 (marks ts)) + 1 := by
          omega
        simpa [depthAfter, strayClosings, hm, hmin] using ih depth
    | none ho hc hm hw =>
      rw [hm, hc, ho]
      simpa [depthAfter, strayClosings, hm] using ih depth

/-- Taking out characters takes out no more parentheses without a partner than characters. The induction compares two
readings with different numbers of open parentheses: what one of them has more pays for as many closing ones. -/
theorem unbalanced_le_of_sublist {t u : Text} (h : t.Sublist u) (d e : Nat) :
    strayClosings d u + depthAfter d u + t.length ≤
      strayClosings e t + depthAfter e t + u.length + ((d - e) + (e - d)) := by
  induction h generalizing d e with
  | slnil =>
    simp only [strayClosings_nil, depthAfter_nil]
    omega
  | cons c h ih =>
    simp only [strayClosings, depthAfter, List.length_cons]
    by_cases ho : c = '('
    · have := ih (d + 1) e
      simp only [ho, if_true, Char.reduceEq, false_and, if_false]
      omega
    · by_cases hc : c = ')'
      · have := ih (d - 1) e
        cases d with
        | zero =>
          simp only [hc, if_true, Char.reduceEq, and_self, if_false]
          omega
        | succ d =>
          simp only [hc, if_true, Char.reduceEq, true_and, if_false, Nat.succ_ne_zero]
          omega
      · have := ih d e
        simp only [ho, hc, false_and, if_false]
        omega
  | cons_cons c h ih =>
    simp only [strayClosings, depthAfter, List.length_cons]
    by_cases ho : c = '('
    · have := ih (d + 1) (e + 1)
      simp only [ho, if_true, Char.reduceEq, false_and, if_false]
      omega
    · by_cases hc : c = ')'
      · have := ih (d - 1) (e - 1)
        simp only [hc, if_true, Char.reduceEq, true_and, if_false]
        split <;> split <;> omega
      · have := ih d e
        simp only [ho, hc, false_and, if_false]
        omega

/-- Taking out the tokens at some places takes out no more parentheses without a partner than there are places. -/
theorem unbalanced_le_add_card (places : Finset Nat) (ts : List Token) :
    unbalanced (marks ts) ≤ unbalanced (marks (tokensAt (· ∉ places) ts)) + places.card := by
  have hsub : (marks (tokensAt (· ∉ places) ts)).Sublist (marks ts) := (tokensAt_sublist ts).map _
  have hle := unbalanced_le_of_sublist hsub 0 0
  have hcard := length_le_length_tokensAt_add_card places ts
  rw [length_marks, length_marks] at hle
  unfold unbalanced
  omega

/-! ## Balanced streams -/

/-- The parentheses of a stream. -/
def parentheses (ts : List Token) : List DyckStep := ts.filterMap Token.step?

/-- The balance is the number of steps up less the number of steps down. -/
theorem balance_eq_count (ts : List Token) :
    balance ts = ((parentheses ts).count .U : Int) - (parentheses ts).count .D := by
  induction ts with
  | nil => rfl
  | cons t ts ih =>
    have hcons : parentheses (t :: ts) = t.step?.toList ++ parentheses ts := by
      rw [parentheses, List.filterMap_cons]
      cases t.step? <;> rfl
    rw [balance_cons, ih, hcons, Token.step?]
    cases t.part with
    | opening ho hc hm hw =>
      simp [ho, hw]
      omega
    | closing ho hc hm hw =>
      simp [ho, hc, hw]
      omega
    | none ho hc hm hw => simp [ho, hc, hw]

/-- Where every parenthesis has a partner, the balance is never negative, and it is zero at the end. -/
theorem unbalanced_marks_eq_zero_iff (ts : List Token) :
    unbalanced (marks ts) = 0 ↔ balance ts = 0 ∧ ∀ k ≤ ts.length, 0 ≤ balance (ts.take k) := by
  have hstray := strayClosings_marks_eq_zero_iff 0 ts
  have hdepth := depthAfter_marks 0 ts
  simp only [Int.natCast_zero, Int.zero_add] at hstray hdepth
  rw [← hstray, unbalanced]
  omega

/-- Every parenthesis has a partner exactly if the parentheses are a Dyck word. -/
theorem unbalanced_marks_eq_zero_iff_dyck (ts : List Token) :
    unbalanced (marks ts) = 0 ↔ ∃ w : DyckWord, w.toList = parentheses ts := by
  rw [unbalanced_marks_eq_zero_iff]
  constructor
  · intro ⟨hend, hprefix⟩
    rw [balance_eq_count] at hend
    refine ⟨⟨parentheses ts, by omega, fun i => ?_⟩, rfl⟩
    -- a prefix of the parentheses is what a prefix of the stream has of them
    obtain ⟨before, behind, hts, hbefore, -⟩ := List.filterMap_eq_append_iff.mp (List.take_append_drop i (parentheses ts)).symm
    have hk := hprefix before.length (by simp [hts])
    rw [hts, List.take_left, balance_eq_count, parentheses, hbefore] at hk
    omega
  · rintro ⟨w, hw⟩
    refine ⟨?_, fun k _ => ?_⟩
    · have := w.count_U_eq_count_D
      rw [hw] at this
      rw [balance_eq_count]
      omega
    · have hpre : parentheses (ts.take k) <+: parentheses ts := (List.take_prefix k ts).filterMap _
      have := w.count_D_le_count_U (parentheses (ts.take k)).length
      rw [hw, ← List.prefix_iff_eq_take.mp hpre] at this
      rw [balance_eq_count]
      omega

/-- The diagnosis of the last token. -/
theorem trailing_eq_nil_iff (ts : List Token) :
    trailing ts = [] ↔ ∀ t, ts.getLast? = some t → ∀ o, t.kind = .operator o → o = .function := by
  unfold trailing
  cases ts.getLast? with
  | none => simp
  | some t =>
    cases hk : t.kind with
    | operator o => simp [hk, Kind.isDangling]
    | punctuation p => simp [hk, Kind.isDangling]
    | operand o => simp [hk, Kind.isDangling]
    | unknown => simp [hk, Kind.isDangling]

/-- Nothing is found if neither pass finds anything. -/
theorem diagnose_eq_nil_iff (ts : List Token) : diagnose ts = [] ↔ faults [] ts = [] ∧ trailing ts = [] := by
  rw [diagnose, ← List.append_eq_nil_iff, ← List.length_eq_zero_iff, List.length_mergeSort, List.length_eq_zero_iff]

/-- The diagnoses of parentheses are exact and as few as can be. They are about the parentheses without a partner, told from the
balance; without these there are none, and no smaller set of tokens can be deleted to that effect. Nothing at all is diagnosed
exactly if every token is known, the parentheses are a Dyck word, and the stream does not end with an operator that asks for an
operand. -/
theorem parentheses_diagnosed_exactly (ts : List Token) :
    (parenthesisFaults ts).Perm ((tokensAt (LacksPartner ts) ts).map Token.partnerMissing) ∧
      parenthesisFaults (tokensAt (¬ LacksPartner ts ·) ts) = [] ∧
      (∀ places : Finset Nat, parenthesisFaults (tokensAt (· ∉ places) ts) = [] →
        (tokensAt (LacksPartner ts) ts).length ≤ places.card) ∧
      (diagnose ts = [] ↔ (∀ t ∈ ts, t.kind ≠ .unknown) ∧ (∃ w : DyckWord, w.toList = parentheses ts) ∧
        ∀ t, ts.getLast? = some t → ∀ o, t.kind = .operator o → o = .function) := by
  have hlone : tokensAt (LacksPartner ts) ts = loneTokens 0 ts := tokensAt_congr (lacksPartner_iff ts) ts
  have hmatched : tokensAt (¬ LacksPartner ts ·) ts = matchedTokens 0 ts :=
    tokensAt_congr (fun i => not_congr (lacksPartner_iff ts i)) ts
  have hperm : (parenthesisFaults ts).Perm ((loneTokens 0 ts).map Token.partnerMissing) := by
    have := (parenthesisFaults_perm ts).trans (aboutParentheses_faults_perm [] ts)
    rwa [List.drop_nil] at this
  rw [hlone, hmatched]
  refine ⟨hperm, ?_, fun places hnone => ?_, ?_⟩
  · have ⟨hstray, hdepth⟩ := balanced_matchedTokens 0 ts
    rw [Nat.zero_min] at hstray hdepth
    rw [parenthesisFaults_eq_nil_iff, unbalanced, hstray, hdepth]
  · rw [parenthesisFaults_eq_nil_iff] at hnone
    have hle := unbalanced_le_add_card places ts
    rw [hnone, Nat.zero_add, ← length_parenthesisFaults, hperm.length_eq, List.length_map] at hle
    exact hle
  · rw [diagnose_eq_nil_iff, faults_eq_nil_iff, trailing_eq_nil_iff, ← unbalanced_marks_eq_zero_iff_dyck,
      ← parenthesisFaults_eq_nil_iff, and_assoc]
    have hsame : aboutParentheses (faults [] ts) = [] ↔ parenthesisFaults ts = [] := by
      rw [← List.length_eq_zero_iff, ← (parenthesisFaults_perm ts).length_eq, List.length_eq_zero_iff]
    rw [hsame]

/-- Two parentheses of which neither has a partner. -/
def backToBack : List Token :=
  [⟨.punctuation .rightParenthesis, [')'], 0⟩, ⟨.punctuation .leftParenthesis, ['('], 1⟩]

/-- Back to back both parentheses have to be deleted. -/
theorem parentheses_diagnosed_exactly_back_to_back :
    parenthesisFaults (tokensAt (· ∉ ({0, 1} : Finset Nat)) backToBack) = [] ∧
      (tokensAt (LacksPartner backToBack) backToBack).length = 2 ∧
      (tokensAt (LacksPartner backToBack) backToBack).length ≤ ({0, 1} : Finset Nat).card := by
  have hnone : parenthesisFaults (tokensAt (· ∉ ({0, 1} : Finset Nat)) backToBack) = [] := by
    rw [parenthesisFaults_eq_nil_iff]
    decide
  exact ⟨hnone, by decide, (parentheses_diagnosed_exactly backToBack).2.2.1 _ hnone⟩

end ExprLex
