import ExprLex.Document
import ExprLex.Proofs.Faults

/-!
# Mending a line

Each fault of a line has a patch: what is unknown is taken out, a parenthesis that closes nothing is taken out, and one that
is never closed is closed behind the last character that is not blank. A line that is patched is cut into other pieces than
before, and it may become blank or a comment; but it always has fewer faults.
-/

namespace ExprLex

/-- What is wrong with a line under the default pattern and the default rules, advice left out. -/
def lineFaults (t : Text) : List Diagnostic :=
  if isExpressionLine t then reported false (diagnose (Rules.tokenize {} (Pattern.default.fragments t))) else []

/-! ## The number of faults of a line -/

/-- No fault is advice. -/
theorem isAdvisory_of_mem_faults {opened tokens : List Token} {d : Diagnostic} (h : d ∈ faults opened tokens) :
    d.code.isAdvisory = false := by
  fun_induction faults opened tokens with
  | case1 opened =>
    obtain ⟨o, -, rfl⟩ := List.mem_map.mp h
    rfl
  | case2 opened t rest hk ih =>
    rcases List.mem_cons.mp h with rfl | h
    · rfl
    · exact ih h
  | case3 opened t rest hk ih => exact ih h
  | case4 t rest hk ih =>
    rcases List.mem_cons.mp h with rfl | h
    · rfl
    · exact ih h
  | case5 t rest hk o outer ih => exact ih h
  | case6 opened t rest _ _ _ _ ih => exact ih h

/-- An operator at the end is advice. -/
theorem isAdvisory_of_mem_trailing {tokens : List Token} {d : Diagnostic} (h : d ∈ trailing tokens) :
    d.code.isAdvisory = true := by
  unfold trailing at h
  split at h
  · cases h
  · split at h
    · cases List.mem_singleton.mp h
      rfl
    · cases h

/-- Without advice the faults are left, in another order. -/
theorem reported_diagnose_perm (tokens : List Token) : (reported false (diagnose tokens)).Perm (faults [] tokens) := by
  have hf : (faults [] tokens).filter (fun d => false || !d.code.isAdvisory) = faults [] tokens := by
    rw [List.filter_eq_self]
    intro d hd
    simp [isAdvisory_of_mem_faults hd]
  have ht : (trailing tokens).filter (fun d => false || !d.code.isAdvisory) = [] := by
    rw [List.filter_eq_nil_iff]
    intro d hd
    simp [isAdvisory_of_mem_trailing hd]
  have hp := (List.mergeSort_perm (faults [] tokens ++ trailing tokens)
    (fun a b => decide (a.position ≤ b.position))).filter fun d => false || !d.code.isAdvisory
  rw [List.filter_append, hf, ht, List.append_nil] at hp
  exact hp

/-- The tokens of a line are those of its pieces. -/
theorem tokenize_fragments_default (t : Text) :
    Rules.tokenize {} (Pattern.default.fragments t) = tokensOf 0 none (pieces t) := by
  rw [Pattern.fragments_default]
  rfl

/-- There is a fault for every loose piece and for every parenthesis that is left over. -/
theorem length_reported_diagnose (t : Text) :
    (reported false (diagnose (Rules.tokenize {} (Pattern.default.fragments t)))).length =
      looseCount (pieces t) + unbalanced t := by
  rw [(reported_diagnose_perm _).length_eq, tokenize_fragments_default, length_faults (proper_of_mem_pieces t),
    textOf_pieces]
  rfl

/-- A line that holds an expression has one fault for each loose piece and for each parenthesis without a partner. -/
theorem length_lineFaults {t : Text} (h : isExpressionLine t = true) :
    (lineFaults t).length = looseCount (pieces t) + unbalanced t := by
  rw [lineFaults, if_pos h, length_reported_diagnose]

/-- No line has more faults than that. -/
theorem length_lineFaults_le (t : Text) : (lineFaults t).length ≤ looseCount (pieces t) + unbalanced t := by
  unfold lineFaults
  split
  · exact Nat.le_of_eq (length_reported_diagnose t)
  · exact Nat.zero_le _

/-- A fault of a line points at one of its pieces. -/
theorem points_of_mem_lineFaults {t : Text} {d : Diagnostic} (h : d ∈ lineFaults t) :
    isExpressionLine t = true ∧ Points t d := by
  unfold lineFaults at h
  split at h
  · rename_i he
    refine ⟨he, ?_⟩
    rw [(reported_diagnose_perm _).mem_iff, tokenize_fragments_default] at h
    have ht : pieces t = [] ++ pieces t := rfl
    exact points_of_mem_faults ht (by simp [Opened]) rfl rfl h
  · cases h

/-! ## Faults and the length of a line -/

/-- A line has no more faults than characters: each character is part of one fault at most. -/
theorem looseCount_add_unbalanced_le {ps : List Piece} (h : ∀ p ∈ ps, p.Proper) (depth : Nat) :
    looseCount ps + (strayClosings depth (textOf ps) + depthAfter depth (textOf ps)) ≤ depth + (textOf ps).length := by
  induction ps generalizing depth with
  | nil => simp
  | cons p ps ih =>
    have ih := fun depth => ih (fun q hq => h q (List.mem_cons_of_mem _ hq)) depth
    rw [looseCount_cons, textOf_cons, strayClosings_append, depthAfter_append, List.length_append]
    cases (h p List.mem_cons_self).role with
    | quiet hs hp hq =>
      have := ih depth
      rw [if_neg hs, strayClosings_of_noParens hp, depthAfter_of_noParens hp]
      omega
    | @unknown run hp hb hk =>
      have := ih depth
      have hlen : 0 < run.length := by
        cases run with
        | nil => cases hb
        | cons c run => exact Nat.zero_lt_succ _
      rw [if_pos rfl, strayClosings_of_noParens hp, depthAfter_of_noParens hp]
      show _ ≤ depth + (run.length + _)
      omega
    | opening =>
      have := ih (depth + 1)
      simp [strayClosings, depthAfter]
      omega
    | closing =>
      have := ih (depth - 1)
      simp [strayClosings, depthAfter]
      split <;> omega

/-- No line has more faults than characters. -/
theorem length_lineFaults_le_length (t : Text) : (lineFaults t).length ≤ t.length := by
  have h := looseCount_add_unbalanced_le (proper_of_mem_pieces t) 0
  rw [textOf_pieces, Nat.zero_add] at h
  exact Nat.le_trans (length_lineFaults_le t) h

/-! ## Patches -/

/-- A replacement in a line, its place in code points. -/
structure Patch where
  start : Nat
  stop : Nat
  text : String

/-- The line with the replacement made. -/
def Patch.apply (p : Patch) (t : Text) : Text := t.take p.start ++ p.text.toList ++ t.drop p.stop

/-- The patch of a fault: an opening parenthesis is closed at the end of the line, and all else is taken out. -/
def patchFor (t : Text) (d : Diagnostic) : Patch :=
  if d.code = .unbalancedParenthesis ∧ t[d.position.toNat]? = some '(' then
    ⟨(Text.trimRight t).length, (Text.trimRight t).length, ")"⟩
  else ⟨d.position.toNat, (d.position + d.length).toNat, ""⟩

/-- A text is what is left of it without the whitespace at its end, and that whitespace. -/
theorem trimRight_append (t : Text) :
    ∃ blank, t = Text.trimRight t ++ blank ∧ ∀ c ∈ blank, isWhitespace c = true := by
  refine ⟨(t.reverse.takeWhile isWhitespace).reverse, ?_, ?_⟩
  · rw [Text.trimRight, ← List.reverse_append, List.takeWhile_append_dropWhile, List.reverse_reverse]
  · intro c hc
    exact of_mem_takeWhile (List.mem_reverse.mp hc)

theorem noParens_of_blank {t : Text} (h : ∀ c ∈ t, isWhitespace c = true) : NoParens t :=
  noParens_of_forall (by decide) (by decide) h

/-- A piece of a line in its place. -/
theorem textOf_split {t : Text} {before after : List Piece} {p : Piece} (h : pieces t = before ++ p :: after) :
    t = textOf before ++ (p.text ++ textOf after) := by
  rw [← textOf_pieces t, h, textOf_append, textOf_cons]

/-- What is left of a line where a piece is taken out. -/
theorem remove_apply {t : Text} {before after : List Piece} {p : Piece} (h : pieces t = before ++ p :: after)
    {d : Diagnostic} (hd : d.At before p) :
    Patch.apply ⟨d.position.toNat, (d.position + d.length).toNat, ""⟩ t = textOf before ++ textOf after := by
  have h1 : d.position.toNat = (textOf before).length := by rw [hd.1, Int.toNat_natCast]
  have h2 : (d.position + d.length).toNat = (textOf before ++ p.text).length := by
    rw [hd.1, hd.2, List.length_append]
    omega
  rw [Patch.apply, h1, h2, textOf_split h, List.take_left, ← List.append_assoc, List.drop_left]
  simp

/-- The character that a piece starts with, at its place in the line. -/
theorem getElem?_of_at {t : Text} {before after : List Piece} {p : Piece} (h : pieces t = before ++ p :: after)
    {d : Diagnostic} (hd : d.At before p) : t[d.position.toNat]? = (p.text ++ textOf after)[0]? := by
  rw [hd.1, Int.toNat_natCast, textOf_split h, List.getElem?_append_right (Nat.le_refl _), Nat.sub_self]

/-- The patches, fault by fault. -/
theorem patchFor_cases {t : Text} {d : Diagnostic} (h : Points t d) :
    (∃ before p after, pieces t = before ++ p :: after ∧ d.At before p ∧
      (p.shape = .loose ∨ p = ⟨.symbol, [')']⟩ ∧ depthAfter 0 (textOf before) = 0) ∧
      patchFor t d = ⟨d.position.toNat, (d.position + d.length).toNat, ""⟩) ∨
    (0 < depthAfter 0 t ∧ patchFor t d = ⟨(Text.trimRight t).length, (Text.trimRight t).length, ")"⟩) := by
  cases h with
  | unknown ht hd hc =>
    refine Or.inl ⟨_, _, _, ht, hd, Or.inl rfl, ?_⟩
    rw [patchFor, if_neg]
    simp [hc]
  | stray ht hd hc h0 =>
    refine Or.inl ⟨_, _, _, ht, hd, Or.inr ⟨rfl, h0⟩, ?_⟩
    rw [patchFor, if_neg]
    simp [getElem?_of_at ht hd]
  | unclosed ht hd hc h0 =>
    refine Or.inr ⟨h0, ?_⟩
    rw [patchFor, if_pos ⟨hc, by simp [getElem?_of_at ht hd]⟩]

/-- The patch of a fault leaves the line with fewer faults. -/
theorem length_lineFaults_patchFor_lt {t : Text} {d : Diagnostic} (h : d ∈ lineFaults t) :
    (lineFaults ((patchFor t d).apply t)).length < (lineFaults t).length := by
  obtain ⟨he, hpoints⟩ := points_of_mem_lineFaults h
  refine Nat.lt_of_le_of_lt (length_lineFaults_le _) ?_
  rw [length_lineFaults he]
  rcases patchFor_cases hpoints with ⟨before, p, after, ht, hd, hp, hpatch⟩ | ⟨h0, hpatch⟩
  -- a run that is taken out was a fault of its own, and a stray parenthesis had no partner
  · have hcount := looseCount_remove ht
    have hsplit := textOf_split ht
    rw [hpatch, remove_apply ht hd]
    rcases hp with hs | ⟨rfl, h0⟩
    · have hn : NoParens p.text := by
        have hproper : p.Proper := proper_of_mem_pieces t p (by simp [ht])
        cases hproper.role with
        | quiet hs' _ _ => exact absurd hs hs'
        | unknown hn _ _ => exact hn
        | opening => cases hs
        | closing => cases hs
      have hbalance := unbalanced_remove_noParens (textOf before) hn (textOf after)
      rw [← hsplit] at hbalance
      rw [if_pos hs] at hcount
      omega
    · have hbalance := unbalanced_remove_stray h0 (textOf after)
      rw [show textOf before ++ ')' :: textOf after = t from hsplit.symm] at hbalance
      omega
  -- the parenthesis goes in before the whitespace at the end, where as many are open as at the end
  · obtain ⟨blank, hblank, hwhite⟩ := trimRight_append t
    have happly : (patchFor t d).apply t = Text.trimRight t ++ ')' :: blank := by
      rw [hpatch, Patch.apply]
      generalize Text.trimRight t = u at hblank
      subst hblank
      simp
    have hdepth : 0 < depthAfter 0 (Text.trimRight t) := by
      rw [hblank, depthAfter_append, depthAfter_of_noParens (noParens_of_blank hwhite)] at h0
      exact h0
    have hbalance := unbalanced_insert hdepth (noParens_of_blank hwhite)
    have hcount : looseCount (pieces (Text.trimRight t ++ ')' :: blank)) = looseCount (pieces t) := by
      rw [← (looseRuns_eq _).1, ← (looseRuns_eq t).1, looseRuns_insert (by decide) hwhite, ← hblank]
    rw [← hblank] at hbalance
    rw [happly, hcount]
    omega

end ExprLex
