import ExprLex.Client.Action
import ExprLex.Proofs.Matching
import ExprLex.Token.Stream

/-!
# Lexemes and tokens cover the expression

A pattern that is one capturing group around an expression loses nothing: what its matches take comes back as the text of the
group, what lies between them as pieces. So the fragments are the expression, laid end to end, and the two running offsets
(of the lexemes and of the tokens) are the places where the fragments stand.
-/

namespace ExprLex

/-! ## One group around an expression -/

/-- A pattern that is one capturing group around an expression without capturing groups of its own: the group around it is
the only one. -/
def Pattern.IsEnclosed (p : Pattern) : Prop := p.groups = 1 ∧ ∃ body, p.regex = .group 1 body

theorem Pattern.isEnclosed_default : Pattern.default.IsEnclosed := ⟨rfl, _, rfl⟩

/-- The texts of a cut, one after another. -/
def joined (pieces : List (Option Text)) : Text := pieces.flatMap fun piece => piece.getD []

@[simp] theorem joined_nil : joined [] = [] := rfl

@[simp] theorem joined_cons (piece : Option Text) (later : List (Option Text)) :
    joined (piece :: later) = piece.getD [] ++ joined later := by
  simp [joined]

/-- The pieces of two lists are joined one after the other. -/
@[simp] theorem joined_append (a b : List (Option Text)) : joined (a ++ b) = joined a ++ joined b := by
  simp [joined]

namespace Regex

/-- A group around an expression has taken what lies between the start and the end of its match, whatever else was asked
of the end. -/
theorem group_matched {index : Nat} {body : Regex} {s found : Spot} {k : Spot → Option Spot}
    (hk : ∀ next, k next = some found → next = found) (h : (Regex.group index body).matcher s k = some found) :
    s.position ≤ found.position ∧ found.captured index = some (s.rest.take (found.position - s.position)) := by
  obtain ⟨next, hn, hf⟩ := body.matcher_sound s _ found h
  have hle := hn.rest_eq.2.1
  have e := hk _ hf
  subst e
  refine ⟨hle, ?_⟩
  simp [Spot.captured, Spot.capture]

/-- A group around the whole match takes what was matched. -/
theorem group_matchAt {body : Regex} {s found : Spot} (h : (Regex.group 1 body).matchAt s = some found) :
    s.position ≤ found.position ∧ found.groupTexts 1 = [some (s.rest.take (found.position - s.position))] := by
  obtain ⟨hle, hc⟩ := group_matched (fun next hn => Option.some.inj hn) h
  exact ⟨hle, by simp [Spot.groupTexts, hc]⟩

/-- A match that has to take a character takes one. -/
theorem group_advanceAt {body : Regex} {s found : Spot} (h : (Regex.group 1 body).advanceAt s = some found) :
    s.position < found.position ∧ found.groupTexts 1 = [some (s.rest.take (found.position - s.position))] := by
  have hk : ∀ next : Spot, (if next.position = s.position then none else some next) = some found →
      next = found ∧ found.position ≠ s.position := by
    intro next hn
    split at hn
    · cases hn
    · cases hn
      exact ⟨rfl, ‹_›⟩
  obtain ⟨hle, hc⟩ := group_matched (fun next hn => (hk next hn).1) h
  obtain ⟨next, -, hn⟩ := body.matcher_sound s _ found h
  have hne := (hk _ hn).2
  exact ⟨by omega, by simp [Spot.groupTexts, hc]⟩

/-- What a match takes and the text behind it make up the text. -/
theorem take_append_drop_pred {c : Char} {rest : Text} {n : Nat} (hn : 0 < n) :
    (c :: rest).take n ++ rest.drop (n - 1) = c :: rest := by
  obtain ⟨m, rfl⟩ : ∃ m, n = m + 1 := ⟨n - 1, by omega⟩
  simp

/-- The texts of a cut by one group make up the text that is cut. The induction follows the search for the matches. -/
theorem cutFrom_group (body : Regex) (skip : Nat) (passed : Text) (position : Nat) (t : Text) :
    ((Regex.group 1 body).cutFrom 1 skip passed position t).1 ++
      joined ((Regex.group 1 body).cutFrom 1 skip passed position t).2 = t.drop skip := by
  induction t generalizing skip passed position with
  | nil =>
    simp only [cutFrom]
    split
    · simp
    · rename_i found hm
      simp [(group_matchAt hm).2]
  | cons c rest ih =>
    cases skip with
    | succ skip => exact ih skip _ _
    | zero =>
      have ih0 := ih 0 (c :: passed) (position + 1)
      simp only [cutFrom, List.drop_zero]
      split
      · simpa using ih0
      · rename_i found hm
        obtain ⟨hle, hg⟩ := group_matchAt hm
        split
        · rename_i hpos
          -- an empty match adds nothing, and the search goes on as after none
          have hg' : found.groupTexts 1 = [some []] := by simpa [hpos] using hg
          split
          · simpa [hg'] using ih0
          · rename_i second ha
            obtain ⟨hlt, hs⟩ := group_advanceAt ha
            simp only at hlt
            have ih' := ih (second.position - position - 1) (c :: passed) (position + 1)
            simp only [hg', hs, joined_append, joined_cons, joined_nil, Option.getD_some, List.nil_append,
              List.append_nil]
            rw [ih']
            exact take_append_drop_pred (by omega)
        · rename_i hpos
          simp only at hle
          have ih' := ih (found.position - position - 1) (c :: passed) (position + 1)
          simp only [hg, joined_append, joined_cons, joined_nil, Option.getD_some, List.nil_append, List.append_nil]
          rw [ih']
          exact take_append_drop_pred (by omega)

end Regex

namespace Pattern

/-- No fragment is empty. -/
theorem ne_nil_of_mem_fragments {p : Pattern} {t f : Text} (h : f ∈ p.fragments t) : f ≠ [] := by
  simp only [fragments, List.mem_filterMap, Option.filter_eq_some_iff] at h
  obtain ⟨piece, -, -, hf⟩ := h
  simpa using hf

/-- The fragments are the texts of the cut: those that are left out are empty. -/
theorem flatten_fragments (p : Pattern) (t : Text) : (p.fragments t).flatten = joined (p.regex.cut p.groups t) := by
  unfold fragments
  induction p.regex.cut p.groups t with
  | nil => rfl
  | cons piece later ih =>
    match piece with
    | none => simpa using ih
    | some [] => simpa using ih
    | some (c :: piece) =>
      have hf : (some (c :: piece)).filter (fun t : Text => !t.isEmpty) = some (c :: piece) := by simp
      rw [List.filterMap_cons_some hf, List.flatten_cons, ih, joined_cons, Option.getD_some]

/-- The fragments that one group around an expression gives make up the text. -/
theorem IsEnclosed.flatten_fragments {p : Pattern} (hp : p.IsEnclosed) (t : Text) : (p.fragments t).flatten = t := by
  obtain ⟨hg, body, hr⟩ := hp
  rw [Pattern.flatten_fragments, hg, hr, Regex.cut]
  simpa using Regex.cutFrom_group body 0 [] 0 t

end Pattern

/-! ## Texts laid end to end -/

namespace Lexeme

/-- The part of a text that starts where another text ends. -/
theorem slice_eq_take_drop (t : Text) (start stop : Nat) : Client.slice t start stop = (t.drop start).take (stop - start) := by
  rw [Client.slice, List.drop_take]

/-- Each lexeme is what stands at its place in the text that they make up from an offset on. -/
theorem slice_of_mem_layOut {t : Text} {offset : Nat} {ts : List Text} {l : Lexeme} (ht : t.drop offset = ts.flatten)
    (h : l ∈ layOut offset ts) : Client.slice t l.offset l.stop = l.text := by
  induction ts generalizing offset with
  | nil => simp [layOut] at h
  | cons x rest ih =>
    rw [List.flatten_cons] at ht
    rcases List.mem_cons.mp h with rfl | h
    · rw [slice_eq_take_drop, ht, stop, Nat.add_sub_cancel_left, List.take_left]
    · refine ih ?_ h
      rw [← List.drop_drop, ht, List.drop_left]

/-- No lexeme lies before the offset where the layout begins. -/
theorem offset_le_of_mem_layOut {offset : Nat} {ts : List Text} {l : Lexeme} (h : l ∈ layOut offset ts) :
    offset ≤ l.offset := by
  induction ts generalizing offset with
  | nil => simp [layOut] at h
  | cons x rest ih =>
    rcases List.mem_cons.mp h with rfl | h
    · exact Nat.le_refl _
    · exact Nat.le_trans (Nat.le_add_right _ _) (ih h)

/-- Each lexeme ends before the later ones start. -/
theorem layOut_pairwise (offset : Nat) (ts : List Text) : (layOut offset ts).Pairwise fun a b => a.stop ≤ b.offset := by
  induction ts generalizing offset with
  | nil => exact List.Pairwise.nil
  | cons x rest ih => exact List.Pairwise.cons (fun b hb => offset_le_of_mem_layOut hb) (ih _)

/-- The lexemes leave no gap. -/
theorem exists_mem_layOut {offset i : Nat} {ts : List Text} (h₁ : offset ≤ i) (h₂ : i < offset + ts.flatten.length) :
    ∃ l ∈ layOut offset ts, l.offset ≤ i ∧ i < l.stop := by
  induction ts generalizing offset with
  | nil => simp at h₂; omega
  | cons x rest ih =>
    rw [List.flatten_cons, List.length_append] at h₂
    by_cases hi : i < offset + x.length
    · exact ⟨⟨x, offset⟩, List.mem_cons_self, h₁, hi⟩
    · obtain ⟨l, hl, hle, hlt⟩ := @ih (offset + x.length) (by omega) (by omega)
      exact ⟨l, List.mem_cons_of_mem _ hl, hle, hlt⟩

/-- The texts of the lexemes are those that were laid out. -/
theorem map_text_layOut (offset : Nat) (ts : List Text) : (layOut offset ts).map (·.text) = ts := by
  induction ts generalizing offset with
  | nil => rfl
  | cons x rest ih => simp [layOut, ih]

end Lexeme

/-! ## Tokens stand where their lexemes stand -/

namespace Rules

/-- The tokens are the lexemes that are not blank, each at its offset: positions and offsets are counted alike. -/
theorem tokensFrom_places (rules : Rules) (position : Nat) (previous : Option Token) (lexemes : List Text) :
    (rules.tokensFrom position previous lexemes).map (fun t => (t.lexeme, t.position)) =
      ((Lexeme.layOut position lexemes).filter fun l => !Text.isBlank l.text).map fun l => (l.text, (l.offset : Int)) := by
  induction lexemes generalizing position previous with
  | nil => rfl
  | cons x rest ih =>
    by_cases hx : Text.isBlank x = true
    · simp [tokensFrom, Lexeme.layOut, hx, ih]
    · simp [tokensFrom, Lexeme.layOut, hx, ih, classify]

/-- The lexeme that a token was made of. -/
theorem exists_lexeme_of_mem_tokenize {rules : Rules} {lexemes : List Text} {t : Token} (h : t ∈ rules.tokenize lexemes) :
    ∃ l ∈ Lexeme.layOut 0 lexemes, Text.isBlank l.text = false ∧ t.lexeme = l.text ∧ t.position = l.offset := by
  have hm := List.mem_map_of_mem (f := fun t : Token => (t.lexeme, t.position)) h
  rw [tokenize, tokensFrom_places, List.mem_map] at hm
  obtain ⟨l, hl, he⟩ := hm
  simp only [List.mem_filter, Bool.not_eq_true', Prod.mk.injEq] at hl he
  exact ⟨l, hl.1, hl.2, he.1.symm, he.2.symm⟩

/-- The token that is made of a lexeme. -/
theorem exists_token_of_mem_layOut {lexemes : List Text} {l : Lexeme} (rules : Rules) (h : l ∈ Lexeme.layOut 0 lexemes)
    (hb : Text.isBlank l.text = false) : ∃ t ∈ rules.tokenize lexemes, t.lexeme = l.text ∧ t.position = l.offset := by
  have hm : (l.text, (l.offset : Int)) ∈ (rules.tokenize lexemes).map (fun t => (t.lexeme, t.position)) := by
    rw [tokenize, tokensFrom_places, List.mem_map]
    exact ⟨l, List.mem_filter.mpr ⟨h, by simp [hb]⟩, rfl⟩
  obtain ⟨t, ht, he⟩ := List.mem_map.mp hm
  simp only [Prod.mk.injEq] at he
  exact ⟨t, ht, he⟩

/-- Each token ends before the later ones start. -/
theorem tokenize_pairwise (rules : Rules) (lexemes : List Text) :
    (rules.tokenize lexemes).Pairwise fun a b => a.stop ≤ b.position := by
  have hp : ((rules.tokenize lexemes).map fun t => (t.lexeme, t.position)).Pairwise
      fun a b => a.2 + (a.1.length : Int) ≤ b.2 := by
    rw [tokenize, tokensFrom_places, List.pairwise_map]
    refine ((Lexeme.layOut_pairwise 0 lexemes).filter _).imp ?_
    intro a b hab
    simp only [Lexeme.stop] at hab ⊢
    omega
  exact List.pairwise_map.mp hp

end Rules

/-! ## The cover -/

/-- How the fragments, the lexemes and the tokens of an expression lie in it. -/
structure Covers (s : Text) (fragments : List Text) (lexemes : List Lexeme) (tokens : List Token) : Prop where
  fragments_ne_nil : ∀ f ∈ fragments, f ≠ []
  fragments_join : fragments.flatten = s
  lexemes_text : lexemes.map (·.text) = fragments
  lexemes_slice : ∀ l ∈ lexemes, Client.slice s l.offset l.stop = l.text
  tokens_slice : ∀ t ∈ tokens, 0 ≤ t.position ∧ Client.slice s t.position.toNat t.stop.toNat = t.lexeme
  /-- each token ends before the later ones start -/
  tokens_apart : tokens.Pairwise fun a b => a.stop ≤ b.position
  tokens_ascend : tokens.Pairwise fun a b => a.position < b.position
  /-- what no token covers is whitespace -/
  gaps_blank : ∀ (i : Nat) c, s[i]? = some c → (∀ t ∈ tokens, t.covers i = false) → isWhitespace c = true

/-- Non-empty fragments that make up an expression cover it, and so do the lexemes and the tokens that are made of them. -/
theorem covers_of_flatten {s : Text} {fragments : List Text} (hne : ∀ f ∈ fragments, f ≠ [])
    (hs : fragments.flatten = s) (rules : Rules) :
    Covers s fragments (Lexeme.layOut 0 fragments) (rules.tokenize fragments) := by
  have hdrop : s.drop 0 = fragments.flatten := by rw [List.drop_zero, hs]
  refine ⟨hne, hs, Lexeme.map_text_layOut 0 fragments, fun l hl => Lexeme.slice_of_mem_layOut hdrop hl, ?_,
    rules.tokenize_pairwise fragments, ?_, ?_⟩
  · intro t ht
    obtain ⟨l, hl, -, htext, hpos⟩ := Rules.exists_lexeme_of_mem_tokenize ht
    have hstop : t.stop = l.stop := by simp [Token.stop, Lexeme.stop, htext, hpos]
    refine ⟨by omega, ?_⟩
    rw [hstop, hpos, htext, Int.toNat_natCast, Int.toNat_natCast]
    exact Lexeme.slice_of_mem_layOut hdrop hl
  · refine (rules.tokenize_pairwise fragments).imp_of_mem ?_
    intro a b ha _ hab
    obtain ⟨l, hl, -, htext, -⟩ := Rules.exists_lexeme_of_mem_tokenize ha
    have hmem : l.text ∈ fragments := Lexeme.map_text_layOut 0 fragments ▸ List.mem_map_of_mem hl
    have hpos := List.length_pos_iff.mpr (hne _ hmem)
    simp only [Token.stop, htext] at hab
    omega
  · intro i c hi hgap
    obtain ⟨hlt, -⟩ := List.getElem?_eq_some_iff.mp hi
    have hi' : i < 0 + fragments.flatten.length := by rw [hs]; omega
    obtain ⟨l, hl, hle, hstop⟩ := Lexeme.exists_mem_layOut (Nat.zero_le i) hi'
    cases hb : Text.isBlank l.text with
    | true =>
      have hc : l.text[i - l.offset]? = some c := by
        rw [← Lexeme.slice_of_mem_layOut hdrop hl, Lexeme.slice_eq_take_drop, List.getElem?_take_of_lt (by omega),
          List.getElem?_drop, Nat.add_sub_cancel' hle, hi]
      exact List.all_eq_true.mp hb c (List.mem_of_getElem? hc)
    | false =>
      obtain ⟨t, ht, htext, hpos⟩ := rules.exists_token_of_mem_layOut hl hb
      have hcov := hgap t ht
      simp only [Token.covers, Token.stop, htext, hpos, Lexeme.stop, Bool.and_eq_false_iff, decide_eq_false_iff_not]
        at hcov hstop
      omega

/-- Exact cover: under a pattern that is one group around an expression, whatever the rules are, a non-empty expression has
fragments, lexemes and tokens, and they cover it. -/
theorem exact_cover (s : Text) (hs : s ≠ []) (delimiter : Delimiter) (p : Pattern) (hd : delimiter.pattern? = .ok p)
    (hp : p.IsEnclosed) (rules : Rules) :
    ∃ fragments lexemes tokens, splitExpression (some s) delimiter = .ok fragments ∧
      splitLexemes (some s) delimiter = .ok lexemes ∧ lexExpression (some s) delimiter rules = .ok tokens ∧
      Covers s fragments lexemes tokens := by
  have hsplit : splitExpression (some s) delimiter = .ok (p.fragments s) := by
    cases s with
    | nil => exact absurd rfl hs
    | cons c t =>
      rw [splitExpression, hd]
      · rfl
      · exact List.cons_ne_nil c t
  refine ⟨p.fragments s, _, _, hsplit, ?_, ?_,
    covers_of_flatten (fun f hf => Pattern.ne_nil_of_mem_fragments hf) (hp.flatten_fragments s) rules⟩
  · rw [splitLexemes, hsplit]
    rfl
  · rw [lexExpression, hsplit]
    rfl

/-- A pattern of a user with a lazy repetition, an empty alternative and a lookahead, on an expression that it matches in
empty places too. -/
theorem exact_cover_lazy_pattern :
    ∃ fragments lexemes tokens,
      splitExpression (some "aab xbc".toList) (.source .plain "(a*?b|x?(?=c)|)".toList) = .ok fragments ∧
      splitLexemes (some "aab xbc".toList) (.source .plain "(a*?b|x?(?=c)|)".toList) = .ok lexemes ∧
      lexExpression (some "aab xbc".toList) (.source .plain "(a*?b|x?(?=c)|)".toList) {} = .ok tokens ∧
      Covers "aab xbc".toList fragments lexemes tokens :=
  exact_cover _ (by decide) _ _ rfl ⟨rfl, _, rfl⟩ {}

end ExprLex
