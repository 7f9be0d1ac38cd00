import ExprLex.Pattern.Match

/-!
# What a match takes

A matcher is given what is to match after it, and whatever that is, it may only hand it a spot that is related to where it
started (`Matcher.Moves`). What single characters, runs, sequences, alternatives and repetitions need for this is a relation
that allows for staying, for going on and for taking a character (`Spot.Passage`); groups and lookarounds ask for more.

One such relation is that a spot lies ahead in the same text. Every regular expression has a matcher that is sound for it
(`Regex.matcher_sound`), lookarounds and references included: they look elsewhere and go on from where they were. So a match
takes a piece of the text that starts where the match starts, and one group around an expression takes exactly that piece.
-/

namespace ExprLex

namespace Spot

/-- The spot behind some characters, given the text behind them. -/
def past (s : Spot) (taken rest : Text) : Spot :=
  { s with passed := taken.reverse ++ s.passed, rest := rest, position := s.position + taken.length }

/-- A spot lies ahead of another one in the same text; what the groups have taken by then is left open. -/
def Ahead (s next : Spot) : Prop :=
  ∃ taken, s.rest = taken ++ next.rest ∧ next.passed = taken.reverse ++ s.passed ∧
    next.position = s.position + taken.length

namespace Ahead

theorem refl (s : Spot) : s.Ahead s := ⟨[], rfl, rfl, rfl⟩

theorem trans {a b c : Spot} (h : a.Ahead b) (h' : b.Ahead c) : a.Ahead c := by
  obtain ⟨t, h1, h2, h3⟩ := h
  obtain ⟨u, h1', h2', h3'⟩ := h'
  refine ⟨t ++ u, ?_, ?_, ?_⟩
  · rw [h1, h1', List.append_assoc]
  · rw [h2', h2, List.reverse_append, List.append_assoc]
  · rw [h3', h3, List.length_append, Nat.add_assoc]

/-- What the groups have taken plays no part. -/
theorem captures (s : Spot) (taken : List (Nat × Text)) : s.Ahead { s with captures := taken } := ⟨[], rfl, rfl, rfl⟩

theorem advance {s : Spot} {c : Char} {rest : Text} (h : s.rest = c :: rest) : s.Ahead (s.advance c rest) :=
  ⟨[c], h, rfl, rfl⟩

/-- What lies between two spots is what a group around it takes. -/
theorem rest_eq {s next : Spot} (h : s.Ahead next) :
    s.rest = s.rest.take (next.position - s.position) ++ next.rest ∧ s.position ≤ next.position ∧
      (s.rest.take (next.position - s.position)).length = next.position - s.position := by
  obtain ⟨taken, h1, -, h3⟩ := h
  have hn : next.position - s.position = taken.length := by omega
  rw [hn, h1, List.take_left]
  exact ⟨rfl, by omega, rfl⟩

end Ahead

/-- A relation between spots that allows for staying, for going on and for taking a character. -/
structure Passage (R : Spot → Spot → Prop) : Prop where
  refl : ∀ s, R s s
  trans : ∀ {a b c}, R a b → R b c → R a c
  advance : ∀ {s c rest}, s.rest = c :: rest → R s (s.advance c rest)

/-- Moving ahead is a passage. -/
theorem passage_ahead : Passage Ahead := ⟨Ahead.refl, Ahead.trans, Ahead.advance⟩

section

variable {R : Spot → Spot → Prop} (hR : Passage R)
include hR

/-- A step over a character that passes a test is along every passage. -/
theorem Passage.step? {s next : Spot} {test : CharTest} (h : s.step? test = some next) : R s next := by
  unfold Spot.step? at h
  split at h
  · cases h
  · rename_i c rest hrest
    split at h
    · cases h
      exact hR.advance hrest
    · cases h

/-- All spots along the characters that pass a test are reached. -/
theorem Passage.of_mem_alongText {test : CharTest} {t : Text} {limit : Option Nat} {s next : Spot} (ht : t = s.rest)
    (h : next ∈ alongText test t limit s) : R s next := by
  induction t generalizing limit s with
  | nil =>
    simp only [alongText, List.mem_singleton] at h
    exact h ▸ hR.refl s
  | cons c rest ih =>
    simp only [alongText] at h
    split at h
    · rw [List.mem_singleton] at h
      exact h ▸ hR.refl s
    · rcases List.mem_cons.mp h with rfl | h
      · exact hR.refl _
      · exact hR.trans (hR.advance ht.symm) (ih rfl h)

/-- A step over the characters of a text is along every passage. -/
theorem Passage.take? {casing : Option Casing} {t : Text} {s next : Spot} (h : s.take? casing t = some next) : R s next := by
  induction t generalizing s with
  | nil =>
    cases h
    exact hR.refl _
  | cons c t ih =>
    simp only [Spot.take?] at h
    split at h
    · cases h
    · rename_i between hb
      exact hR.trans (hR.step? hb) (ih h)

end

end Spot

open Spot

namespace Matcher

/-- Whatever is to match after it, the matcher finds only what that finds at a related spot. -/
def Moves (R : Spot → Spot → Prop) (m : Matcher) : Prop :=
  ∀ s k found, m s k = some found → ∃ next, R s next ∧ k next = some found

/-- Whatever is to match after it, the matcher finds only what that finds at a spot ahead. -/
def Sound (m : Matcher) : Prop := ∀ s k found, m s k = some found → ∃ next, s.Ahead next ∧ k next = some found

section

variable {R : Spot → Spot → Prop} (hR : Passage R)

/-- The end of a matcher's own match is related to its start. -/
theorem Moves.self {m : Matcher} (hm : m.Moves R) {s found : Spot} (h : m s some = some found) : R s found := by
  obtain ⟨next, h1, h2⟩ := hm s some found h
  cases h2
  exact h1

/-- The end of a sound matcher's own match lies ahead. -/
theorem Sound.ahead {m : Matcher} (hm : m.Sound) {s found : Spot} (h : m s some = some found) : s.Ahead found :=
  Moves.self hm h

include hR

/-- What one matcher after another finds. -/
theorem Moves.bind {m : Matcher} (hm : m.Moves R) {s : Spot} {k k' : Spot → Option Spot} {found : Spot}
    (h : m s k = some found) (hk : ∀ next, k next = some found → ∃ last, R next last ∧ k' last = some found) :
    ∃ last, R s last ∧ k' last = some found := by
  obtain ⟨next, h1, h2⟩ := hm s k found h
  obtain ⟨last, h3, h4⟩ := hk next h2
  exact ⟨last, hR.trans h1 h3, h4⟩

/-- Runs of characters move along passages, however long they are. -/
theorem moves_run (test : CharTest) (min : Nat) (max : Option Nat) (greedy : Bool) :
    (run test min max greedy).Moves R := by
  intro s k found h
  obtain ⟨next, hnext, hk⟩ := List.exists_of_findSome?_eq_some h
  have hmem : next ∈ (s.along test max).drop min := by
    cases greedy
    · exact hnext
    · exact List.mem_reverse.mp hnext
  exact ⟨next, hR.of_mem_alongText rfl (List.mem_of_mem_drop hmem), hk⟩

section Rounds

variable {body : Matcher} (hb : body.Moves R)
include hb

/-- A number of repetitions, one after another, moves along passages. -/
theorem moves_exactly (n : Nat) : Moves R (body.exactly n) := by
  induction n with
  | zero => intro s k found h; exact ⟨s, hR.refl s, h⟩
  | succ n ih =>
    intro s k found h
    exact hb.bind hR h fun next hn => ih next k found hn

/-- So do as many repetitions as there can be, the longest way first. -/
theorem moves_most (n : Nat) (last : Option Nat) : Moves R (body.most n last) := by
  induction n generalizing last with
  | zero => intro s k found h; exact ⟨s, hR.refl s, h⟩
  | succ n ih =>
    intro s k found h
    simp only [most] at h
    split at h
    · exact ⟨s, hR.refl s, h⟩
    · split at h
      · rename_i found' hf
        cases h
        exact hb.bind hR hf fun next hn => ih _ next k found hn
      · exact ⟨s, hR.refl s, h⟩

/-- So do as few repetitions as there can be. -/
theorem moves_fewest (n : Nat) (last : Option Nat) : Moves R (body.fewest n last) := by
  induction n generalizing last with
  | zero => intro s k found h; exact ⟨s, hR.refl s, h⟩
  | succ n ih =>
    intro s k found h
    simp only [fewest] at h
    split at h
    · rename_i found' hk
      cases h
      exact ⟨s, hR.refl s, hk⟩
    · split at h
      · cases h
      · exact hb.bind hR h fun next hn => ih _ next k found hn

/-- Every repetition moves along passages. -/
theorem moves_repeated (min : Nat) (max : Option Nat) (greedy : Bool) : (body.repeated min max greedy).Moves R := by
  intro s k found h
  refine (moves_exactly hR hb min).bind hR h fun next hn => ?_
  cases greedy
  · exact moves_fewest hR hb _ none next k found hn
  · exact moves_most hR hb _ none next k found hn

end Rounds

end

end Matcher

open Matcher

namespace Regex

/-! ## One constructor at a time -/

section

variable {R : Spot → Spot → Prop} (hR : Passage R) {first second body : Regex}
include hR

/-- What takes nothing stays where it is. -/
theorem moves_empty : Moves R Regex.empty.matcher := fun s _ _ h => ⟨s, hR.refl s, h⟩

/-- A character is one step. -/
theorem moves_char (test : CharTest) : Moves R (Regex.char test).matcher := by
  intro s k found h
  obtain ⟨next, hs, hk⟩ := Option.bind_eq_some_iff.mp h
  exact ⟨next, hR.step? hs, hk⟩

/-- One expression after another moves along passages if both do. -/
theorem moves_seq (h₁ : Moves R first.matcher) (h₂ : Moves R second.matcher) :
    Moves R (Regex.seq first second).matcher := by
  intro s k found h
  exact h₁.bind hR h fun next hn => h₂ next k found hn

omit hR in
/-- A choice moves along passages if both expressions do. -/
theorem moves_either (h₁ : Moves R first.matcher) (h₂ : Moves R second.matcher) :
    Moves R (Regex.either first second).matcher := by
  intro s k found h
  simp only [Regex.matcher] at h
  split at h
  · rename_i found' hl
    cases h
    exact h₁ s k found hl
  · exact h₂ s k found h

/-- What a group took, taken again, is a step along passages. -/
theorem moves_again (index : Nat) (casing : Option Casing) : Moves R (Regex.again index casing).matcher := by
  intro s k found h
  simp only [Regex.matcher] at h
  split at h
  · cases h
  · obtain ⟨next, ht, hk⟩ := Option.bind_eq_some_iff.mp h
    exact ⟨next, hR.take? ht, hk⟩

omit hR in
/-- A match that is not taken back is still a match. -/
theorem moves_atomic (h : Moves R body.matcher) : Moves R (Regex.atomic body).matcher := by
  intro s k found hf
  obtain ⟨next, hb, hk⟩ := Option.bind_eq_some_iff.mp hf
  exact ⟨next, h.self hb, hk⟩

omit hR in
/-- A choice by whether a group took part moves along passages if both expressions do. -/
theorem moves_conditional (index : Nat) (h₁ : Moves R first.matcher) (h₂ : Moves R second.matcher) :
    Moves R (Regex.conditional index first second).matcher := by
  intro s k found h
  replace h : (if (s.captured index).isSome then first.matcher s k else second.matcher s k) = some found := h
  split at h
  · exact h₁ s k found h
  · exact h₂ s k found h

/-- An anchor takes nothing and stays where it is. -/
theorem moves_anchor (condition : Anchor) : Moves R (Regex.anchor condition).matcher := by
  intro s k found h
  replace h : (if condition.holds s then k s else none) = some found := h
  split at h
  · exact ⟨s, hR.refl s, h⟩
  · cases h

omit hR in
/-- A group goes on from where its expression ends, with the text of it kept. -/
theorem moves_group (index : Nat) (h : Moves R body.matcher)
    (hgroup : ∀ s next, R s next → R s (next.capture index (s.rest.take (next.position - s.position)))) :
    Moves R (Regex.group index body).matcher := by
  intro s k found hf
  obtain ⟨next, hn, hk⟩ := h s _ found hf
  exact ⟨_, hgroup s next hn, hk⟩

/-- A lookahead goes on from where it stands, with what the groups in it have taken. -/
theorem moves_ahead (negated : Bool)
    (hlook : ∀ s found, body.matcher s some = some found → R s { s with captures := found.captures }) :
    Moves R (Regex.ahead negated body).matcher := by
  intro s k found h
  simp only [Regex.matcher] at h
  split at h
  · rename_i found' hf
    exact ⟨_, hlook s found' hf, h⟩
  · exact ⟨s, hR.refl s, h⟩
  · cases h

/-- So does a lookbehind. -/
theorem moves_behind (negated : Bool) (width : Nat)
    (hlook : ∀ s start found, s.back? width = some start → body.matcher start some = some found →
      R s { s with captures := found.captures }) :
    Moves R (Regex.behind negated width body).matcher := by
  intro s k found h
  simp only [Regex.matcher] at h
  split at h
  · rename_i found' hf
    obtain ⟨start, hstart, hb⟩ := Option.bind_eq_some_iff.mp hf
    exact ⟨_, hlook s start found' hstart hb, h⟩
  · exact ⟨s, hR.refl s, h⟩
  · cases h

end

/-- Every regular expression goes on only from spots ahead. The induction is on the expression. -/
theorem matcher_sound (r : Regex) : r.matcher.Sound := by
  induction r with
  | empty => exact moves_empty passage_ahead
  | char test => exact moves_char passage_ahead test
  | run test min max greedy => exact moves_run passage_ahead test min max greedy
  | seq first second ih₁ ih₂ => exact moves_seq passage_ahead ih₁ ih₂
  | either left right ih₁ ih₂ => exact moves_either ih₁ ih₂
  | rounds body min max greedy ih => exact moves_repeated passage_ahead ih min max greedy
  | group index body ih => exact moves_group index ih fun s next h => h.trans (Ahead.captures next _)
  | again index casing => exact moves_again passage_ahead index casing
  | atomic body ih => exact moves_atomic ih
  | ahead negated body ih => exact moves_ahead passage_ahead negated fun s found _ => Ahead.captures s _
  | behind negated width body ih =>
    exact moves_behind passage_ahead negated width fun s _ found _ _ => Ahead.captures s _
  | conditional index present absent ih₁ ih₂ => exact moves_conditional index ih₁ ih₂
  | anchor condition => exact moves_anchor passage_ahead condition

end Regex

end ExprLex
