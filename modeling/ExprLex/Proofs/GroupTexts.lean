import ExprLex.Proofs.Cover
import Mathlib.Algebra.Group.Nat.Defs

/-!
# How much the groups take

A group takes a piece of the match that it stands in, unless it stands in a condition on what is around: there it may take
what later matches take again. Without such groups (`Regex.isPlain`) no capture of a match is longer than the match
(`Spot.Grown`), and so the fragments of an expression are at most as many times as long as it as there are groups, and once
more for what lies between the matches.
-/

namespace ExprLex

namespace Spot

/-- A spot ahead at which the groups have taken nothing new, or, unless that is all they may, nothing longer than what lies
between. -/
structure Grown (fixed : Bool) (s next : Spot) : Prop where
  ahead : s.Ahead next
  captures : ∀ e ∈ next.captures, e ∈ s.captures ∨ fixed = false ∧ e.2.length ≤ next.position - s.position

variable {fixed : Bool} {s next : Spot}

/-- Moving on without a capture adds nothing. -/
theorem Grown.of_captures_eq (h : s.Ahead next) (hc : next.captures = s.captures) : Grown fixed s next :=
  ⟨h, fun _ he => Or.inl (hc ▸ he)⟩

theorem Grown.trans {a b c : Spot} (h : Grown fixed a b) (h' : Grown fixed b c) : Grown fixed a c := by
  refine ⟨h.ahead.trans h'.ahead, fun e he => ?_⟩
  have hab := h.ahead.rest_eq.2.1
  have hbc := h'.ahead.rest_eq.2.1
  rcases h'.captures e he with he | ⟨hfixed, hle⟩
  · rcases h.captures e he with he | ⟨hfixed, hle⟩
    · exact Or.inl he
    · exact Or.inr ⟨hfixed, by omega⟩
  · exact Or.inr ⟨hfixed, by omega⟩

/-- So it is a passage. -/
theorem passage_grown (fixed : Bool) : Passage (Grown fixed) where
  refl s := .of_captures_eq (Ahead.refl s) rfl
  trans := Grown.trans
  advance h := .of_captures_eq (Ahead.advance h) rfl

/-- A group takes what lies between. -/
theorem Grown.capture (h : Grown false s next) (index : Nat) :
    Grown false s (next.capture index (s.rest.take (next.position - s.position))) := by
  refine ⟨h.ahead.trans (Ahead.captures next _), fun e he => ?_⟩
  rcases List.mem_cons.mp he with rfl | he
  · exact Or.inr ⟨rfl, List.length_take_le _ _⟩
  · exact h.captures e he

/-- A look around in which no group takes anything leaves the captures as they are. -/
theorem Grown.look {start found : Spot} (h : Grown true start found) (hstart : start.captures = s.captures) :
    Grown fixed s { s with captures := found.captures } := by
  refine ⟨Ahead.captures s _, fun e he => Or.inl ?_⟩
  rcases h.captures e he with he | ⟨hfixed, -⟩
  · exact hstart ▸ he
  · cases hfixed

/-- Going back captures nothing. -/
theorem captures_of_back? {width : Nat} {start : Spot} (h : s.back? width = some start) :
    start.captures = s.captures := by
  induction width generalizing s with
  | zero =>
    cases h
    rfl
  | succ n ih =>
    rw [back?] at h
    split at h
    · cases h
    · have hback := ih h
      exact hback

end Spot

open Spot Matcher

namespace Regex

/-- Whether no group stands in a condition on what is around; `looking` tells that the expression stands in one itself. -/
def isPlain (looking : Bool) : Regex → Bool
  | .empty | .char _ | .run .. | .again _ _ | .anchor _ => true
  | .seq first second => first.isPlain looking && second.isPlain looking
  | .either left right => left.isPlain looking && right.isPlain looking
  | .conditional _ present absent => present.isPlain looking && absent.isPlain looking
  | .rounds body _ _ _ | .atomic body => body.isPlain looking
  | .group _ body => !looking && body.isPlain looking
  | .ahead _ body | .behind _ _ body => body.isPlain true

/-- Without groups in conditions on what is around no capture is longer than the match. The induction is on the expression. -/
theorem moves_grown {r : Regex} {looking : Bool} (h : r.isPlain looking = true) : Moves (Grown looking) r.matcher := by
  have hR := passage_grown looking
  induction r generalizing looking with
  | empty => exact moves_empty hR
  | char test => exact moves_char hR test
  | run test min max greedy => exact moves_run hR test min max greedy
  | seq first second ih₁ ih₂ =>
    obtain ⟨h₁, h₂⟩ := Bool.and_eq_true_iff.mp h
    exact moves_seq hR (ih₁ h₁ hR) (ih₂ h₂ hR)
  | either left right ih₁ ih₂ =>
    obtain ⟨h₁, h₂⟩ := Bool.and_eq_true_iff.mp h
    exact moves_either (ih₁ h₁ hR) (ih₂ h₂ hR)
  | rounds body min max greedy ih => exact moves_repeated hR (ih h hR) min max greedy
  | group index body ih =>
    obtain ⟨hlooking, hbody⟩ := Bool.and_eq_true_iff.mp h
    cases looking with
    | true => cases hlooking
    | false => exact moves_group index (ih hbody hR) fun s next hn => hn.capture index
  | again index casing => exact moves_again hR index casing
  | atomic body ih => exact moves_atomic (ih h hR)
  | ahead negated body ih =>
    have hbody := ih h (passage_grown true)
    exact moves_ahead hR negated fun s found hf => (hbody.self hf).look rfl
  | behind negated width body ih =>
    have hbody := ih h (passage_grown true)
    exact moves_behind hR negated width fun s start found hs hf => (hbody.self hf).look (captures_of_back? hs)
  | conditional index present absent ih₁ ih₂ =>
    obtain ⟨h₁, h₂⟩ := Bool.and_eq_true_iff.mp h
    exact moves_conditional index (ih₁ h₁ hR) (ih₂ h₂ hR)
  | anchor condition => exact moves_anchor hR condition

end Regex

/-! ## The texts of a cut -/

/-- What the groups have taken together, if none of them has taken more than `n`. -/
theorem length_joined_groupTexts {s : Spot} {n : Nat} (h : ∀ e ∈ s.captures, e.2.length ≤ n) (groups : Nat) :
    (joined (s.groupTexts groups)).length ≤ groups * n := by
  have hone : ∀ index, ((s.captured index).getD []).length ≤ n := by
    intro index
    cases hc : s.captured index with
    | none => exact Nat.zero_le n
    | some taken =>
      obtain ⟨_, _, hsplit, -⟩ := List.lookup_eq_some_iff.mp hc
      exact h (index, taken) (by simp [hsplit])
  unfold Spot.groupTexts
  induction groups with
  | zero => simp
  | succ groups ih =>
    have := hone (groups + 1)
    rw [List.range_succ, List.map_append, joined_append, List.length_append, Nat.succ_mul]
    simp only [List.map_cons, List.map_nil, joined_cons, joined_nil, List.append_nil]
    omega

/-- A match takes a part of the text, and its groups together at most that, as often as there are groups. -/
theorem Spot.Grown.length_groupTexts {passed t : Text} {position : Nat} {found : Spot}
    (h : Grown false ⟨passed, t, position, []⟩ found) (groups : Nat) :
    position ≤ found.position ∧ found.position - position ≤ t.length ∧
      (joined (found.groupTexts groups)).length ≤ groups * (found.position - position) := by
  obtain ⟨-, hle, hlen⟩ := h.ahead.rest_eq
  refine ⟨hle, ?_, length_joined_groupTexts (fun e he => ?_) groups⟩
  · simp only [List.length_take] at hlen
    omega
  · rcases h.captures e he with he | ⟨-, hle⟩
    · cases he
    · exact hle

/-- What the groups of a match take, as often as there are groups, and what is behind it. -/
theorem share_le {groups taken length a b : Nat} (hpos : 0 < taken) (hle : taken ≤ length + 1) (ha : a ≤ groups * taken)
    (hb : b ≤ (groups + 1) * (length - (taken - 1))) : a + b ≤ (groups + 1) * (length + 1) := by
  obtain ⟨later, hlater⟩ := Nat.exists_eq_add_of_le hle
  have hrest : length - (taken - 1) = later := by omega
  rw [hrest] at hb
  rw [hlater, Nat.mul_add]
  have hsplit : (groups + 1) * taken = groups * taken + taken := Nat.succ_mul groups taken
  omega

namespace Regex

section

variable {r : Regex} (hr : r.isPlain false = true)
include hr

/-- A match that has to take a character takes one. -/
theorem grown_of_advanceAt {s found : Spot} (h : r.advanceAt s = some found) :
    Grown false s found ∧ s.position < found.position := by
  obtain ⟨next, hn, hf⟩ := moves_grown hr s _ found h
  have hle := hn.ahead.rest_eq.2.1
  split at hf
  · cases hf
  · cases hf
    exact ⟨hn, by omega⟩

/-- The texts of a cut are at most as many times as long as the text as there are groups, and once more. The induction follows
the search for the matches. -/
theorem length_cutFrom (groups skip : Nat) (passed : Text) (position : Nat) (t : Text) :
    (r.cutFrom groups skip passed position t).1.length + (joined (r.cutFrom groups skip passed position t).2).length ≤
      (groups + 1) * (t.length - skip) := by
  induction t generalizing skip passed position with
  | nil =>
    simp only [cutFrom]
    split
    · simp
    · rename_i found hm
      obtain ⟨-, hnone, htexts⟩ := ((moves_grown hr).self hm).length_groupTexts groups
      have hempty : (joined (found.groupTexts groups)).length = 0 := by
        simpa [Nat.le_zero.mp hnone] using htexts
      simp [hempty]
  | cons c rest ih =>
    cases skip with
    | succ skip =>
      have hrest := ih skip (c :: passed) (position + 1)
      rwa [List.length_cons, Nat.add_sub_add_right]
    | zero =>
      have ih0 := ih 0 (c :: passed) (position + 1)
      have hmul : (groups + 1) * (rest.length + 1) = (groups + 1) * rest.length + (groups + 1) :=
        Nat.mul_succ (groups + 1) rest.length
      simp only [cutFrom, List.length_cons, Nat.sub_zero] at ih0 ⊢
      split
      · simp only [List.length_cons]
        omega
      · rename_i found hm
        obtain ⟨hle, hwithin, htexts⟩ := ((moves_grown hr).self hm).length_groupTexts groups
        rw [List.length_cons] at hwithin
        split
        · rename_i hpos
          -- the groups of an empty match have no texts; the match behind it, if there is one, has its share
          have hempty : (joined (found.groupTexts groups)).length = 0 := by
            simpa [hpos] using htexts
          split
          · simp only [joined_append, joined_cons, Option.getD_some, List.length_append, List.length_cons, List.length_nil,
              hempty]
            omega
          · rename_i second ha
            obtain ⟨hg, hlt⟩ := grown_of_advanceAt hr ha
            obtain ⟨-, hwithin', htexts'⟩ := hg.length_groupTexts groups
            have hshare := share_le (Nat.sub_pos_of_lt hlt) hwithin' htexts'
              (ih (second.position - position - 1) (c :: passed) (position + 1))
            simp only [joined_append, joined_cons, Option.getD_some, List.length_append, List.length_nil, hempty]
            omega
        · rename_i hpos
          have hshare := share_le (by omega) hwithin htexts
            (ih (found.position - position - 1) (c :: passed) (position + 1))
          simp only [joined_append, joined_cons, Option.getD_some, List.length_append, List.length_nil]
          omega

end

end Regex

/-! ## The fragments and the tokens -/

namespace Pattern

/-- A pattern without groups in conditions on what is around, and with so few groups that the fragments of fewer than `2 ^ 20`
characters stay within the limit of positions. -/
structure IsModest (p : Pattern) : Prop where
  plain : p.regex.isPlain false = true
  groups_lt : p.groups + 1 ≤ 2 ^ 11

theorem isModest_default : Pattern.default.IsModest := ⟨rfl, by decide⟩

/-- All fragments together are no longer than the line, once for each group and once more. -/
theorem length_fragments {p : Pattern} (h : p.regex.isPlain false = true) (t : Text) :
    (p.fragments t).flatten.length ≤ (p.groups + 1) * t.length := by
  rw [flatten_fragments, Regex.cut, joined_cons, Option.getD_some, List.length_append]
  exact Regex.length_cutFrom h p.groups 0 [] 0 t

end Pattern

/-- The lexemes end with the text that they make up. -/
theorem Lexeme.stop_le_of_mem_layOut {offset : Nat} {ts : List Text} {l : Lexeme} (h : l ∈ layOut offset ts) :
    l.stop ≤ offset + ts.flatten.length := by
  induction ts generalizing offset with
  | nil => cases h
  | cons x rest ih =>
    rw [List.flatten_cons, List.length_append]
    rcases List.mem_cons.mp h with rfl | h
    · simp only [Lexeme.stop]
      omega
    · have := ih h
      omega

/-- Where the tokens of an expression stand: each has a lexeme, and it ends with the fragments. -/
theorem Pattern.place_of_mem_tokenize {p : Pattern} {rules : Rules} {s : Text} {t : Token}
    (h : t ∈ rules.tokenize (p.fragments s)) :
    0 ≤ t.position ∧ 0 < t.lexeme.length ∧ t.position + t.lexeme.length ≤ (p.fragments s).flatten.length := by
  obtain ⟨l, hl, hblank, htext, hpos⟩ := Rules.exists_lexeme_of_mem_tokenize h
  have hstop := Lexeme.stop_le_of_mem_layOut hl
  have hne : l.text ≠ [] := by
    intro he
    rw [he] at hblank
    cases hblank
  have hlen := List.length_pos_iff.mpr hne
  rw [htext, hpos]
  simp only [Lexeme.stop] at hstop
  omega

end ExprLex
