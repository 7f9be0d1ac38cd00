import ExprLex.Client.Action
import Mathlib.Algebra.Group.Nat.Defs

/-!
# Columns of clients and columns of the library

On a line of the document a column goes to a client and comes back unchanged, as long as the columns stay within the limits
of positions. An edit is applied where the client places it: the offset of a position is counted in the lines above and in
the characters of its own line.
-/

namespace ExprLex.Client

/-! ## Code units -/

theorem charUnits_pos (c : Char) : 0 < charUnits c := by
  unfold charUnits
  split <;> decide

/-- The code units of two texts are those of the one and those of the other. -/
theorem units_append (t u : Text) : units (t ++ u) = units t + units u := by
  induction t with
  | nil => exact (Nat.zero_add _).symm
  | cons c t ih => rw [List.cons_append, units, ih, units, Nat.add_assoc]

/-- A text has no more characters than code units. -/
theorem length_le_units (t : Text) : t.length ≤ units t := by
  induction t with
  | nil => exact Nat.le_refl _
  | cons c t ih =>
    have := charUnits_pos c
    rw [List.length_cons, units]
    omega

/-- The start of a text has no more code units than the text. -/
theorem units_take_le (t : Text) (n : Nat) : units (t.take n) ≤ units t := by
  have h := units_append (t.take n) (t.drop n)
  rw [List.take_append_drop] at h
  omega

/-- The code units of the first characters lead back to their number. -/
theorem charactersFor_units_take {t : Text} {n : Nat} (h : n ≤ t.length) : charactersFor t (units (t.take n)) = n := by
  induction t generalizing n with
  | nil =>
    rw [List.length_nil] at h
    exact (Nat.le_zero.mp h).symm
  | cons c t ih =>
    cases n with
    | zero => rfl
    | succ n =>
      have hpos := charUnits_pos c
      rw [List.length_cons] at h
      rw [List.take_succ_cons, units, charactersFor, if_neg (by omega), Nat.add_sub_cancel_left, ih (by omega)]

/-- A line without line feeds has no returns to leave out. -/
theorem withoutReturns_eq {t : Text} (h : '\n' ∉ t) : withoutReturns t = t := by
  fun_induction withoutReturns t with
  | case1 => rfl
  | case2 t ih => simp at h
  | case3 c t hc ih =>
    rw [List.mem_cons, not_or] at h
    rw [ih h.2]

/-! ## Computations that may fail -/

/-- A computation that succeeds goes through its first step. -/
theorem exists_of_bind_eq_ok {ε α β : Type} {x : Except ε α} {f : α → Except ε β} {b : β} (h : x >>= f = .ok b) :
    ∃ a, x = .ok a ∧ f a = .ok b := by
  cases x with
  | error e => cases h
  | ok a => exact ⟨a, rfl, h⟩

/-! ## Positions that stay where they are -/

/-- A position that is not beyond the end of its line, or whose line is empty or outside of the document. -/
def Position.WithinLine (lines : List Text) (p : Position) : Prop :=
  ∀ line, lines[p.line]? = some line → units (withoutReturns line) ≠ 0 → p.character ≤ units (withoutReturns line)

/-- A position stays where it is if it does not lie beyond the end of its line. -/
theorem Position.settled_eq_self_iff (lines : List Text) (p : Position) : p.settled lines = p ↔ p.WithinLine lines := by
  unfold settled WithinLine
  cases hl : lines[p.line]? with
  | none => simp
  | some line =>
    obtain ⟨row, character⟩ := p
    simp only [Option.some.injEq, forall_eq']
    generalize units (withoutReturns line) = length
    by_cases hbeyond : length ≠ 0 ∧ length < character
    · -- the last column on the line is another one
      have hmoved : length - 1 ≠ character := by omega
      have hnot : ¬ (length ≠ 0 → character ≤ length) := fun h => Nat.not_le_of_lt hbeyond.2 (h hbeyond.1)
      simp [hbeyond, hmoved]
    · have hwithin : length ≠ 0 → character ≤ length := fun hne => Nat.le_of_not_lt fun hlt => hbeyond ⟨hne, hlt⟩
      rw [if_neg (by simpa using hwithin)]
      exact iff_of_true rfl hwithin

/-- Both ends of a range are within their lines. -/
def Range.WithinLines (lines : List Text) (r : Range) : Prop := r.start.WithinLine lines ∧ r.stop.WithinLine lines

/-- A range does if both its ends do. -/
theorem Range.settled_eq_self_iff (lines : List Text) (r : Range) : r.settled lines = r ↔ r.WithinLines lines := by
  obtain ⟨start, stop⟩ := r
  rw [settled, Range.mk.injEq, Position.settled_eq_self_iff, Position.settled_eq_self_iff]
  rfl

/-! ## Positions on a line -/

/-- The numbers below the limit are within it. -/
theorem inLimits_natCast {n : Nat} (h : n < 2 ^ 31) : inLimits n = true := by
  have hlimit : positionLimit = 2147483647 := rfl
  simp only [inLimits, Bool.and_eq_true, decide_eq_true_eq]
  omega

/-- The limits in which a position can be made. -/
theorem Position.make_ok {line character : Nat} (hl : line < 2 ^ 31) (hc : character < 2 ^ 31) :
    Position.make line character = .ok ⟨line, character⟩ := by
  simp [Position.make, inLimits_natCast hl, inLimits_natCast hc]

/-- A document that has a line, and the line fits the limits of positions. -/
structure Fits (lines : List Text) (i : Nat) (t : Text) : Prop where
  line : lines[i]? = some t
  noFeed : '\n' ∉ t
  number_lt : i < 2 ^ 31
  units_lt : units t < 2 ^ 31

section

variable {lines : List Text} {i : Nat} {t : Text} {n : Nat}

theorem Fits.ne_nil (h : Fits lines i t) : lines ≠ [] := by
  rintro rfl
  cases h.line

/-- All columns on a line that fits are within the limit. -/
theorem Fits.units_take_lt (h : Fits lines i t) (n : Nat) : units (t.take n) < 2 ^ 31 :=
  Nat.lt_of_le_of_lt (units_take_le t n) h.units_lt

/-- An offset on such a line goes to the client as the code units before it. -/
theorem Fits.toClient (h : Fits lines i t) (n : Nat) :
    Position.toClient lines ⟨i, n⟩ = .ok ⟨i, units (t.take n)⟩ := by
  simp only [Position.toClient, h.line]
  exact Position.make_ok h.number_lt (h.units_take_lt n)

/-- The position of a column on the line is taken to be where it is. -/
theorem Fits.settled (h : Fits lines i t) (n : Nat) :
    Position.settled lines ⟨i, units (t.take n)⟩ = ⟨i, units (t.take n)⟩ := by
  refine (Position.settled_eq_self_iff lines _).mpr ?_
  intro line hl _
  cases h.line.symm.trans hl
  rw [withoutReturns_eq h.noFeed]
  exact units_take_le t n

/-- What goes to the client for an offset on such a line comes back as the offset. -/
theorem Fits.ofClient (h : Fits lines i t) (hn : n ≤ t.length) :
    Position.ofClient lines ⟨i, units (t.take n)⟩ = .ok ⟨i, n⟩ := by
  have hlast : lines.getLast? = some (lines.getLast h.ne_nil) := List.getLast?_eq_some_getLast h.ne_nil
  have hlen := length_le_units t
  have hlt := h.units_lt
  simp only [Position.ofClient, h.line, hlast, h.settled, withoutReturns_eq h.noFeed, charactersFor_units_take hn]
  exact Position.make_ok h.number_lt (by omega)

/-- The part of the line between two columns, as the client counts them. -/
def rangeOn (t : Text) (i start stop : Nat) : Range := ⟨⟨i, units (t.take start)⟩, ⟨i, units (t.take stop)⟩⟩

/-- A range on such a line has both its ends told like that. -/
theorem Fits.onLine (h : Fits lines i t) {start stop : Nat} (hle : start ≤ stop) (hstop : stop ≤ t.length) :
    Range.onLine lines i start stop = .ok (rangeOn t i start stop) := by
  have hlen := length_le_units t
  have hlt := h.units_lt
  have hne : lines.isEmpty = false := by simpa using h.ne_nil
  simp only [Range.onLine, Position.make_ok h.number_lt (show start < 2 ^ 31 by omega),
    Position.make_ok h.number_lt (show stop < 2 ^ 31 by omega), hne]
  simp only [bind, Except.bind, pure, Except.pure, h.toClient, Bool.false_eq_true, if_false]
  rfl

/-- Neither end of it lies beyond the line. -/
theorem Fits.range_settled (h : Fits lines i t) (start stop : Nat) :
    Range.settled lines (rangeOn t i start stop) = rangeOn t i start stop := by
  rw [Range.settled, rangeOn, h.settled, h.settled]

/-- What goes to the client for a range on such a line comes back as the range. -/
theorem Fits.range_ofClient (h : Fits lines i t) {start stop : Nat} (hle : start ≤ stop) (hstop : stop ≤ t.length) :
    Range.ofClient lines (rangeOn t i start stop) = .ok ⟨⟨i, start⟩, ⟨i, stop⟩⟩ := by
  simp only [Range.ofClient, rangeOn, h.ofClient (Nat.le_trans hle hstop), h.ofClient hstop]
  rfl

/-- The notice of a diagnostic on a line: it covers what the diagnostic is about. -/
def noticeOn (t : Text) (i : Nat) (d : Diagnostic) : Notice :=
  ⟨rangeOn t i d.position.toNat (d.position + d.length).toNat, some (severityOf d.code), some (.code d.code), some issuer,
    d.message⟩

/-- The notice of a diagnostic that covers characters of the line. -/
theorem Fits.ofDiagnostic (h : Fits lines i t) {d : Diagnostic} (hpos : 0 ≤ d.position) (hlen : 0 < d.length)
    (hle : (d.position + d.length).toNat ≤ t.length) : Notice.ofDiagnostic lines i d = .ok (noticeOn t i d) := by
  have hstart : d.position = (d.position.toNat : Int) := by omega
  have hstop : d.position + max d.length 1 = ((d.position + d.length).toNat : Int) := by omega
  have hrange := h.onLine (show d.position.toNat ≤ (d.position + d.length).toNat by omega) hle
  rw [← hstart, ← hstop] at hrange
  rw [Notice.ofDiagnostic, hrange]
  rfl

end

/-! ## Edits -/

/-- The offset of a position in the document: the lines above it with their line feeds, and the characters before it on its
line. -/
def Position.offset (lines : List Text) (p : Position) : Nat :=
  (lines.take p.line).foldr (fun l sum => l.length + 1 + sum) 0 + charactersFor (lines.getD p.line []) p.character

/-- The document with an edit made, by the lines it has before. -/
def Edit.apply (e : Edit) (lines : List Text) (source : Text) : Text :=
  source.take (e.range.start.offset lines) ++ e.newText.toList ++ source.drop (e.range.stop.offset lines)

end ExprLex.Client
