import ExprLex.CommandLine.Run
import ExprLex.Proofs.Classes
import ExprLex.Proofs.Diagnosed
import ExprLex.Proofs.LinesAndWords
import ExprLex.Proofs.Quoting

/-!
# The lines of what is printed

Numbers and the spellings of kinds and codes are single words. A report is printed string by string, with a line feed behind
each. Quoted texts, and rendered tokens and diagnostics, have no line feed in them, whatever the lexemes are, so that each is
one line.
-/

namespace ExprLex

/-! ## Single words -/

/-- A number is printed in digits. -/
theorem isDigit_of_mem_toString {n : Nat} {c : Char} (h : c ∈ (toString n).toList) : c.isDigit = true := by
  rw [Nat.toString_eq_ofList_toDigits, String.toList_ofList] at h
  exact Nat.isDigit_of_mem_toDigits (by decide) (by decide) h

/-- No digit is whitespace. -/
theorem isWhitespace_of_digit {c : Char} (h : c.isDigit = true) : isWhitespace c = false := by
  have hc : c.toNat < 128 := by
    rw [Char.isDigit, Bool.and_eq_true, decide_eq_true_eq, decide_eq_true_eq] at h
    exact Nat.lt_of_le_of_lt (UInt32.le_iff_toNat_le.mp h.2) (by decide)
  exact forall_ascii (P := fun c => c.isDigit = true → isWhitespace c = false) (by decide) hc h

/-- A number is a single word. -/
theorem singleWord_nat (n : Nat) : SingleWord (toString n).toList := by
  refine ⟨?_, fun c hc => isWhitespace_of_digit (isDigit_of_mem_toString hc)⟩
  rw [Nat.toString_eq_ofList_toDigits, String.toList_ofList]
  exact Nat.toDigits_ne_nil

/-- A negative number has a sign in front. -/
theorem singleWord_int (i : Int) : SingleWord (toString i).toList := by
  cases i with
  | ofNat n => exact singleWord_nat n
  | negSucc n =>
    show SingleWord ("-" ++ toString (n + 1)).toList
    rw [String.toList_append]
    constructor
    · simp
    · intro c hc
      rcases List.mem_append.mp hc with hc | hc
      · rw [List.mem_singleton.mp hc]
        decide
      · exact (singleWord_nat (n + 1)).2 c hc

/-- The spelling of a kind is a single word. -/
theorem singleWord_spelling (k : Kind) : SingleWord k.spelling.toList := by
  cases k with
  | operator o => cases o <;> decide
  | punctuation p => cases p <;> decide
  | operand o => cases o <;> decide
  | unknown => decide

/-- The code of whatever is found in a line is a single word. -/
theorem Token.DiagnosedAs.singleWord_code {t : Token} {d : Diagnostic} (h : t.DiagnosedAs d) :
    SingleWord d.code.name.toList := by
  cases h with
  | unknown => show SingleWord "W_UNKNOWN_TOKEN".toList; decide
  | neverOpened => show SingleWord "W_UNBALANCED_PARENTHESIS".toList; decide
  | neverClosed => show SingleWord "W_UNBALANCED_PARENTHESIS".toList; decide
  | trailing => show SingleWord "W_TRAILING_OPERATOR".toList; decide

/-! ## Strings on one line -/

/-- A string that does not end its line. -/
def OneLine (s : String) : Prop := '\n' ∉ s.toList

instance (s : String) : Decidable (OneLine s) := inferInstanceAs (Decidable (¬ _))

/-- Two strings make one line if each of them is one. -/
theorem oneLine_append (s t : String) : OneLine (s ++ t) ↔ OneLine s ∧ OneLine t := by
  simp [OneLine]

/-- A word is one line. -/
theorem SingleWord.oneLine {s : String} (h : SingleWord s.toList) : OneLine s := fun hfeed => by cases h.2 _ hfeed

/-- So is a number. -/
theorem oneLine_nat (n : Nat) : OneLine (toString n) := (singleWord_nat n).oneLine

/-- There is no line feed among digits, hexadecimal ones included. -/
theorem feed_not_mem_hexDigits (width n : Nat) : '\n' ∉ Text.hexDigits width n := by
  have hdigit : ∀ m, m < 16 → Text.hexDigit m ≠ '\n' := by decide
  induction width generalizing n with
  | zero => exact List.not_mem_nil
  | succ w ih =>
    intro h
    rcases List.mem_append.mp h with h | h
    · exact ih _ h
    · exact hdigit _ (Nat.mod_lt n (by decide)) (List.mem_singleton.mp h).symm

/-- There is no line feed in an escape. -/
theorem feed_not_mem_escapeCode (n : Nat) : '\n' ∉ Text.escapeCode n := by
  unfold Text.escapeCode
  split
  · simp [feed_not_mem_hexDigits]
  · split <;> simp [feed_not_mem_hexDigits]

/-- A line feed is written as an escape, and no other escape holds one. -/
theorem feed_not_mem_quoteChar {mark : Char} (hm : Text.IsMark mark) (c : Char) : '\n' ∉ Text.quoteChar mark c := by
  have hmark : mark ≠ '\n' := by rcases hm with rfl | rfl <;> decide
  unfold Text.quoteChar
  split
  · rename_i h
    rw [Bool.or_eq_true, beq_iff_eq, beq_iff_eq] at h
    rcases h with rfl | rfl
    · simp [hmark.symm]
    · decide
  · split
    · decide
    · split
      · decide
      · rename_i hfeed
        split
        · decide
        · split
          · simpa using fun h : '\n' = c => hfeed (by simp [← h])
          · exact feed_not_mem_escapeCode _

/-- A quoted text is one line, whatever the text is. -/
theorem oneLine_quoted (t : Text) : OneLine t.quoted := by
  have hm := Text.isMark_quoteMark t
  have hmark : '\n' ≠ Text.quoteMark t := by
    intro h
    rw [← h] at hm
    rcases hm with h | h <;> cases h
  simp [OneLine, Text.quoted, Text.quote, hmark, feed_not_mem_quoteChar hm]

/-- So a rendered token is one line. -/
theorem Token.oneLine_render (t : Token) : OneLine t.render := by
  have hopen : OneLine "(" := by decide
  have hclose : OneLine ")@" := by decide
  simp only [render, oneLine_append, (singleWord_spelling t.kind).oneLine, (singleWord_int t.position).oneLine,
    oneLine_quoted, hopen, hclose, and_self]

/-- A rendered diagnostic is one line. -/
theorem Token.DiagnosedAs.oneLine_render {t : Token} {d : Diagnostic} (h : t.DiagnosedAs d) : OneLine d.render := by
  have hmessage : OneLine d.message := by
    cases h with
    | unknown => exact (oneLine_append _ _).mpr ⟨by decide, oneLine_quoted _⟩
    | neverOpened => show OneLine "Closing parenthesis has no matching '('"; decide
    | neverClosed => show OneLine "Parenthesis is never closed"; decide
    | trailing => exact (oneLine_append _ _).mpr ⟨by decide, oneLine_quoted _⟩
  have hcolumn : OneLine " col " := by decide
  have hcolon : OneLine ": " := by decide
  simp only [Diagnostic.render, oneLine_append, h.singleWord_code.oneLine, (singleWord_int d.column).oneLine, hcolumn, hcolon,
    hmessage, and_self]

/-! ## Strings with line feeds behind them -/

/-- The lines of a string. -/
abbrev linesOf (s : String) : List Text := documentLines s.toList

theorem linesOf_of_oneLine {s : String} (h : OneLine s) : linesOf s = [s.toList] := documentLines_of_not_mem h

/-- A line feed at the start is an empty line before the others. -/
theorem linesOf_feed (s : String) : linesOf ("\n" ++ s) = [] :: linesOf s := by
  rw [linesOf, String.toList_append]
  exact documentLines_append List.not_mem_nil s.toList

/-- The lines of a report are those of its strings, and an empty one behind the last line feed. -/
theorem linesOf_endLines (strings : List String) : linesOf (endLines strings) = strings.flatMap linesOf ++ [[]] := by
  induction strings with
  | nil => rfl
  | cons s rest ih =>
    have hsplit : (endLines (s :: rest)).toList = s.toList ++ '\n' :: (endLines rest).toList := by
      simp [endLines]
    rw [linesOf, hsplit, documentLines_append_feed, List.flatMap_cons, List.append_assoc, ← ih]

/-- A line that is not empty is printed by one of the strings of a report. -/
theorem mem_linesOf_endLines {strings : List String} {l : Text} (hl : l ≠ []) :
    l ∈ linesOf (endLines strings) ↔ ∃ s ∈ strings, l ∈ linesOf s := by
  rw [linesOf_endLines, List.mem_append, List.mem_flatMap, List.mem_singleton, or_iff_left hl]

end ExprLex
