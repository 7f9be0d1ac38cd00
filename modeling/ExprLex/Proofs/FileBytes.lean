import ExprLex.FileSystem

/-!
# Texts written to files and read back

The bytes of a text in UTF-8 are read as that text: no byte of it stands for the replacement character. The first byte of a
character tells how many follow and, for three and four bytes, what the second one may be; these limits exclude exactly the
forms that are too long, the surrogates and what is no code point. So the reader comes back to where it was between two
characters, with one character more.
-/

namespace ExprLex

namespace Utf8

/-! ## One byte -/

/-- Between two characters a byte is the first of another one. -/
theorem decodeFrom_between (b : UInt8) (rest : List UInt8) :
    decodeFrom .between (b :: rest) = (first b.toNat).1 ++ decodeFrom (first b.toNat).2 rest :=
  rfl

/-- A byte that continues a character and is not its last one. -/
theorem decodeFrom_inside_succ {owed lo hi code : Nat} {b : UInt8} (h : lo ≤ b.toNat ∧ b.toNat ≤ hi)
    (rest : List UInt8) : decodeFrom (.inside (owed + 1) lo hi code) (b :: rest) =
      decodeFrom (.inside owed 0x80 0xBF (code * 64 + (b.toNat - 0x80))) rest := by
  have hin : (decide (lo ≤ b.toNat) && decide (b.toNat ≤ hi)) = true := by simpa using h
  simp only [decodeFrom, step]
  rw [if_pos hin]
  rfl

/-- The last byte of a character. -/
theorem decodeFrom_inside_zero {lo hi code : Nat} {b : UInt8} (h : lo ≤ b.toNat ∧ b.toNat ≤ hi) (rest : List UInt8) :
    decodeFrom (.inside 0 lo hi code) (b :: rest) =
      Char.ofNat (code * 64 + (b.toNat - 0x80)) :: decodeFrom .between rest := by
  have hin : (decide (lo ≤ b.toNat) && decide (b.toNat ≤ hi)) = true := by simpa using h
  simp only [decodeFrom, step]
  rw [if_pos hin]
  rfl

/-- A byte below 128 is a character by itself. -/
theorem first_of_lt {b : Nat} (h : b < 0x80) : first b = ([Char.ofNat b], .between) := by
  rw [first, if_pos h]

/-- The first byte of two. -/
theorem first_of_two {b : Nat} (h : 0xC2 ≤ b ∧ b ≤ 0xDF) : first b = ([], .inside 0 0x80 0xBF (b - 0xC0)) := by
  rw [first, if_neg (by omega), if_pos (by simpa using h)]

/-- The first byte of three. Behind 0xE0 the form could be too long, and behind 0xED it could be a surrogate. -/
theorem first_of_three {b : Nat} (h : 0xE0 ≤ b ∧ b ≤ 0xEF) : first b =
    ([], .inside 1 (if b = 0xE0 then 0xA0 else 0x80) (if b = 0xED then 0x9F else 0xBF) (b - 0xE0)) := by
  by_cases hlow : b = 0xE0
  · subst hlow
    rfl
  by_cases hsurrogate : b = 0xED
  · subst hsurrogate
    rfl
  have htwo : ¬(decide (0xC2 ≤ b) && decide (b ≤ 0xDF)) = true := by
    rw [Bool.and_eq_true, decide_eq_true_eq, decide_eq_true_eq]
    omega
  rw [first, if_neg (by omega), if_neg htwo, if_neg hlow, if_neg hsurrogate, if_neg hlow, if_neg hsurrogate, if_pos]
  simp only [Bool.and_eq_true, decide_eq_true_eq]
  omega

/-- The first byte of four. Behind 0xF0 the form could be too long, and behind 0xF4 it could be no code point. -/
theorem first_of_four {b : Nat} (h : 0xF0 ≤ b ∧ b ≤ 0xF4) : first b =
    ([], .inside 2 (if b = 0xF0 then 0x90 else 0x80) (if b = 0xF4 then 0x8F else 0xBF) (b - 0xF0)) := by
  obtain rfl | rfl | rfl | rfl | rfl : b = 0xF0 ∨ b = 0xF1 ∨ b = 0xF2 ∨ b = 0xF3 ∨ b = 0xF4 := by omega
  all_goals rfl

/-! ## One character -/

section

variable {n : Nat} (rest : List UInt8)

theorem toNat_ofNat_of_lt {n : Nat} (h : n < 256) : (UInt8.ofNat n).toNat = n :=
  Nat.mod_eq_of_lt h

/-- A character of one byte is read back. -/
theorem decodeFrom_one (h : n ≤ 0x7F) :
    decodeFrom .between (UInt8.ofNat n :: rest) = Char.ofNat n :: decodeFrom .between rest := by
  rw [decodeFrom_between, toNat_ofNat_of_lt (by omega), first_of_lt (by omega)]
  rfl

/-- A character of two bytes is read back. -/
theorem decodeFrom_two (h : 0x80 ≤ n ∧ n ≤ 0x7FF) :
    decodeFrom .between (UInt8.ofNat (n / 64 % 32 + 192) :: UInt8.ofNat (n % 64 + 128) :: rest) =
      Char.ofNat n :: decodeFrom .between rest := by
  have hlead : (UInt8.ofNat (n / 64 % 32 + 192)).toNat = n / 64 + 192 := by
    rw [toNat_ofNat_of_lt (by omega)]
    omega
  have hlast : (UInt8.ofNat (n % 64 + 128)).toNat = n % 64 + 128 := toNat_ofNat_of_lt (by omega)
  have hcode : (n / 64 + 192 - 0xC0) * 64 + (n % 64 + 128 - 0x80) = n := by omega
  rw [decodeFrom_between, hlead, first_of_two (by omega), List.nil_append, decodeFrom_inside_zero (by omega), hlast, hcode]

/-- A character of three bytes is read back, if it is no surrogate. -/
theorem decodeFrom_three (h : 0x800 ≤ n ∧ n ≤ 0xFFFF) (hs : n < 0xD800 ∨ 0xDFFF < n) :
    decodeFrom .between
        (UInt8.ofNat (n / 4096 % 16 + 224) :: UInt8.ofNat (n / 64 % 64 + 128) :: UInt8.ofNat (n % 64 + 128) :: rest) =
      Char.ofNat n :: decodeFrom .between rest := by
  have hlead : (UInt8.ofNat (n / 4096 % 16 + 224)).toNat = n / 4096 + 224 := by
    rw [toNat_ofNat_of_lt (by omega)]
    omega
  have hsecond : (UInt8.ofNat (n / 64 % 64 + 128)).toNat = n / 64 % 64 + 128 := toNat_ofNat_of_lt (by omega)
  have hlast : (UInt8.ofNat (n % 64 + 128)).toNat = n % 64 + 128 := toNat_ofNat_of_lt (by omega)
  have hlow : (if n / 4096 + 224 = 0xE0 then 0xA0 else 0x80) ≤ n / 64 % 64 + 128 := by
    split <;> omega
  have hhigh : n / 64 % 64 + 128 ≤ (if n / 4096 + 224 = 0xED then 0x9F else 0xBF) := by
    split <;> omega
  have hcode : ((n / 4096 + 224 - 0xE0) * 64 + (n / 64 % 64 + 128 - 0x80)) * 64 + (n % 64 + 128 - 0x80) = n := by omega
  rw [decodeFrom_between, hlead, first_of_three (by omega), List.nil_append,
    decodeFrom_inside_succ (by rw [hsecond]; exact ⟨hlow, hhigh⟩), hsecond, decodeFrom_inside_zero (by omega), hlast, hcode]

/-- A character of four bytes is read back. -/
theorem decodeFrom_four (h : 0x10000 ≤ n ∧ n < 0x110000) :
    decodeFrom .between (UInt8.ofNat (n / 262144 % 8 + 240) :: UInt8.ofNat (n / 4096 % 64 + 128) ::
        UInt8.ofNat (n / 64 % 64 + 128) :: UInt8.ofNat (n % 64 + 128) :: rest) =
      Char.ofNat n :: decodeFrom .between rest := by
  have hlead : (UInt8.ofNat (n / 262144 % 8 + 240)).toNat = n / 262144 + 240 := by
    rw [toNat_ofNat_of_lt (by omega)]
    omega
  have hsecond : (UInt8.ofNat (n / 4096 % 64 + 128)).toNat = n / 4096 % 64 + 128 := toNat_ofNat_of_lt (by omega)
  have hthird : (UInt8.ofNat (n / 64 % 64 + 128)).toNat = n / 64 % 64 + 128 := toNat_ofNat_of_lt (by omega)
  have hlast : (UInt8.ofNat (n % 64 + 128)).toNat = n % 64 + 128 := toNat_ofNat_of_lt (by omega)
  have hlow : (if n / 262144 + 240 = 0xF0 then 0x90 else 0x80) ≤ n / 4096 % 64 + 128 := by
    split <;> omega
  have hhigh : n / 4096 % 64 + 128 ≤ (if n / 262144 + 240 = 0xF4 then 0x8F else 0xBF) := by
    split <;> omega
  have hcode : (((n / 262144 + 240 - 0xF0) * 64 + (n / 4096 % 64 + 128 - 0x80)) * 64 + (n / 64 % 64 + 128 - 0x80)) * 64 +
      (n % 64 + 128 - 0x80) = n := by omega
  rw [decodeFrom_between, hlead, first_of_four (by omega), List.nil_append,
    decodeFrom_inside_succ (by rw [hsecond]; exact ⟨hlow, hhigh⟩), hsecond, decodeFrom_inside_succ (by omega), hthird,
    decodeFrom_inside_zero (by omega), hlast, hcode]

/-- The bytes of a character are read as that character. -/
theorem decodeFrom_encodeChar (c : Char) :
    decodeFrom .between (String.utf8EncodeChar c ++ rest) = c :: decodeFrom .between rest := by
  have hvalid : c.val.toNat < 0xD800 ∨ 0xDFFF < c.val.toNat ∧ c.val.toNat < 0x110000 := c.valid
  have hc : Char.ofNat c.val.toNat = c := Char.ofNat_toNat c
  unfold String.utf8EncodeChar
  show decodeFrom .between ((if c.val.toNat ≤ 127 then _ else _) ++ rest) = _
  split
  · exact (decodeFrom_one rest (by omega)).trans (by rw [hc])
  · split
    · exact (decodeFrom_two rest (by omega)).trans (by rw [hc])
    · split
      · exact (decodeFrom_three rest (by omega) (by omega)).trans (by rw [hc])
      · exact (decodeFrom_four rest (by omega)).trans (by rw [hc])

end

/-! ## Whole texts -/

/-- The bytes of an array, from some place on. -/
theorem toList_loop_eq (bytes : ByteArray) (i : Nat) (done : List UInt8) :
    ByteArray.toList.loop bytes i done = done.reverse ++ bytes.data.toList.drop i := by
  fun_induction ByteArray.toList.loop bytes i done with
  | case1 i done h ih =>
    have hi : i < bytes.data.toList.length := by simpa using h
    rw [ih, List.drop_eq_getElem_cons hi]
    simp [ByteArray.get!, h]
  | case2 i done h =>
    have hi : bytes.data.toList.length ≤ i := by simpa using h
    rw [List.drop_eq_nil_of_le hi, List.append_nil]

/-- The bytes of a text are those of its characters, one after another. -/
theorem toList_toUTF8 (t : Text) : t.toString.toUTF8.toList = t.flatMap String.utf8EncodeChar := by
  have h : t.toString.toUTF8 = (t.flatMap String.utf8EncodeChar).toByteArray := String.toByteArray_ofList
  rw [h, ByteArray.toList, toList_loop_eq, List.toList_data_toByteArray]
  rfl

/-- The bytes of a text are read as that text. -/
theorem decode_toUTF8 (t : Text) : decode t.toString.toUTF8.toList = t := by
  rw [toList_toUTF8, decode]
  induction t with
  | nil => rfl
  | cons c t ih => rw [List.flatMap_cons, decodeFrom_encodeChar, ih]

end Utf8

/-- A file that holds a text is read as that text, with the line breaks unified. -/
theorem FileSystem.read_of_holds {files : FileSystem} {path t : Text} (hpath : '\x00' ∉ path)
    (h : files.bytes (.ofText path) = .ok t.toString.toUTF8.toList) : files.read path = .ok (Text.unifyBreaks t) := by
  have hnull : path.contains '\x00' = false := by simpa using hpath
  rw [FileSystem.read, hnull, h]
  show Except.ok (Text.unifyBreaks (Utf8.decode _)) = _
  rw [Utf8.decode_toUTF8]

/-- The files where there is one file alone, which is called "e". -/
def FileSystem.lone (bytes : List UInt8) : FileSystem := FileTree.toFileSystem [([['e']], .file bytes)]

/-- The only file of such a system has these bytes. -/
theorem FileSystem.bytes_lone (bytes : List UInt8) : (lone bytes).bytes (.ofText ['e']) = .ok bytes := by
  simp [lone, FileTree.toFileSystem, FileTree.bytes]
  rfl

/-- The files where that file holds a text. -/
def FileSystem.holding (t : Text) : FileSystem := lone t.toString.toUTF8.toList

/-- The only file of a system that holds a text has the bytes of it. -/
theorem FileSystem.bytes_holding (t : Text) : (holding t).bytes (.ofText ['e']) = .ok t.toString.toUTF8.toList :=
  bytes_lone _

end ExprLex
