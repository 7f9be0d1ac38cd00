import ExprLex.Text.Quoted

/-!
# Raw texts

What a client sends for a text may hold surrogates on their own. They are code points, but they stand for no character, and
an encoding has no bytes for them. So what was sent is a text only if there are none; to encode anything else fails at the
first surrogate.
-/

namespace ExprLex

/-- A code point that stands for no character. -/
structure Surrogate where
  code : Nat
  isSurrogate : 0xD800 ≤ code ∧ code ≤ 0xDFFF
  deriving DecidableEq, Repr

/-- A code point, as it may be sent. -/
inductive Letter where
  | char (c : Char)
  | surrogate (s : Surrogate)
  deriving DecidableEq, Repr

namespace Letter

/-- The code point itself. -/
def toNat : Letter → Nat
  | .char c => c.toNat
  | .surrogate s => s.code

/-- The character that a code point is shown as. -/
def shown : Letter → Char
  | .char c => c
  | .surrogate _ => '\ufffd'

def isSurrogate : Letter → Bool
  | .char _ => false
  | .surrogate _ => true

end Letter

/-- What was sent for a text. -/
abbrev RawText : Type := List Letter

namespace RawText

/-- A text, sent as it is. -/
@[coe] def ofText (t : Text) : RawText := t.map .char

instance : Coe Text RawText := ⟨ofText⟩

/-- The text that is shown in its place: the replacement character stands for each surrogate. -/
def shown (s : RawText) : Text := s.map Letter.shown

/-- A text is shown as it is. -/
@[simp] theorem shown_ofText (t : Text) : shown (ofText t) = t := by
  rw [shown, ofText, List.map_map]
  exact List.map_id t

/-- A text is sent in its own way. -/
theorem ofText_injective {t u : Text} (h : ofText t = ofText u) : t = u := by
  rw [← shown_ofText t, h, shown_ofText]

/-- The lines, as those of a document. -/
def lines (s : RawText) : List RawText := Text.splitWhere (· == .char '\n') s

theorem joinFirst_char (c : Char) (pieces : List Text) :
    Text.joinFirst (.char c) (pieces.map ofText) = (Text.joinFirst c pieces).map ofText := by
  cases pieces with
  | nil => rfl
  | cons piece rest => rfl

/-- The lines of a text are texts. -/
theorem lines_ofText (t : Text) : lines (ofText t) = (Text.splitOn '\n' t).map ofText := by
  induction t with
  | nil => rfl
  | cons c t ih =>
    have hfeed : (Letter.char c == Letter.char '\n') = (c == '\n') := by
      rw [Bool.eq_iff_iff, beq_iff_eq, beq_iff_eq, Letter.char.injEq]
    show (if Letter.char c == .char '\n' then [] :: lines (ofText t) else Text.joinFirst (.char c) (lines (ofText t))) =
      (if c == '\n' then [] :: Text.splitOn '\n' t else Text.joinFirst c (Text.splitOn '\n' t)).map ofText
    rw [hfeed, ih]
    split
    · rfl
    · exact joinFirst_char c _

/-! ## Encoding -/

/-- Why something cannot be encoded: the first surrogate in it, its offset, and how many stand there one after another. -/
structure EncodingError where
  surrogate : Surrogate
  offset : Nat
  count : Nat
  deriving DecidableEq, Repr

/-- The wording of an error. -/
def EncodingError.message (e : EncodingError) : String :=
  "'utf-8' codec can't encode " ++
    (if e.count = 1 then
      "character '" ++ String.ofList (Text.escapeCode e.surrogate.code) ++ "' in position " ++ toString e.offset
    else "characters in position " ++ toString e.offset ++ "-" ++ toString (e.offset + e.count - 1)) ++
    ": surrogates not allowed"

/-- What is encoded, if it can be. `offset` code points were read before. -/
def encodeFrom (offset : Nat) : RawText → Except EncodingError Text
  | [] => .ok []
  | .char c :: s => (encodeFrom (offset + 1) s).map (c :: ·)
  | .surrogate x :: s => .error ⟨x, offset, (s.takeWhile Letter.isSurrogate).length + 1⟩

/-- The text that is encoded, unless there is a surrogate. Different texts are encoded differently, so the text itself stands
for its bytes. -/
def encode (s : RawText) : Except EncodingError Text := encodeFrom 0 s

/-- From every offset a text can be encoded. -/
theorem encodeFrom_ofText (offset : Nat) (t : Text) : encodeFrom offset (ofText t) = .ok t := by
  induction t generalizing offset with
  | nil => rfl
  | cons c t ih =>
    show (encodeFrom (offset + 1) (ofText t)).map (c :: ·) = _
    rw [ih]
    rfl

/-- Every text can be encoded. -/
@[simp] theorem encode_ofText (t : Text) : encode (ofText t) = .ok t := encodeFrom_ofText 0 t

/-- And what is encoded was that text. -/
theorem eq_ofText_of_encodeFrom {offset : Nat} {s : RawText} {t : Text} (h : encodeFrom offset s = .ok t) : s = ofText t := by
  induction s generalizing offset t with
  | nil =>
    cases h
    rfl
  | cons a s ih =>
    cases a with
    | surrogate x => cases h
    | char c =>
      rw [encodeFrom] at h
      cases hs : encodeFrom (offset + 1) s with
      | error e =>
        rw [hs] at h
        cases h
      | ok rest =>
        rw [hs] at h
        cases h
        rw [ih hs]
        rfl

/-- Nothing else can. -/
theorem encode_eq_ok_iff {s : RawText} {t : Text} : encode s = .ok t ↔ s = ofText t := by
  refine ⟨eq_ofText_of_encodeFrom, ?_⟩
  rintro rfl
  exact encode_ofText t

/-! ## Texts among what is sent -/

/-- What was sent is a text. -/
def IsText (s : RawText) : Prop := ∃ t, s = ofText t

theorem isText_ofText (t : Text) : IsText (ofText t) := ⟨t, rfl⟩

/-- It is one if there is no surrogate in it. -/
theorem isText_iff (s : RawText) : s.IsText ↔ ∀ a ∈ s, a.isSurrogate = false := by
  constructor
  · rintro ⟨t, rfl⟩ a ha
    obtain ⟨c, -, rfl⟩ := List.mem_map.mp ha
    rfl
  · intro h
    refine ⟨s.shown, ?_⟩
    induction s with
    | nil => rfl
    | cons a s ih =>
      have hs := ih fun b hb => h b (List.mem_cons_of_mem a hb)
      cases a with
      | char c => exact congrArg (Letter.char c :: ·) hs
      | surrogate x => cases h _ List.mem_cons_self

instance (s : RawText) : Decidable s.IsText := decidable_of_iff _ (isText_iff s).symm

/-- What is no text cannot be encoded. -/
theorem exists_encode_eq_error_iff {s : RawText} : (∃ e, s.encode = .error e) ↔ ¬ s.IsText := by
  cases h : s.encode with
  | ok t => exact iff_of_false nofun (not_not_intro ⟨t, encode_eq_ok_iff.mp h⟩)
  | error e =>
    refine iff_of_true ⟨e, rfl⟩ ?_
    rintro ⟨t, rfl⟩
    cases h.symm.trans (encode_ofText t)

/-! ## Display -/

/-- How one code point is written between the given marks. -/
def quoteLetter (mark : Char) : Letter → Text
  | .char c => Text.quoteChar mark c
  | .surrogate s => Text.escapeCode s.code

/-- The quoted form, marks included. It has an escape for each surrogate, so it is a text. -/
def quote (s : RawText) : Text :=
  let mark := Text.quoteMark s.shown
  mark :: s.flatMap (quoteLetter mark) ++ [mark]

/-- The quoted form as a string. -/
def quoted (s : RawText) : String := String.ofList (quote s)

/-- A text is quoted in the same way. -/
theorem quote_ofText (t : Text) : quote (ofText t) = t.quote := by
  rw [quote, shown_ofText, Text.quote, ofText, List.flatMap_map]
  rfl

/-- What was sent, in the order of the code points. -/
def sorted (ss : List RawText) : List RawText := ss.mergeSort (Text.isUpToBy Letter.toNat)

end RawText

end ExprLex
