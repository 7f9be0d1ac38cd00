import ExprLex.Proofs.Cover
import ExprLex.Proofs.Scanner

/-!
# The default pattern splits as the scanner does

The group around the default pattern lets every match end where it likes, so backtracking never reaches back: each
expression in it takes the first text that it offers (`Regex.Takes`). What the alternatives offer, in their order, is what
the scanner takes for a piece, and the search for the next match is the scanner's walk over the loose characters.
-/

namespace ExprLex

namespace Spot

theorem past_nil (s : Spot) : s.past [] s.rest = s := rfl

/-- Past one text and then another is past both. -/
theorem past_past (s : Spot) (t u r r' : Text) : (s.past t r).past u r' = s.past (t ++ u) r' := by
  simp [past, Nat.add_assoc]

theorem advance_eq_past (s : Spot) (c : Char) (rest : Text) : s.advance c rest = s.past [c] rest := rfl

/-- The last spot along the characters that pass a test lies behind all of them. -/
theorem getLast?_alongText (test : CharTest) (t : Text) (s : Spot) :
    (alongText test t none s).getLast? =
      if t.takeWhile test.holds = [] then some s
      else some (s.past (t.takeWhile test.holds) (t.drop (t.takeWhile test.holds).length)) := by
  induction t generalizing s with
  | nil => simp [alongText]
  | cons c rest ih =>
    by_cases hc : test.holds c = true
    · simp only [alongText, hc, Bool.not_true, Bool.or_false, decide_eq_true_eq, reduceCtorEq, if_false,
        List.getLast?_cons, Option.map_none, ih, List.takeWhile_cons_of_pos hc]
      by_cases ht : rest.takeWhile test.holds = []
      · simp [ht, advance_eq_past]
      · simp [ht, advance_eq_past, past_past]
    · simp [alongText, hc]

/-- A run has as many places to stop as it is long, and one more. -/
theorem length_alongText (test : CharTest) (t : Text) (s : Spot) :
    (alongText test t none s).length = (t.takeWhile test.holds).length + 1 := by
  induction t generalizing s with
  | nil => simp [alongText]
  | cons c rest ih =>
    by_cases hc : test.holds c = true
    · simp [alongText, hc, ih]
    · simp [alongText, hc]

end Spot

namespace Regex

/-- Where whatever follows succeeds, an expression takes the text that `first` gives for the text from the spot on, or it
does not match. -/
def Takes (r : Regex) (first : Text → Option Text) : Prop :=
  ∀ (s : Spot) (f : Spot → Spot), r.matcher s (fun next => some (f next)) =
    (first s.rest).map fun t => f (s.past t (s.rest.drop t.length))

/-- A greedy run without a limit takes all characters that pass its test, if they are enough. -/
theorem takes_run (test : CharTest) (min : Nat) :
    (Regex.run test min none true).Takes fun t =>
      if (t.takeWhile test.holds).length < min then none else some (t.takeWhile test.holds) := by
  intro s f
  have hl : ((s.along test none).drop min).getLast? = if (s.rest.takeWhile test.holds).length < min then none
      else some (s.past (s.rest.takeWhile test.holds) (s.rest.drop (s.rest.takeWhile test.holds).length)) := by
    simp only [List.getLast?_drop, Spot.along, Spot.length_alongText, Spot.getLast?_alongText, Nat.succ_le_iff]
    by_cases ht : s.rest.takeWhile test.holds = []
    · simp [ht, Spot.past_nil]
    · simp [ht]
  have hf : ∀ l : List Spot, l.findSome? (fun next => some (f next)) = l.head?.map f := by
    intro l
    cases l <;> rfl
  simp only [Regex.matcher, Matcher.run, if_true, hf, List.head?_reverse, hl]
  split <;> rfl

/-- A character is taken if it passes the test. -/
theorem takes_char (test : CharTest) :
    (Regex.char test).Takes fun
      | [] => none
      | c :: _ => if test.holds c then some [c] else none := by
  intro s f
  simp only [Regex.matcher, Spot.step?]
  split
  · rename_i hs
    simp [hs]
  · rename_i c rest hs
    rw [hs]
    by_cases hc : test.holds c = true
    · simp [hc, Spot.advance_eq_past]
    · simp [hc]

/-- A sequence whose second part matches everywhere takes what its parts take. -/
theorem Takes.seq {a b : Regex} {fa : Text → Option Text} {fb : Text → Text} (ha : a.Takes fa)
    (hb : b.Takes fun t => some (fb t)) :
    (Regex.seq a b).Takes fun t => (fa t).map fun x => x ++ fb (t.drop x.length) := by
  intro s f
  have hb' : (fun next => b.matcher next fun last => some (f last)) =
      fun next : Spot => some (f (next.past (fb next.rest) (next.rest.drop (fb next.rest).length))) := by
    funext next
    rw [hb next f]
    rfl
  simp only [Regex.matcher, hb', ha s, Option.map_map]
  congr 1
  funext x
  simp [Spot.past, Nat.add_assoc]

/-- One character and what follows it. -/
theorem Takes.charSeq {test : CharTest} {b : Regex} {fb : Text → Option Text} (hb : b.Takes fb) :
    (Regex.seq (.char test) b).Takes fun
      | [] => none
      | c :: rest => if test.holds c then (fb rest).map fun x => c :: x else none := by
  intro s f
  simp only [Regex.matcher, Spot.step?]
  split
  · rename_i hs
    simp [hs]
  · rename_i c rest hs
    rw [hs]
    by_cases hc : test.holds c = true
    · simp only [hc, if_true, Option.bind_some, hb _ f, Option.map_map]
      congr 1
      funext x
      simp [Spot.advance_eq_past, Spot.past, Nat.add_assoc, Nat.add_comm 1]
    · simp [hc]

/-- The second alternative is taken where the first one does not match. -/
theorem Takes.either {a b : Regex} {fa fb : Text → Option Text} (ha : a.Takes fa) (hb : b.Takes fb) :
    (Regex.either a b).Takes fun t => (fa t).or (fb t) := by
  intro s f
  simp only [Regex.matcher, ha s, hb s]
  cases fa s.rest <;> rfl

/-- What may be left out is taken where it matches. -/
theorem Takes.optional {a : Regex} {fa : Text → Option Text} (ha : a.Takes fa) :
    (Regex.rounds a 0 (some 1) true).Takes fun t => some ((fa t).getD []) := by
  intro s f
  have hm : Matcher.most a.matcher 0 (some s.position) = fun next k => k next := rfl
  simp only [Regex.matcher, Matcher.repeated, Matcher.exactly, if_true, Nat.sub_zero, Matcher.most, reduceCtorEq, if_false,
    ha s]
  cases fa s.rest <;> rfl

/-- What is taken may be told in other words. -/
theorem Takes.congr {a : Regex} {f g : Text → Option Text} (ha : a.Takes f) (h : ∀ t, f t = g t) : a.Takes g := by
  intro s k
  rw [ha s k, h]

/-- A match that goes on to the end takes what the expression takes. -/
theorem Takes.matchAt_group {a : Regex} {fa : Text → Option Text} (ha : a.Takes fa) (index : Nat) (s : Spot) :
    (Regex.group index a).matchAt s =
      (fa s.rest).map fun t => (s.past t (s.rest.drop t.length)).capture index (s.rest.take t.length) := by
  rw [Regex.matchAt, Regex.matcher, ha s]
  simp [Spot.past]

end Regex

/-! ## The alternatives of the default pattern -/

namespace Pattern.Default

/-- A shorthand stands for the class that it is told by. -/
theorem holds_classOf {s : Shorthand} {p : Char → Bool} (h : ∀ c, s.holds c = p c) : (classOf s).holds = p := by
  funext c
  simp [classOf, CharTest.holds, SetItem.holds, h]

theorem holds_space : (classOf .space).holds = isWhitespace := holds_classOf fun _ => rfl

theorem holds_digit : (classOf .digit).holds = isDigit := holds_classOf fun _ => rfl

theorem holds_word : (classOf .word).holds = isWord := holds_classOf fun _ => rfl

/-- A test on a code point is a test on the character that has it. -/
theorem toNat_beq (c d : Char) : (c.toNat == d.toNat) = (c == d) := by
  rw [Bool.eq_iff_iff, beq_iff_eq, beq_iff_eq, Char.toNat_inj]

/-- The set of signs of the default pattern. -/
theorem holds_symbol (c : Char) :
    (CharTest.set false [.code '+'.toNat, .code '-'.toNat, .code '*'.toNat, .code '/'.toNat, .code '('.toNat,
      .code ')'.toNat, .code ','.toNat]).holds c = isSymbol c := by
  simp only [CharTest.holds, SetItem.holds, List.any_cons, List.any_nil, toNat_beq, isSymbol]
  simp [Bool.or_assoc]

/-- Its set of characters that names start with. -/
theorem holds_nameHead (c : Char) :
    (CharTest.set false [.range 'A'.toNat 'Z'.toNat, .range 'a'.toNat 'z'.toNat, .code '_'.toNat]).holds c =
      isNameHead c := by
  simp only [CharTest.holds, SetItem.holds, List.any_cons, List.any_nil, toNat_beq, isNameHead, isAsciiLetter]
  have hle : ∀ a b : Char, decide (a.toNat ≤ b.toNat) = decide (a ≤ b) := fun a b => rfl
  simp only [hle]
  simp [Bool.or_comm, Bool.or_left_comm]

/-- A run of characters of a class, one at least, is what a text starts with if its first character is of the class. -/
theorem takes_run_class {test : CharTest} {p : Char → Bool} (h : test.holds = p) :
    (Regex.run test 1 none true).Takes fun
      | [] => none
      | c :: rest => if p c then some (c :: rest.takeWhile p) else none := by
  refine (Regex.takes_run test 1).congr fun t => ?_
  rw [h]
  cases t with
  | nil => rfl
  | cons c rest =>
    by_cases hc : p c = true
    · simp [hc]
    · simp [hc]

/-- A fraction is a point and at least one digit. -/
theorem takes_fraction : fraction.Takes fun t => if (pointAndDigits t).isEmpty then none else some (pointAndDigits t) := by
  refine (Regex.Takes.charSeq (takes_run_class holds_digit)).congr fun t => ?_
  cases t with
  | nil => rfl
  | cons c rest =>
    simp only [CharTest.holds, toNat_beq, beq_iff_eq]
    by_cases hc : c = '.'
    · subst hc
      cases rest with
      | nil => rfl
      | cons d more =>
        by_cases hd : isDigit d = true
        · simp [pointAndDigits, hd]
        · simp [pointAndDigits, hd]
    · simp [pointAndDigits, hc]

/-- A number is digits with a fraction or without, or a fraction alone. -/
theorem takes_number : number.Takes fun
    | [] => none
    | c :: rest =>
      if isDigit c then some (c :: rest.takeWhile isDigit ++ pointAndDigits (rest.dropWhile isDigit)) else none := by
  refine ((takes_run_class holds_digit).seq takes_fraction.optional).congr fun t => ?_
  cases t with
  | nil => rfl
  | cons c rest =>
    by_cases hc : isDigit c = true
    · have hd : (if (pointAndDigits (rest.dropWhile isDigit)).isEmpty then none
          else some (pointAndDigits (rest.dropWhile isDigit))).getD [] = pointAndDigits (rest.dropWhile isDigit) := by
        split
        · rename_i he
          exact (List.isEmpty_iff.mp he).symm
        · rfl
      simp only [hc, if_true, Option.map_some, List.length_cons, List.drop_succ_cons, drop_length_takeWhile, hd]
    · simp [hc]

/-- A name is a letter or a low line and all the word characters behind. -/
theorem takes_identifier : identifier.Takes fun
    | [] => none
    | c :: rest => if isNameHead c then some (c :: rest.takeWhile isWord) else none := by
  refine (Regex.Takes.charSeq (Regex.takes_run (classOf .word) 0)).congr fun t => ?_
  cases t with
  | nil => rfl
  | cons c rest => simp only [holds_nameHead, holds_word, Nat.not_lt_zero, if_false, Option.map_some]

/-- The alternatives of the default pattern, in their order, take the piece that the text starts with. -/
theorem takes_choice :
    (Regex.choice [spaces, symbol, number, fraction, identifier]).Takes fun t => (piece? t).map (·.text) := by
  refine ((takes_run_class holds_space).either ((Regex.takes_char _).either
    (takes_number.either (takes_fraction.either takes_identifier)))).congr fun t => ?_
  cases t with
  | nil => rfl
  | cons c rest =>
    simp only [piece?, holds_symbol]
    by_cases hw : isWhitespace c = true
    · simp [hw]
    by_cases hs : isSymbol c = true
    · simp [hw, hs]
    by_cases hd : isDigit c = true
    · simp [hw, hs, hd]
    by_cases hp : (pointAndDigits (c :: rest)).isEmpty = true
    · by_cases hn : isNameHead c = true
      · simp [hw, hs, hd, hp, hn]
      · simp [hw, hs, hd, hp, hn]
    · simp [hw, hs, hd, hp]

/-- The match of the default pattern at a spot takes the piece that starts there. -/
theorem matchAt_regex (s : Spot) : Pattern.default.regex.matchAt s = (piece? s.rest).map fun p =>
    (s.past p.text (s.rest.drop p.text.length)).capture 1 (s.rest.take p.text.length) := by
  rw [show Pattern.default.regex = .group 1 (Regex.choice [spaces, symbol, number, fraction, identifier]) from rfl,
    takes_choice.matchAt_group 1 s, Option.map_map]
  rfl

end Pattern.Default

/-! ## The cut of the default pattern -/

namespace Pattern

/-- The texts of a cut that are there and not empty. -/
def kept (pieces : List (Option Text)) : List Text := pieces.filterMap fun piece => piece.filter (!·.isEmpty)

/-- Of the pieces between matches the empty ones are dropped. -/
theorem kept_cons (t : Text) (later : List (Option Text)) :
    kept (some t :: later) = [t].filter (!·.isEmpty) ++ kept later := by
  cases t with
  | nil => rfl
  | cons c t =>
    have hf : (some (c :: t)).filter (fun t : Text => !t.isEmpty) = some (c :: t) := by simp
    rw [kept, List.filterMap_cons_some hf]
    rfl

/-- The search for the next match walks over the loose start of the text, and what it finds then are the pieces behind it.
The induction follows the search. -/
theorem cutFrom_default (skip : Nat) (passed : Text) (position : Nat) (t : Text) :
    (Pattern.default.regex.cutFrom 1 skip passed position t).1 = (cutLoose (pieces (t.drop skip))).1 ∧
      kept (Pattern.default.regex.cutFrom 1 skip passed position t).2 =
        (cutLoose (pieces (t.drop skip))).2.map (·.text) := by
  induction t generalizing skip passed position with
  | nil =>
    simp only [Regex.cutFrom, Default.matchAt_regex, piece?, Option.map_none, List.drop_nil, pieces_nil]
    exact ⟨rfl, rfl⟩
  | cons c rest ih =>
    cases skip with
    | succ skip => exact ih skip _ _
    | zero =>
      simp only [Regex.cutFrom, Default.matchAt_regex, List.drop_zero]
      cases hp : piece? (c :: rest) with
      | none =>
        obtain ⟨h1, h2⟩ := ih 0 (c :: passed) (position + 1)
        rw [List.drop_zero] at h1 h2
        rw [pieces_of_loose hp]
        exact ⟨congrArg (c :: ·) h1, h2⟩
      | some p =>
        obtain ⟨hshape, more, htext⟩ := piece?_eq_some hp
        have hlen : 0 < p.text.length := by simp [htext]
        have hne : ¬ position + p.text.length = position := by omega
        have hlast : position + p.text.length - position - 1 = p.text.length - 1 := by omega
        have htake : (c :: rest).take p.text.length = p.text :=
          (List.prefix_iff_eq_take.mp (text_prefix_of_piece? hp)).symm
        obtain ⟨h1, h2⟩ := ih (p.text.length - 1) (c :: passed) (position + 1)
        simp only [Option.map_some, Spot.capture, Spot.past, hne, if_false, hlast, htake]
        rw [pieces_of_piece? hp, cutLoose_cons hshape]
        refine ⟨rfl, ?_⟩
        rw [show Spot.groupTexts _ 1 = [some p.text] from rfl, List.singleton_append, kept_cons, kept_cons, h1, h2,
          ← map_text_cutLoose fun q hq => text_ne_nil_of_mem_pieces hq]
        simp [htext]

/-- The fragments of a text under the default pattern are the lexemes that the scanner finds. -/
theorem fragments_default (t : Text) : Pattern.default.fragments t = scan t := by
  obtain ⟨h1, h2⟩ := cutFrom_default 0 [] 0 t
  rw [List.drop_zero] at h1 h2
  have hcut : Pattern.default.fragments t = kept (some (Pattern.default.regex.cutFrom 1 0 [] 0 t).1 ::
      (Pattern.default.regex.cutFrom 1 0 [] 0 t).2) := rfl
  rw [hcut, kept_cons, h2, h1, scan, ← map_text_cutLoose fun q hq => text_ne_nil_of_mem_pieces hq]

end Pattern

/-- The default pattern splits every non-empty expression into the lexemes that the scanner finds. -/
theorem split_default_eq_scan (s : Text) (hs : s ≠ []) : splitExpression (some s) (.pattern .default) = .ok (scan s) := by
  rw [← Pattern.fragments_default]
  cases s with
  | nil => exact absurd rfl hs
  | cons c t => rfl

/-- Points, digits of two scripts, and word characters that start no name, in contact with each other. -/
theorem split_default_points :
    splitExpression (some "1..2.3²a٣.٤_9.".toList) (.pattern .default) = .ok (scan "1..2.3²a٣.٤_9.".toList) ∧
      scan "1..2.3²a٣.٤_9.".toList = ["1", ".", ".2", ".3", "²", "a٣", ".٤", "_9", "."].map String.toList := by
  have hsplit : splitExpression (some "1..2.3²a٣.٤_9.".toList) (.pattern .default) =
      .ok (["1", ".", ".2", ".3", "²", "a٣", ".٤", "_9", "."].map String.toList) := rfl
  have hscan := split_default_eq_scan "1..2.3²a٣.٤_9.".toList (by decide)
  exact ⟨hscan, Except.ok.inj (hscan.symm.trans hsplit)⟩

end ExprLex
