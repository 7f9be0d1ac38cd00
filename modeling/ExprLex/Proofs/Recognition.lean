import ExprLex.Proofs.Diagnosed
import Mathlib.Data.List.Chain
import Mathlib.Data.List.TakeWhile

/-!
# What is matched is recognised

The default pattern and the classification of lexemes use the same regular expressions in two ways: the pattern is searched
for in an expression, and a lexeme is tested as a whole. The two agree. What an alternative of the pattern matches is of the
kind that the alternative stands for; what is left between the matches is never a number or a name, so it is unknown unless
it is a function name. With the well-known function names, unknown tokens are loose text, and no two of them touch.
-/

namespace ExprLex

/-! ## Alternatives that take a whole text -/

namespace Regex

/-- The preferred match of an expression at the start of a text takes all of it. -/
def Spans (r : Regex) (t : Text) : Prop := ∃ found, r.matchAt ⟨[], t, 0, []⟩ = some found ∧ found.rest = []

/-- An expression whose match takes the start of a text spans the text where this is all of it. -/
theorem Takes.spans_iff {r : Regex} {first : Text → Option Text} (h : r.Takes first) (t : Text) :
    r.Spans t ↔ first t = some t := by
  have hmatch : r.matchAt ⟨[], t, 0, []⟩ = (first t).map fun x => Spot.past ⟨[], t, 0, []⟩ x (t.drop x.length) :=
    h ⟨[], t, 0, []⟩ id
  constructor
  · rintro ⟨found, hf, hrest⟩
    obtain ⟨taken, ht, hpassed, -⟩ := r.matcher_sound.ahead hf
    rw [hmatch, Option.map_eq_some_iff] at hf
    obtain ⟨x, hx, rfl⟩ := hf
    have hxt : x = taken := by simpa [Spot.past] using hpassed
    rw [hrest, List.append_nil] at ht
    rw [hx, hxt, ← ht]
  · intro hx
    rw [hx] at hmatch
    exact ⟨_, hmatch, List.drop_length⟩

end Regex

namespace Pattern.Default

/-- Whitespace is taken whole. -/
theorem spans_spaces (t : Text) : spaces.Spans t ↔ t ≠ [] ∧ ∀ c ∈ t, isWhitespace c = true := by
  rw [spaces, (takes_run_class holds_space).spans_iff]
  cases t with
  | nil => simp
  | cons c rest =>
    by_cases hc : isWhitespace c = true
    · simp [hc, List.takeWhile_eq_self_iff]
    · simp [hc]

/-- A sign is taken by itself. -/
theorem spans_symbol (t : Text) : symbol.Spans t ↔ ∃ c, t = [c] ∧ isSymbol c = true := by
  rw [symbol, (Regex.takes_char _).spans_iff]
  cases t with
  | nil => simp
  | cons c rest =>
    simp only [holds_symbol]
    by_cases hc : isSymbol c = true
    · rw [if_pos hc, Option.some.injEq, List.cons.injEq, List.nil_eq]
      constructor
      · rintro ⟨-, rfl⟩
        exact ⟨c, rfl, hc⟩
      · rintro ⟨d, h, -⟩
        exact ⟨rfl, (List.cons.inj h).2⟩
    · rw [if_neg hc]
      refine iff_of_false nofun ?_
      rintro ⟨d, h, hd⟩
      cases h
      exact hc hd

/-- The alternatives for numbers span the texts that are numbers. -/
theorem spans_number_or_fraction (t : Text) : number.Spans t ∨ fraction.Spans t ↔ Lexeme.isNumber t = true := by
  rw [takes_number.spans_iff, takes_fraction.spans_iff]
  constructor
  · rintro (h | h)
    · cases t with
      | nil => cases h
      | cons c rest =>
        dsimp only at h
        split at h
        · rename_i hc
          rw [← Option.some.inj h]
          exact isNumber_digits hc rest
        · cases h
    · split at h
      · cases h
      · rename_i hne
        rw [← Option.some.inj h]
        exact isNumber_pointAndDigits (by simpa using hne)
  · intro h
    rcases (isNumber_iff t).mp h with ⟨hne, hds⟩ | ⟨ds, fs, rfl, hds, hne, hfs⟩
    -- with digits in front the first alternative takes the number, and with the point in front the second does
    · obtain ⟨c, rest, rfl⟩ := List.exists_cons_of_ne_nil hne
      have hrest : ∀ d ∈ rest, isDigit d = true := fun d hd => hds d (List.mem_cons_of_mem _ hd)
      refine Or.inl ?_
      dsimp only
      rw [if_pos (hds c List.mem_cons_self), List.takeWhile_eq_self_iff.mpr hrest, List.dropWhile_eq_nil_iff.mpr hrest]
      simp [pointAndDigits]
    · have hpoint : pointAndDigits ('.' :: fs) = '.' :: fs := by
        obtain ⟨f, more, rfl⟩ := List.exists_cons_of_ne_nil hne
        simp [pointAndDigits, hfs f List.mem_cons_self, List.takeWhile_eq_self_iff.mpr hfs]
      cases ds with
      | nil =>
        refine Or.inr ?_
        rw [List.nil_append, hpoint]
        rfl
      | cons c ds =>
        have hrest : ∀ d ∈ ds, isDigit d = true := fun d hd => hds d (List.mem_cons_of_mem _ hd)
        refine Or.inl ?_
        dsimp only [List.cons_append]
        rw [if_pos (hds c List.mem_cons_self), List.takeWhile_append_of_pos hrest, List.dropWhile_append_of_pos hrest]
        simp [isDigit_point, hpoint]

/-- A name is taken whole. -/
theorem spans_identifier (t : Text) : identifier.Spans t ↔ Lexeme.isIdentifier t = true := by
  rw [takes_identifier.spans_iff]
  cases t with
  | nil => simp [Lexeme.isIdentifier]
  | cons c rest =>
    rw [isIdentifier_cons]
    by_cases hc : isNameHead c = true
    · simp [hc, List.takeWhile_eq_self_iff]
    · simp [hc]

end Pattern.Default

/-! ## The cut, match by match -/

namespace Pattern

/-- A match of a cut, and the text that is left behind it up to the next match or to the end. -/
structure Round where
  matched : Text
  left : Text
  deriving DecidableEq, Repr

/-- The entries of a round in the cut of a pattern with one group. -/
def Round.entries (r : Round) : List (Option Text) := [some r.matched, some r.left]

/-- A text that a proper piece which is not loose has. -/
def Found (t : Text) : Prop := ∃ p : Piece, p.Proper ∧ p.shape ≠ .loose ∧ p.text = t

/-- What is left between matches is made of loose characters. -/
theorem isLoose_of_mem_cutFrom (skip : Nat) (passed : Text) (position : Nat) (t : Text) :
    ∀ c ∈ (Pattern.default.regex.cutFrom 1 skip passed position t).1, isLoose c = true := by
  rw [(cutFrom_default skip passed position t).1]
  exact isLoose_of_mem_cutLoose (proper_of_mem_pieces _)

/-- Behind the first match the cut of the default pattern goes on in rounds. The induction follows the search. -/
theorem exists_rounds_cutFrom (skip : Nat) (passed : Text) (position : Nat) (t : Text) : ∃ rounds : List Round,
    (Pattern.default.regex.cutFrom 1 skip passed position t).2 = rounds.flatMap Round.entries ∧
      ∀ r ∈ rounds, Found r.matched ∧ ∀ c ∈ r.left, isLoose c = true := by
  induction t generalizing skip passed position with
  | nil =>
    refine ⟨[], ?_, by simp⟩
    simp only [Regex.cutFrom, Default.matchAt_regex, piece?, Option.map_none]
    rfl
  | cons c rest ih =>
    cases skip with
    | succ skip => exact ih skip _ _
    | zero =>
      simp only [Regex.cutFrom, Default.matchAt_regex]
      cases hp : piece? (c :: rest) with
      | none => exact ih 0 _ _
      | some p =>
        obtain ⟨hshape, more, htext⟩ := piece?_eq_some hp
        have hne : ¬ position + p.text.length = position := by simp [htext]
        have htake : (c :: rest).take p.text.length = p.text :=
          (List.prefix_iff_eq_take.mp (text_prefix_of_piece? hp)).symm
        have hlast : position + p.text.length - position - 1 = p.text.length - 1 := by omega
        obtain ⟨rounds, hrounds, hall⟩ := ih (p.text.length - 1) (c :: passed) (position + 1)
        refine ⟨⟨p.text, (Pattern.default.regex.cutFrom 1 (p.text.length - 1) (c :: passed) (position + 1) rest).1⟩ ::
          rounds, ?_, ?_⟩
        · simp only [Option.map_some, Spot.capture, Spot.past, hne, if_false, hlast, htake, hrounds]
          rfl
        · intro r hr
          rcases List.mem_cons.mp hr with rfl | hr
          · exact ⟨⟨p, proper_of_piece? hp, hshape, rfl⟩, isLoose_of_mem_cutFrom _ _ _ _⟩
          · exact hall r hr

end Pattern

/-! ## The kinds of what is found -/

/-- The kinds of the symbols: the operators that are no function names, and the punctuation. -/
def Kind.isOfSymbol : Kind → Bool
  | .operator o => o != .function
  | .punctuation _ => true
  | _ => false

section

variable (functions : Registry) (previous : Option Token)

theorem kindOf_symbol {c : Char} (h : isSymbol c = true) :
    ((Rules.ofFunctions functions).kindOf previous [c]).isOfSymbol = true := by
  have hsign : ∀ o o' : Operator, o ≠ .function → o' ≠ .function →
      (Kind.operator (if isSignContext previous then o else o')).isOfSymbol = true := by
    intro o o' ho ho'
    cases isSignContext previous <;> simpa [Kind.isOfSymbol]
  rcases eq_of_isSymbol h with rfl | rfl | rfl | rfl | rfl | rfl | rfl
  · exact hsign _ _ nofun nofun
  · exact hsign _ _ nofun nofun
  · rfl
  · rfl
  · rfl
  · rfl
  · rfl

theorem kindOf_number {t : Text} (h : Lexeme.isNumber t = true) :
    (Rules.ofFunctions functions).kindOf previous t = .operand .number := by
  rw [Rules.kindOf_of_not_symbol]
  · simp [Rules.ofFunctions, h]
  · rintro c rfl
    rcases head_of_isNumber h with hd | rfl
    · exact (classes_of_isDigit hd).2.1
    · decide

/-- A name is a function if it is registered, and else an operand. -/
theorem kindOf_identifier {t : Text} (h : Lexeme.isIdentifier t = true) :
    (Rules.ofFunctions functions).kindOf previous t =
      if functions.contains t then .operator .function else .operand .name := by
  obtain ⟨c, rest, rfl⟩ : ∃ c rest, t = c :: rest := by
    cases t with
    | nil => cases h
    | cons c rest => exact ⟨c, rest, rfl⟩
  have hc : isNameHead c = true := by
    rw [isIdentifier_cons, Bool.and_eq_true] at h
    exact h.1
  obtain ⟨-, hs, hd, -, hp⟩ := classes_of_isNameHead hc
  have hn : Lexeme.isNumber (c :: rest) = false := by
    rw [Bool.eq_false_iff]
    intro hn
    rcases head_of_isNumber hn with hd' | rfl
    · rw [hd] at hd'
      cases hd'
    · exact hp rfl
  rw [Rules.kindOf_of_not_symbol _ _ (by rintro d he; cases he; exact hs)]
  simp [Rules.ofFunctions, Rules.isFunction, hn, h]

end

open Pattern.Default in
/-- How a text that the default pattern matches is classified, behind every token: by the alternative that it is a match
of. -/
structure Recognised (functions : Registry) (t : Text) : Prop where
  alternative : spaces.Spans t ∨ symbol.Spans t ∨ (number.Spans t ∨ fraction.Spans t) ∨ identifier.Spans t
  blank_of_spaces : spaces.Spans t → Text.isBlank t = true
  kind_of_symbol : symbol.Spans t → ∀ previous, ((Rules.ofFunctions functions).kindOf previous t).isOfSymbol = true
  kind_of_number : number.Spans t ∨ fraction.Spans t → ∀ previous,
    (Rules.ofFunctions functions).kindOf previous t = .operand .number
  kind_of_identifier : identifier.Spans t → ∀ previous, (Rules.ofFunctions functions).kindOf previous t =
    if functions.contains t then .operator .function else .operand .name

open Pattern.Default in
/-- What is matched is recognised, whatever names are registered. -/
theorem Pattern.Found.recognised {t : Text} (h : Found t) (functions : Registry) : Recognised functions t := by
  refine ⟨?_, fun hs => ?_, fun hs previous => ?_, fun hs previous => ?_, fun hs previous => ?_⟩
  · obtain ⟨p, hp, hshape, rfl⟩ := h
    cases hp with
    | space hne hw => exact Or.inl ((spans_spaces _).mpr ⟨hne, hw⟩)
    | symbol hc => exact Or.inr (Or.inl ((spans_symbol _).mpr ⟨_, rfl, hc⟩))
    | number hn => exact Or.inr (Or.inr (Or.inl ((spans_number_or_fraction _).mpr hn)))
    | name hi => exact Or.inr (Or.inr (Or.inr ((spans_identifier _).mpr hi)))
    | loose => exact absurd rfl hshape
  · exact List.all_eq_true.mpr ((spans_spaces t).mp hs).2
  · obtain ⟨c, rfl, hc⟩ := (spans_symbol t).mp hs
    exact kindOf_symbol functions previous hc
  · exact kindOf_number functions previous ((spans_number_or_fraction t).mp hs)
  · exact kindOf_identifier functions previous ((spans_identifier t).mp hs)

/-! ## Loose text apart from loose text -/

/-- A proper piece that is not loose has a character that is not loose. -/
theorem Piece.Proper.exists_not_loose {p : Piece} (h : p.Proper) (hs : p.shape ≠ .loose) :
    ∃ c ∈ p.text, isLoose c = false := by
  cases h with
  | @space t hne hw =>
    obtain ⟨c, rest, rfl⟩ := List.exists_cons_of_ne_nil hne
    exact ⟨c, List.mem_cons_self, (skip_of_isWhitespace (hw c List.mem_cons_self)).1⟩
  | symbol hc => exact ⟨_, List.mem_cons_self, (skip_of_isSymbol hc).1⟩
  | @number t hn =>
    rcases (isNumber_iff t).mp hn with ⟨hne, hds⟩ | ⟨ds, fs, rfl, -, hne, hfs⟩
    · obtain ⟨c, rest, rfl⟩ := List.exists_cons_of_ne_nil hne
      exact ⟨c, List.mem_cons_self, (skip_of_isDigit (hds c List.mem_cons_self)).1⟩
    · obtain ⟨f, more, rfl⟩ := List.exists_cons_of_ne_nil hne
      exact ⟨f, by simp, (skip_of_isDigit (hfs f List.mem_cons_self)).1⟩
  | @name t hi =>
    cases t with
    | nil => cases hi
    | cons c rest =>
      rw [isIdentifier_cons, Bool.and_eq_true] at hi
      exact ⟨c, List.mem_cons_self, by simp [isLoose, hi.1]⟩
  | loose => exact absurd rfl hs

/-- No loose piece follows another one. -/
def LooseApart (ps : List Piece) : Prop := ps.IsChain fun p q => p.shape = .loose → q.shape ≠ .loose

/-- Loose characters stay apart behind a piece that is none. -/
theorem LooseApart.cons_cutLoose {ps : List Piece} (h : LooseApart ps) (p : Piece) : LooseApart (p :: (cutLoose ps).2) := by
  match ps, h with
  | [], _ => exact List.IsChain.singleton p
  | ⟨.loose, run⟩ :: [], _ => exact List.IsChain.singleton p
  | ⟨.loose, run⟩ :: q :: more, h =>
    obtain ⟨hq, hmore⟩ := List.isChain_cons_cons.mp h
    exact List.isChain_cons_cons.mpr ⟨fun _ => hq rfl, hmore⟩
  | ⟨.space, t⟩ :: more, h => exact List.isChain_cons_cons.mpr ⟨nofun, h⟩
  | ⟨.symbol, t⟩ :: more, h => exact List.isChain_cons_cons.mpr ⟨nofun, h⟩
  | ⟨.number, t⟩ :: more, h => exact List.isChain_cons_cons.mpr ⟨nofun, h⟩
  | ⟨.name, t⟩ :: more, h => exact List.isChain_cons_cons.mpr ⟨nofun, h⟩

/-- The scanner puts loose characters that follow each other into one piece. -/
theorem looseApart_pieces (t : Text) : LooseApart (pieces t) := by
  fun_induction pieces t with
  | case1 => exact List.IsChain.nil
  | case2 c rest p hp ih =>
    cases hps : pieces (rest.drop (p.text.length - 1)) with
    | nil => exact List.IsChain.singleton p
    | cons q more =>
      rw [hps] at ih
      exact List.isChain_cons_cons.mpr ⟨fun h => absurd h (piece?_eq_some hp).1, ih⟩
  | case3 c rest hp ih => exact ih.cons_cutLoose _

/-- Loose text. -/
def AllLoose (t : Text) : Prop := ∀ c ∈ t, isLoose c = true

/-- Where no loose piece follows another one, there is a gap between two lexemes of loose text. -/
theorem layOut_loose_apart {ps : List Piece} (hp : ∀ p ∈ ps, p.Proper) (h : LooseApart ps) (offset : Nat) :
    (Lexeme.layOut offset (ps.map (·.text))).Pairwise fun a b =>
      AllLoose a.text → AllLoose b.text → a.stop < b.offset := by
  induction ps generalizing offset with
  | nil => exact .nil
  | cons p rest ih =>
    have hrest : ∀ q ∈ rest, q.Proper := fun q hq => hp q (List.mem_cons_of_mem _ hq)
    refine .cons (fun b hb ha hloose => ?_) (ih hrest (List.IsChain.of_cons h) _)
    have hshape : p.shape = .loose := by
      by_contra hs
      obtain ⟨c, hc, hnot⟩ := (hp p List.mem_cons_self).exists_not_loose hs
      rw [ha c hc] at hnot
      cases hnot
    cases rest with
    | nil => cases hb
    | cons q more =>
      obtain ⟨c, hc, hnot⟩ := (hrest q List.mem_cons_self).exists_not_loose ((List.isChain_cons_cons.mp h).1 hshape)
      rcases List.mem_cons.mp hb with rfl | hb
      · rw [hloose c hc] at hnot
        cases hnot
      · have hle := Lexeme.offset_le_of_mem_layOut hb
        have hpos := List.length_pos_of_mem hc
        simp only [Lexeme.stop] at hle ⊢
        omega

/-- Under the default rules an unknown token of an expression is loose text. -/
theorem allLoose_of_unknown {s : Text} {t : Token} (ht : t ∈ Rules.tokenize {} (Pattern.default.fragments s))
    (hk : t.kind = .unknown) : AllLoose t.lexeme := by
  obtain ⟨before, hkind⟩ := Rules.exists_kindOf_of_mem_tokensFrom ht
  obtain ⟨l, hl, hblank, htext, -⟩ := Rules.exists_lexeme_of_mem_tokenize ht
  have hmem : t.lexeme ∈ (pieces s).map (·.text) := by
    rw [← scan, ← Pattern.fragments_default, ← Lexeme.map_text_layOut 0 (Pattern.default.fragments s), htext]
    exact List.mem_map_of_mem hl
  obtain ⟨p, hp, he⟩ := List.mem_map.mp hmem
  rw [hk, ← he] at hkind
  rw [← htext, ← he] at hblank
  rw [← he]
  cases proper_of_mem_pieces s p hp with
  | space hne hw =>
    rw [show Text.isBlank _ = true from List.all_eq_true.mpr hw] at hblank
    cases hblank
  | symbol hc =>
    have hsymbol := kindOf_symbol .default before hc
    rw [show Rules.kindOf (.ofFunctions .default) before [_] = .unknown from hkind.symm] at hsymbol
    cases hsymbol
  | number hn => cases hkind.trans (kindOf_number .default before hn)
  | name hi =>
    have hname := hkind.trans (kindOf_identifier .default before hi)
    split at hname
    · cases hname
    · cases hname
  | loose _ hl => exact hl

/-! ## The agreement -/

/-- The cut of an expression by the default pattern, as a text and rounds behind it, and how the classification reads what is
in it: the matched texts by their alternatives, and the texts that are left as functions or as unknown. -/
structure ReadsCut (functions : Registry) (s first : Text) (rounds : List Pattern.Round) : Prop where
  cut_eq : Pattern.default.regex.cut Pattern.default.groups s = some first :: rounds.flatMap Pattern.Round.entries
  matched : ∀ r ∈ rounds, Recognised functions r.matched
  left : ∀ t ∈ first :: rounds.map (·.left), t ≠ [] → Text.isBlank t = false ∧ ∀ previous,
    (Rules.ofFunctions functions).kindOf previous t = if functions.contains t then .operator .function else .unknown

/-- Tokens of which the unknown ones hold nothing that the default pattern matches everywhere, and do not touch. -/
structure UnknownApart (tokens : List Token) : Prop where
  gaps : tokens.Pairwise fun a b => a.kind = .unknown → b.kind = .unknown → a.stop < b.position
  classes : ∀ t ∈ tokens, t.kind = .unknown → ∀ c ∈ t.lexeme,
    isWhitespace c = false ∧ isSymbol c = false ∧ isDigit c = false ∧ isAsciiLetter c = false ∧ c ≠ '_'

/-- Every text is read like that. -/
theorem exists_readsCut (functions : Registry) (s : Text) : ∃ first rounds, ReadsCut functions s first rounds := by
  obtain ⟨rounds, hrounds, hall⟩ := Pattern.exists_rounds_cutFrom 0 [] 0 s
  refine ⟨_, rounds, congrArg (_ :: ·) hrounds, fun r hr => (hall r hr).1.recognised functions, fun t ht hne => ?_⟩
  have hloose : AllLoose t := by
    rcases List.mem_cons.mp ht with rfl | ht
    · exact Pattern.isLoose_of_mem_cutFrom 0 [] 0 s
    · obtain ⟨r, hr, rfl⟩ := List.mem_map.mp ht
      exact (hall r hr).2
  refine ⟨?_, kindOf_loose_ofFunctions hne hloose functions⟩
  obtain ⟨c, rest, rfl⟩ := List.exists_cons_of_ne_nil hne
  simp [Text.isBlank, (isLoose_iff.mp (hloose c List.mem_cons_self)).1]

/-- No two unknown tokens stand side by side. -/
theorem unknownApart_tokenize (s : Text) : UnknownApart (Rules.tokenize {} (Pattern.default.fragments s)) := by
  refine ⟨?_, fun t ht hk c hc => ?_⟩
  · have hplaces : ((Rules.tokenize {} (Pattern.default.fragments s)).map fun t => (t.lexeme, t.position)).Pairwise
        fun a b => AllLoose a.1 → AllLoose b.1 → a.2 + (a.1.length : Int) < b.2 := by
      rw [Rules.tokenize, Rules.tokensFrom_places, List.pairwise_map, Pattern.fragments_default]
      refine ((layOut_loose_apart (proper_of_mem_pieces s) (looseApart_pieces s) 0).filter _).imp ?_
      intro a b hab ha hb
      have hlt := hab ha hb
      simp only [Lexeme.stop] at hlt ⊢
      omega
    refine (List.pairwise_map.mp hplaces).imp_of_mem ?_
    intro a b ha hb hab hka hkb
    exact hab (allLoose_of_unknown ha hka) (allLoose_of_unknown hb hkb)
  · obtain ⟨hw, hs, hd, hn⟩ := isLoose_iff.mp (allLoose_of_unknown ht hk c hc)
    rw [isNameHead, Bool.or_eq_false_iff, beq_eq_false_iff_ne] at hn
    exact ⟨hw, hs, hd, hn.1, hn.2⟩

/-- Splitting and classifying agree: whatever the function names are, the classification reads the cut of every expression as
the pattern does, and with the well-known function names the unknown tokens lie apart. -/
theorem split_and_classify_agree {s : Text} (hs : s ≠ []) (functions : Registry) :
    (∃ first rounds, ReadsCut functions s first rounds) ∧
      ∃ tokens, lexExpression (some s) (.pattern .default) {} = .ok tokens ∧ UnknownApart tokens := by
  refine ⟨exists_readsCut functions s, _, ?_, unknownApart_tokenize s⟩
  obtain ⟨c, rest, rfl⟩ := List.exists_cons_of_ne_nil hs
  rfl

/-- Loose text between numbers and a name, once registered as a function and once, behind whitespace, not. -/
theorem split_and_classify_agree_registered_loose :
    "1..2²a٣ .°".toList ≠ [] ∧
      (∃ first rounds, ReadsCut ["²".toList] "1..2²a٣ .°".toList first rounds) ∧
      ∃ tokens, lexExpression (some "1..2²a٣ .°".toList) (.pattern .default) {} = .ok tokens ∧ UnknownApart tokens :=
  ⟨by decide, split_and_classify_agree (by decide) ["²".toList]⟩

end ExprLex
