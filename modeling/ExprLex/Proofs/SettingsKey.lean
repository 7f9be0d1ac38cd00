import ExprLex.Document
import ExprLex.Proofs.Quoting
import ExprLex.Server.Validate
import Mathlib.Data.List.Permutation

/-!
# The key of the settings

The key is put together from the displays of four settings without anything between them. It still tells them apart: a flag
and a list of names show where they end. So settings with the same key agree in all that an analysis goes by, but for one
thing: the display of a pattern does not tell whether there is one. Where there is none in both of two settings, or a text in
both, the key is the same if and only if all that it is made from is.
-/

namespace ExprLex

namespace Server

/-- A flag shows where it ends. -/
theorem flag_append_inj {b c : Bool} {t u : Text} (h : (Payload.flag b).inner ++ t = (Payload.flag c).inner ++ u) :
    b = c ∧ t = u := by
  cases b <;> cases c
  · exact ⟨rfl, List.append_cancel_left h⟩
  · exact absurd (List.cons.inj h).1 (by decide)
  · exact absurd (List.cons.inj h).1 (by decide)
  · exact ⟨rfl, List.append_cancel_left h⟩

/-- The names of a list behind the first one, with the commas before them. -/
def laterNames : List RawText → Text
  | [] => []
  | t :: rest => ',' :: ' ' :: (t.quote ++ laterNames rest)

/-- The display of names, the first one apart. -/
theorem innerItems_cons (t : RawText) (rest : List RawText) :
    Payload.innerItems ((t :: rest).map .text) = t.quote ++ laterNames rest := by
  induction rest generalizing t with
  | nil => simp [Payload.innerItems, Payload.inner, laterNames]
  | cons u rest ih =>
    have hu := ih u
    rw [List.map_cons] at hu
    rw [List.map_cons, List.map_cons, Payload.innerItems, hu, Payload.inner, laterNames]
    exact List.cons_ne_nil _ _

/-- The later names show where they end, by the bracket that comes next. -/
theorem laterNames_append_inj {ts us : List RawText} {a b : Text}
    (h : laterNames ts ++ ']' :: a = laterNames us ++ ']' :: b) : ts = us ∧ a = b := by
  induction ts generalizing us with
  | nil =>
    cases us with
    | nil => exact ⟨rfl, (List.cons.inj h).2⟩
    | cons u us => exact absurd (List.cons.inj h).1 (by decide)
  | cons t ts ih =>
    cases us with
    | nil => exact absurd (List.cons.inj h).1 (by decide)
    | cons u us =>
      simp only [laterNames, List.cons_append, List.cons.injEq, true_and, List.append_assoc] at h
      obtain ⟨rfl, hrest⟩ := RawText.quote_append_inj h
      obtain ⟨rfl, hab⟩ := ih hrest
      exact ⟨rfl, hab⟩

/-- Nothing that is quoted starts with a bracket. -/
theorem bracket_ne_quote (t : RawText) (x y : Text) : ']' :: x ≠ t.quote ++ y := by
  intro h
  obtain ⟨mark, rest, hq, hm⟩ := RawText.quote_eq_cons t
  rw [hq, List.cons_append, List.cons.injEq] at h
  rcases hm with rfl | rfl
  · exact absurd h.1 (by decide)
  · exact absurd h.1 (by decide)

/-- The items of a list of names show where they end, by the bracket that comes next. -/
theorem innerItems_append_inj {ts us : List RawText} {a b : Text}
    (h : Payload.innerItems (ts.map .text) ++ ']' :: a = Payload.innerItems (us.map .text) ++ ']' :: b) :
    ts = us ∧ a = b := by
  cases ts with
  | nil =>
    cases us with
    | nil => exact ⟨rfl, (List.cons.inj h).2⟩
    | cons u us =>
      rw [innerItems_cons, List.append_assoc] at h
      exact absurd h (bracket_ne_quote u _ _)
  | cons t ts =>
    cases us with
    | nil =>
      rw [innerItems_cons, List.append_assoc] at h
      exact absurd h.symm (bracket_ne_quote t _ _)
    | cons u us =>
      rw [innerItems_cons, innerItems_cons, List.append_assoc, List.append_assoc] at h
      obtain ⟨rfl, hrest⟩ := RawText.quote_append_inj h
      obtain ⟨rfl, hab⟩ := laterNames_append_inj hrest
      exact ⟨rfl, hab⟩

/-- A list of names shows where it ends. -/
theorem names_append_inj {ts us : List RawText} {a b : Text}
    (h : (Payload.list (ts.map .text)).inner ++ a = (Payload.list (us.map .text)).inner ++ b) : ts = us ∧ a = b := by
  simp only [Payload.inner, List.cons_append, List.append_assoc, List.cons.injEq, true_and,
    List.nil_append] at h
  exact innerItems_append_inj h

/-- A text with something behind it, split in two ways: one of the texts goes on with what the other one lacks. -/
theorem ofText_append_cases {t u : Text} {a b : RawText} (h : RawText.ofText t ++ a = RawText.ofText u ++ b) :
    (∃ c, u = t ++ c ∧ a = RawText.ofText c ++ b) ∨ ∃ c, t = u ++ c ∧ b = RawText.ofText c ++ a := by
  induction t generalizing u with
  | nil => exact Or.inl ⟨u, rfl, h⟩
  | cons x t ih =>
    cases u with
    | nil => exact Or.inr ⟨x :: t, rfl, h.symm⟩
    | cons y u =>
      obtain ⟨hxy, hrest⟩ := List.cons.inj h
      cases hxy
      refine (ih hrest).imp ?_ ?_
      · rintro ⟨c, rfl, hc⟩
        exact ⟨c, rfl, hc⟩
      · rintro ⟨c, rfl, hc⟩
        exact ⟨c, rfl, hc⟩

namespace Settings

/-- The part of the key before the pattern. -/
def keyHead (s : Settings) : Text :=
  (Payload.flag s.strict).inner ++
    ((Payload.list ((RawText.sorted s.functions).map .text)).inner ++ (Payload.flag s.includeDefaults).inner)

/-- All of the key is a text but what the pattern may hold. -/
theorem key_eq (s : Settings) : s.key = RawText.ofText s.keyHead ++ s.patternText := by
  simp [key, keyHead, RawText.ofText, Payload.display]

/-- The head of a key tells what it is made from and where it ends. -/
theorem keyHead_append_inj {s s' : Settings} {a b : Text} (h : s.keyHead ++ a = s'.keyHead ++ b) :
    (s.strict = s'.strict ∧ RawText.sorted s.functions = RawText.sorted s'.functions ∧
      s.includeDefaults = s'.includeDefaults) ∧ a = b := by
  simp only [keyHead, List.append_assoc] at h
  obtain ⟨hstrict, h⟩ := flag_append_inj h
  obtain ⟨hnames, h⟩ := names_append_inj h
  obtain ⟨hdefaults, hab⟩ := flag_append_inj h
  exact ⟨⟨hstrict, hnames, hdefaults⟩, hab⟩

/-- Settings with the same key agree in the flag for advice, in the sorted function names, in the flag for the catalogue and
in the display of the pattern. -/
theorem key_inj {s s' : Settings} (h : s.key = s'.key) :
    s.strict = s'.strict ∧ RawText.sorted s.functions = RawText.sorted s'.functions ∧
      s.includeDefaults = s'.includeDefaults ∧ s.patternText = s'.patternText := by
  rw [key_eq, key_eq] at h
  rcases ofText_append_cases h with ⟨c, hc, hpattern⟩ | ⟨c, hc, hpattern⟩
  · obtain ⟨⟨hstrict, hnames, hdefaults⟩, rfl⟩ := keyHead_append_inj ((List.append_nil s'.keyHead).trans hc)
    exact ⟨hstrict.symm, hnames.symm, hdefaults.symm, hpattern⟩
  · obtain ⟨⟨hstrict, hnames, hdefaults⟩, rfl⟩ := keyHead_append_inj ((List.append_nil s.keyHead).trans hc)
    exact ⟨hstrict, hnames, hdefaults, hpattern.symm⟩

/-- The key can be encoded exactly if the pattern can: the names are quoted in it. -/
theorem isText_key_iff (s : Settings) : s.key.IsText ↔ s.patternText.IsText := by
  rw [key_eq]
  constructor
  · rintro ⟨t, ht⟩
    rcases ofText_append_cases (ht.trans (List.append_nil _).symm) with ⟨c, -, hc⟩ | ⟨c, -, hc⟩
    · exact ⟨c, hc.trans (List.append_nil _)⟩
    · exact ⟨[], (List.append_eq_nil_iff.mp hc.symm).2⟩
  · rintro ⟨p, hp⟩
    exact ⟨s.keyHead ++ p, by rw [hp, RawText.ofText, RawText.ofText, RawText.ofText, List.map_append]⟩

end Settings

end Server

/-! ## What an analysis goes by -/

/-- Rules that go by the same numbers, the same identifiers and the same function names. -/
structure Rules.SameAs (rules rules' : Rules) : Prop where
  isNumber : rules.isNumber = rules'.isNumber
  isIdentifier : rules.isIdentifier = rules'.isIdentifier
  isFunction : ∀ t, rules.isFunction t = rules'.isFunction t

section

variable {rules rules' : Rules}

/-- Rules that are the same give the same kinds. -/
theorem Rules.SameAs.kindOf_eq (h : rules.SameAs rules') (previous : Option Token) (t : Text) :
    rules.kindOf previous t = rules'.kindOf previous t := by
  simp only [kindOf, h.isNumber, h.isIdentifier, h.isFunction]

theorem Rules.SameAs.tokenize_eq (h : rules.SameAs rules') (lexemes : List Text) :
    rules.tokenize lexemes = rules'.tokenize lexemes := by
  have hfrom : ∀ (position : Nat) (previous : Option Token),
      rules.tokensFrom position previous lexemes = rules'.tokensFrom position previous lexemes := by
    induction lexemes with
    | nil => exact fun _ _ => rfl
    | cons t rest ih =>
      intro position previous
      simp only [tokensFrom, classify, h.kindOf_eq, ih]
  exact hfrom 0 none

/-- Rules that are the same give the same analyses. -/
theorem Rules.SameAs.analyse_eq (h : rules.SameAs rules') (p : Pattern) (strict : Bool) (source : Text) :
    analyse p rules strict source = analyse p rules' strict source := by
  simp only [analyse, h.tokenize_eq]

end

/-- Lists that are the same when they are sorted have the same entries, each as often. -/
theorem RawText.perm_of_sorted_eq {rs ss : List RawText} (h : RawText.sorted rs = RawText.sorted ss) : rs.Perm ss := by
  have hrs : (RawText.sorted rs).Perm rs := List.mergeSort_perm rs _
  have hss : (RawText.sorted ss).Perm ss := List.mergeSort_perm ss _
  rw [h] at hrs
  exact hrs.symm.trans hss

namespace Server

/-- The same names make the same rules, in whatever order they are listed. -/
theorem Settings.sameAs_rules {s s' : Settings} (hnames : RawText.sorted s.functions = RawText.sorted s'.functions)
    (hdefaults : s.includeDefaults = s'.includeDefaults) : s.rules.SameAs s'.rules := by
  refine ⟨rfl, rfl, fun t => ?_⟩
  have hc : s.names.contains t = s'.names.contains t :=
    ((RawText.perm_of_sorted_eq hnames).filterMap fun name => name.encode.toOption).contains_eq
  show (Registry.build s.names s.includeDefaults).contains t = (Registry.build s'.names s'.includeDefaults).contains t
  rw [Registry.build, Registry.build, hdefaults]
  cases s'.includeDefaults with
  | false => exact hc
  | true => simpa [List.contains_append] using congrArg (Registry.default.contains t || ·) hc

/-- Under settings with the same key a pattern makes the same analysis. -/
theorem Settings.analyse_eq_of_key_eq {s s' : Settings} (h : s.key = s'.key) (p : Pattern) (source : Text) :
    analyse p s.rules s.strict source = analyse p s'.rules s'.strict source := by
  obtain ⟨hstrict, hnames, hdefaults, -⟩ := s.key_inj h
  rw [hstrict]
  exact (sameAs_rules hnames hdefaults).analyse_eq p _ source

/-! ## What a key tells -/

/-- Patterns that their displays tell apart: there is none in both settings, or a text in both. -/
def Settings.PatternsOfAKind (s s' : Settings) : Prop :=
  s.pattern = none ∧ s'.pattern = none ∨ ∃ p p' : RawText, s.pattern = some (.text p) ∧ s'.pattern = some (.text p')

/-- Where patterns are of a kind their displays tell them. -/
theorem Settings.PatternsOfAKind.pattern_eq {s s' : Settings} (h : s.PatternsOfAKind s')
    (htext : s.patternText = s'.patternText) : s.pattern = s'.pattern := by
  rcases h with ⟨hs, hs'⟩ | ⟨p, p', hs, hs'⟩
  · rw [hs, hs']
  · have hp : p = p' := by
      rw [patternText, patternText, hs, hs'] at htext
      exact htext
    rw [hs, hs', hp]

/-- Settings that agree in all that an analysis goes by, and so in the rules and in the pattern that are in force. -/
structure Settings.SameInForce (s s' : Settings) : Prop where
  strict : s.strict = s'.strict
  includeDefaults : s.includeDefaults = s'.includeDefaults
  functions : RawText.sorted s.functions = RawText.sorted s'.functions
  pattern : s.pattern = s'.pattern
  rules : s.rules.SameAs s'.rules
  currentPattern : ∀ sv : State, { sv with settings := s }.currentPattern = { sv with settings := s' }.currentPattern

/-- The key tells settings apart: where there is no pattern in both settings or a text in both, they have the same key if and
only if they agree in both flags, in the sorted function names and in the pattern, and then the same rules and the same
pattern are in force. -/
theorem settings_key_eq_iff {s s' : Settings} (hp : s.PatternsOfAKind s') : s.key = s'.key ↔ s.SameInForce s' := by
  constructor
  · intro h
    obtain ⟨hstrict, hnames, hdefaults, htext⟩ := s.key_inj h
    have hpattern := hp.pattern_eq htext
    have hdelimiter : s.delimiter = s'.delimiter := by
      funext engine
      rw [Settings.delimiter, Settings.delimiter, hpattern]
    refine ⟨hstrict, hdefaults, hnames, hpattern, Settings.sameAs_rules hnames hdefaults, fun sv => ?_⟩
    simp only [State.currentPattern, hdelimiter, hpattern, htext]
  · intro h
    rw [Settings.key, Settings.key, Settings.patternText, Settings.patternText, h.strict, h.functions, h.includeDefaults,
      h.pattern]

/-- Names with both marks, with brackets and with the display of a flag, in two orders, and a pattern that is displayed like
a missing one. -/
theorem settings_key_eq_iff_marked_names : ∃ s s' : Settings, s.PatternsOfAKind s' ∧ s.functions ≠ s'.functions ∧
    s.key = s'.key ∧ s.SameInForce s' := by
  refine ⟨{ functions := ["a', \"b'".toList, "'] True".toList, "\\".toList], pattern := some (.text "None".toList) },
    { functions := ["\\".toList, "'] True".toList, "a', \"b'".toList], pattern := some (.text "None".toList) },
    Or.inr ⟨_, _, rfl, rfl⟩, by decide, by cbv, ?_⟩
  exact (settings_key_eq_iff (Or.inr ⟨_, _, rfl, rfl⟩)).mp (by cbv)

end Server

end ExprLex
