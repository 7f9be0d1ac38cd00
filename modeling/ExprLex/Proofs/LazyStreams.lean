import ExprLex.Proofs.Cover
import ExprLex.Proofs.Faults

/-!
# Lazy token streams

A stream gives the tokens of its lexemes one at a time. Each pull passes over blank lexemes, takes the first one that is not
blank, and stops there, so what a stream has taken is told from the number of pulls: the lexemes up to and with the one that
the last token was made of, or all of them once no token is left. One pull keeps this account (`Reached.pull`), and so do any
number of them.
-/

namespace ExprLex

/-! ## Lexemes that give a token -/

/-- The number of lexemes that give a token. -/
def visibleCount (lexemes : List Text) : Nat := lexemes.countP (!Text.isBlank ·)

/-- The visible lexemes of two halves are counted one after the other. -/
theorem visibleCount_append (lexemes later : List Text) :
    visibleCount (lexemes ++ later) = visibleCount lexemes + visibleCount later := List.countP_append

/-- Blank lexemes are not counted. -/
theorem visibleCount_of_blank {lexemes : List Text} (h : ∀ l ∈ lexemes, Text.isBlank l = true) :
    visibleCount lexemes = 0 := by
  refine List.countP_eq_zero.mpr ?_
  intro l hl
  simp [h l hl]

theorem visibleCount_singleton {lexeme : Text} (h : Text.isBlank lexeme = false) : visibleCount [lexeme] = 1 := by
  simp [visibleCount, h]

/-- Lexemes are all blank, or there is a first one that is not. -/
theorem blank_or_visible (lexemes : List Text) :
    (∀ l ∈ lexemes, Text.isBlank l = true) ∨ ∃ blank lexeme rest, lexemes = blank ++ lexeme :: rest ∧
      (∀ l ∈ blank, Text.isBlank l = true) ∧ Text.isBlank lexeme = false := by
  cases h : lexemes.find? (!Text.isBlank ·) with
  | none =>
    refine Or.inl ?_
    intro l hl
    simpa using List.find?_eq_none.mp h l hl
  | some lexeme =>
    obtain ⟨hvisible, blank, rest, hsplit, hblank⟩ := List.find?_eq_some_iff_append.mp h
    refine Or.inr ⟨blank, lexeme, rest, hsplit, ?_, by simpa using hvisible⟩
    intro l hl
    simpa using hblank l hl

namespace Rules

/-- The tokens of the first lexemes are the first tokens. The induction goes along the lexemes: what a lexeme is read as is
settled by those before it. -/
theorem tokensFrom_prefix (rules : Rules) (position : Nat) (previous : Option Token) (lexemes later : List Text) :
    rules.tokensFrom position previous lexemes <+: rules.tokensFrom position previous (lexemes ++ later) := by
  induction lexemes generalizing position previous with
  | nil => exact List.nil_prefix
  | cons lexeme lexemes ih =>
    rw [List.cons_append]
    cases hblank : Text.isBlank lexeme with
    | true =>
      rw [tokensFrom_blank _ _ _ hblank, tokensFrom_blank _ _ _ hblank]
      exact ih _ _
    | false =>
      rw [tokensFrom_cons _ _ _ hblank, tokensFrom_cons _ _ _ hblank]
      exact (List.prefix_cons_inj _).mpr (ih _ _)

end Rules

namespace Lexeme

/-- Each text is laid behind those before it. -/
theorem getElem?_layOut (offset : Nat) (before : List Text) (text : Text) (behind : List Text) :
    (layOut offset (before ++ text :: behind))[before.length]? = some ⟨text, offset + before.flatten.length⟩ := by
  induction before generalizing offset with
  | nil => rfl
  | cons first before ih =>
    rw [List.cons_append, layOut, List.length_cons, List.getElem?_cons_succ, ih, List.flatten_cons, List.length_append,
      Nat.add_assoc]

end Lexeme

/-! ## One pull -/

namespace Stream

/-- A pull passes over blank lexemes. -/
theorem pullFrom_blank_append (rules : Rules) (previous : Option Token) (position consumed : Nat) {blank : List Text}
    (h : ∀ l ∈ blank, Text.isBlank l = true) (rest : List Text) :
    pullFrom rules previous position consumed (blank ++ rest) =
      pullFrom rules previous (position + blank.flatten.length) (consumed + blank.length) rest := by
  induction blank generalizing position consumed with
  | nil => rfl
  | cons l blank ih =>
    rw [List.cons_append, pullFrom, if_pos (h l List.mem_cons_self), ih _ _ (fun m hm => h m (List.mem_cons_of_mem _ hm)),
      List.flatten_cons, List.length_append, List.length_cons, Nat.add_assoc, Nat.add_assoc, Nat.add_comm 1]

/-- Without a visible lexeme ahead, a pull takes all lexemes and gives no token. -/
theorem pull_of_blank {s : Stream} (h : ∀ l ∈ s.lexemes, Text.isBlank l = true) :
    s.pull = (none, ⟨s.rules, s.position + s.lexemes.flatten.length, s.previous, [], s.consumed + s.lexemes.length⟩) := by
  have hpull := pullFrom_blank_append s.rules s.previous s.position s.consumed h []
  rwa [List.append_nil] at hpull

/-- A pull takes the lexemes up to the first visible one, and gives the token of it. -/
theorem pull_of_visible {s : Stream} {blank : List Text} {lexeme : Text} {rest : List Text}
    (hsplit : s.lexemes = blank ++ lexeme :: rest) (hblank : ∀ l ∈ blank, Text.isBlank l = true)
    (hvisible : Text.isBlank lexeme = false) :
    s.pull = (some (s.rules.classify lexeme (s.position + blank.flatten.length : Nat) s.previous),
      ⟨s.rules, s.position + blank.flatten.length + lexeme.length,
        some (s.rules.classify lexeme (s.position + blank.flatten.length : Nat) s.previous), rest,
        s.consumed + blank.length + 1⟩) := by
  rw [pull, hsplit, pullFrom_blank_append _ _ _ _ hblank, pullFrom, if_neg (by simp [hvisible])]

/-! ## Any number of pulls -/

/-- The stream after a number of pulls. -/
def after : (count : Nat) → Stream → Stream
  | 0, s => s
  | n + 1, s => after n s.pull.2

theorem after_succ (n : Nat) (s : Stream) : s.after (n + 1) = (s.after n).pull.2 := by
  induction n generalizing s with
  | zero => rfl
  | succ n ih => exact ih s.pull.2

/-- There are as many answers as pulls. -/
theorem length_pulls (n : Nat) (s : Stream) : (s.pulls n).length = n := by
  induction n generalizing s with
  | zero => rfl
  | succ n ih => exact congrArg (· + 1) (ih s.pull.2)

/-- Each pull is made on the stream that the earlier ones leave. -/
theorem getElem?_pulls {n k : Nat} (h : k < n) (s : Stream) :
    (s.pulls n)[k]? = some ((s.after k).pull.1, (s.after k).pull.2.consumed) := by
  induction n generalizing s k with
  | zero => cases h
  | succ n ih =>
    cases k with
    | zero => rfl
    | succ k => exact ih (Nat.lt_of_succ_lt_succ h) s.pull.2

end Stream

/-! ## The account of a stream -/

/-- What a pull gives when a number of pulls were made before it: a token, or nothing, and how many lexemes are taken then. -/
inductive Pulled (rules : Rules) (lexemes : List Text) (count : Nat) : Option Token × Nat → Prop where
  /-- the token of the list that has this many tokens before it; all lexemes up to and with its own are taken, and it stands
  where its lexeme is laid -/
  | token {before : List Text} {lexeme : Text} {behind : List Text} {t : Token}
      (split : lexemes = before ++ lexeme :: behind) (visible : Text.isBlank lexeme = false)
      (earlier : visibleCount before = count) (eager : (rules.tokenize lexemes)[count]? = some t)
      (text : t.lexeme = lexeme) (position : t.position = before.flatten.length)
      (laid : (Lexeme.layOut 0 lexemes)[before.length]? = some ⟨lexeme, before.flatten.length⟩) :
      Pulled rules lexemes count (some t, before.length + 1)
  /-- nothing, once no visible lexeme is left; all lexemes are taken -/
  | done (exhausted : visibleCount lexemes ≤ count) (eager : (rules.tokenize lexemes)[count]? = none) :
      Pulled rules lexemes count (none, lexemes.length)

/-- Where a stream stands after a number of pulls, and what it has taken by then. Only at the end of the lexemes may there be
fewer visible ones among them than pulls. -/
structure Reached (rules : Rules) (lexemes : List Text) (count : Nat) (taken : List Text) (s : Stream) : Prop where
  rules_eq : s.rules = rules
  split : lexemes = taken ++ s.lexemes
  consumed : s.consumed = taken.length
  position : s.position = taken.flatten.length
  ahead : (rules.tokenize lexemes).drop count = rules.tokensFrom s.position s.previous s.lexemes
  visible_le : visibleCount taken ≤ count
  visible_eq : s.lexemes ≠ [] → visibleCount taken = count

section

variable {rules : Rules} {lexemes taken : List Text} {count : Nat} {s : Stream}

/-- Nothing has been pulled at the start. -/
theorem reached_start : Reached rules lexemes 0 [] (Stream.start rules lexemes) :=
  ⟨rfl, rfl, rfl, rfl, rfl, Nat.le_refl _, fun _ => rfl⟩

/-- What is not taken is still there. -/
theorem Reached.left (h : Reached rules lexemes count taken s) : s.lexemes = lexemes.drop s.consumed := by
  obtain ⟨-, rfl, hconsumed, -, -, -, -⟩ := h
  rw [hconsumed, List.drop_left]

/-- The next token is the first one of what is left. -/
theorem Reached.current (h : Reached rules lexemes count taken s) :
    (rules.tokenize lexemes)[count]? = (rules.tokensFrom s.position s.previous s.lexemes)[0]? := by
  rw [← h.ahead, List.getElem?_drop, Nat.add_zero]

/-- What is left behind the next token. -/
theorem Reached.later (h : Reached rules lexemes count taken s) :
    (rules.tokenize lexemes).drop (count + 1) = (rules.tokensFrom s.position s.previous s.lexemes).drop 1 := by
  rw [← h.ahead, List.drop_drop]

/-- A pull where only blank lexemes are ahead takes them all. -/
theorem Reached.pull_of_blank (h : Reached rules lexemes count taken s) (hblank : ∀ l ∈ s.lexemes, Text.isBlank l = true) :
    Pulled rules lexemes count (s.pull.1, s.pull.2.consumed) ∧ Reached rules lexemes (count + 1) lexemes s.pull.2 := by
  have hnone : rules.tokensFrom s.position s.previous s.lexemes = [] := by
    have hmoved := rules.tokensFrom_blank_append s.position s.previous hblank []
    rwa [List.append_nil] at hmoved
  have hall : visibleCount lexemes = visibleCount taken := by
    rw [h.split, visibleCount_append, visibleCount_of_blank hblank, Nat.add_zero]
  have hlength : s.consumed + s.lexemes.length = lexemes.length := by
    rw [h.split, List.length_append, h.consumed]
  rw [Stream.pull_of_blank hblank]
  refine ⟨?_, h.rules_eq, (List.append_nil _).symm, hlength, ?_, ?_, ?_, fun hne => absurd rfl hne⟩
  · rw [hlength]
    exact .done (hall ▸ h.visible_le) (by rw [h.current, hnone]; rfl)
  · rw [h.split, List.flatten_append, List.length_append, h.position]
  · rw [h.later, hnone]
    rfl
  · exact Nat.le_succ_of_le (hall ▸ h.visible_le)

/-- A pull where a visible lexeme is ahead takes the lexemes up to and with it. -/
theorem Reached.pull_of_visible (h : Reached rules lexemes count taken s) {blank : List Text} {lexeme : Text}
    {rest : List Text} (hsplit : s.lexemes = blank ++ lexeme :: rest) (hblank : ∀ l ∈ blank, Text.isBlank l = true)
    (hvisible : Text.isBlank lexeme = false) :
    Pulled rules lexemes count (s.pull.1, s.pull.2.consumed) ∧
      Reached rules lexemes (count + 1) (taken ++ blank ++ [lexeme]) s.pull.2 := by
  have hcount : visibleCount (taken ++ blank) = count := by
    rw [visibleCount_append, visibleCount_of_blank hblank, Nat.add_zero]
    exact h.visible_eq (by simp [hsplit])
  have hlexemes : lexemes = (taken ++ blank) ++ lexeme :: rest := by
    rw [List.append_assoc, ← hsplit]
    exact h.split
  have hplace : s.position + blank.flatten.length = (taken ++ blank).flatten.length := by
    rw [List.flatten_append, List.length_append, h.position]
  have htaken : s.consumed + blank.length + 1 = (taken ++ blank).length + 1 := by
    rw [List.length_append, h.consumed]
  have htokens := congrArg (rules.tokensFrom s.position s.previous) hsplit
  rw [rules.tokensFrom_blank_append _ _ hblank, rules.tokensFrom_cons _ _ hvisible, hplace] at htokens
  rw [Stream.pull_of_visible hsplit hblank hvisible, h.rules_eq, hplace, htaken]
  generalize taken ++ blank = before at *
  have hnext : visibleCount (before ++ [lexeme]) = count + 1 := by
    rw [visibleCount_append, hcount, visibleCount_singleton hvisible]
  refine ⟨.token hlexemes hvisible hcount ?_ rfl rfl ?_, rfl, ?_, ?_, ?_, ?_, Nat.le_of_eq hnext, fun _ => hnext⟩
  · rw [h.current, htokens]
    rfl
  · rw [hlexemes, Lexeme.getElem?_layOut, Nat.zero_add]
  · rw [hlexemes, List.append_assoc]
    rfl
  · simp
  · simp
  · rw [h.later, htokens]
    rfl

/-- One pull gives what it has to, and keeps the account. -/
theorem Reached.pull (h : Reached rules lexemes count taken s) :
    Pulled rules lexemes count (s.pull.1, s.pull.2.consumed) ∧ ∃ taken', Reached rules lexemes (count + 1) taken' s.pull.2 := by
  rcases blank_or_visible s.lexemes with hblank | ⟨blank, lexeme, rest, hsplit, hblank, hvisible⟩
  · obtain ⟨hpulled, hreached⟩ := h.pull_of_blank hblank
    exact ⟨hpulled, _, hreached⟩
  · obtain ⟨hpulled, hreached⟩ := h.pull_of_visible hsplit hblank hvisible
    exact ⟨hpulled, _, hreached⟩

/-- The account is kept by any number of pulls. -/
theorem exists_reached (rules : Rules) (lexemes : List Text) (count : Nat) :
    ∃ taken, Reached rules lexemes count taken ((Stream.start rules lexemes).after count) := by
  induction count with
  | zero => exact ⟨[], reached_start⟩
  | succ count ih =>
    obtain ⟨taken, h⟩ := ih
    rw [Stream.after_succ]
    exact h.pull.2

end

/-! ## One at a time and all at once -/

/-- How pulling the tokens of a list of lexemes one by one compares with making them all at once. -/
structure Lazily (rules : Rules) (lexemes : List Text) : Prop where
  /-- before the first pull nothing is taken -/
  untouched : (Stream.start rules lexemes).consumed = 0 ∧ (Stream.start rules lexemes).lexemes = lexemes
  answers : ∀ count, ((Stream.start rules lexemes).pulls count).length = count ∧
    ∀ k, k < count → ∃ answer, ((Stream.start rules lexemes).pulls count)[k]? = some answer ∧ Pulled rules lexemes k answer
  /-- what is not taken is still there -/
  left : ∀ count, ((Stream.start rules lexemes).after count).lexemes =
    lexemes.drop ((Stream.start rules lexemes).after count).consumed
  /-- the places that the lexemes are laid at are their offsets in an expression that is split into them -/
  offsets : ∀ expression delimiter, splitExpression expression delimiter = .ok lexemes →
    splitLexemes expression delimiter = .ok (Lexeme.layOut 0 lexemes)
  /-- the tokens of the first lexemes are the first tokens -/
  prefixes : ∀ first, first <+: lexemes → rules.tokenize first <+: rules.tokenize lexemes

/-- Lazy and eager tokens agree, whatever the lexemes and the rules are and however often a token is asked for. -/
theorem pulls_agree_with_tokenize (rules : Rules) (lexemes : List Text) : Lazily rules lexemes := by
  refine ⟨⟨rfl, rfl⟩, fun count => ⟨Stream.length_pulls _ _, ?_⟩, ?_, ?_, ?_⟩
  · intro k hk
    obtain ⟨taken, h⟩ := exists_reached rules lexemes k
    exact ⟨_, Stream.getElem?_pulls hk _, h.pull.1⟩
  · intro count
    obtain ⟨taken, h⟩ := exists_reached rules lexemes count
    exact h.left
  · intro expression delimiter hsplit
    rw [splitLexemes, hsplit]
    rfl
  · rintro first ⟨later, rfl⟩
    exact rules.tokensFrom_prefix 0 none first later

/-- Blank lexemes before, between and behind two tokens, and pulls past the end. -/
theorem pulls_agree_with_tokenize_blank_around :
    (((Stream.start {} [" ".toList, "3".toList, [], " ".toList, "-".toList, " ".toList]).pulls 4).map fun answer =>
      (answer.1.map fun t => (t.kind, t.position), answer.2)) =
      [(some (.operand .number, 1), 2), (some (.operator .subtraction, 3), 5), (none, 6), (none, 6)] ∧
    Lazily {} [" ".toList, "3".toList, [], " ".toList, "-".toList, " ".toList] :=
  ⟨by decide, pulls_agree_with_tokenize _ _⟩

end ExprLex
