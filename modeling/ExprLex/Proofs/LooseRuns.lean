import ExprLex.Proofs.Pieces

/-!
# Counting loose runs

How many loose pieces a text has can be told in one pass over its characters. The pass says what an edit does to them: text
that is taken away never adds a loose piece, whatever its neighbours become when they meet, and a loose piece that is taken
away is one less.
-/

namespace ExprLex

/-- Whether a character starts no piece before the given text. -/
def standsLoose (c : Char) (rest : Text) : Bool := isLoose c && !(c == '.' && rest.head?.any isDigit)

/-- The number of loose runs of a text that follows an unfinished name, an unfinished loose run, or neither. -/
def looseRuns : (inName inLoose : Bool) → Text → Nat
  | _, _, [] => 0
  | inName, inLoose, c :: rest =>
    if inName && isWord c then looseRuns true false rest
    else if standsLoose c rest then (if inLoose then 0 else 1) + looseRuns false true rest
    else looseRuns (isNameHead c) false rest

/-- The number of loose pieces among some pieces. -/
def looseCount (ps : List Piece) : Nat := ps.countP fun p => p.shape == .loose

@[simp] theorem looseCount_nil : looseCount [] = 0 := rfl

theorem looseCount_cons (p : Piece) (ps : List Piece) :
    looseCount (p :: ps) = looseCount ps + if p.shape = .loose then 1 else 0 := by
  simp [looseCount, List.countP_cons]

/-- Those of two halves are counted one after the other. -/
@[simp] theorem looseCount_append (ps qs : List Piece) : looseCount (ps ++ qs) = looseCount ps + looseCount qs :=
  List.countP_append

/-! ## The classes of characters in the pass -/

/-- A loose character is of no class. -/
theorem isLoose_iff {c : Char} :
    isLoose c = true ↔ isWhitespace c = false ∧ isSymbol c = false ∧ isDigit c = false ∧ isNameHead c = false := by
  simp [isLoose, and_assoc]

/-- A loose character starts a piece only as a point before a digit. -/
theorem standsLoose_eq_false {c : Char} {rest : Text} (hc : isLoose c = true) (h : standsLoose c rest = false) :
    c = '.' ∧ ∃ d more, rest = d :: more ∧ isDigit d = true := by
  simp only [standsLoose, hc, Bool.true_and, Bool.not_eq_false', Bool.and_eq_true, beq_iff_eq] at h
  obtain ⟨rfl, hd⟩ := h
  cases rest with
  | nil => simp at hd
  | cons d more => exact ⟨rfl, d, more, rfl, by simpa using hd⟩

/-- The characters that start no piece are those that the scanner finds no piece at. -/
theorem standsLoose_eq (c : Char) (rest : Text) : standsLoose c rest = (piece? (c :: rest)).isNone := by
  cases hl : isLoose c with
  | false =>
    rw [standsLoose, hl, Bool.false_and]
    cases hp : piece? (c :: rest) with
    | none => exact absurd (isLoose_of_piece? hp) (by simp [hl])
    | some p => rfl
  | true =>
    obtain ⟨hw, hs, hd, hn⟩ := isLoose_iff.mp hl
    simp only [standsLoose, hl, piece?, hw, hs, hd, hn, Bool.true_and, Bool.false_eq_true, if_false]
    by_cases hc : c = '.'
    · subst hc
      cases hh : rest.head?.any isDigit <;> simp [pointAndDigits, hh]
    · have hp : pointAndDigits (c :: rest) = [] := by
        rcases pointAndDigits_cases (c :: rest) with h | ⟨tail, ht, -⟩
        · exact h
        · exact absurd (List.cons.inj ht).1 hc
      simp [hp, hc]

theorem looseRuns_nil (inName inLoose : Bool) : looseRuns inName inLoose [] = 0 := rfl

/-- A word character of a name. -/
theorem looseRuns_word {c : Char} (h : isWord c = true) (inLoose : Bool) (rest : Text) :
    looseRuns true inLoose (c :: rest) = looseRuns true false rest := by
  simp [looseRuns, h]

/-- A character that is no word character ends a name. -/
theorem looseRuns_of_not_word {c : Char} (h : isWord c = false) (inName inLoose : Bool) (rest : Text) :
    looseRuns inName inLoose (c :: rest) = looseRuns false inLoose (c :: rest) := by
  simp [looseRuns, h]

/-- A loose character. -/
theorem looseRuns_loose {c : Char} {rest : Text} (h : standsLoose c rest = true) (inLoose : Bool) :
    looseRuns false inLoose (c :: rest) = (if inLoose then 0 else 1) + looseRuns false true rest := by
  simp [looseRuns, h]

/-- A character that is not loose ends a loose run. -/
theorem looseRuns_of_not_loose {c : Char} {rest : Text} (h : standsLoose c rest = false) (inLoose : Bool) :
    looseRuns false inLoose (c :: rest) = looseRuns (isNameHead c) false rest := by
  simp [looseRuns, h]

/-- What is not loose does not stand loose. -/
theorem standsLoose_of_isLoose {c : Char} (h : isLoose c = false) (rest : Text) : standsLoose c rest = false := by
  simp [standsLoose, h]

/-- A character that starts a piece of its own and no name. -/
theorem looseRuns_skip {c : Char} {rest : Text} (h : standsLoose c rest = false) (hn : isNameHead c = false) :
    looseRuns false false (c :: rest) = looseRuns false false rest := by
  rw [looseRuns_of_not_loose h, hn]

/-! ## What is under way makes no text worse -/

/-- A loose run that is under way saves one run at most. -/
theorem looseRuns_le_succ (t : Text) : looseRuns false false t ≤ 1 + looseRuns false true t := by
  cases t with
  | nil => exact Nat.zero_le _
  | cons c rest =>
    cases hl : standsLoose c rest with
    | true =>
      rw [looseRuns_loose hl, looseRuns_loose hl]
      simp
    | false =>
      rw [looseRuns_of_not_loose hl, looseRuns_of_not_loose hl]
      omega

/-- Inside a run of loose characters there is at most one run less to come. -/
theorem looseRuns_loose_le (t : Text) : looseRuns false true t ≤ looseRuns false false t := by
  cases t with
  | nil => exact Nat.le_refl _
  | cons c rest =>
    cases hl : standsLoose c rest with
    | true =>
      rw [looseRuns_loose hl, looseRuns_loose hl]
      simp
    | false =>
      have heq : looseRuns false true (c :: rest) = looseRuns false false (c :: rest) := by
        rw [looseRuns_of_not_loose hl, looseRuns_of_not_loose hl]
      exact Nat.le_of_eq heq

/-- A name that is under way takes loose characters in and adds no run. -/
theorem looseRuns_name_le (t : Text) : looseRuns true false t ≤ looseRuns false false t := by
  induction t with
  | nil => exact Nat.le_refl _
  | cons c rest ih =>
    cases hw : isWord c with
    | false => exact Nat.le_of_eq (looseRuns_of_not_word hw true false rest)
    | true =>
      rw [looseRuns_word hw]
      cases hl : standsLoose c rest with
      | true =>
        rw [looseRuns_loose hl]
        exact Nat.le_trans ih (looseRuns_le_succ rest)
      | false =>
        rw [looseRuns_of_not_loose hl]
        cases isNameHead c with
        | true => exact Nat.le_refl _
        | false => exact ih

/-! ## The pieces of a text, counted -/

/-- A run of characters that each start a piece of their own and no name counts nothing. -/
theorem looseRuns_append_skip {run : Text} (h : ∀ c ∈ run, isLoose c = false ∧ isNameHead c = false) (t : Text) :
    looseRuns false false (run ++ t) = looseRuns false false t := by
  induction run with
  | nil => rfl
  | cons c run ih =>
    obtain ⟨hl, hn⟩ := h c List.mem_cons_self
    rw [List.cons_append, looseRuns_skip (standsLoose_of_isLoose hl _) hn]
    exact ih fun d hd => h d (List.mem_cons_of_mem _ hd)

/-- The word characters of a name count nothing. -/
theorem looseRuns_append_name {run : Text} (h : ∀ c ∈ run, isWord c = true) (t : Text) :
    looseRuns true false (run ++ t) = looseRuns true false t := by
  induction run with
  | nil => rfl
  | cons c run ih =>
    rw [List.cons_append, looseRuns_word (h c List.mem_cons_self)]
    exact ih fun d hd => h d (List.mem_cons_of_mem _ hd)

/-- Whitespace is neither loose nor the start of a name. -/
theorem skip_of_isWhitespace {c : Char} (h : isWhitespace c = true) : isLoose c = false ∧ isNameHead c = false :=
  ⟨by simp [isLoose, h], (classes_of_isWhitespace h).2.2.1⟩

theorem skip_of_isDigit {c : Char} (h : isDigit c = true) : isLoose c = false ∧ isNameHead c = false :=
  ⟨by simp [isLoose, h], (classes_of_isDigit h).2.2.1⟩

theorem skip_of_isSymbol {c : Char} (h : isSymbol c = true) : isLoose c = false ∧ isNameHead c = false :=
  ⟨by simp [isLoose, h], (classes_of_isSymbol h).2.2.1⟩

/-- So a sign is passed by. -/
theorem looseRuns_symbol {c : Char} (h : isSymbol c = true) (t : Text) :
    looseRuns false false (c :: t) = looseRuns false false t := by
  obtain ⟨hl, hn⟩ := skip_of_isSymbol h
  exact looseRuns_skip (standsLoose_of_isLoose hl t) hn

/-- A number counts nothing. -/
theorem looseRuns_number {run : Text} (h : Lexeme.isNumber run = true) (t : Text) :
    looseRuns false false (run ++ t) = looseRuns false false t := by
  rcases (isNumber_iff run).mp h with ⟨-, hds⟩ | ⟨ds, fs, rfl, hds, hne, hfs⟩
  · exact looseRuns_append_skip (fun c hc => skip_of_isDigit (hds c hc)) t
  · rw [List.append_assoc, looseRuns_append_skip (fun c hc => skip_of_isDigit (hds c hc)), List.cons_append]
    cases fs with
    | nil => exact absurd rfl hne
    | cons f fs =>
      have hf : standsLoose '.' ((f :: fs) ++ t) = false := by simp [standsLoose, hfs f List.mem_cons_self]
      rw [looseRuns_skip hf (by decide)]
      exact looseRuns_append_skip (fun c hc => skip_of_isDigit (hfs c hc)) t

/-- A name adds nothing to what follows it, and may take some of it in. -/
theorem looseRuns_identifier_le {run : Text} (h : Lexeme.isIdentifier run = true) (t : Text) :
    looseRuns false false (run ++ t) ≤ looseRuns false false t := by
  cases run with
  | nil => cases h
  | cons c run =>
    rw [isIdentifier_cons, Bool.and_eq_true, List.all_eq_true] at h
    have hl : isLoose c = false := by simp [isLoose, h.1]
    rw [List.cons_append, looseRuns_of_not_loose (standsLoose_of_isLoose hl _), h.1, looseRuns_append_name h.2]
    exact looseRuns_name_le t

/-- Loose characters are one run, or they prolong the run that is under way. Only the last of them may turn out to start a
number with what follows. -/
theorem looseRuns_append_loose_le {run : Text} (h : ∀ c ∈ run, isLoose c = true) (inLoose : Bool) (t : Text) :
    looseRuns false inLoose (run ++ t) ≤ (if inLoose then 0 else 1) + looseRuns false false t := by
  induction run generalizing inLoose with
  | nil =>
    cases inLoose with
    | true => simpa using looseRuns_loose_le t
    | false => exact Nat.le_add_left _ _
  | cons c run ih =>
    have hc := h c List.mem_cons_self
    have hrun : ∀ d ∈ run, isLoose d = true := fun d hd => h d (List.mem_cons_of_mem _ hd)
    rw [List.cons_append]
    cases hl : standsLoose c (run ++ t) with
    | true =>
      rw [looseRuns_loose hl]
      have := ih hrun true
      simp only [if_true] at this
      omega
    | false =>
      obtain ⟨-, d, more, he, hd⟩ := standsLoose_eq_false hc hl
      cases run with
      | nil =>
        rw [looseRuns_of_not_loose hl, (isLoose_iff.mp hc).2.2.2]
        exact Nat.le_add_left _ _
      | cons d' run =>
        cases (List.cons.inj he).1
        exact absurd hd (by simp [(isLoose_iff.mp (hrun d List.mem_cons_self)).2.2.1])

/-- A proper piece before a text counts once if it is loose, and else not at all. -/
theorem Piece.Proper.looseRuns_le {p : Piece} (h : p.Proper) (t : Text) :
    looseRuns false false (p.text ++ t) ≤ (if p.shape = .loose then 1 else 0) + looseRuns false false t := by
  cases h with
  | space hne hs => simp [looseRuns_append_skip fun c hc => skip_of_isWhitespace (hs c hc)]
  | symbol hs => simp [looseRuns_symbol hs]
  | number hn => simp [looseRuns_number hn]
  | name hi => simpa using looseRuns_identifier_le hi t
  | loose hne hl => simpa using looseRuns_append_loose_le hl false t

/-- Proper pieces before a text count no more than the loose ones among them, even where the text has not come about by
cutting it into them. -/
theorem looseRuns_textOf_le {ps : List Piece} (h : ∀ p ∈ ps, p.Proper) (t : Text) :
    looseRuns false false (textOf ps ++ t) ≤ looseCount ps + looseRuns false false t := by
  induction ps with
  | nil => simp
  | cons p ps ih =>
    have h1 := (h p List.mem_cons_self).looseRuns_le (textOf ps ++ t)
    have h2 := ih fun q hq => h q (List.mem_cons_of_mem _ hq)
    rw [textOf_cons, List.append_assoc, looseCount_cons]
    omega

/-- A name ends where a character follows that is no word character. -/
theorem looseRuns_name_eq {t : Text} (h : ∀ c more, t = c :: more → isWord c = false) :
    looseRuns true false t = looseRuns false false t := by
  cases t with
  | nil => rfl
  | cons c rest => exact looseRuns_of_not_word (h c rest rfl) true false rest

/-- What follows a name that the scanner finds does not prolong it. -/
theorem isWord_of_name_found {c d : Char} {rest text more : Text} (h : piece? (c :: rest) = some ⟨.name, text⟩)
    (hd : rest.drop (text.length - 1) = d :: more) : isWord d = false := by
  have ht : text = c :: rest.takeWhile isWord := by
    simp only [piece?] at h
    split at h
    · cases h
    · split at h
      · cases h
      · split at h
        · cases h
        · split at h
          · cases h
          · split at h
            · cases h
              rfl
            · cases h
  rw [ht, List.length_cons, Nat.add_sub_cancel, drop_length_takeWhile] at hd
  have hne : rest.dropWhile isWord ≠ [] := by simp [hd]
  have hh := List.head_dropWhile_not isWord hne
  simpa [hd] using hh

/-- A piece that the scanner finds counts nothing, and the count starts afresh behind it. -/
theorem looseRuns_of_piece? {c : Char} {rest : Text} {p : Piece} (h : piece? (c :: rest) = some p) :
    looseRuns false false (c :: rest) = looseRuns false false (rest.drop (p.text.length - 1)) := by
  obtain ⟨hshape, more, htext⟩ := piece?_eq_some h
  have ht : c :: rest = p.text ++ rest.drop (p.text.length - 1) := by
    obtain ⟨z, hz⟩ := text_prefix_of_piece? h
    rw [htext, List.cons_append, List.cons.injEq] at hz
    rw [htext, List.length_cons, Nat.add_sub_cancel, ← hz.2, List.drop_left, List.cons_append]
  rw [ht]
  generalize hz : rest.drop (p.text.length - 1) = z
  cases proper_of_piece? h with
  | space hne hs => exact looseRuns_append_skip (fun c hc => skip_of_isWhitespace (hs c hc)) z
  | symbol hs => exact looseRuns_symbol hs z
  | number hn => exact looseRuns_number hn z
  | @name run hi =>
    cases run with
    | nil => cases hi
    | cons d run =>
      rw [isIdentifier_cons, Bool.and_eq_true, List.all_eq_true] at hi
      have hl : isLoose d = false := by simp [isLoose, hi.1]
      rw [List.cons_append, looseRuns_of_not_loose (standsLoose_of_isLoose hl _), hi.1, looseRuns_append_name hi.2]
      exact looseRuns_name_eq fun e more he => isWord_of_name_found h (hz.trans he)
  | loose hne hl => exact absurd rfl hshape

/-- The pass over the characters counts the loose pieces, or those behind the loose text that the pieces start with. -/
theorem looseRuns_eq (t : Text) : looseRuns false false t = looseCount (pieces t) ∧
    looseRuns false true t = looseCount (cutLoose (pieces t)).2 := by
  fun_induction pieces t with
  | case1 => exact ⟨rfl, rfl⟩
  | case2 c rest p hp ih =>
    obtain ⟨hshape, -⟩ := piece?_eq_some hp
    have hl : standsLoose c rest = false := by rw [standsLoose_eq, hp]; rfl
    have hcount : looseRuns false false (c :: rest) = looseCount (p :: pieces (rest.drop (p.text.length - 1))) := by
      rw [looseRuns_of_piece? hp, ih.1, looseCount_cons, if_neg hshape]
      rfl
    refine ⟨hcount, ?_⟩
    rw [looseRuns_of_not_loose hl, ← looseRuns_of_not_loose hl false, hcount, cutLoose_cons hshape]
  | case3 c rest hp ih =>
    have hl : standsLoose c rest = true := by rw [standsLoose_eq, hp]; rfl
    refine ⟨?_, ?_⟩
    · rw [looseRuns_loose hl, ih.2, joinLoose, looseCount_cons, Nat.add_comm]
      rfl
    · rw [looseRuns_loose hl, ih.2]
      simp [joinLoose, cutLoose]

/-! ## What edits do to the loose pieces -/

/-- A piece that is taken out of a text is one loose piece less if it is loose, and never one more. -/
theorem looseCount_remove {t : Text} {before after : List Piece} {p : Piece} (h : pieces t = before ++ p :: after) :
    looseCount (pieces (textOf before ++ textOf after)) + (if p.shape = .loose then 1 else 0) ≤ looseCount (pieces t) := by
  have hproper : ∀ q ∈ before ++ p :: after, q.Proper := h ▸ proper_of_mem_pieces t
  have h1 := looseRuns_textOf_le (fun q hq => hproper q (List.mem_append_left _ hq)) (textOf after)
  have h2 := looseRuns_textOf_le
    (fun q hq => hproper q (List.mem_append_right _ (List.mem_cons_of_mem p hq))) []
  rw [List.append_nil, looseRuns_nil] at h2
  rw [← (looseRuns_eq _).1, h, looseCount_append, looseCount_cons]
  omega

/-- Whitespace has no loose runs, whatever is under way before it. -/
theorem looseRuns_blank {t : Text} (h : ∀ c ∈ t, isWhitespace c = true) (inName inLoose : Bool) :
    looseRuns inName inLoose t = 0 := by
  cases t with
  | nil => rfl
  | cons c rest =>
    have hc := h c List.mem_cons_self
    obtain ⟨hl, hn⟩ := skip_of_isWhitespace hc
    rw [looseRuns_of_not_word (classes_of_isWhitespace hc).2.2.2.1, looseRuns_of_not_loose (standsLoose_of_isLoose hl _),
      hn, ← List.append_nil rest, looseRuns_append_skip fun d hd => skip_of_isWhitespace (h d (List.mem_cons_of_mem _ hd))]
    rfl

/-- A symbol before the whitespace at the end of a text changes no loose run. -/
theorem looseRuns_insert {s : Char} (hs : isSymbol s = true) {blank : Text} (hb : ∀ c ∈ blank, isWhitespace c = true)
    (t : Text) (inName inLoose : Bool) :
    looseRuns inName inLoose (t ++ s :: blank) = looseRuns inName inLoose (t ++ blank) := by
  induction t generalizing inName inLoose with
  | nil =>
    obtain ⟨hl, hn⟩ := skip_of_isSymbol hs
    rw [List.nil_append, List.nil_append, looseRuns_of_not_word (classes_of_isSymbol hs).2.2.2.1,
      looseRuns_of_not_loose (standsLoose_of_isLoose hl _), looseRuns_blank hb, looseRuns_blank hb]
  | cons c t ih =>
    have hhead : ((t ++ s :: blank).head?.any isDigit) = ((t ++ blank).head?.any isDigit) := by
      cases t with
      | nil =>
        cases blank with
        | nil => simp [(classes_of_isSymbol hs).2.1]
        | cons b blank => simp [(classes_of_isSymbol hs).2.1, (classes_of_isWhitespace (hb b List.mem_cons_self)).2.1]
      | cons d t => rfl
    simp only [List.cons_append, looseRuns, standsLoose, hhead, ih]
    rfl

end ExprLex
