import ExprLex.Proofs.Cover
import ExprLex.Proofs.Mending

/-!
# What diagnostics are about

Each diagnostic of a token stream is about one of its tokens (`Token.DiagnosedAs`): it stands where the token stands. Where
the tokens come from lexemes, a token that is a parenthesis has the lexeme of one, so that the diagnostic is also as long as
the lexeme; and where they come from an expression, the lexeme is what the expression holds between the two offsets.
-/

namespace ExprLex

/-- A diagnostic of a token. -/
inductive Token.DiagnosedAs (t : Token) : Diagnostic → Prop where
  | unknown (h : t.kind = .unknown) : DiagnosedAs t (.unknownToken t)
  | neverOpened (h : t.kind = .punctuation .rightParenthesis) : DiagnosedAs t (.neverOpened t)
  | neverClosed (h : t.kind = .punctuation .leftParenthesis) : DiagnosedAs t (.neverClosed t)
  | trailing (h : t.kind.isDangling = true) : DiagnosedAs t (.trailingOperator t)

theorem Token.DiagnosedAs.position_eq {t : Token} {d : Diagnostic} (h : t.DiagnosedAs d) : d.position = t.position := by
  cases h with
  | unknown => rfl
  | neverOpened => rfl
  | neverClosed => rfl
  | trailing => rfl

/-- A fault of a stream is about one of its tokens, or about a parenthesis that was open before it. The induction follows the
stack of open parentheses. -/
theorem exists_token_of_mem_faults {opened tokens : List Token}
    (ho : ∀ o ∈ opened, o.kind = .punctuation .leftParenthesis) {d : Diagnostic} (h : d ∈ faults opened tokens) :
    ∃ t ∈ opened ++ tokens, t.DiagnosedAs d := by
  fun_induction faults opened tokens with
  | case1 opened =>
    obtain ⟨o, hm, rfl⟩ := List.mem_map.mp h
    have hm := List.mem_reverse.mp hm
    exact ⟨o, List.mem_append_left _ hm, .neverClosed (ho o hm)⟩
  | case2 opened t rest hk ih =>
    rcases List.mem_cons.mp h with rfl | h
    · exact ⟨t, by simp, .unknown hk⟩
    · obtain ⟨t', hm, hd⟩ := ih ho h
      exact ⟨t', by grind, hd⟩
  | case3 opened t rest hk ih =>
    have ho' : ∀ o ∈ t :: opened, o.kind = .punctuation .leftParenthesis := by
      intro o hm
      rcases List.mem_cons.mp hm with rfl | hm
      · exact hk
      · exact ho o hm
    obtain ⟨t', hm, hd⟩ := ih ho' h
    exact ⟨t', by grind, hd⟩
  | case4 t rest hk ih =>
    rcases List.mem_cons.mp h with rfl | h
    · exact ⟨t, by simp, .neverOpened hk⟩
    · obtain ⟨t', hm, hd⟩ := ih ho h
      exact ⟨t', List.mem_cons_of_mem _ hm, hd⟩
  | case5 t rest hk o outer ih =>
    obtain ⟨t', hm, hd⟩ := ih (fun o' hm => ho o' (List.mem_cons_of_mem _ hm)) h
    exact ⟨t', by grind, hd⟩
  | case6 opened t rest _ _ _ _ ih =>
    obtain ⟨t', hm, hd⟩ := ih ho h
    exact ⟨t', by grind, hd⟩

/-- A diagnostic of a stream is about one of its tokens. -/
theorem exists_token_of_mem_diagnose {tokens : List Token} {d : Diagnostic} (h : d ∈ diagnose tokens) :
    ∃ t ∈ tokens, t.DiagnosedAs d := by
  rw [diagnose, List.mem_mergeSort, List.mem_append] at h
  rcases h with h | h
  · exact exists_token_of_mem_faults (List.forall_mem_nil _) h
  · unfold trailing at h
    split at h
    · cases h
    · rename_i t ht
      split at h
      · rename_i hk
        cases List.mem_singleton.mp h
        exact ⟨t, List.mem_of_getLast? ht, .trailing hk⟩
      · cases h

/-! ## Tokens of lexemes -/

namespace Rules

variable {rules : Rules}

/-- The kind of a token of a stream of lexemes is one that its lexeme has behind some token. -/
theorem exists_kindOf_of_mem_tokensFrom {position : Nat} {previous : Option Token} {lexemes : List Text} {t : Token}
    (h : t ∈ rules.tokensFrom position previous lexemes) : ∃ before, t.kind = rules.kindOf before t.lexeme := by
  induction lexemes generalizing position previous with
  | nil => cases h
  | cons x rest ih =>
    rw [tokensFrom] at h
    split at h
    · exact ih h
    · rcases List.mem_cons.mp h with rfl | h
      · exact ⟨previous, rfl⟩
      · exact ih h

/-- A lexeme is punctuation only as one of the marks. -/
theorem length_of_kindOf_punctuation {previous : Option Token} {lexeme : Text} {p : Punctuation}
    (h : rules.kindOf previous lexeme = .punctuation p) : lexeme.length = 1 := by
  unfold kindOf at h
  split at h
  case h_5 | h_6 | h_7 => rfl
  case h_8 =>
    split at h
    · cases h
    · split at h
      · cases h
      · split at h
        · cases h
        · cases h
  all_goals cases h

end Rules

/-- The diagnostic of a token of lexemes covers the lexeme. -/
theorem Token.DiagnosedAs.place {rules : Rules} {lexemes : List Text} {t : Token} (ht : t ∈ rules.tokenize lexemes)
    {d : Diagnostic} (h : t.DiagnosedAs d) : d.position = t.position ∧ d.length = t.lexeme.length := by
  obtain ⟨before, hk⟩ := Rules.exists_kindOf_of_mem_tokensFrom ht
  cases h with
  | unknown => exact ⟨rfl, rfl⟩
  | neverOpened h => exact ⟨rfl, by rw [Rules.length_of_kindOf_punctuation (hk.symm.trans h)]; rfl⟩
  | neverClosed h => exact ⟨rfl, by rw [Rules.length_of_kindOf_punctuation (hk.symm.trans h)]; rfl⟩
  | trailing => exact ⟨rfl, rfl⟩

/-- Where a token of an expression stands: its lexeme is not empty, and it is what the expression holds there. -/
theorem Pattern.IsEnclosed.place {p : Pattern} (hp : p.IsEnclosed) {rules : Rules} {s : Text} {t : Token}
    (ht : t ∈ rules.tokenize (p.fragments s)) : ∃ start : Nat, t.position = start ∧ t.lexeme ≠ [] ∧
      start + t.lexeme.length ≤ s.length ∧ Client.slice s start (start + t.lexeme.length) = t.lexeme := by
  obtain ⟨l, hl, hb, htext, hpos⟩ := Rules.exists_lexeme_of_mem_tokenize ht
  have hdrop : s.drop 0 = (p.fragments s).flatten := by rw [List.drop_zero, hp.flatten_fragments]
  have hslice : Client.slice s l.offset l.stop = l.text := Lexeme.slice_of_mem_layOut hdrop hl
  have hne : l.text ≠ [] := by
    intro he
    rw [he] at hb
    cases hb
  refine ⟨l.offset, hpos, htext ▸ hne, ?_, htext ▸ hslice⟩
  have hlen := congrArg List.length hslice
  have hpos := List.length_pos_iff.mpr hne
  rw [Client.slice, List.length_drop, List.length_take] at hlen
  rw [htext]
  simp only [Lexeme.stop] at hlen
  omega

end ExprLex
