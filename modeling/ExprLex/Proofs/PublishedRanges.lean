import ExprLex.Proofs.Columns
import ExprLex.Proofs.Diagnosed
import ExprLex.Proofs.LineByLine

/-!
# Published ranges lead back

A diagnostic of a document goes to the client as a notice with a range in code units. The range lies on the line of the
diagnostic, it covers the lexeme that the diagnostic is about, and when the client sends it back it is read as the offsets
that it was made from. So the fix that is offered for an unknown lexeme names this lexeme.
-/

namespace ExprLex

open Client

/-- A document all of whose places have positions for clients. -/
def Addressable (source : Text) : Prop :=
  (documentLines source).length < 2 ^ 31 ∧ ∀ l ∈ documentLines source, units l < 2 ^ 31

theorem Addressable.fits {source : Text} (h : Addressable source) {i : Nat} {l : Text}
    (hl : (documentLines source)[i]? = some l) : Fits (documentLines source) i l := by
  have hmem := List.mem_of_getElem? hl
  obtain ⟨hi, -⟩ := List.getElem?_eq_some_iff.mp hl
  exact ⟨hl, not_mem_of_mem_documentLines hmem, Nat.lt_trans hi h.1, h.2 l hmem⟩

/-- A notice that covers some characters of a line, and is read back as these when the client sends it. -/
structure Client.Notice.Spans (n : Notice) (lines : List Text) (line : Nat) (text : Text) (start stop : Nat) : Prop where
  start_eq : n.range.start = ⟨line, units (text.take start)⟩
  stop_eq : n.range.stop = ⟨line, units (text.take stop)⟩
  nonempty : n.range.start.character < n.range.stop.character
  within : n.range.stop.character ≤ units text
  ofClient_eq : n.range.ofClient lines = .ok ⟨⟨line, start⟩, ⟨line, stop⟩⟩
  /-- being read does not move it -/
  settled_eq : n.range.settled lines = n.range

namespace Client

section

variable {lines : List Text} {i : Nat} {t : Text}

/-- More characters have more code units. -/
theorem units_take_lt_units_take {start stop : Nat} (h : start < stop) (hstop : stop ≤ t.length) :
    units (t.take start) < units (t.take stop) := by
  have hsplit : t.take stop = t.take start ++ (t.drop start).take (stop - start) := by
    rw [← List.take_add, Nat.add_sub_cancel' (Nat.le_of_lt h)]
  have hlen := length_le_units ((t.drop start).take (stop - start))
  rw [List.length_take, List.length_drop] at hlen
  rw [hsplit, units_append]
  omega

/-- The notice of a diagnostic that covers characters of the line spans them. -/
theorem Fits.spans (h : Fits lines i t) {d : Diagnostic} {start stop : Nat} (hstart : d.position = start)
    (hstop : d.position + d.length = stop) (hlt : start < stop) (hle : stop ≤ t.length) :
    (noticeOn t i d).Spans lines i t start stop := by
  have hrange : (noticeOn t i d).range = rangeOn t i start stop := by
    rw [noticeOn, hstop, hstart, Int.toNat_natCast, Int.toNat_natCast]
  refine ⟨?_, ?_, ?_, ?_, ?_, ?_⟩
  all_goals rw [hrange]
  · rfl
  · rfl
  · exact units_take_lt_units_take hlt hle
  · exact units_take_le t stop
  · exact h.range_ofClient (Nat.le_of_lt hlt) hle
  · exact h.range_settled start stop

/-- The one fix that is offered for an unknown lexeme takes out what the notice covers. -/
theorem actionsFor_unknownToken {n : Notice} {start stop : Nat} (hn : n.Spans lines i t start stop)
    (hl : lines[i]? = some t) (hcode : n.code = some (.code .unknownToken)) (uri : String) :
    actionsFor uri lines n =
      .ok [⟨"Remove unrecognized " ++ (slice t start stop).quoted, n, uri, ⟨n.range, ""⟩⟩] := by
  have hline : n.range.start.line = i := by rw [hn.start_eq]
  have hsettled : n.settled lines = n := by
    rw [Notice.settled, hn.settled_eq]
    split <;> rfl
  have ht : lines.getD i [] = t := by rw [List.getD_eq_getElem?_getD, hl, Option.getD_some]
  simp only [actionsFor, actionsCiting, hline, hl, hn.ofClient_eq, hsettled, hcode, ht]
  rfl

end

end Client

/-- Tokens in ascending order are told apart by where they stand. -/
theorem eq_of_position_eq {tokens : List Token} (h : tokens.Pairwise fun a b => a.position < b.position) {a b : Token}
    (ha : a ∈ tokens) (hb : b ∈ tokens) (he : a.position = b.position) : a = b := by
  induction h with
  | nil => cases ha
  | cons hlt _ ih =>
    rcases List.mem_cons.mp ha with ha | ha
    · rcases List.mem_cons.mp hb with hb | hb
      · rw [ha, hb]
      · have := hlt b hb
        rw [← ha] at this
        omega
    · rcases List.mem_cons.mp hb with hb | hb
      · have := hlt a ha
        rw [← hb] at this
        omega
      · exact ih ha hb

/-- Published ranges lead back: the notice of a diagnostic of a document lies on the line of the diagnostic and covers the
characters that the diagnostic is about; it is read back as their offsets, and it is not moved by that; and for an unknown
token, the only one at its place, the text between the offsets is the lexeme of the token, and the one fix that is offered
names this lexeme and takes it out. -/
theorem published_ranges_lead_back {source : Text} (h : Addressable source) (rules : Rules) (strict : Bool) {line : Int}
    {d : Diagnostic} (hd : (line, d) ∈ (analyse .default rules strict source).diagnostics) :
    ∃ (i start stop : Nat) (text : Text) (notice : Notice), line = i ∧ (documentLines source)[i]? = some text ∧
      d.position = start ∧ d.position + d.length = stop ∧
      Notice.ofDiagnostic (documentLines source) line d = .ok notice ∧
      notice.Spans (documentLines source) i text start stop ∧
      (d.code = .unknownToken → ∃ tokens token, (analyse .default rules strict source).tokensOn? line = some tokens ∧
        token ∈ tokens ∧ token.kind = .unknown ∧ token.position = d.position ∧
        (∀ other ∈ tokens, other.position = d.position → other = token) ∧ slice text start stop = token.lexeme ∧
        ∀ uri, actionsFor uri (documentLines source) notice =
          .ok [⟨"Remove unrecognized " ++ token.lexeme.quoted, notice, uri, ⟨notice.range, ""⟩⟩]) := by
  obtain ⟨i, text, rfl, hl, hx, hd⟩ := mem_diagnostics_analyse.mp hd
  have hd : d ∈ diagnose (lineTokens .default rules text) := (List.mem_filter.mp hd).1
  obtain ⟨t, ht, habout⟩ := exists_token_of_mem_diagnose hd
  obtain ⟨hpos, hlen⟩ := habout.place ht
  obtain ⟨start, hstart, hne, hle, hslice⟩ := Pattern.isEnclosed_default.place ht
  have hlex : 0 < t.lexeme.length := List.length_pos_iff.mpr hne
  have hfits := h.fits hl
  have hstop : d.position + d.length = ((start + t.lexeme.length : Nat) : Int) := by omega
  have hnotice : Notice.ofDiagnostic (documentLines source) i d = .ok (noticeOn text i d) :=
    hfits.ofDiagnostic (by omega) (by omega) (by omega)
  have hspans : (noticeOn text i d).Spans (documentLines source) i text start (start + t.lexeme.length) :=
    hfits.spans (hpos.trans hstart) hstop (by omega) hle
  refine ⟨i, start, _, text, _, rfl, hl, hpos.trans hstart, hstop, hnotice, hspans, fun hcode => ?_⟩
  have hunknown : t.kind = .unknown := by
    cases habout with
    | unknown hk => exact hk
    | neverOpened => cases hcode
    | neverClosed => cases hcode
    | trailing => cases hcode
  have hascend : (lineTokens .default rules text).Pairwise fun a b => a.position < b.position :=
    (covers_of_flatten (fun f hf => Pattern.ne_nil_of_mem_fragments hf)
      (Pattern.isEnclosed_default.flatten_fragments text) rules).tokens_ascend
  refine ⟨_, t, tokensOn?_eq_some_iff.mpr ⟨i, text, rfl, hl, hx, rfl⟩, ht, hunknown, hpos.symm,
    fun other ho he => eq_of_position_eq hascend ho ht (he.trans hpos), hslice, fun uri => ?_⟩
  rw [actionsFor_unknownToken hspans hl (by rw [noticeOn, hcode]) uri, hslice]

/-- An unknown lexeme of two characters with two code units each, behind another such character and at the end of its
line. -/
theorem published_ranges_lead_back_surrogates :
    Addressable "# 1\n(𝟙 𝒳😀".toList ∧
      ((1 : Int), Diagnostic.unknownToken ⟨.unknown, "𝒳😀".toList, 3⟩) ∈
        (analyse .default {} true "# 1\n(𝟙 𝒳😀".toList).diagnostics ∧
      ∃ notice : Notice,
        Notice.ofDiagnostic (documentLines "# 1\n(𝟙 𝒳😀".toList) 1 (.unknownToken ⟨.unknown, "𝒳😀".toList, 3⟩) =
          .ok notice ∧
        notice.range = ⟨⟨1, 4⟩, ⟨1, 8⟩⟩ ∧
        notice.range.ofClient (documentLines "# 1\n(𝟙 𝒳😀".toList) = .ok ⟨⟨1, 3⟩, ⟨1, 5⟩⟩ := by
  have haddressable : Addressable "# 1\n(𝟙 𝒳😀".toList := by
    unfold Addressable
    decide
  have hd : ((1 : Int), Diagnostic.unknownToken ⟨.unknown, "𝒳😀".toList, 3⟩) ∈
      (analyse .default {} true "# 1\n(𝟙 𝒳😀".toList).diagnostics := by
    refine mem_diagnostics_analyse.mpr ⟨1, _, rfl, rfl, by decide, ?_⟩
    rw [reported, List.mem_filter, diagnose, List.mem_mergeSort, List.mem_append]
    exact ⟨Or.inl (by decide +kernel), rfl⟩
  obtain ⟨i, start, stop, text, notice, hi, hl, hstart, hstop, hnotice, hspans, -⟩ :=
    published_ranges_lead_back haddressable {} true hd
  obtain rfl : 1 = i := Int.ofNat_inj.mp hi
  obtain rfl : "(𝟙 𝒳😀".toList = text := Option.some.inj hl
  have hposition : (Diagnostic.unknownToken ⟨.unknown, "𝒳😀".toList, 3⟩).position = 3 := rfl
  have hlength : (Diagnostic.unknownToken ⟨.unknown, "𝒳😀".toList, 3⟩).length = 2 := rfl
  obtain rfl : 3 = start := by omega
  obtain rfl : 5 = stop := by omega
  refine ⟨haddressable, hd, notice, hnotice, ?_, hspans.ofClient_eq⟩
  have hstart : notice.range.start = ⟨1, 4⟩ := hspans.start_eq
  have hstop : notice.range.stop = ⟨1, 8⟩ := hspans.stop_eq
  rw [← hstart, ← hstop]

end ExprLex
