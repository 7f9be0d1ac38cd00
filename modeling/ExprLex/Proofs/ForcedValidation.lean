import ExprLex.Proofs.GroupTexts
import ExprLex.Proofs.PublishedRanges
import ExprLex.Proofs.Views

/-!
# Forced validations

A forced validation analyses a document under the pattern that is set, or under the default one where none is set or the one
that is set is malformed, and publishes the notices of the analysis. This fails in two ways only: the pattern has a fault of
another kind (a bound that is too large, say, or groups that nest too deep), or a diagnostic ends beyond the columns that a
position may have. The latter does not happen to lines of fewer than `2 ^ 20` code units as long as the groups of the pattern
do not multiply them (`Pattern.IsModest`), and so it never happens under the default pattern. Where the document or the
pattern is no text, nothing is published at all.
-/

namespace ExprLex

open Client

/-- A document with few enough lines for positions, each of fewer than `2 ^ 20` code units. -/
structure Moderate (source : Text) : Prop where
  lines_lt : (documentLines source).length < 2 ^ 31
  units_lt : ∀ l ∈ documentLines source, units l < 2 ^ 20

instance (source : Text) : Decidable (Moderate source) :=
  decidable_of_iff ((documentLines source).length < 2 ^ 31 ∧ ∀ l ∈ documentLines source, units l < 2 ^ 20)
    ⟨fun h => ⟨h.1, h.2⟩, fun h => ⟨h.lines_lt, h.units_lt⟩⟩

/-- Moderate documents are addressable. -/
theorem Moderate.addressable {source : Text} (h : Moderate source) : Addressable source :=
  ⟨h.lines_lt, fun l hl => Nat.lt_trans (h.units_lt l hl) (by decide)⟩

/-- All diagnostics of an analysis end at columns that a position may have. -/
def Analysis.InReach (a : Analysis) : Prop := ∀ e ∈ a.diagnostics, e.2.position + e.2.length ≤ positionLimit

/-! ## Ranges on a line -/

namespace Client

/-- A position on a line with a number in range can be made up to the greatest column. -/
theorem exists_make_iff {line : Nat} (hl : line < 2 ^ 31) {column : Int} (hc : 0 ≤ column) :
    (∃ p, Position.make line column = .ok p) ↔ column ≤ positionLimit := by
  have hlimit : positionLimit = 2147483647 := rfl
  have hcolumn : inLimits column = decide (column ≤ positionLimit) := by simp [inLimits, hc]
  unfold Position.make
  rw [inLimits_natCast hl, hcolumn]
  by_cases h : column ≤ positionLimit
  · simp [h]
  · simp [h]

section

variable {lines : List Text} {i : Nat} {t : Text}

/-- A range on a line that fits can be made if and only if it ends at a column that a position may have. The columns may lie
behind the end of the line. -/
theorem Fits.exists_onLine_iff (h : Fits lines i t) {start stop : Int} (hstart : 0 ≤ start) (hle : start ≤ stop) :
    (∃ r, Range.onLine lines i start stop = .ok r) ↔ stop ≤ positionLimit := by
  have hlimit : positionLimit = 2147483647 := rfl
  constructor
  · rintro ⟨r, hr⟩
    rw [← exists_make_iff h.number_lt (Int.le_trans hstart hle)]
    obtain ⟨first, -, hr⟩ := exists_of_bind_eq_ok hr
    obtain ⟨last, hlast, -⟩ := exists_of_bind_eq_ok hr
    exact ⟨last, hlast⟩
  · intro hstop
    obtain ⟨first, rfl⟩ := Int.eq_ofNat_of_zero_le hstart
    obtain ⟨last, rfl⟩ := Int.eq_ofNat_of_zero_le (Int.le_trans hstart hle)
    have hne : lines.isEmpty = false := by simpa using h.ne_nil
    refine ⟨rangeOn t i first last, ?_⟩
    simp only [Range.onLine, Position.make_ok h.number_lt (show first < 2 ^ 31 by omega),
      Position.make_ok h.number_lt (show last < 2 ^ 31 by omega), hne]
    simp only [bind, Except.bind, pure, Except.pure, h.toClient, Bool.false_eq_true, if_false]
    rfl

/-- So it is with the notice of a diagnostic that covers at least one character. -/
theorem Fits.exists_ofDiagnostic_iff (h : Fits lines i t) {d : Diagnostic} (hpos : 0 ≤ d.position) (hlen : 0 < d.length) :
    (∃ n, Notice.ofDiagnostic lines i d = .ok n) ↔ d.position + d.length ≤ positionLimit := by
  have hmax : max d.length 1 = d.length := by omega
  rw [← h.exists_onLine_iff hpos (show d.position ≤ d.position + d.length by omega), Notice.ofDiagnostic, hmax]
  cases Range.onLine lines i d.position (d.position + d.length) with
  | ok range => simp [bind, Except.bind, pure, Except.pure]
  | error e => simp [bind, Except.bind]

end

end Client

/-! ## Diagnostics in reach -/

section

variable {p : Pattern} {rules : Rules} {strict : Bool} {source : Text}

/-- Where the diagnostics of a document stand: on its lines, and within what the fragments of the line make up. -/
theorem place_of_mem_diagnostics {line : Int} {d : Diagnostic}
    (h : (line, d) ∈ (analyse p rules strict source).diagnostics) : ∃ (i : Nat) (l : Text), line = i ∧
      (documentLines source)[i]? = some l ∧ 0 ≤ d.position ∧ 0 < d.length ∧
      d.position + d.length ≤ (p.fragments l).flatten.length := by
  obtain ⟨i, l, rfl, hl, -, hd⟩ := mem_diagnostics_analyse.mp h
  have hd : d ∈ diagnose (lineTokens p rules l) := (List.mem_filter.mp hd).1
  obtain ⟨t, ht, habout⟩ := exists_token_of_mem_diagnose hd
  obtain ⟨hpos, hlen⟩ := habout.place ht
  obtain ⟨hstart, hlex, hstop⟩ := Pattern.place_of_mem_tokenize ht
  rw [← hpos] at hstart hstop
  rw [← hlen] at hstop
  exact ⟨i, l, rfl, hl, hstart, by omega, hstop⟩

/-- The groups of a modest pattern keep the diagnostics of moderate lines in reach. -/
theorem inReach_analyse (hp : p.IsModest) (h : Moderate source) : (analyse p rules strict source).InReach := by
  rintro ⟨line, d⟩ hd
  obtain ⟨i, l, -, hl, -, -, hstop⟩ := place_of_mem_diagnostics hd
  have hfragments := Pattern.length_fragments hp.plain l
  have hgroups := Nat.mul_le_mul_right l.length hp.groups_lt
  have hunits := h.units_lt l (List.mem_of_getElem? hl)
  have hlength := length_le_units l
  have hlimit : positionLimit = 2147483647 := rfl
  show d.position + d.length ≤ positionLimit
  omega

end

/-- All that is made of a list can be made if each item can. -/
theorem exists_mapM_iff {α β ε : Type} {f : α → Except ε β} {as : List α} :
    (∃ bs, as.mapM f = .ok bs) ↔ ∀ a ∈ as, ∃ b, f a = .ok b := by
  induction as with
  | nil => exact iff_of_true ⟨[], rfl⟩ (by simp)
  | cons a as ih =>
    rw [List.mapM_cons, List.forall_mem_cons, ← ih]
    cases f a with
    | error e => simp [bind, Except.bind]
    | ok b =>
      cases as.mapM f with
      | error e => simp [bind, Except.bind]
      | ok bs => simp [bind, Except.bind, pure, Except.pure]

namespace Server

/-- The analysis of a document has notices if and only if its diagnostics are in reach. -/
theorem exists_noticesOf_iff {p : Pattern} {rules : Rules} {strict : Bool} {source : Text} (h : Addressable source) :
    (∃ notices, noticesOf (analyse p rules strict source) = .ok notices) ↔ (analyse p rules strict source).InReach := by
  rw [noticesOf, exists_mapM_iff, lines_analyse]
  refine forall₂_congr fun e he => ?_
  obtain ⟨line, d⟩ := e
  obtain ⟨i, l, rfl, hl, hpos, hlen, -⟩ := place_of_mem_diagnostics he
  exact (h.fits hl).exists_ofDiagnostic_iff hpos hlen

/-! ## The pattern in force -/

namespace Settings

/-- The pattern that is set, or the default one where none is set or the one that is set cannot be read. -/
def patternOrDefault (s : Settings) (engine : Pattern.Engine) : Pattern :=
  match s.delimiter engine with
  | .ok pattern => pattern
  | .error _ => .default

/-- The pattern that is set has no fault but malformed spots. -/
def FaultsAreMalformed (s : Settings) (engine : Pattern.Engine) : Prop :=
  ∀ fault, s.delimiter engine = .error fault → fault.isMalformed = true

section

variable {s : Settings} {engine : Pattern.Engine}

/-- A malformed pattern is replaced by the default one. -/
theorem activePattern_of_faultsAreMalformed (h : s.FaultsAreMalformed engine) :
    s.activePattern engine = .ok (s.patternOrDefault engine) := by
  unfold activePattern patternOrDefault
  cases hd : s.delimiter engine with
  | ok pattern => rfl
  | error fault =>
    show (if fault.isMalformed = true then _ else _) = _
    rw [if_pos (h fault hd)]

/-- A pattern with another fault is not, so there is no analysis. -/
theorem exists_outcome_eq_error (h : ¬ s.FaultsAreMalformed engine) (source : Text) :
    ∃ f, s.outcome engine source = .error f := by
  obtain ⟨fault, hd, hm⟩ : ∃ fault, s.delimiter engine = .error fault ∧ fault.isMalformed ≠ true := by
    simpa [FaultsAreMalformed] using h
  refine ⟨.pattern s.patternText.shown fault, ?_⟩
  have hactive : s.activePattern engine = .error (.pattern s.patternText.shown fault) := by
    unfold activePattern
    rw [hd]
    show (if fault.isMalformed = true then _ else _) = _
    rw [if_neg hm]
  rw [outcome, hactive]

end

/-- The analysis under the pattern that is set or, for want of it, under the default one. -/
def analysisOf (s : Settings) (engine : Pattern.Engine) (source : Text) : Analysis :=
  analyse (s.patternOrDefault engine) s.rules s.strict source

/-- Under some settings the analysis of a text can be made, and its notices too. -/
structure Serves (s : Settings) (engine : Pattern.Engine) (source : Text) : Prop where
  faults : s.FaultsAreMalformed engine
  reach : (s.analysisOf engine source).InReach

section

variable {s : Settings} {engine : Pattern.Engine}

/-- With a pattern the analysis fails only if its notices do. -/
theorem outcome_of_faultsAreMalformed (h : s.FaultsAreMalformed engine) (source : Text) :
    s.outcome engine source =
      ((noticesOf (s.analysisOf engine source)).mapError .position).map (s.analysisOf engine source, ·) := by
  rw [outcome, activePattern_of_faultsAreMalformed h]
  rfl

/-- The notices that a text gets: those of the analysis if there are any, and else that of a failure. -/
theorem notices_cases (s : Settings) (engine : Pattern.Engine) {source : Text} (h : Addressable source) :
    (s.Serves engine source ∧ noticesOf (s.analysisOf engine source) = .ok (s.notices engine source)) ∨
      (¬ s.Serves engine source ∧
        ∃ f : Failure, s.notices engine source = [.internalError ("Internal error: " ++ f.message)]) := by
  unfold Settings.notices
  by_cases hfaults : s.FaultsAreMalformed engine
  · have houtcome := outcome_of_faultsAreMalformed hfaults source
    have hreach : (∃ notices, noticesOf (s.analysisOf engine source) = .ok notices) ↔
        (s.analysisOf engine source).InReach := exists_noticesOf_iff h
    cases hnotices : noticesOf (s.analysisOf engine source) with
    | ok notices =>
      rw [hnotices] at houtcome
      rw [houtcome]
      exact Or.inl ⟨⟨hfaults, hreach.mp ⟨notices, hnotices⟩⟩, rfl⟩
    | error e =>
      rw [hnotices] at houtcome
      rw [houtcome]
      refine Or.inr ⟨fun hserves => ?_, .position e, rfl⟩
      obtain ⟨notices, hok⟩ := hreach.mpr hserves.reach
      cases hnotices.symm.trans hok
  · obtain ⟨f, hf⟩ := exists_outcome_eq_error hfaults source
    rw [hf]
    exact Or.inr ⟨fun hserves => hfaults hserves.faults, f, rfl⟩

end

end Settings

/-- What a forced validation of a document publishes. -/
inductive Forced (sv : State) (uri : String) (source : RawText) (published : List (String × List Notice)) : Prop where
  /-- the notices of the analysis -/
  | served {text : Text} {notices : List Notice} (encodes : sv.Encodes source text)
      (serves : sv.settings.Serves sv.engine text) (made : noticesOf (sv.settings.analysisOf sv.engine text) = .ok notices)
      (eq : published = [(uri, notices)]) : Forced sv uri source published
  /-- the notice of a failure -/
  | failed {text : Text} {f : Failure} (encodes : sv.Encodes source text) (unserved : ¬ sv.settings.Serves sv.engine text)
      (eq : published = [(uri, [.internalError ("Internal error: " ++ f.message)])]) : Forced sv uri source published
  /-- nothing, where something is to be encoded that is no text -/
  | refused (unencodable : ¬ ∃ text, sv.Encodes source text) (eq : published = []) : Forced sv uri source published

/-- A forced validation publishes the notices of a text. -/
theorem State.published_forced {sv : State} {source : RawText} {text : Text} (h : sv.Encodes source text) (uri : String) :
    (sv.validate uri source true).activity.published = [(uri, sv.settings.notices sv.engine text)] := by
  rw [State.validate_of_encodes h, Reaction.published_after_info, State.validateText_of_due (Or.inl rfl)]
  exact sv.published_validateAnew uri text

/-- Every forced validation of a moderate document does one of these. -/
theorem forced_validate (sv : State) (uri : String) {source : RawText} (h : Moderate source.shown) :
    Forced sv uri source (sv.validate uri source true).activity.published := by
  rcases sv.encoded_cases source with ⟨text, hencodes⟩ | ⟨hnone, f, he⟩
  · have hpublished := State.published_forced hencodes uri
    rw [hencodes.source_eq, RawText.shown_ofText] at h
    rcases sv.settings.notices_cases sv.engine h.addressable with ⟨hserves, hnotices⟩ | ⟨hnot, f, hf⟩
    · exact .served hencodes hserves hnotices hpublished
    · rw [hf] at hpublished
      exact .failed hencodes hnot hpublished
  · rw [State.validate_of_encoded_eq_error he]
    exact .refused hnone rfl

section

variable {sv : State} {uri : String} {source : RawText} {text : Text} {published : List (String × List Notice)}

/-- The notices of an analysis are published exactly if it can be made. -/
theorem Forced.served_iff (h : Forced sv uri source published) :
    (∃ text notices, source = RawText.ofText text ∧ noticesOf (sv.settings.analysisOf sv.engine text) = .ok notices ∧
      published = [(uri, notices)]) ↔ ∃ text, sv.Encodes source text ∧ sv.settings.Serves sv.engine text := by
  cases h with
  | served encodes serves made eq => exact iff_of_true ⟨_, _, encodes.source_eq, made, eq⟩ ⟨_, encodes, serves⟩
  | failed encodes unserved eq =>
    refine iff_of_false ?_ fun ⟨_, hencodes, hserves⟩ => unserved (encodes.unique hencodes ▸ hserves)
    rintro ⟨text, notices, -, hmade, hsame⟩
    rw [eq, List.cons.injEq, Prod.mk.injEq] at hsame
    rw [← hsame.1.2] at hmade
    exact noticesOf_ne_internalError hmade _ rfl
  | refused unencodable eq =>
    refine iff_of_false ?_ fun ⟨text, hencodes, _⟩ => unencodable ⟨text, hencodes⟩
    rintro ⟨_, _, -, -, hsame⟩
    cases eq.symm.trans hsame

/-- The notice of a failure is published exactly if it cannot. -/
theorem Forced.failed_iff (h : Forced sv uri source published) :
    (∃ shown ∈ published, ∃ message, Notice.internalError message ∈ shown.2) ↔
      ∃ text, sv.Encodes source text ∧ ¬ sv.settings.Serves sv.engine text := by
  cases h with
  | served encodes serves made eq =>
    refine iff_of_false ?_ fun ⟨_, hencodes, hnot⟩ => hnot (encodes.unique hencodes ▸ serves)
    rintro ⟨shown, hshown, message, hmem⟩
    rw [eq, List.mem_singleton] at hshown
    rw [hshown] at hmem
    exact code_ne_none_of_mem_notices made _ hmem rfl
  | failed encodes unserved eq =>
    refine iff_of_true ?_ ⟨_, encodes, unserved⟩
    rw [eq]
    exact ⟨_, List.mem_singleton_self _, _, List.mem_singleton_self _⟩
  | refused unencodable eq =>
    refine iff_of_false ?_ fun ⟨text, hencodes, _⟩ => unencodable ⟨text, hencodes⟩
    rintro ⟨_, hshown, -⟩
    rw [eq] at hshown
    cases hshown

/-- Nothing is published exactly if something is to be encoded that is no text. -/
theorem Forced.refused_iff (h : Forced sv uri source published) :
    published = [] ↔ ¬ (source.IsText ∧ sv.settings.patternText.IsText) := by
  rw [← State.exists_encodes_iff]
  cases h with
  | served encodes _ _ eq | failed encodes _ eq =>
    rw [eq]
    exact iff_of_false (List.cons_ne_nil _ _) (not_not_intro ⟨_, encodes⟩)
  | refused unencodable eq => exact iff_of_true eq unencodable

end

/-- What a forced validation of a moderate document publishes, in any state. It is the notices of the analysis under the
pattern that is set or, where none is set or the one that is set cannot be read, under the default one, exactly if document
and pattern are texts, the pattern has no fault but malformed spots and the diagnostics are in reach; exactly if they are
texts and one of the rest fails, it is the notice of a failure; and exactly if they are not both texts, it is nothing. Under a
modest pattern, such as the default one, the diagnostics are in reach. -/
theorem forced_validation_iff (sv : State) (uri : String) {source : RawText} (h : Moderate source.shown) :
    let analysis := sv.settings.analysisOf sv.engine
    let published := (sv.validate uri source true).activity.published
    ((∃ text notices, source = RawText.ofText text ∧ noticesOf (analysis text) = .ok notices ∧
          published = [(uri, notices)]) ↔
        ∃ text, sv.Encodes source text ∧ sv.settings.Serves sv.engine text) ∧
      ((∃ shown ∈ published, ∃ message, Notice.internalError message ∈ shown.2) ↔
        ∃ text, sv.Encodes source text ∧ ¬ sv.settings.Serves sv.engine text) ∧
      (published = [] ↔ ¬ (source.IsText ∧ sv.settings.patternText.IsText)) ∧
      ((sv.settings.patternOrDefault sv.engine).IsModest → ∀ text, source = RawText.ofText text → (analysis text).InReach) := by
  intro analysis published
  have hforced := forced_validate sv uri h
  exact ⟨hforced.served_iff, hforced.failed_iff, hforced.refused_iff, fun hmodest text hs =>
    inReach_analyse hmodest (by rwa [hs, RawText.shown_ofText] at h)⟩

/-- The client sets a malformed pattern. -/
def malformedPattern : List Message :=
  [.configure (.record [("mathlex".toList, .record [("pattern".toList, .text "(".toList)])])]

/-- Under a malformed pattern the default one counts. -/
theorem forced_validation_iff_malformed_pattern :
    Moderate "1 $".toList ∧ ∃ notices,
      noticesOf (analyse .default (.ofFunctions (.build [] true)) false "1 $".toList) = .ok notices ∧
      (((State.start {}).run malformedPattern).validate "file:///a" "1 $".toList true).activity.published =
        [("file:///a", notices)] := by
  have hmoderate : Moderate (RawText.ofText "1 $".toList).shown := by decide
  have hdelimiter : ((State.start {}).run malformedPattern).settings.delimiter .plain =
      .error (.malformed .unclosedGroup 0) := by decide +kernel
  have hdefault : ((State.start {}).run malformedPattern).settings.patternOrDefault .plain = .default := by
    rw [Settings.patternOrDefault, hdelimiter]
  have hkey : ((State.start {}).run malformedPattern).settings.key.IsText := by decide +kernel
  have h := forced_validation_iff ((State.start {}).run malformedPattern) "file:///a" hmoderate
  have hmodest : (((State.start {}).run malformedPattern).settings.patternOrDefault .plain).IsModest := by
    rw [hdefault]
    exact Pattern.isModest_default
  have hserves : ((State.start {}).run malformedPattern).settings.Serves .plain "1 $".toList := by
    refine ⟨fun fault hfault => ?_, h.2.2.2 hmodest _ rfl⟩
    cases hdelimiter.symm.trans hfault
    rfl
  obtain ⟨text, notices, hs, hnotices, hpublished⟩ := h.1.mpr ⟨_, State.encodes_ofText hkey _, hserves⟩
  obtain rfl := RawText.ofText_injective hs
  refine ⟨by decide, notices, ?_, hpublished⟩
  have hanalysis : ((State.start {}).run malformedPattern).settings.analysisOf .plain "1 $".toList =
      analyse .default (.ofFunctions (.build [] true)) false "1 $".toList := by
    rw [Settings.analysisOf, hdefault]
    rfl
  rwa [← hanalysis]

/-- The client sets a pattern with a bound that is too large. -/
def overlongPattern : List Message :=
  [.configure (.record [("mathlex".toList, .record [("pattern".toList, .text "a{4294967295}".toList)])])]

/-- The fault of a pattern may be published instead of the notices of an analysis. -/
theorem not_forced_validation_overlong_pattern :
    Moderate "1".toList ∧
      (((State.start {}).run overlongPattern).validate "file:///a" "1".toList true).activity.published =
        [("file:///a", [.internalError ("Internal error: " ++ "the repetition number is too large")])] := by
  have houtcome : ((State.start {}).run overlongPattern).settings.outcome .plain "1".toList =
      .error (.pattern "a{4294967295}".toList .boundTooLarge) := by decide +kernel
  have hkey : ((State.start {}).run overlongPattern).settings.key.IsText := by decide +kernel
  refine ⟨by decide, ?_⟩
  have hpublished := State.published_forced (State.encodes_ofText hkey "1".toList) "file:///a"
  have hengine : ((State.start {}).run overlongPattern).engine = .plain := rfl
  rw [Settings.notices, hengine, houtcome] at hpublished
  exact hpublished

end Server

end ExprLex
