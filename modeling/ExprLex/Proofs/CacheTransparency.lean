import ExprLex.Proofs.Runs

/-!
# When the last analysis may be used again

A validation that uses the last analysis of a document should do what a fresh one would do. The last analysis was made under
settings with the same key, and so it is the fresh one wherever the key tells all that an analysis goes by. It does not tell
a pattern that is displayed like a missing one from no pattern; this is the one case in which the last analysis is stale.
-/

namespace ExprLex

namespace Server

/-! ## Settings with the same key -/

/-- The text that both no pattern and a pattern may be displayed as. -/
def noneText : Text := Payload.inner .null

/-- The pattern that the text reads as. -/
def nonePattern : Pattern := (Pattern.compile .plain noneText).toOption.getD .default

/-- It has no groups, so there is always room for it. -/
theorem compile_noneText (engine : Pattern.Engine) : Pattern.compile engine noneText = .ok nonePattern := by
  obtain ⟨character?, room⟩ := engine
  rfl

namespace Settings

variable {s s' : Settings} {engine : Pattern.Engine}

/-- Without a pattern the default one counts. -/
theorem activePattern_of_none (h : s.pattern = none) : s.activePattern engine = .ok .default := by
  simp only [activePattern, delimiter, h]

/-- A pattern that is displayed like a missing one is read all the same. -/
theorem activePattern_of_noneText {value : Payload} (h : s.pattern = some value)
    (ht : s.patternText = RawText.ofText noneText) : s.activePattern engine = .ok nonePattern := by
  have hd : value.display = RawText.ofText noneText := by
    rw [← ht, patternText, h]
    rfl
  simp only [activePattern, delimiter, h, hd, RawText.shown_ofText, compile_noneText]

/-- Under settings with the same key the same pattern counts, if there is one in both or in neither. -/
theorem activePattern_eq_of_key_eq (h : s.key = s'.key) (hp : s.pattern.isNone = s'.pattern.isNone) :
    s.activePattern engine = s'.activePattern engine := by
  have ht := (key_inj h).2.2.2
  cases hs : s.pattern with
  | none =>
    cases hs' : s'.pattern with
    | none => rw [activePattern_of_none hs, activePattern_of_none hs']
    | some value' => simp [hs, hs'] at hp
  | some value =>
    cases hs' : s'.pattern with
    | none => simp [hs, hs'] at hp
    | some value' =>
      have hd : value.display = value'.display := by
        simpa [patternText, hs, hs'] using ht
      simp only [activePattern, delimiter, hs, hs', hd, ht]

/-- Settings with the same key lead to the same outcome, if there is a pattern in both or in neither. -/
theorem outcome_eq_of_key_eq (h : s.key = s'.key) (hp : s.pattern.isNone = s'.pattern.isNone) (source : Text) :
    s.outcome engine source = s'.outcome engine source := by
  simp only [outcome, activePattern_eq_of_key_eq h hp, analyse_eq_of_key_eq h]

/-- What a fresh analysis is that succeeds. -/
theorem outcome_eq_ok_iff {source : Text} {a : Analysis} {notices : List Client.Notice} :
    s.outcome engine source = .ok (a, notices) ↔
      ∃ p, s.activePattern engine = .ok p ∧ a = analyse p s.rules s.strict source ∧ noticesOf a = .ok notices := by
  unfold outcome
  cases hp : s.activePattern engine with
  | error f => simp
  | ok p =>
    cases hn : noticesOf (analyse p s.rules s.strict source) with
    | error x =>
      simp only [hn, Except.mapError, Except.map, reduceCtorEq, false_iff, not_exists, not_and, Except.ok.injEq]
      rintro _ rfl rfl
      simp [hn]
    | ok fresh =>
      simp only [hn, Except.mapError, Except.map, Except.ok.injEq, Prod.mk.injEq]
      constructor
      · rintro ⟨rfl, rfl⟩
        exact ⟨p, rfl, rfl, hn⟩
      · rintro ⟨_, rfl, rfl, hn'⟩
        exact ⟨rfl, Except.ok.inj (hn.symm.trans hn')⟩

/-- Settings with the same key of which one has no pattern: the one goes by the default pattern, the other by what the
display of a missing pattern reads as. -/
theorem activePattern_of_ne (h : s.key = s'.key) (hp : s.pattern.isNone ≠ s'.pattern.isNone) :
    (s.activePattern engine = .ok .default ∧ s'.activePattern engine = .ok nonePattern) ∨
      (s.activePattern engine = .ok nonePattern ∧ s'.activePattern engine = .ok .default) := by
  have ht := (key_inj h).2.2.2
  have hnone : ∀ s : Settings, s.pattern = none → s.patternText = RawText.ofText noneText := by
    intro s hs
    rw [patternText, hs]
    rfl
  cases hs : s.pattern with
  | none =>
    cases hs' : s'.pattern with
    | none => simp [hs, hs'] at hp
    | some value' =>
      exact Or.inl ⟨activePattern_of_none hs, activePattern_of_noneText hs' (ht.symm.trans (hnone s hs))⟩
  | some value =>
    cases hs' : s'.pattern with
    | none => exact Or.inr ⟨activePattern_of_noneText hs (ht.trans (hnone s' hs')), activePattern_of_none hs'⟩
    | some value' => simp [hs, hs'] at hp

end Settings

/-! ## Where the last analyses come from -/

/-- An entry that a validation under some settings has made, with patterns read by the engine. -/
def Entry.MadeUnder (e : Entry) (s : Settings) (engine : Pattern.Engine) : Prop :=
  e.key = s.key ∧ ∃ notices, s.outcome engine e.source = .ok (e.analysis, notices)

/-- What a step does to the last analysis of a document: it keeps it, or drops it, or makes it under the settings that are in
force afterwards. -/
structure Renews (uri : String) (before after : State) : Prop where
  site : after.toSite = before.toSite
  entry : after.cache.get? uri = before.cache.get? uri ∨ after.cache.get? uri = none ∨
    ∃ e, after.cache.get? uri = some e ∧ e.MadeUnder after.settings after.engine

/-- A step that leaves the last analysis of a document as it is. -/
theorem Renews.of_eq {uri : String} {before after : State} (hsite : after.toSite = before.toSite)
    (h : after.cache.get? uri = before.cache.get? uri) : Renews uri before after := ⟨hsite, Or.inl h⟩

/-- A step from a state where the same is there for the document. -/
theorem Renews.of_same {uri : String} {before between after : State} (h : Renews uri between after)
    (hsite : between.toSite = before.toSite) (hcache : between.cache = before.cache) : Renews uri before after :=
  ⟨h.site.trans hsite, hcache ▸ h.entry⟩

/-- A step that also keeps the settings. -/
def Revalidates (uri : String) (before after : State) : Prop :=
  after.settings = before.settings ∧ Renews uri before after

/-- A validation of any document does just that to the last analysis of each. -/
theorem revalidates_validate (uri : String) (sv : State) (other : String) (source : RawText) (force : Bool) :
    Revalidates uri sv (sv.validate other source force).state := by
  rcases sv.state_validate other source force with hs | ⟨text, analysis, notices, -, ho, hs⟩
  · rw [hs]
    exact ⟨rfl, .of_eq rfl rfl⟩
  · rw [hs]
    refine ⟨rfl, rfl, ?_⟩
    by_cases hu : uri = other
    · subst hu
      exact Or.inr (Or.inr ⟨_, Keyed.get?_put_self _ _ _, rfl, notices, ho⟩)
    · exact Or.inl (Keyed.get?_put_other _ hu _)

theorem revalidates_trans {uri : String} {a b c : State} (h : Revalidates uri a b) (h' : Revalidates uri b c) :
    Revalidates uri a c := by
  obtain ⟨hs, hsite, hr⟩ := h
  obtain ⟨hs', hsite', hr'⟩ := h'
  have hengine : c.engine = b.engine := congrArg Site.engine hsite'
  refine ⟨hs'.trans hs, hsite'.trans hsite, ?_⟩
  rcases hr' with he' | hr'
  · rcases hr with he | he | ⟨e, he, hm⟩
    · exact Or.inl (he'.trans he)
    · exact Or.inr (Or.inl (he'.trans he))
    · refine Or.inr (Or.inr ⟨e, he'.trans he, ?_⟩)
      rwa [hs', hengine]
  · exact Or.inr hr'

/-- What single validations do to the last analysis of a document, any number of them does. -/
theorem kept_revalidates (uri : String) : State.Kept (Revalidates uri) where
  refl _ := ⟨rfl, .of_eq rfl rfl⟩
  trans := revalidates_trans
  validate := revalidates_validate uri
  timers _ _ := ⟨rfl, .of_eq rfl rfl⟩

/-- Every message keeps the last analysis of a document, or drops it, or makes it under the settings that are in force
afterwards. -/
theorem renews_handle (uri : String) (sv : State) (m : Message) : Renews uri sv (sv.handle m).state := by
  have hk := kept_revalidates uri
  cases m with
  | initialise options => exact .of_eq rfl rfl
  | configure payload => exact (hk.revalidateAll sv.cache.keys _).2.of_same rfl rfl
  | opened other text =>
    simp only [State.handle, State.atPath]
    split
    · exact .of_eq rfl rfl
    · exact (revalidates_validate uri _ other text false).2.of_same rfl rfl
  | changed other text =>
    simp only [State.handle, State.atPath]
    split
    · exact .of_eq rfl rfl
    · simp only [Reaction.answer]
      split
      · exact .of_eq rfl rfl
      · exact .of_eq rfl rfl
  | saved other => exact (hk.revalidate sv other).2
  | closed other =>
    simp only [State.handle, State.atPath]
    split
    · exact .of_eq rfl rfl
    · by_cases hu : uri = other
      · subst hu
        exact ⟨rfl, Or.inr (Or.inl (Keyed.get?_remove_self _ _))⟩
      · exact .of_eq rfl (Keyed.get?_remove_other _ hu)
  | validate other source force => exact (revalidates_validate uri sv other source force).2
  | advance duration => exact (hk.fireAll _ _).2.of_same rfl rfl
  | hover other line character =>
    simp only [State.handle]
    split
    · exact .of_eq rfl rfl
    · split
      · exact .of_eq rfl rfl
      · exact .of_eq rfl rfl
  | actions other notices =>
    simp only [State.handle]
    split
    · exact .of_eq rfl rfl
    · exact .of_eq rfl rfl
  | tokens other => exact .of_eq rfl rfl
  | rules =>
    simp only [State.handle]
    split
    · exact .of_eq rfl rfl
    · exact .of_eq rfl rfl

/-- The settings in force when the last analysis of a document became what it is, over a run from a state in which that
happened under the given settings. -/
def State.madeUnder (uri : String) : State → Settings → List Message → Settings
  | _, made, [] => made
  | sv, made, m :: later =>
    let next := (sv.handle m).state
    next.madeUnder uri (if next.cache.get? uri = sv.cache.get? uri then made else next.settings) later

/-- Over a run the last analysis of a document stays one that was made under the settings which were in force then. -/
theorem madeUnder_run {uri : String} {sv : State} {made : Settings}
    (h : ∀ e, sv.cache.get? uri = some e → e.MadeUnder made sv.engine) (messages : List Message) :
    ∀ e, (sv.run messages).cache.get? uri = some e →
      e.MadeUnder (sv.madeUnder uri made messages) (sv.run messages).engine := by
  induction messages generalizing sv made with
  | nil => exact h
  | cons m later ih =>
    simp only [State.run, State.madeUnder]
    refine ih ?_
    intro e he
    obtain ⟨hsite, hentry⟩ := renews_handle uri sv m
    split
    · rename_i hsame
      rw [show (sv.handle m).state.engine = sv.engine from congrArg Site.engine hsite]
      exact h e (hsame.symm.trans he)
    · rename_i hchanged
      rcases hentry with hr | hr | ⟨e', hr, hm⟩
      · exact absurd hr hchanged
      · rw [hr] at he
        cases he
      · rw [hr] at he
        cases he
        exact hm

/-! ## Validation with the last analysis, and anew -/

/-- A validation that may use the last analysis does what a fresh one does: it publishes the same, and the last analysis of
the document is the same afterwards. -/
def State.Transparent (sv : State) (uri : String) (source : RawText) : Prop :=
  (sv.validate uri source false).activity.published = (sv.validate uri source true).activity.published ∧
    ((sv.validate uri source false).state.cache.get? uri).map (·.analysis) =
      ((sv.validate uri source true).state.cache.get? uri).map (·.analysis)

/-- What is made of each item of a list has what everything that is made has. -/
theorem forall_of_mapM {α β ε : Type} {f : α → Except ε β} {P : β → Prop} (h : ∀ a b, f a = .ok b → P b) {as : List α}
    {bs : List β} (hm : as.mapM f = .ok bs) : ∀ b ∈ bs, P b := by
  induction as generalizing bs with
  | nil =>
    cases hm
    simp
  | cons a as ih =>
    rw [List.mapM_cons] at hm
    cases ha : f a with
    | error e =>
      rw [ha] at hm
      cases hm
    | ok b =>
      cases has : as.mapM f with
      | error e =>
        rw [ha, has] at hm
        cases hm
      | ok rest =>
        rw [ha, has] at hm
        cases hm
        intro x hx
        rcases List.mem_cons.mp hx with rfl | hx
        · exact h a x ha
        · exact ih has x hx

/-- The notices of an analysis have a code, other than the notice of a failure. -/
theorem code_ne_none_of_mem_notices {a : Analysis} {notices : List Client.Notice} (h : noticesOf a = .ok notices) :
    ∀ n ∈ notices, n.code ≠ none := by
  refine forall_of_mapM ?_ h
  rintro ⟨line, d⟩ n hn
  simp only [Client.Notice.ofDiagnostic] at hn
  cases hr : Client.Range.onLine a.lines line d.position (d.position + max d.length 1) with
  | error x =>
    rw [hr] at hn
    cases hn
  | ok range =>
    rw [hr] at hn
    cases hn
    exact nofun

/-- The notices of an analysis are not that of a failure. -/
theorem noticesOf_ne_internalError {a : Analysis} {notices : List Client.Notice} (h : noticesOf a = .ok notices)
    (message : String) : notices ≠ [.internalError message] := by
  rintro rfl
  exact code_ne_none_of_mem_notices h _ (List.mem_singleton_self _) rfl

section

variable {sv : State} {uri : String} {source : RawText} {text : Text}

/-- What cannot be encoded is not validated, by force or not. -/
theorem transparent_of_encoded_eq_error {f : Failure} (h : sv.encoded source = .error f) : sv.Transparent uri source := by
  rw [State.Transparent, State.validate_of_encoded_eq_error h, State.validate_of_encoded_eq_error h]
  exact ⟨rfl, rfl⟩

/-- Without a last analysis that is up to date every validation is a fresh one. -/
theorem transparent_of_none (hs : sv.Encodes source text) (h : sv.upToDate? uri text = none) :
    sv.Transparent uri source := by
  have heq : sv.validateText uri text false = sv.validateText uri text true := by
    simp only [State.validateText, h, Bool.false_eq_true, if_false, if_true]
  rw [State.Transparent, State.validate_of_encodes hs, State.validate_of_encodes hs, heq]
  exact ⟨rfl, rfl⟩

/-- What an entry that is up to date was made from. -/
theorem eq_of_upToDate {e : Entry} (h : sv.upToDate? uri text = some e) :
    sv.cache.get? uri = some e ∧ e.source = text ∧ e.key = sv.settings.key := by
  simp only [State.upToDate?, Option.filter_eq_some_iff, Bool.and_eq_true, beq_iff_eq] at h
  exact h

/-- An entry that is up to date is used well exactly if a fresh analysis comes to the same. -/
theorem transparent_iff_outcome (hs : sv.Encodes source text) {e : Entry} (h : sv.upToDate? uri text = some e)
    {notices : List Client.Notice} (hn : noticesOf e.analysis = .ok notices) :
    sv.Transparent uri source ↔ sv.settings.outcome sv.engine text = .ok (e.analysis, notices) := by
  obtain ⟨hget, -, -⟩ := eq_of_upToDate h
  have hpub : (sv.validate uri source false).activity.published = [(uri, notices)] := by
    rw [State.validate_of_encodes hs]
    simp only [State.validateText, h, State.publishAgain, hn, Bool.false_eq_true, if_false]
    rfl
  have hstate : (sv.validate uri source false).state = sv := by
    rw [State.validate_of_encodes hs]
    simp only [State.validateText, h, Bool.false_eq_true, if_false, Reaction.after]
    exact State.state_publishAgain sv uri e
  have hforced : (sv.validate uri source true).activity.published = (sv.validateAnew uri text).activity.published ∧
      (sv.validate uri source true).state = (sv.validateAnew uri text).state := by
    rw [State.validate_of_encodes hs]
    exact ⟨rfl, rfl⟩
  rw [State.Transparent, hpub, hstate, hforced.1, hforced.2, hget]
  rcases sv.validateAnew_eq uri text with ⟨analysis, fresh, ho, hp, hs⟩ | ⟨f, ho, hp, hs⟩
  · rw [hp, hs, Keyed.get?_put_self, ho]
    simp only [List.cons.injEq, Prod.mk.injEq, true_and, and_true, Option.map_some, Option.some.injEq, Except.ok.injEq]
    constructor
    · rintro ⟨h1, h2⟩
      exact ⟨h2.symm, h1.symm⟩
    · rintro ⟨h1, h2⟩
      exact ⟨h2.symm, h1.symm⟩
  · rw [hp, ho]
    constructor
    · rintro ⟨hsame, -⟩
      simp only [List.cons.injEq, Prod.mk.injEq, true_and, and_true] at hsame
      exact absurd hsame (noticesOf_ne_internalError hn _)
    · intro hfailed
      cases hfailed

end

/-- The last analysis is up to date by its key and yet not what a fresh one would be: it was made with a pattern and there is
none now, or the other way round, and the default pattern and the one that is displayed like a missing one lead to different
analyses of the text. -/
structure State.Stale (sv : State) (made : Settings) (uri : String) (source : RawText) (text : Text) : Prop where
  encodes : sv.Encodes source text
  upToDate : (sv.upToDate? uri text).isSome = true
  pattern : made.pattern.isNone ≠ sv.settings.pattern.isNone
  analyses : analyse .default sv.settings.rules sv.settings.strict text ≠
    analyse nonePattern sv.settings.rules sv.settings.strict text

/-- What is validated is only one text. -/
theorem State.Encodes.unique {sv : State} {source : RawText} {t u : Text} (h : sv.Encodes source t) (h' : sv.Encodes source u) :
    t = u := RawText.ofText_injective (h.source_eq.symm.trans h'.source_eq)

/-- An entry that is up to date by its key is the fresh analysis, unless there was a pattern when it was made and there is none
now, or the other way round, and that makes a difference. -/
theorem transparent_iff_of_upToDate {sv : State} {uri : String} {source : RawText} {text : Text} {made : Settings} {e : Entry}
    (hs : sv.Encodes source text) (hu : sv.upToDate? uri text = some e) (hm : e.MadeUnder made sv.engine) :
    sv.Transparent uri source ↔ ¬ (made.pattern.isNone ≠ sv.settings.pattern.isNone ∧
      analyse .default sv.settings.rules sv.settings.strict text ≠
        analyse nonePattern sv.settings.rules sv.settings.strict text) := by
  obtain ⟨-, rfl, hkey⟩ := eq_of_upToDate hu
  obtain ⟨hmade, notices, hout⟩ := hm
  have hkeys : made.key = sv.settings.key := hmade.symm.trans hkey
  obtain ⟨p, hp, ha, hn⟩ := Settings.outcome_eq_ok_iff.mp hout
  rw [Settings.analyse_eq_of_key_eq hkeys] at ha
  rw [transparent_iff_outcome hs hu hn]
  by_cases hnone : made.pattern.isNone = sv.settings.pattern.isNone
  · refine iff_of_true ?_ fun hstale => hstale.1 hnone
    rw [← Settings.outcome_eq_of_key_eq hkeys hnone, hout]
  · have hfresh : ∀ q, sv.settings.activePattern sv.engine = .ok q →
        (sv.settings.outcome sv.engine e.source = .ok (e.analysis, notices) ↔
          analyse p sv.settings.rules sv.settings.strict e.source =
            analyse q sv.settings.rules sv.settings.strict e.source) := by
      intro q hq
      rw [Settings.outcome_eq_ok_iff, hq, ← ha]
      constructor
      · rintro ⟨q', hq', ha', -⟩
        cases hq'
        exact ha'
      · exact fun ha' => ⟨q, rfl, ha', hn⟩
    rw [and_iff_right hnone, Decidable.not_not]
    rcases Settings.activePattern_of_ne hkeys hnone with ⟨h1, h2⟩ | ⟨h1, h2⟩
    · cases hp.symm.trans h1
      exact hfresh _ h2
    · cases hp.symm.trans h1
      rw [hfresh _ h2]
      exact eq_comm

/-- An entry that was made under settings with the same key is the fresh analysis, unless it is stale. -/
theorem transparent_iff_not_stale {sv : State} {uri : String} {source : RawText} {made : Settings}
    (h : ∀ e, sv.cache.get? uri = some e → e.MadeUnder made sv.engine) :
    sv.Transparent uri source ↔ ¬ ∃ text, sv.Stale made uri source text := by
  rcases sv.encoded_cases source with ⟨text, hencodes⟩ | ⟨hnone, f, hencoded⟩
  · cases hu : sv.upToDate? uri text with
    | none =>
      refine iff_of_true (transparent_of_none hencodes hu) ?_
      rintro ⟨text', hs⟩
      have hsome := hs.upToDate
      rw [hs.encodes.unique hencodes, hu] at hsome
      cases hsome
    | some e =>
      rw [transparent_iff_of_upToDate hencodes hu (h e (eq_of_upToDate hu).1)]
      refine not_congr ⟨fun hne => ⟨text, hencodes, by rw [hu]; rfl, hne.1, hne.2⟩, ?_⟩
      rintro ⟨text', hs⟩
      obtain rfl := hs.encodes.unique hencodes
      exact ⟨hs.pattern, hs.analyses⟩
  · refine iff_of_true (transparent_of_encoded_eq_error hencoded) ?_
    exact fun ⟨text, hs⟩ => hnone ⟨text, hs.encodes⟩

/-- When the cache is transparent: after every run of messages, validating a text without force does what validating it by
force does, unless the last analysis of the document is stale. -/
theorem transparent_run_iff (site : Site) (messages : List Message) (uri : String) (source : RawText) :
    ((State.start site).run messages).Transparent uri source ↔
      ¬ ∃ text, ((State.start site).run messages).Stale ((State.start site).madeUnder uri {} messages) uri source text := by
  refine transparent_iff_not_stale (madeUnder_run (fun e he => ?_) messages)
  cases he

/-- The messages after which a document is validated with a stale analysis: it is opened, and then the client sets a pattern
that is displayed like a missing one. -/
def noneAfterOpening : List Message :=
  [.opened "file:///a" "x None".toList,
    .configure (.record [("mathlex".toList, .record [("pattern".toList, .text "None".toList)])])]

/-- A validation without force may publish other notices than a validation by force. -/
theorem not_transparent_none_after_opening :
    ¬ ((State.start {}).run noneAfterOpening).Transparent "file:///a" "x None".toList := by
  rintro ⟨hpub, -⟩
  have hcached : ((((State.start {}).run noneAfterOpening).validate "file:///a" "x None".toList
      false).activity.published.map fun e => e.2.length) = [0] := by decide +kernel
  have hforced : ((((State.start {}).run noneAfterOpening).validate "file:///a" "x None".toList
      true).activity.published.map fun e => e.2.length) = [1] := by decide +kernel
  rw [hpub, hforced] at hcached
  cases hcached

end Server

end ExprLex
