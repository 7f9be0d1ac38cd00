import ExprLex.Proofs.Views

/-!
# One publication for each validation

A validation of a text takes one of three paths: it publishes the last analysis again, or makes a fresh one that succeeds, or
makes one that fails. The fresh one may fail in two ways, and it fails before anything is stored. That the first path cannot
fail is owed to all validations before: whatever is stored has had its notices made once (`Sound`). So on each path one list
of notices is published, and what changes is at most the last analysis of the document itself. Before all that the text and
the key of the settings are encoded; where that fails nothing is published, and the failure is left to whoever asked for the
validation.
-/

namespace ExprLex

namespace Server

/-! ## The ways in which a fresh analysis fails -/

/-- Why a fresh analysis of a text under some settings, or the making of its notices, fails. -/
inductive Settings.Raises (s : Settings) (engine : Pattern.Engine) (source : Text) : Failure → Prop where
  /-- there is no pattern to analyse with -/
  | analysis {f : Failure} (h : s.activePattern engine = .error f) : Raises s engine source f
  /-- a diagnostic lies where no position of a client can be -/
  | conversion {pattern : Pattern} {e : Client.PositionError} (h : s.activePattern engine = .ok pattern)
      (he : noticesOf (analyse pattern s.rules s.strict source) = .error e) : Raises s engine source (.position e)

/-- A fresh analysis fails in no other way. -/
theorem Settings.outcome_eq_error_iff {s : Settings} {engine : Pattern.Engine} {source : Text} {f : Failure} :
    s.outcome engine source = .error f ↔ s.Raises engine source f := by
  constructor
  · intro h
    unfold outcome at h
    cases hp : s.activePattern engine with
    | error f' =>
      rw [hp] at h
      cases h
      exact .analysis hp
    | ok pattern =>
      cases hn : noticesOf (analyse pattern s.rules s.strict source) with
      | error e =>
        simp only [hp, hn, Except.mapError, Except.map, Except.error.injEq] at h
        subst h
        exact .conversion hp hn
      | ok notices => simp [hp, hn, Except.mapError, Except.map] at h
  · rintro (⟨hp⟩ | ⟨hp, he⟩)
    · rw [outcome, hp]
    · simp only [outcome, hp, he, Except.mapError, Except.map]

/-! ## The paths of a validation -/

/-- The path that a validation of a text takes, with what it publishes and the state that it leaves. -/
inductive Path (sv : State) (uri : String) (source : Text) : (force : Bool) → Reaction Unit → Prop where
  /-- the last analysis is up to date, and its notices are published again -/
  | again {r : Reaction Unit} {e : Entry} {notices : List Client.Notice} (current : sv.upToDate? uri source = some e)
      (made : noticesOf e.analysis = .ok notices) (published : r.activity.published = [(uri, notices)])
      (state : r.state = sv) : Path sv uri source false r
  /-- a fresh analysis is made, its notices are published, and it is stored -/
  | fresh {force : Bool} {r : Reaction Unit} {pattern : Pattern} {analysis : Analysis} {notices : List Client.Notice}
      (due : force = true ∨ sv.upToDate? uri source = none) (active : sv.settings.activePattern sv.engine = .ok pattern)
      (analysed : analysis = analyse pattern sv.settings.rules sv.settings.strict source)
      (made : noticesOf analysis = .ok notices) (published : r.activity.published = [(uri, notices)])
      (state : r.state = { sv with cache := sv.cache.put uri ⟨analysis, source, sv.settings.key⟩ }) :
      Path sv uri source force r
  /-- the analysis fails, or the making of its notices; that is published, and nothing is stored -/
  | failed {force : Bool} {r : Reaction Unit} {f : Failure} (due : force = true ∨ sv.upToDate? uri source = none)
      (raises : sv.settings.Raises sv.engine source f)
      (published : r.activity.published = [(uri, [.internalError ("Internal error: " ++ f.message)])])
      (state : r.state = sv) : Path sv uri source force r

section

variable {sv : State} {uri : String} {source : Text} {force : Bool} {r : Reaction Unit}

/-- Where the last analyses are sound, one that is up to date has notices. -/
theorem State.Sound.exists_noticesOf (h : sv.Sound) {e : Entry} (hu : sv.upToDate? uri source = some e) :
    ∃ notices, noticesOf e.analysis = .ok notices := by
  obtain ⟨s, -, notices, hout⟩ := h uri e (eq_of_upToDate hu).1
  obtain ⟨-, -, -, hn⟩ := Settings.outcome_eq_ok_iff.mp hout
  exact ⟨notices, hn⟩

/-- A fresh analysis is on the second path or on the third one. -/
theorem path_of_due (due : force = true ∨ sv.upToDate? uri source = none) :
    Path sv uri source force (sv.validateText uri source force) := by
  rw [State.validateText_of_due due]
  rcases sv.validateAnew_eq uri source with ⟨analysis, notices, hout, hp, hs⟩ | ⟨f, hout, hp, hs⟩
  · obtain ⟨pattern, active, analysed, made⟩ := Settings.outcome_eq_ok_iff.mp hout
    exact .fresh due active analysed made hp hs
  · exact .failed due (Settings.outcome_eq_error_iff.mp hout) hp hs

/-- Every validation of a text is on one of these paths. -/
theorem State.Sound.path (h : sv.Sound) (uri : String) (source : Text) (force : Bool) :
    Path sv uri source force (sv.validateText uri source force) := by
  cases force with
  | true => exact path_of_due (Or.inl rfl)
  | false =>
    cases hu : sv.upToDate? uri source with
    | none => exact path_of_due (Or.inr hu)
    | some e =>
      obtain ⟨notices, made⟩ := h.exists_noticesOf hu
      refine .again hu made ?_ ?_
      · rw [State.validateText_of_upToDate hu, State.publishAgain_of_ok made]
        rfl
      · rw [State.validateText_of_upToDate hu, State.publishAgain_of_ok made]
        rfl

/-- What is logged before does not matter to a path. -/
theorem Path.after_info (h : Path sv uri source force r) (message : String) :
    Path sv uri source force (.after (.info message) r) := by
  cases h with
  | again current made published state => exact .again current made published state
  | fresh due active analysed made published state => exact .fresh due active analysed made published state
  | failed due raises published state => exact .failed due raises published state

/-- On each path one list of notices is published. -/
theorem Path.published (h : Path sv uri source force r) : ∃ notices, r.activity.published = [(uri, notices)] := by
  cases h with
  | again _ _ published _ => exact ⟨_, published⟩
  | fresh _ _ _ _ published _ => exact ⟨_, published⟩
  | failed _ _ published _ => exact ⟨_, published⟩

/-- At most the last analyses change. -/
theorem Path.frame (h : Path sv uri source force r) : r.state = { sv with cache := r.state.cache } := by
  cases h with
  | again _ _ _ state => rw [state]
  | fresh _ _ _ _ _ state => rw [state]
  | failed _ _ _ state => rw [state]

/-- Of the last analyses at most that of the document changes. -/
theorem Path.cache_other (h : Path sv uri source force r) {other : String} (hne : other ≠ uri) :
    r.state.cache.get? other = sv.cache.get? other := by
  cases h with
  | again _ _ _ state => rw [state]
  | fresh _ _ _ _ _ state => rw [state, Keyed.get?_put_other _ hne]
  | failed _ _ _ state => rw [state]

end

/-! ## One publication, all or nothing -/

/-- What a validation of a text does in any case. -/
structure PublishesOnce (sv : State) (uri : String) (source : Text) (force : Bool) (r : Reaction Unit) : Prop where
  /-- it does not fail -/
  result : r.result = .ok ()
  published : ∃ notices, r.activity.published = [(uri, notices)]
  /-- settings, waitings, texts, files and the time are as they were -/
  frame : r.state = { sv with cache := r.state.cache }
  cache_other : ∀ other, other ≠ uri → r.state.cache.get? other = sv.cache.get? other
  path : Path sv uri source force r
  /-- where a fresh analysis fails, all last analyses are as they were, and the failure is the one notice -/
  failed : ∀ f, (force = true ∨ sv.upToDate? uri source = none) → sv.settings.Raises sv.engine source f →
    r.state = sv ∧ r.activity.published = [(uri, [.internalError ("Internal error: " ++ f.message)])]

/-- What a validation does where what was sent, or the key of the settings, is no text. -/
structure Refused (sv : State) (source : RawText) (r : Reaction Unit) : Prop where
  /-- it fails as the encoding does, that of what was sent or, if that is a text, that of the key -/
  result : ∃ e, (source.encode = .error e ∨ source.IsText ∧ sv.settings.key.encode = .error e) ∧
    r.result = .error (.encoding e)
  published : r.activity.published = []
  state : r.state = sv

section

variable {sv : State} {source : RawText} {text : Text}

/-- So a text is published once. -/
theorem State.Sound.publishesOnce (h : sv.Sound) (hs : sv.Encodes source text) (uri : String) (force : Bool) :
    PublishesOnce sv uri text force (sv.validate uri source force) := by
  have path := (h.path uri text force).after_info ("Tokenizing " ++ uri)
  rw [State.validate_of_encodes hs]
  refine ⟨(h.validateText uri text force).1, path.published, path.frame, fun _ hne => path.cache_other hne, path, ?_⟩
  intro f due raises
  have hout := Settings.outcome_eq_error_iff.mpr raises
  rw [Reaction.published_after_info, Reaction.state_after, State.validateText_of_due due]
  rcases State.validateAnew_eq _ uri text with ⟨_, _, hfresh, -, -⟩ | ⟨f', hfailed, hp, hs⟩
  · cases hout.symm.trans hfresh
  · cases hout.symm.trans hfailed
    exact ⟨hs, hp⟩

/-- The text is encoded before the key. -/
theorem State.exists_of_encoded_eq_error {f : Failure} (h : sv.encoded source = .error f) :
    ∃ e, (source.encode = .error e ∨ source.IsText ∧ sv.settings.key.encode = .error e) ∧ f = .encoding e := by
  unfold State.encoded at h
  cases hs : source.encode with
  | error e =>
    rw [hs] at h
    cases h
    exact ⟨e, Or.inl rfl, rfl⟩
  | ok text =>
    cases hk : sv.settings.key.encode with
    | error e =>
      rw [hs, hk] at h
      cases h
      exact ⟨e, Or.inr ⟨⟨text, RawText.encode_eq_ok_iff.mp hs⟩, rfl⟩, rfl⟩
    | ok key =>
      rw [hs, hk] at h
      cases h

/-- What is no text is refused. -/
theorem refused_validate {f : Failure} (h : sv.encoded source = .error f) (uri : String) (force : Bool) :
    Refused sv source (sv.validate uri source force) := by
  obtain ⟨e, he, rfl⟩ := State.exists_of_encoded_eq_error h
  rw [State.validate_of_encoded_eq_error h]
  exact ⟨⟨e, he, rfl⟩, rfl, rfl⟩

end

/-- In every state that messages lead to, a validation publishes one list of notices, for its own document, and does nothing
to the others, and if the analysis fails it stores nothing; exactly if the document and the pattern of the settings are texts.
And exactly if not so, it fails and does nothing at all. -/
theorem validate_publishes_once_iff (site : Site) (messages : List Message) (uri : String) (source : RawText) (force : Bool) :
    let sv := (State.start site).run messages
    let r := sv.validate uri source force
    ((∃ text, source = RawText.ofText text ∧ PublishesOnce sv uri text force r) ↔
        source.IsText ∧ sv.settings.patternText.IsText) ∧
      (Refused sv source r ↔ ¬ (source.IsText ∧ sv.settings.patternText.IsText)) := by
  intro sv r
  have sound : sv.Sound := (State.sound_start site).run messages
  rw [← State.exists_encodes_iff]
  rcases sv.encoded_cases source with ⟨text, hencodes⟩ | ⟨hnone, f, he⟩
  · have once : PublishesOnce sv uri text force r := sound.publishesOnce hencodes uri force
    -- a reaction that succeeds is none that fails, so each side excludes the other
    refine ⟨iff_of_true ⟨text, hencodes.source_eq, once⟩ ⟨text, hencodes⟩,
      iff_of_false (fun refused => ?_) (not_not_intro ⟨text, hencodes⟩)⟩
    obtain ⟨e, -, hfailed⟩ := refused.result
    cases once.result.symm.trans hfailed
  · have refused : Refused sv source r := refused_validate he uri force
    refine ⟨iff_of_false ?_ hnone, iff_of_true refused hnone⟩
    rintro ⟨text, -, once⟩
    obtain ⟨e, -, hfailed⟩ := refused.result
    cases once.result.symm.trans hfailed

/-- The messages after which a document has a last analysis and no further one can be made: it is opened, and then the client
sets a pattern with a bound that is too large. -/
def overlongAfterOpening : List Message :=
  [.opened "file:///a" "1".toList,
    .configure (.record [("mathlex".toList, .record [("pattern".toList, .text "a\x7b4294967295\x7d".toList)])])]

/-- The failure is published once, and the analysis that was made before stays. -/
theorem validate_publishes_once_overlong_bound :
    (((State.start {}).run overlongAfterOpening).validate "file:///a" "1".toList false).state.cache.keys = ["file:///a"] ∧
      (((State.start {}).run overlongAfterOpening).validate "file:///a" "1".toList false).activity.published =
        [("file:///a", [.internalError ("Internal error: " ++ "the repetition number is too large")])] := by
  have hstale : (((State.start {}).run overlongAfterOpening).upToDate? "file:///a" "1".toList) = none := by decide +kernel
  have hkeys : ((State.start {}).run overlongAfterOpening).cache.keys = ["file:///a"] := by decide +kernel
  have hpattern : ((State.start {}).run overlongAfterOpening).settings.activePattern
      ((State.start {}).run overlongAfterOpening).engine =
        .error (.pattern "a\x7b4294967295\x7d".toList .boundTooLarge) := by decide +kernel
  have htexts : ((State.start {}).run overlongAfterOpening).settings.patternText.IsText := by decide +kernel
  have h := validate_publishes_once_iff {} overlongAfterOpening "file:///a" "1".toList false
  obtain ⟨text, htext, once⟩ := h.1.mpr ⟨RawText.isText_ofText _, htexts⟩
  obtain rfl := RawText.ofText_injective htext
  obtain ⟨hstate, hpublished⟩ := once.failed _ (Or.inr hstale) (.analysis hpattern)
  rw [hstate]
  exact ⟨hkeys, hpublished⟩

/-- The failure of a validation may leave it, with nothing published. -/
theorem not_publishes_once_surrogate :
    ((State.start {}).validate "file:///a" [.char '1', .surrogate ⟨0xD800, by decide⟩] false).result =
        .error (.encoding ⟨⟨0xD800, by decide⟩, 1, 1⟩) ∧
      ((State.start {}).validate "file:///a" [.char '1', .surrogate ⟨0xD800, by decide⟩] false).activity.published = [] :=
  ⟨rfl, rfl⟩

end Server

end ExprLex
