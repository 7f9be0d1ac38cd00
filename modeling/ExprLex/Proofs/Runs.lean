import ExprLex.Proofs.SettingsKey
import ExprLex.Server.Handle

/-!
# Runs of the server

A run is what a server makes of some messages, one after another. However many documents a message validates, all it does to
the last analyses is done by single validations, and these change nothing else; so what every validation keeps, every message
keeps that changes no setting and closes no document. A validation goes by the text of a document; there is none if what the
client sent for it, or the key of the settings, cannot be encoded, and then it does nothing at all.
-/

namespace ExprLex

namespace Keyed

variable {κ α : Type} [DecidableEq κ]

/-- What is put under a key is found there. -/
theorem get?_put_self (m : Keyed κ α) (key : κ) (value : α) : (m.put key value).get? key = some value := by
  induction m with
  | nil => simp [put, get?]
  | cons e rest ih =>
    obtain ⟨k, v⟩ := e
    by_cases hk : k = key
    · simp [put, get?, hk]
    · simp [put, get?, hk, ih]

/-- Under other keys nothing changes. -/
theorem get?_put_other (m : Keyed κ α) {key other : κ} (h : other ≠ key) (value : α) :
    (m.put key value).get? other = m.get? other := by
  induction m with
  | nil => simp [put, get?, Ne.symm h]
  | cons e rest ih =>
    obtain ⟨k, v⟩ := e
    by_cases hk : k = key
    · subst hk
      simp [put, get?, Ne.symm h]
    · by_cases ho : k = other
      · subst ho
        simp [put, get?, hk]
      · simp [put, get?, hk, ho, ih]

/-- Nothing is found under a key that was removed. -/
theorem get?_remove_self (m : Keyed κ α) (key : κ) : (m.remove key).get? key = none := by
  induction m with
  | nil => rfl
  | cons e rest ih =>
    obtain ⟨k, v⟩ := e
    by_cases hk : k = key
    · simpa [remove, hk] using ih
    · simpa [remove, get?, hk] using ih

/-- Under other keys nothing is removed. -/
theorem get?_remove_other (m : Keyed κ α) {key other : κ} (h : other ≠ key) :
    (m.remove key).get? other = m.get? other := by
  induction m with
  | nil => rfl
  | cons e rest ih =>
    obtain ⟨k, v⟩ := e
    by_cases hk : k = key
    · subst hk
      simpa [remove, get?, Ne.symm h] using ih
    · by_cases ho : k = other
      · subst ho
        simp [remove, get?, hk]
      · simpa [remove, get?, hk, ho] using ih

end Keyed

namespace Server

/-! ## What a validation does -/

namespace Settings

/-- The pattern that documents are analysed with. -/
def activePattern (s : Settings) (engine : Pattern.Engine) : Except Failure Pattern :=
  match s.delimiter engine with
  | .ok pattern => .ok pattern
  | .error fault => if fault.isMalformed then .ok .default else .error (.pattern s.patternText.shown fault)

/-- A fresh analysis of a text and its notices, or why there are none. -/
def outcome (s : Settings) (engine : Pattern.Engine) (source : Text) : Except Failure (Analysis × List Client.Notice) :=
  match s.activePattern engine with
  | .error f => .error f
  | .ok pattern =>
    let analysis := analyse pattern s.rules s.strict source
    (noticesOf analysis).mapError .position |>.map (analysis, ·)

end Settings

@[simp] theorem Activity.published_append (a b : Activity) : (a ++ b).published = a.published ++ b.published := rfl

namespace Reaction

variable {α : Type}

@[simp] theorem state_failure (f : Failure) (state : State) (activity : Activity) :
    (failure f state activity : Reaction α).state = state := rfl

@[simp] theorem state_after (earlier : Activity) (r : Reaction α) : (after earlier r).state = r.state := rfl

@[simp] theorem result_failure (f : Failure) (state : State) (activity : Activity) :
    (failure f state activity : Reaction α).result = .error f := rfl

@[simp] theorem result_after (earlier : Activity) (r : Reaction α) : (after earlier r).result = r.result := rfl

end Reaction

namespace State

/-- A fresh analysis goes by the settings, and it publishes nothing by itself. -/
theorem inspect_eq (sv : State) (source : Text) :
    (sv.inspect source).1 = sv.settings.outcome sv.engine source ∧ (sv.inspect source).2.published = [] := by
  unfold inspect currentPattern Settings.outcome Settings.activePattern
  cases hd : sv.settings.delimiter sv.engine with
  | ok pattern => exact ⟨rfl, rfl⟩
  | error fault =>
    cases hm : fault.isMalformed with
    | true =>
      simp only [hm, if_true, true_and]
      rfl
    | false => simp [hm]

/-- A validation by a fresh analysis. -/
theorem validateAnew_eq (sv : State) (uri : String) (source : Text) :
    (∃ analysis notices, sv.settings.outcome sv.engine source = .ok (analysis, notices) ∧
      (sv.validateAnew uri source).activity.published = [(uri, notices)] ∧
      (sv.validateAnew uri source).state =
        { sv with cache := sv.cache.put uri ⟨analysis, source, sv.settings.key⟩ }) ∨
    ∃ f, sv.settings.outcome sv.engine source = .error f ∧
      (sv.validateAnew uri source).activity.published = [(uri, [.internalError ("Internal error: " ++ f.message)])] ∧
      (sv.validateAnew uri source).state = sv := by
  obtain ⟨hout, hpub⟩ := sv.inspect_eq source
  cases hi : sv.inspect source with
  | mk result work =>
    rw [hi] at hout hpub
    have hwork : work.published = [] := hpub
    cases result with
    | ok made =>
      obtain ⟨analysis, notices⟩ := made
      refine Or.inl ⟨analysis, notices, hout.symm, ?_, ?_⟩
      · simp only [validateAnew, hi, Reaction.answer, Activity.published_append, hwork]
        rfl
      · simp only [validateAnew, hi, Reaction.answer]
    | error f =>
      refine Or.inr ⟨f, hout.symm, ?_, ?_⟩
      · simp only [validateAnew, hi, Reaction.answer, Activity.published_append, hwork]
        rfl
      · simp only [validateAnew, hi, Reaction.answer]

/-- Publishing the notices of the last analysis again changes nothing. -/
theorem state_publishAgain (sv : State) (uri : String) (entry : Entry) : (sv.publishAgain uri entry).state = sv := by
  unfold publishAgain
  split
  · rfl
  · rfl

/-- A validation of a text leaves the state as it is, or it puts the fresh analysis in the place of the last one. -/
theorem state_validateText (sv : State) (uri : String) (source : Text) (force : Bool) :
    (sv.validateText uri source force).state = sv ∨
    ∃ analysis notices, sv.settings.outcome sv.engine source = .ok (analysis, notices) ∧
      (sv.validateText uri source force).state =
        { sv with cache := sv.cache.put uri ⟨analysis, source, sv.settings.key⟩ } := by
  unfold validateText
  split
  · exact Or.inl (state_publishAgain sv uri _)
  · rcases sv.validateAnew_eq uri source with ⟨analysis, notices, ho, -, hs⟩ | ⟨f, -, -, hs⟩
    · exact Or.inr ⟨analysis, notices, ho, hs⟩
    · exact Or.inl hs

/-! ## What can be encoded -/

/-- What was sent is this text, and the key of the settings is a text too. -/
structure Encodes (sv : State) (source : RawText) (text : Text) : Prop where
  source_eq : source = RawText.ofText text
  key : sv.settings.key.IsText

/-- Encoding succeeds on texts. -/
theorem encoded_eq_ok_iff {sv : State} {source : RawText} {text : Text} :
    sv.encoded source = .ok text ↔ sv.Encodes source text := by
  unfold encoded
  constructor
  · intro h
    cases hs : source.encode with
    | error e =>
      rw [hs] at h
      cases h
    | ok t =>
      cases hk : sv.settings.key.encode with
      | error e =>
        rw [hs, hk] at h
        cases h
      | ok key =>
        rw [hs, hk] at h
        cases h
        exact ⟨RawText.encode_eq_ok_iff.mp hs, key, RawText.encode_eq_ok_iff.mp hk⟩
  · rintro ⟨rfl, key, hk⟩
    rw [hk, RawText.encode_ofText, RawText.encode_ofText]
    rfl

/-- Either there is a text, or encoding fails. -/
theorem encoded_cases (sv : State) (source : RawText) :
    (∃ text, sv.Encodes source text) ∨ (¬ ∃ text, sv.Encodes source text) ∧ ∃ f, sv.encoded source = .error f := by
  cases he : sv.encoded source with
  | error f =>
    refine Or.inr ⟨?_, f, rfl⟩
    rintro ⟨text, hs⟩
    cases he.symm.trans (encoded_eq_ok_iff.mpr hs)
  | ok text => exact Or.inl ⟨text, encoded_eq_ok_iff.mp he⟩

section

variable {sv : State} {uri : String} {source : RawText} {text : Text} {f : Failure}

/-- What can be encoded is validated as the text that it is. -/
theorem validate_of_encodes (h : sv.Encodes source text) (uri : String) (force : Bool) :
    sv.validate uri source force = .after (.info ("Tokenizing " ++ uri)) (sv.validateText uri text force) := by
  rw [validate, encoded_eq_ok_iff.mpr h]

/-- A text is validated as it is, wherever the key of the settings is a text. -/
theorem encodes_ofText (h : sv.settings.key.IsText) (text : Text) :
    sv.Encodes (RawText.ofText text) text := ⟨rfl, h⟩

/-- All that is encoded can be, if what was sent and the pattern are texts. -/
theorem exists_encodes_iff : (∃ text, sv.Encodes source text) ↔ source.IsText ∧ sv.settings.patternText.IsText := by
  constructor
  · rintro ⟨text, rfl, hkey⟩
    exact ⟨RawText.isText_ofText text, (Settings.isText_key_iff _).mp hkey⟩
  · rintro ⟨⟨text, rfl⟩, hpattern⟩
    exact ⟨text, encodes_ofText ((Settings.isText_key_iff _).mpr hpattern) text⟩

/-- What cannot be encoded is not validated. -/
theorem validate_of_encoded_eq_error (h : sv.encoded source = .error f) (uri : String) (force : Bool) :
    sv.validate uri source force = .failure f sv (.info ("Tokenizing " ++ uri)) := by
  rw [validate, h]
  rfl

/-- A validation leaves the state as it is, or it puts the fresh analysis in the place of the last one. -/
theorem state_validate (sv : State) (uri : String) (source : RawText) (force : Bool) :
    (sv.validate uri source force).state = sv ∨
    ∃ text analysis notices, sv.Encodes source text ∧
      sv.settings.outcome sv.engine text = .ok (analysis, notices) ∧
      (sv.validate uri source force).state =
        { sv with cache := sv.cache.put uri ⟨analysis, text, sv.settings.key⟩ } := by
  rcases sv.encoded_cases source with ⟨text, hencodes⟩ | ⟨-, f, he⟩
  · rw [validate_of_encodes hencodes, Reaction.state_after]
    refine (sv.state_validateText uri text force).imp_right ?_
    rintro ⟨analysis, notices, ho, hs⟩
    exact ⟨text, analysis, notices, hencodes, ho, hs⟩
  · rw [validate_of_encoded_eq_error he]
    exact Or.inl rfl

/-- The text that a validation of a document goes by. -/
def textOf (sv : State) (uri : String) : Except Failure Text := sv.sourceOf uri >>= sv.encoded

/-- A document has a text if it holds something, and all that is encoded can be. -/
theorem textOf_eq_ok_iff : sv.textOf uri = .ok text ↔ ∃ source, sv.sourceOf uri = .ok source ∧ sv.Encodes source text := by
  unfold textOf
  cases sv.sourceOf uri with
  | error f => simp [bind, Except.bind]
  | ok source => simp [bind, Except.bind, encoded_eq_ok_iff]

/-- The text is what is there for the document. -/
theorem sourceOf_of_textOf_eq_ok (h : sv.textOf uri = .ok text) : sv.sourceOf uri = .ok (RawText.ofText text) := by
  obtain ⟨source, hs, he⟩ := textOf_eq_ok_iff.mp h
  rw [hs, he.source_eq]

/-- A document with a text is validated by it. -/
theorem revalidate_of_textOf_eq_ok (h : sv.textOf uri = .ok text) :
    sv.revalidate uri = .after (.info ("Tokenizing " ++ uri)) (sv.validateText uri text false) := by
  obtain ⟨source, hs, he⟩ := textOf_eq_ok_iff.mp h
  rw [revalidate, hs]
  exact validate_of_encodes he uri false

/-- A document without a text is not validated. -/
theorem revalidate_of_textOf_eq_error (h : sv.textOf uri = .error f) :
    ∃ activity : Activity, sv.revalidate uri = .failure f sv activity ∧ activity.published = [] := by
  unfold textOf at h
  cases hs : sv.sourceOf uri with
  | error f' =>
    rw [hs] at h
    cases h
    exact ⟨{}, by rw [revalidate, hs], rfl⟩
  | ok source =>
    rw [hs] at h
    exact ⟨_, by rw [revalidate, hs]; exact validate_of_encoded_eq_error h uri false, rfl⟩

end

/-! ## What validations do, one after another -/

/-- A loop of validations, its first document apart. -/
theorem revalidateAll_cons (sv : State) (uri : String) (rest : List String) :
    sv.revalidateAll (uri :: rest) =
      match (sv.revalidate uri).result with
      | .error f => .failure f (sv.revalidate uri).state (sv.revalidate uri).activity
      | .ok () => .after (sv.revalidate uri).activity ((sv.revalidate uri).state.revalidateAll rest) := rfl

theorem fireAll_cons (sv : State) (uri : String) (rest : List String) :
    sv.fireAll (uri :: rest) = .after (sv.fire uri).activity ((sv.fire uri).state.fireAll rest) := rfl

/-- A relation between states that holds for single validations and for what lies between them. -/
structure Kept (R : State → State → Prop) : Prop where
  refl : ∀ sv, R sv sv
  trans : ∀ {a b c}, R a b → R b c → R a c
  validate : ∀ sv uri source force, R sv (sv.validate uri source force).state
  timers : ∀ sv timers, R sv { sv with timers := timers }

section

variable {R : State → State → Prop}

/-- What single validations keep, the validation of a document as it is keeps. -/
theorem Kept.revalidate (h : Kept R) (sv : State) (uri : String) : R sv (sv.revalidate uri).state := by
  unfold State.revalidate
  split
  · exact h.refl sv
  · exact h.validate sv uri _ false

/-- A loop of validations keeps what single ones keep, however far it goes. -/
theorem Kept.revalidateAll (h : Kept R) (uris : List String) (sv : State) : R sv (sv.revalidateAll uris).state := by
  induction uris generalizing sv with
  | nil => exact h.refl sv
  | cons uri rest ih =>
    have hfirst := h.revalidate sv uri
    have hrest := ih (sv.revalidate uri).state
    rw [revalidateAll_cons]
    cases (sv.revalidate uri).result with
    | error f =>
      rw [Reaction.state_failure]
      exact hfirst
    | ok _ =>
      rw [Reaction.state_after]
      exact h.trans hfirst hrest

/-- The end of a waiting keeps what single validations keep. -/
theorem Kept.fire (h : Kept R) (sv : State) (uri : String) : R sv (sv.fire uri).state :=
  h.trans (h.revalidate sv uri) (h.timers _ _)

/-- Waitings that end keep what single validations keep. -/
theorem Kept.fireAll (h : Kept R) (uris : List String) (sv : State) : R sv (sv.fireAll uris).state := by
  induction uris generalizing sv with
  | nil => exact h.refl sv
  | cons uri rest ih =>
    rw [fireAll_cons, Reaction.state_after]
    exact h.trans (h.fire sv uri) (ih _)

end

/-! ## Runs -/

/-- A server that has not got any message. -/
def start (site : Site) : State := { toSite := site }

/-- The state after some messages. -/
def run (sv : State) : List Message → State
  | [] => sv
  | m :: later => run (sv.handle m).state later

end State

end Server

end ExprLex
