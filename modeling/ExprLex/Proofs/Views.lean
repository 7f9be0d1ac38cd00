import ExprLex.Proofs.CacheTransparency

/-!
# One document at a time

What the server knows of a document is what was sent for it, its last analysis and its waiting, and what is about no document:
the settings, the time and the site. What is done about other documents keeps all of that and publishes nothing for this one;
and what is done about it comes to the same wherever the server knows the same of it. A loop over many documents can then be
looked at for one of them.
-/

namespace ExprLex

namespace Keyed

variable {κ α : Type} [DecidableEq κ]

/-- Nothing is found under what is no key. -/
theorem get?_eq_none_iff (m : Keyed κ α) (key : κ) : m.get? key = none ↔ key ∉ m.keys := by
  induction m with
  | nil => simp [get?, keys]
  | cons e rest ih =>
    obtain ⟨k, v⟩ := e
    by_cases hk : k = key
    · simp [get?, keys, hk]
    · simpa [get?, keys, hk, Ne.symm hk] using ih

/-- Of two lists the first one counts, wherever it has the key. -/
theorem get?_append (m n : Keyed κ α) (key : κ) : get? key (m ++ n) = (m.get? key).or (n.get? key) := by
  induction m with
  | nil => rfl
  | cons e rest ih =>
    obtain ⟨k, v⟩ := e
    by_cases hk : k = key
    · simp [get?, hk]
    · simpa [get?, hk] using ih

/-- If no key is there twice, what is in the list is what is found. -/
theorem mem_iff_get? {m : Keyed κ α} (h : m.keys.Nodup) (key : κ) (value : α) :
    (key, value) ∈ m ↔ m.get? key = some value := by
  induction m with
  | nil => simp [get?]
  | cons e rest ih =>
    obtain ⟨k, v⟩ := e
    obtain ⟨hfresh, hrest⟩ := List.nodup_cons.mp h
    by_cases hk : k = key
    · subst hk
      have habsent : (k, value) ∉ rest := fun hmem => hfresh (List.mem_map_of_mem (f := (·.1)) hmem)
      simp [get?, habsent, eq_comm]
    · simp [get?, hk, Ne.symm hk, ih hrest]

/-- The keys, after something is put under one. -/
theorem mem_keys_put (m : Keyed κ α) (key : κ) (value : α) (other : κ) :
    other ∈ (m.put key value).keys ↔ other = key ∨ other ∈ m.keys := by
  rw [← not_iff_not, not_or, ← get?_eq_none_iff, ← get?_eq_none_iff]
  by_cases h : other = key
  · subst h
    simp [get?_put_self]
  · simp [h, get?_put_other]

/-- Putting something in makes no key occur twice. -/
theorem nodup_keys_put {m : Keyed κ α} (h : m.keys.Nodup) (key : κ) (value : α) : (m.put key value).keys.Nodup := by
  induction m with
  | nil => simp [put, keys]
  | cons e rest ih =>
    obtain ⟨k, v⟩ := e
    obtain ⟨hfresh, hrest⟩ := List.nodup_cons.mp h
    by_cases hk : k = key
    · simpa [put, keys, hk] using h
    · have hput : (put key value ((k, v) :: rest)).keys = k :: (put key value rest).keys := by simp [put, keys, hk]
      rw [hput]
      refine List.nodup_cons.mpr ⟨fun hmem => ?_, ih hrest⟩
      rcases (mem_keys_put rest key value k).mp hmem with hk' | hmem
      · exact hk hk'
      · exact hfresh hmem

theorem nodup_keys_remove {m : Keyed κ α} (h : m.keys.Nodup) (key : κ) : (m.remove key).keys.Nodup :=
  h.sublist (List.filter_sublist.map _)

end Keyed

namespace Server

/-! ## What is published for a document -/

/-- The notices that are published for a document, one list for each time. -/
def Activity.heard (uri : String) (a : Activity) : List (List Client.Notice) :=
  (a.published.filter fun e => e.1 = uri).map (·.2)

namespace Activity

variable {uri : String} {a : Activity}

@[simp] theorem heard_append (a b : Activity) : (a ++ b).heard uri = a.heard uri ++ b.heard uri := by
  simp [heard]

theorem heard_of_nil (h : a.published = []) : a.heard uri = [] := by
  simp [heard, h]

/-- What is published for a document alone is heard for it. -/
theorem heard_self {notices : List Client.Notice} (h : a.published = [(uri, notices)]) : a.heard uri = [notices] := by
  simp [heard, h]

/-- What is published for a document alone is not heard for any other. -/
theorem heard_other {other : String} {notices : List Client.Notice} (h : a.published = [(other, notices)])
    (hne : uri ≠ other) : a.heard uri = [] := by
  simp [heard, h, Ne.symm hne]

end Activity

namespace Reaction

variable {α : Type}

@[simp] theorem published_after_info (message : String) (r : Reaction α) :
    (after (.info message) r).activity.published = r.activity.published := rfl

end Reaction

/-- The notices that a text gets under some settings: those of its analysis, or the one of the failure of it. -/
def Settings.notices (s : Settings) (engine : Pattern.Engine) (source : Text) : List Client.Notice :=
  match s.outcome engine source with
  | .ok (_, notices) => notices
  | .error f => [.internalError ("Internal error: " ++ f.message)]

/-- The notices are those that a text gets under settings with the key of the present ones. -/
def Settings.Shows (s : Settings) (engine : Pattern.Engine) (source : Text) (notices : List Client.Notice) : Prop :=
  ∃ s' : Settings, s'.key = s.key ∧ notices = s'.notices engine source

namespace State

variable {sv : State} {uri : String} {source : Text}

/-! ## What a validation does -/

/-- Without force, a last analysis that is up to date is published again. -/
theorem validateText_of_upToDate {e : Entry} (h : sv.upToDate? uri source = some e) :
    sv.validateText uri source false = sv.publishAgain uri e := by
  simp only [validateText, h, Bool.false_eq_true, if_false]

/-- By force, or where no last analysis is up to date, a fresh one is made. -/
theorem validateText_of_due {force : Bool} (h : force = true ∨ sv.upToDate? uri source = none) :
    sv.validateText uri source force = sv.validateAnew uri source := by
  cases force with
  | true => rfl
  | false =>
    have hnone := h.resolve_left Bool.false_ne_true
    simp only [validateText, hnone, Bool.false_eq_true, if_false]

/-- A validation publishes the last analysis again or makes a fresh one. -/
theorem validateText_eq (sv : State) (uri : String) (source : Text) (force : Bool) :
    (∃ e, sv.upToDate? uri source = some e ∧ sv.validateText uri source force = sv.publishAgain uri e) ∨
      sv.validateText uri source force = sv.validateAnew uri source := by
  cases force with
  | true => exact Or.inr (validateText_of_due (Or.inl rfl))
  | false =>
    cases h : sv.upToDate? uri source with
    | none => exact Or.inr (validateText_of_due (Or.inr h))
    | some e => exact Or.inl ⟨e, rfl, validateText_of_upToDate h⟩

/-- The notices of an analysis that has some are published without more ado. -/
theorem publishAgain_of_ok {e : Entry} {notices : List Client.Notice} (h : noticesOf e.analysis = .ok notices) :
    sv.publishAgain uri e =
      .answer () sv (.publish uri notices ++ .info ("Cache hit for " ++ uri ++ " (source unchanged)")) := by
  rw [publishAgain, h]

/-- A fresh analysis that fails is no failure of the validation. -/
theorem result_validateAnew (sv : State) (uri : String) (source : Text) :
    (sv.validateAnew uri source).result = .ok () := by
  unfold validateAnew
  split
  · rfl
  · rfl

/-- A fresh analysis publishes the notices of the text, once. -/
theorem published_validateAnew (sv : State) (uri : String) (source : Text) :
    (sv.validateAnew uri source).activity.published = [(uri, sv.settings.notices sv.engine source)] := by
  unfold Settings.notices
  rcases sv.validateAnew_eq uri source with ⟨analysis, notices, ho, hp, -⟩ | ⟨f, ho, hp, -⟩
  · rw [hp, ho]
  · rw [hp, ho]

/-- Whatever a validation publishes is for the document that is validated. -/
theorem published_validate (sv : State) (uri : String) (source : RawText) (force : Bool) :
    (sv.validate uri source force).activity.published = [] ∨
      ∃ notices, (sv.validate uri source force).activity.published = [(uri, notices)] := by
  rcases sv.encoded_cases source with ⟨text, hencodes⟩ | ⟨-, f, he⟩
  · rw [validate_of_encodes hencodes, Reaction.published_after_info]
    rcases sv.validateText_eq uri text force with ⟨e, -, h⟩ | h
    · rw [h]
      unfold publishAgain
      split
      · exact Or.inr ⟨_, rfl⟩
      · exact Or.inl rfl
    · rw [h]
      exact Or.inr ⟨_, published_validateAnew sv uri text⟩
  · rw [validate_of_encoded_eq_error he]
    exact Or.inl rfl

/-- Every last analysis was made by a validation under some settings. -/
def Sound (sv : State) : Prop := ∀ uri e, sv.cache.get? uri = some e → ∃ s, e.MadeUnder s sv.engine

/-- Soundness is kept by whatever renews last analyses by validations only. -/
theorem Sound.of_renews {a b : State} (h : a.Sound) (hr : ∀ uri, Renews uri a b) : b.Sound := by
  intro uri e he
  obtain ⟨hsite, hentry⟩ := hr uri
  rcases hentry with hr | hr | ⟨e', hr, hm⟩
  · rw [show b.engine = a.engine from congrArg Site.engine hsite]
    exact h uri e (hr.symm.trans he)
  · rw [hr] at he
    cases he
  · rw [hr] at he
    cases he
    exact ⟨_, hm⟩

/-- So every message keeps it. -/
theorem Sound.handle (h : sv.Sound) (m : Message) : (sv.handle m).state.Sound :=
  h.of_renews fun uri => renews_handle uri sv m

/-- At the start there is nothing that could be unsound. -/
theorem sound_start (site : Site) : (start site).Sound := by
  intro uri e he
  cases he

/-- Every run keeps it. -/
theorem Sound.run (h : sv.Sound) (messages : List Message) : (sv.run messages).Sound := by
  induction messages generalizing sv with
  | nil => exact h
  | cons m later ih => exact ih (h.handle m)

/-- What validations keep. -/
theorem kept_sound : Kept fun a b => a.Sound → b.Sound where
  refl _ h := h
  trans h h' := h' ∘ h
  validate sv uri source force h := h.of_renews fun other => (revalidates_validate other sv uri source force).2
  timers _ _ h := h

/-- A validation of a text succeeds and publishes the notices of the text, once, if the last analyses are sound. -/
theorem Sound.validateText (h : sv.Sound) (uri : String) (source : Text) (force : Bool) :
    (sv.validateText uri source force).result = .ok () ∧
      ∃ notices, (sv.validateText uri source force).activity.published = [(uri, notices)] ∧
        sv.settings.Shows sv.engine source notices := by
  rcases sv.validateText_eq uri source force with ⟨e, hu, hv⟩ | hv
  · obtain ⟨hget, rfl, hkey⟩ := eq_of_upToDate hu
    obtain ⟨s, hmade, notices, hout⟩ := h uri e hget
    obtain ⟨-, -, -, hn⟩ := Settings.outcome_eq_ok_iff.mp hout
    rw [hv, publishAgain_of_ok hn]
    refine ⟨rfl, notices, rfl, s, hmade.symm.trans hkey, ?_⟩
    rw [Settings.notices, hout]
  · rw [hv]
    exact ⟨result_validateAnew sv uri source, _, published_validateAnew sv uri source, sv.settings, rfl, rfl⟩

/-- A document with a text is validated, any other one is a failure. -/
theorem Sound.revalidate (h : sv.Sound) (uri : String) :
    (∃ text notices, sv.textOf uri = .ok text ∧ (sv.revalidate uri).result = .ok () ∧
      (sv.revalidate uri).activity.published = [(uri, notices)] ∧ sv.settings.Shows sv.engine text notices) ∨
    ∃ f, sv.textOf uri = .error f ∧ (sv.revalidate uri).result = .error f ∧
      (sv.revalidate uri).activity.published = [] ∧ (sv.revalidate uri).state = sv := by
  cases ht : sv.textOf uri with
  | error f =>
    obtain ⟨activity, hr, hp⟩ := revalidate_of_textOf_eq_error ht
    rw [hr]
    exact Or.inr ⟨f, rfl, rfl, hp, rfl⟩
  | ok text =>
    obtain ⟨hr, notices, hp, hs⟩ := h.validateText uri text false
    rw [revalidate_of_textOf_eq_ok ht]
    exact Or.inl ⟨text, notices, rfl, hr, hp, hs⟩

/-- The validation of a document with a text succeeds. -/
theorem Sound.result_revalidate (h : sv.Sound) {text : Text} (ht : sv.textOf uri = .ok text) :
    (sv.revalidate uri).result = .ok () := by
  rw [revalidate_of_textOf_eq_ok ht]
  exact (h.validateText uri text false).1

/-- The waiting of documents after one of them was tried to be validated. -/
def timersAfter (timers : Keyed String (Option Nat)) (uri : String) : Except Failure Unit → Keyed String (Option Nat)
  | .ok () => timers.remove uri
  | .error _ => timers.put uri none

/-- The state with other waitings. -/
def withTimers (sv : State) (timers : Keyed String (Option Nat)) : State := { sv with timers := timers }

@[simp] theorem cache_withTimers (sv : State) (timers : Keyed String (Option Nat)) :
    (sv.withTimers timers).cache = sv.cache := rfl

@[simp] theorem timers_withTimers (sv : State) (timers : Keyed String (Option Nat)) :
    (sv.withTimers timers).timers = timers := rfl

/-- The end of a waiting does what the validation does, and takes the document off the list or marks its waiting as vain. -/
theorem state_fire (sv : State) (uri : String) :
    (sv.fire uri).state = (sv.revalidate uri).state.withTimers
      (timersAfter (sv.revalidate uri).state.timers uri (sv.revalidate uri).result) := by
  simp only [fire, withTimers]
  congr 1

/-- All that it publishes and logs is what the validation does. -/
theorem activity_fire (sv : State) (uri : String) : (sv.fire uri).activity = (sv.revalidate uri).activity := by
  simp only [fire]

theorem result_fire (sv : State) (uri : String) : (sv.fire uri).result = .ok () := rfl

end State

/-! ## What the server knows of a document -/

/-- The server knows the same of a document in two states. -/
structure Alike (u : String) (a b : State) : Prop where
  settings : a.settings = b.settings
  site : a.toSite = b.toSite
  clock : a.clock = b.clock
  source : a.sourceOf u = b.sourceOf u
  entry : a.cache.get? u = b.cache.get? u
  timer : a.timers.get? u = b.timers.get? u

/-- A reaction that keeps what the server knows of a document and publishes nothing for it. -/
structure Spares {α : Type} (u : String) (sv : State) (r : Reaction α) : Prop where
  state : Alike u sv r.state
  heard : r.activity.heard u = []

/-- Reactions that come to the same for a document. -/
structure SameFor {α : Type} (u : String) (r r' : Reaction α) : Prop where
  result : r.result = r'.result
  state : Alike u r.state r'.state
  heard : r.activity.heard u = r'.activity.heard u

variable {u v : String} {a b c sv : State}

theorem Alike.refl (u : String) (sv : State) : Alike u sv sv := ⟨rfl, rfl, rfl, rfl, rfl, rfl⟩

theorem Alike.symm (h : Alike u a b) : Alike u b a :=
  ⟨h.settings.symm, h.site.symm, h.clock.symm, h.source.symm, h.entry.symm, h.timer.symm⟩

theorem Alike.trans (h : Alike u a b) (h' : Alike u b c) : Alike u a c :=
  ⟨h.settings.trans h'.settings, h.site.trans h'.site, h.clock.trans h'.clock, h.source.trans h'.source,
    h.entry.trans h'.entry, h.timer.trans h'.timer⟩

/-- Of all waitings only that of the document matters. -/
theorem Alike.withTimers (h : Alike u a b) {timers timers' : Keyed String (Option Nat)}
    (ht : timers.get? u = timers'.get? u) : Alike u (a.withTimers timers) (b.withTimers timers') :=
  ⟨h.settings, h.site, h.clock, h.source, h.entry, ht⟩

/-- What was sent is encoded in the same way under the same settings. -/
theorem Alike.encoded (h : Alike u a b) (source : RawText) : a.encoded source = b.encoded source := by
  simp only [State.encoded, h.settings]

/-- The text of a document is among what the server knows of it. -/
theorem Alike.text (h : Alike u a b) : a.textOf u = b.textOf u := by
  rw [State.textOf, State.textOf, h.source]
  exact congrArg _ (funext h.encoded)

/-- The waitings of other documents do not matter to a document. -/
theorem alike_withTimers {timers : Keyed String (Option Nat)} (h : sv.timers.get? u = timers.get? u) :
    Alike u sv (sv.withTimers timers) := ⟨rfl, rfl, rfl, rfl, rfl, h⟩

/-- A failure that does nothing spares every document. -/
theorem spares_failure {α : Type} (u : String) (f : Failure) (sv : State) :
    Spares u sv (.failure f sv {} : Reaction α) := ⟨.refl u sv, rfl⟩

/-- A failure after a reaction spares what the reaction spares. -/
theorem Spares.failure {α β : Type} {r : Reaction α} (h : Spares u sv r) (f : Failure) :
    Spares u sv (.failure f r.state r.activity : Reaction β) := ⟨h.state, h.heard⟩

/-- Reactions one after another spare what each of them spares. -/
theorem Spares.after {α β : Type} {r : Reaction α} {r' : Reaction β} (h : Spares u sv r) (h' : Spares u r.state r') :
    Spares u sv (.after r.activity r') :=
  ⟨h.state.trans h'.state, by
    show (r.activity ++ r'.activity).heard u = []
    rw [Activity.heard_append, h.heard, h'.heard, List.append_nil]⟩

/-- A validation spares the other documents. -/
theorem spares_validate (h : u ≠ v) (sv : State) (source : RawText) (force : Bool) :
    Spares u sv (sv.validate v source force) where
  state := by
    rcases sv.state_validate v source force with hs | ⟨text, analysis, notices, -, -, hs⟩
    · rw [hs]
      exact .refl u sv
    · rw [hs]
      exact ⟨rfl, rfl, rfl, rfl, (Keyed.get?_put_other _ h _).symm, rfl⟩
  heard := by
    rcases sv.published_validate v source force with hp | ⟨notices, hp⟩
    · exact Activity.heard_of_nil hp
    · exact Activity.heard_other hp h

/-- The validation of another document as it is spares this one. -/
theorem spares_revalidate (h : u ≠ v) (sv : State) : Spares u sv (sv.revalidate v) := by
  unfold State.revalidate
  split
  · exact spares_failure u _ sv
  · exact spares_validate h sv _ false

/-- The end of the waiting of another document spares this one. -/
theorem spares_fire (h : u ≠ v) (sv : State) : Spares u sv (sv.fire v) := by
  obtain ⟨hstate, hheard⟩ := spares_revalidate h sv
  constructor
  case heard =>
    rw [State.activity_fire]
    exact hheard
  rw [State.state_fire]
  refine hstate.trans (alike_withTimers ?_)
  cases (sv.revalidate v).result with
  | ok _ => rw [State.timersAfter, Keyed.get?_remove_other _ h]
  | error _ => rw [State.timersAfter, Keyed.get?_put_other _ h]

/-- A document that begins to wait waits for the delay from now on. -/
theorem State.timer_await_self (sv : State) (u : String) :
    (sv.await u).timers.get? u = some (some (sv.clock + changeDelay)) := by
  show Keyed.get? u (sv.timers.remove u ++ [(u, some (sv.clock + changeDelay))]) = _
  rw [Keyed.get?_append, Keyed.get?_remove_self]
  simp [Keyed.get?]

/-- The waiting of other documents goes on meanwhile. -/
theorem State.timer_await_other (h : u ≠ v) (sv : State) : (sv.await v).timers.get? u = sv.timers.get? u := by
  show Keyed.get? u (sv.timers.remove v ++ [(v, some (sv.clock + changeDelay))]) = _
  rw [Keyed.get?_append, Keyed.get?_remove_other _ h]
  simp [Keyed.get?, Ne.symm h]

/-- A loop of validations spares a document that it does not come to, and one without a text. -/
theorem spares_revalidateAll {uris : List String} (h : u ∈ uris → ∃ f, sv.textOf u = .error f) :
    Spares u sv (sv.revalidateAll uris) := by
  induction uris generalizing sv with
  | nil => exact ⟨.refl u sv, rfl⟩
  | cons v rest ih =>
    have hfirst : Spares u sv (sv.revalidate v) := by
      by_cases hv : u = v
      · subst hv
        obtain ⟨f, hf⟩ := h List.mem_cons_self
        obtain ⟨activity, hr, hp⟩ := State.revalidate_of_textOf_eq_error hf
        rw [hr]
        exact ⟨.refl u sv, Activity.heard_of_nil hp⟩
      · exact spares_revalidate hv sv
    have hrest : Spares u (sv.revalidate v).state ((sv.revalidate v).state.revalidateAll rest) := ih fun hu => by
      rw [← hfirst.state.text]
      exact h (List.mem_cons_of_mem v hu)
    rw [State.revalidateAll_cons]
    cases (sv.revalidate v).result with
    | error f => exact hfirst.failure f
    | ok _ => exact hfirst.after hrest

/-- Waitings that end spare the documents that are not among them. -/
theorem spares_fireAll {uris : List String} (h : u ∉ uris) (sv : State) : Spares u sv (sv.fireAll uris) := by
  induction uris generalizing sv with
  | nil => exact ⟨.refl u sv, rfl⟩
  | cons v rest ih =>
    obtain ⟨hv, hrest⟩ := not_or.mp (mt List.mem_cons.mpr h)
    rw [State.fireAll_cons]
    exact (spares_fire hv sv).after (ih hrest _)

/-! ## The same in states where the same is known -/

theorem Alike.engine (h : Alike u a b) : a.engine = b.engine := congrArg Site.engine h.site

/-- The last analysis is up to date in both states or in neither. -/
theorem Alike.upToDate? (h : Alike u a b) (source : Text) : a.upToDate? u source = b.upToDate? u source := by
  simp only [State.upToDate?, h.entry, h.settings]

/-- It is published again in both alike. -/
theorem Alike.publishAgain (h : Alike u a b) (e : Entry) : SameFor u (a.publishAgain u e) (b.publishAgain u e) := by
  unfold State.publishAgain
  split
  · exact ⟨rfl, h, rfl⟩
  · exact ⟨rfl, h, rfl⟩

theorem Alike.put (h : Alike u a b) (e : Entry) :
    Alike u { a with cache := a.cache.put u e } { b with cache := b.cache.put u e } :=
  ⟨h.settings, h.site, h.clock, h.source, by
    show (a.cache.put u e).get? u = (b.cache.put u e).get? u
    rw [Keyed.get?_put_self, Keyed.get?_put_self], h.timer⟩

/-- Fresh analyses come to the same. -/
theorem Alike.validateAnew (h : Alike u a b) (source : Text) :
    SameFor u (a.validateAnew u source) (b.validateAnew u source) where
  result := by rw [State.result_validateAnew, State.result_validateAnew]
  heard := by
    rw [Activity.heard_self (State.published_validateAnew a u source),
      Activity.heard_self (State.published_validateAnew b u source), h.settings, h.engine]
  state := by
    rcases a.validateAnew_eq u source with ⟨analysis, notices, ho, -, hs⟩ | ⟨f, ho, -, hs⟩
    · rcases b.validateAnew_eq u source with ⟨analysis', notices', ho', -, hs'⟩ | ⟨f', ho', -, -⟩
      · rw [h.settings, h.engine, ho'] at ho
        cases ho
        have hkey : a.settings.key = b.settings.key := by rw [h.settings]
        rw [hs, hs', hkey]
        exact h.put _
      · rw [h.settings, h.engine, ho'] at ho
        cases ho
    · rcases b.validateAnew_eq u source with ⟨analysis', notices', ho', -, -⟩ | ⟨f', -, -, hs'⟩
      · rw [h.settings, h.engine, ho'] at ho
        cases ho
      · rw [hs, hs']
        exact h

theorem SameFor.symm {α : Type} {r r' : Reaction α} (h : SameFor u r r') : SameFor u r' r :=
  ⟨h.result.symm, h.state.symm, h.heard.symm⟩

theorem SameFor.trans {α : Type} {r₁ r₂ r₃ : Reaction α} (h : SameFor u r₁ r₂) (h' : SameFor u r₂ r₃) : SameFor u r₁ r₃ :=
  ⟨h.result.trans h'.result, h.state.trans h'.state, h.heard.trans h'.heard⟩

/-- Activity before two reactions leaves them the same. -/
theorem SameFor.after {α : Type} {r r' : Reaction α} (h : SameFor u r r') (earlier : Activity) :
    SameFor u (.after earlier r) (.after earlier r') :=
  ⟨h.result, h.state, by
    show (earlier ++ r.activity).heard u = (earlier ++ r'.activity).heard u
    rw [Activity.heard_append, Activity.heard_append, h.heard]⟩

/-- Validations of one text come to the same. -/
theorem Alike.validateText (h : Alike u a b) (source : Text) (force : Bool) :
    SameFor u (a.validateText u source force) (b.validateText u source force) := by
  unfold State.validateText
  rw [h.upToDate? source]
  cases (if force then none else b.upToDate? u source) with
  | none => exact h.validateAnew source
  | some e => exact h.publishAgain e

/-- Validations of what was sent come to the same, whether it can be encoded or not. -/
theorem Alike.validate (h : Alike u a b) (source : RawText) (force : Bool) :
    SameFor u (a.validate u source force) (b.validate u source force) := by
  refine SameFor.after ?_ _
  rw [h.encoded source]
  cases b.encoded source with
  | error f => exact ⟨rfl, h, rfl⟩
  | ok text => exact h.validateText text force

/-- The validation of the document as it is comes to the same. -/
theorem Alike.revalidate (h : Alike u a b) : SameFor u (a.revalidate u) (b.revalidate u) := by
  unfold State.revalidate
  rw [h.source]
  cases b.sourceOf u with
  | error f => exact ⟨rfl, h, rfl⟩
  | ok source => exact h.validate source false

/-- After the end of its waiting a document is off the list, or on it without a time. -/
theorem get?_timersAfter_self (timers : Keyed String (Option Nat)) (uri : String) (result : Except Failure Unit) :
    (State.timersAfter timers uri result).get? uri =
      match result with
      | .ok () => none
      | .error _ => some none := by
  cases result with
  | ok _ => exact Keyed.get?_remove_self timers uri
  | error _ => exact Keyed.get?_put_self timers uri none

/-- The end of a waiting comes to the same too. -/
theorem Alike.fire (h : Alike u a b) : SameFor u (a.fire u) (b.fire u) := by
  obtain ⟨hresult, hstate, hheard⟩ := h.revalidate
  constructor
  case result => rw [State.result_fire, State.result_fire]
  case heard => rwa [State.activity_fire, State.activity_fire]
  rw [State.state_fire, State.state_fire]
  refine hstate.withTimers ?_
  rw [get?_timersAfter_self, get?_timersAfter_self, hresult]

/-! ## Loops, looked at for one document -/

namespace State

/-- A validation changes nothing but the last analyses. -/
theorem state_revalidate (sv : State) (uri : String) :
    ∃ cache, (sv.revalidate uri).state = { sv with cache := cache } := by
  unfold State.revalidate
  split
  · exact ⟨sv.cache, rfl⟩
  · rcases sv.state_validate uri _ false with hs | ⟨_, _, _, -, -, hs⟩
    · exact ⟨sv.cache, hs⟩
    · exact ⟨_, hs⟩

/-- A validation changes the text of no document. -/
theorem textOf_revalidate (sv : State) (uri other : String) : (sv.revalidate uri).state.textOf other = sv.textOf other := by
  obtain ⟨cache, h⟩ := sv.state_revalidate uri
  rw [h]
  rfl

/-- Waitings end without a failure, however many there are. -/
theorem result_fireAll (sv : State) (uris : List String) : (sv.fireAll uris).result = .ok () := by
  induction uris generalizing sv with
  | nil => rfl
  | cons uri rest ih =>
    rw [fireAll_cons, Reaction.result_after]
    exact ih (sv.fire uri).state

end State

/-- What follows a reaction and spares a document makes no difference for it. -/
theorem Spares.sameFor_after {α : Type} {r r' : Reaction α} (h : Spares u r.state r') (hr : r.result = r'.result) :
    SameFor u r (.after r.activity r') :=
  ⟨hr, h.state, by
    show r.activity.heard u = (r.activity ++ r'.activity).heard u
    rw [Activity.heard_append, h.heard, List.append_nil]⟩

/-- Activity that publishes nothing for a document makes no difference for it. -/
theorem SameFor.after_quiet {α : Type} {r r' : Reaction α} (h : SameFor u r r') {earlier : Activity}
    (hq : earlier.heard u = []) : SameFor u r (.after earlier r') :=
  ⟨h.result, h.state, by
    show r.activity.heard u = (earlier ++ r'.activity).heard u
    rw [Activity.heard_append, hq, List.nil_append, h.heard]⟩

/-- A loop of waitings that end comes to a document once: what it does for the document is what the end of its own waiting
does. -/
theorem fireAll_of_mem {uris : List String} (hn : uris.Nodup) (hu : u ∈ uris) (sv : State) :
    SameFor u (sv.fire u) (sv.fireAll uris) := by
  induction uris generalizing sv with
  | nil => cases hu
  | cons v rest ih =>
    obtain ⟨hfresh, hrest⟩ := List.nodup_cons.mp hn
    rw [State.fireAll_cons]
    by_cases hv : u = v
    · subst hv
      refine (spares_fireAll hfresh (sv.fire u).state).sameFor_after ?_
      rw [State.result_fire, State.result_fireAll]
    · have hfirst := spares_fire hv sv
      have hlater := ih hrest ((List.mem_cons.mp hu).resolve_left hv) (sv.fire v).state
      exact (hfirst.state.fire.trans hlater).after_quiet hfirst.heard

/-- A loop of validations comes to a document once, if those before it have texts: what it does for the document is what its
own validation does, however the loop ends. -/
theorem revalidateAll_of_mem {uris : List String} (hn : uris.Nodup) (hu : u ∈ uris) (h : sv.Sound)
    (hread : ∀ v ∈ uris.takeWhile (· ≠ u), ∃ text, sv.textOf v = .ok text) :
    Alike u (sv.revalidate u).state (sv.revalidateAll uris).state ∧
      (sv.revalidate u).activity.heard u = (sv.revalidateAll uris).activity.heard u := by
  induction uris generalizing sv with
  | nil => cases hu
  | cons v rest ih =>
    obtain ⟨hfresh, hrest⟩ := List.nodup_cons.mp hn
    rw [State.revalidateAll_cons]
    by_cases hv : v = u
    · subst hv
      -- what comes behind the document spares it, whether the loop gets that far or not
      have hspared : Spares v (sv.revalidate v).state ((sv.revalidate v).state.revalidateAll rest) :=
        spares_revalidateAll fun hmem => absurd hmem hfresh
      cases (sv.revalidate v).result with
      | error f => exact ⟨.refl v _, rfl⟩
      | ok _ =>
        refine ⟨hspared.state, ?_⟩
        show (sv.revalidate v).activity.heard v = (_ ++ _ : Activity).heard v
        rw [Activity.heard_append, hspared.heard, List.append_nil]
    · rw [List.takeWhile_cons_of_pos (by simpa using hv)] at hread
      obtain ⟨text, htext⟩ := hread v List.mem_cons_self
      have hfirst := spares_revalidate (Ne.symm hv) sv
      have hlater : ∀ w ∈ rest.takeWhile (· ≠ u), ∃ text, (sv.revalidate v).state.textOf w = .ok text := by
        intro w hw
        rw [State.textOf_revalidate]
        exact hread w (List.mem_cons_of_mem v hw)
      obtain ⟨hstate, hheard⟩ := ih hrest ((List.mem_cons.mp hu).resolve_left (Ne.symm hv))
        (State.kept_sound.revalidate sv v h) hlater
      rw [h.result_revalidate htext]
      refine ⟨hfirst.state.revalidate.state.trans hstate, ?_⟩
      show (sv.revalidate u).activity.heard u = (_ ++ _ : Activity).heard u
      rw [Activity.heard_append, hfirst.heard, List.nil_append, ← hheard, hfirst.state.revalidate.heard]

end Server

end ExprLex
