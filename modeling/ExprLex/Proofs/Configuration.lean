import ExprLex.Proofs.Clients
import Mathlib.Data.List.TakeWhile

/-!
# Changes of the configuration

When the configuration changes, the server validates the documents that it has a last analysis of, in the order in which it
got the first one of each, up to a document without a text. So a change does not reach an open document of which no analysis
succeeded since it was opened, nor those behind a document that has lost its text or holds surrogates, nor any at all if the
new pattern holds some; it reaches all others.
-/

namespace ExprLex

namespace Server

/-! ## Documents that have a last analysis -/

namespace State

variable {sv : State} {uri : String}

/-- The text of a document as it is can be analysed. -/
def AnalysesAsIs (sv : State) (uri : String) : Prop :=
  ∃ text, sv.textOf uri = .ok text ∧ (sv.settings.outcome sv.engine text).isOk = true

/-- A message by which a document is analysed whether or not it was before, and the analysis succeeds. -/
def Analyses (sv : State) (uri : String) : Message → Prop
  | .opened u source => u = uri ∧ (∃ path, documentPath uri = .ok path) ∧
      ∃ text, sv.Encodes source text ∧ (sv.settings.outcome sv.engine text).isOk = true
  | .saved u => u = uri ∧ sv.AnalysesAsIs uri
  | .advance duration => uri ∈ (sv.later duration).due ∧ sv.AnalysesAsIs uri
  | _ => False

/-- What was sent for a path has no part in what can be encoded. -/
theorem encodes_holding_iff {path : Path} {held source : RawText} {text : Text} :
    (sv.holding path held).Encodes source text ↔ sv.Encodes source text :=
  ⟨fun h => ⟨h.source_eq, h.key⟩, fun h => ⟨h.source_eq, h.key⟩⟩

/-- A document has a last analysis after a validation of its text if it had one before, or if this one makes one. -/
theorem cached_validateText (sv : State) (uri : String) (source : Text) :
    (sv.validateText uri source false).state.cache.get? uri ≠ none ↔
      (sv.settings.outcome sv.engine source).isOk = true ∨ sv.cache.get? uri ≠ none := by
  rcases sv.validateText_eq uri source false with ⟨e, hu, hv⟩ | hv
  · obtain ⟨hget, -, -⟩ := eq_of_upToDate hu
    rw [hv, state_publishAgain]
    simp [hget]
  · rw [hv]
    rcases sv.validateAnew_eq uri source with ⟨analysis, notices, ho, -, hs⟩ | ⟨f, ho, -, hs⟩
    · rw [hs, ho, Keyed.get?_put_self]
      simp [Except.isOk, Except.toBool]
    · rw [hs, ho]
      simp [Except.isOk, Except.toBool]

/-- So it is for what may be no text, in which case none is made. -/
theorem cached_validate (sv : State) (uri : String) (source : RawText) :
    (sv.validate uri source false).state.cache.get? uri ≠ none ↔
      (∃ text, sv.Encodes source text ∧ (sv.settings.outcome sv.engine text).isOk = true) ∨
        sv.cache.get? uri ≠ none := by
  rcases sv.encoded_cases source with ⟨text, hs⟩ | ⟨hnone, f, he⟩
  · have hmade : (∃ t, sv.Encodes source t ∧ (sv.settings.outcome sv.engine t).isOk = true) ↔
        (sv.settings.outcome sv.engine text).isOk = true := by
      refine ⟨?_, fun h => ⟨text, hs, h⟩⟩
      rintro ⟨t, ht, h⟩
      rwa [hs.unique ht]
    rw [validate_of_encodes hs, Reaction.state_after, cached_validateText, hmade]
  · rw [validate_of_encoded_eq_error he, or_iff_right fun ⟨text, hs, _⟩ => hnone ⟨text, hs⟩, Reaction.state_failure]

/-- And so it is when the document is validated as it is. -/
theorem cached_revalidate (sv : State) (uri : String) :
    (sv.revalidate uri).state.cache.get? uri ≠ none ↔ sv.AnalysesAsIs uri ∨ sv.cache.get? uri ≠ none := by
  unfold AnalysesAsIs
  cases ht : sv.textOf uri with
  | error f =>
    obtain ⟨activity, hr, -⟩ := revalidate_of_textOf_eq_error ht
    simp [hr]
  | ok text =>
    rw [revalidate_of_textOf_eq_ok ht, Reaction.state_after, cached_validateText]
    simp

end State

/-- A document has been analysed by some message, and has not been closed since. -/
def Analysed (site : Site) (messages : List Message) (uri : String) : Prop :=
  Since (fun before m => ((State.start site).run before).Analyses uri m) (fun _ m => m = .closed uri) messages

section

variable {sv after : State} {m : Message} {u : String}

/-- A change of the configuration gives no document its first analysis, and none loses its last one. -/
theorem State.cached_configured (sv : State) (payload : Payload) (u : String) :
    ((sv.configured payload).revalidateAll sv.cache.keys).state.cache.get? u ≠ none ↔ sv.cache.get? u ≠ none := by
  by_cases hu : sv.cache.get? u = none
  · have habsent : u ∉ sv.cache.keys := (Keyed.get?_eq_none_iff _ _).mp hu
    have hspared : Spares u (sv.configured payload) ((sv.configured payload).revalidateAll sv.cache.keys) :=
      spares_revalidateAll fun hmem => absurd hmem habsent
    rw [← hspared.state.entry]
    rfl
  · exact iff_of_true ((State.kept_cached u).revalidateAll sv.cache.keys (sv.configured payload) hu) hu

/-- When some time has passed a document has a last analysis if its waiting ended with one, or if it had one before. -/
theorem State.cached_advanced (ht : sv.Tidy) (duration : Nat) (u : String) :
    ((sv.later duration).fireAll (sv.later duration).due).state.cache.get? u ≠ none ↔
      (u ∈ (sv.later duration).due ∧ sv.AnalysesAsIs u) ∨ sv.cache.get? u ≠ none := by
  -- time alone changes neither what a document holds nor what is known of it
  have hcached : (sv.later duration).cache.get? u = sv.cache.get? u := rfl
  have hlater : (sv.later duration).AnalysesAsIs u ↔ sv.AnalysesAsIs u := Iff.rfl
  by_cases hdue : u ∈ (sv.later duration).due
  · rw [← (fireAll_of_mem ((sv.later duration).nodup_due ht.timers) hdue _).state.entry, State.state_fire,
      State.cache_withTimers, State.cached_revalidate, hcached, hlater]
    simp only [hdue, true_and]
  · rw [← (spares_fireAll hdue (sv.later duration)).state.entry, hcached]
    simp only [hdue, false_and, false_or]

/-- A message that is about an address which leads nowhere analyses nothing. -/
theorem State.not_analyses_of_documentPath_eq_error {v : String} {e : AddressError} (hm : m.document? = some v)
    (hp : documentPath v = .error e) : ¬ sv.Analyses u m := by
  intro hmade
  cases m with
  | opened v' text =>
    obtain ⟨rfl, ⟨path, hpath⟩, -⟩ := hmade
    cases hm
    cases hp.symm.trans hpath
  | saved v' =>
    obtain ⟨rfl, text, htext, -⟩ := hmade
    cases hm
    rw [State.textOf, State.sourceOf, hp] at htext
    cases htext
  | advance duration => cases hm
  | _ => exact hmade

/-- A document has a last analysis after a message if the message analyses it, or if it had one and is not closed. -/
theorem Step.cached_iff {published : List (String × List Client.Notice)} (hs : Step sv m after published)
    {opened : List String} (hm : m.Permitted opened) (ht : sv.Tidy) (hi : ∀ u, ¬ Known opened u → sv.Ignores u) (u : String) :
    after.cache.get? u ≠ none ↔ sv.Analyses u m ∨ sv.cache.get? u ≠ none ∧ m ≠ .closed u := by
  cases hs with
  | initialised options => simp [State.Analyses]
  | configured payload =>
    rw [State.cached_configured]
    simp [State.Analyses]
  | @opened v path hp text =>
    by_cases hv : u = v
    · subst hv
      have hheld : sv.Analyses u (.opened u text) ↔ ∃ t, (sv.holding path text).Encodes text t ∧
          (sv.settings.outcome sv.engine t).isOk = true := by
        simp [State.Analyses, hp, State.encodes_holding_iff]
      rw [State.cached_validate, hheld]
      simp [State.holding]
    · have hspared := (spares_validate hv (sv.holding path text) text false).state.entry
      rw [← hspared]
      simp [State.Analyses, Ne.symm hv, State.holding]
  | awaited hp text hon => simp [State.Analyses, State.await, State.holding]
  | changed hp text hoff => simp [State.Analyses, State.holding]
  | saved v =>
    by_cases hv : u = v
    · subst hv
      rw [State.cached_revalidate]
      simp [State.Analyses]
    · rw [← (spares_revalidate hv sv).state.entry]
      simp [State.Analyses, Ne.symm hv]
  | @closed v path hp =>
    by_cases hv : u = v
    · subst hv
      simp [State.Analyses, State.without, Keyed.get?_remove_self]
    · simp [State.Analyses, State.without, Keyed.get?_remove_other _ hv, Ne.symm hv]
  | validated v source force => exact absurd hm id
  | advanced duration =>
    rw [State.cached_advanced ht]
    simp [State.Analyses]
  | @nowhere m v e hv hp =>
    -- a document with a last analysis has an address that leads somewhere, so it is not the one that is closed
    have hclosed : sv.cache.get? u ≠ none → m ≠ .closed u := by
      rintro hcached rfl
      cases hv
      refine hcached (hi u fun hk => ?_).entry
      obtain ⟨-, path, hpath⟩ := hk
      cases hp.symm.trans hpath
    rw [or_iff_right (State.not_analyses_of_documentPath_eq_error hv hp)]
    exact ⟨fun hcached => ⟨hcached, hclosed hcached⟩, And.left⟩
  | asked hq =>
    cases m with
    | hover _ _ _ | actions _ _ | tokens _ | rules => simp [State.Analyses]
    | _ => cases hq

end

/-- With an orderly client the documents that have a last analysis are those that are open and have been analysed since. -/
theorem cached_run_iff (site : Site) {messages : List Message} (h : Orderly messages) (u : String) :
    ((State.start site).run messages).cache.get? u ≠ none ↔ Analysed site messages u := by
  induction messages using List.reverseRecOn with
  | nil => exact iff_of_false (fun hne => hne rfl) (not_since_nil _ _)
  | append_singleton messages m ih =>
    obtain ⟨hmessages, hm⟩ := h.of_append_singleton
    rw [Analysed, since_append_singleton, ← Analysed, ← ih hmessages, State.run_append_singleton]
    exact (step_handle _ m).cached_iff hm ((State.tidy_start site).run messages) (ignores_run site hmessages) u

/-! ## The loop over the last analyses -/

/-- If nothing is published twice for a document, what is published for one is found under its address. -/
theorem Activity.heard_eq_toList_get? {a : Activity} (h : (Keyed.keys a.published).Nodup) (u : String) :
    a.heard u = (Keyed.get? u a.published).toList := by
  unfold Activity.heard
  generalize a.published = published at h
  induction published with
  | nil => rfl
  | cons e rest ih =>
    obtain ⟨k, notices⟩ := e
    obtain ⟨hfresh, hrest⟩ := List.nodup_cons.mp h
    by_cases hk : k = u
    · subst hk
      rw [List.filter_cons_of_pos (by simp), List.map_cons, ih hrest, (Keyed.get?_eq_none_iff rest k).mpr hfresh]
      simp [Keyed.get?]
    · rw [List.filter_cons_of_neg (by simpa using hk), ih hrest]
      simp [Keyed.get?, hk]

namespace State

variable {sv : State}

/-- Whether a document has a text. -/
def reads (sv : State) (uri : String) : Bool := (sv.textOf uri).isOk

/-- Whether a document has a text, told by the text. -/
theorem reads_eq_true_iff {uri : String} : sv.reads uri = true ↔ ∃ text, sv.textOf uri = .ok text := by
  unfold reads
  cases sv.textOf uri with
  | error f => simp [Except.isOk, Except.toBool]
  | ok text => simp [Except.isOk, Except.toBool]

/-- A loop of validations publishes for the documents before the first one without a text, for each of them the notices of its
text. -/
theorem Sound.revalidateAll (h : sv.Sound) (uris : List String) :
    Keyed.keys (sv.revalidateAll uris).activity.published = uris.takeWhile sv.reads ∧
      ∀ u notices, (u, notices) ∈ (sv.revalidateAll uris).activity.published →
        ∃ text, sv.sourceOf u = .ok (RawText.ofText text) ∧ sv.settings.Shows sv.engine text notices := by
  induction uris generalizing sv with
  | nil => exact ⟨rfl, nofun⟩
  | cons uri rest ih =>
    rw [revalidateAll_cons]
    rcases h.revalidate uri with ⟨text, notices, ht, hr, hp, hs⟩ | ⟨f, ht, hr, hp, -⟩
    · obtain ⟨cache, hstate⟩ := sv.state_revalidate uri
      obtain ⟨hkeys, hshown⟩ := ih (kept_sound.revalidate sv uri h)
      have hreads : (sv.revalidate uri).state.reads = sv.reads := by
        rw [hstate]
        rfl
      have hfirst : sv.reads uri = true := reads_eq_true_iff.mpr ⟨text, ht⟩
      have hpublished : (sv.revalidate uri).activity.published ++
          ((sv.revalidate uri).state.revalidateAll rest).activity.published =
            (uri, notices) :: ((sv.revalidate uri).state.revalidateAll rest).activity.published := by
        rw [hp, List.singleton_append]
      rw [hr]
      show Keyed.keys (_ ++ _) = _ ∧ ∀ u notices, _ ∈ _ ++ _ → _
      rw [hpublished, List.takeWhile_cons_of_pos hfirst, ← hreads, ← hkeys]
      refine ⟨rfl, fun u notices' hmem => ?_⟩
      rcases List.mem_cons.mp hmem with he | hmem
      · cases he
        exact ⟨text, sourceOf_of_textOf_eq_ok ht, hs⟩
      · obtain ⟨text', ht', hs'⟩ := hshown u notices' hmem
        rw [hstate] at ht' hs'
        exact ⟨text', ht', hs'⟩
    · have hfirst : ¬ sv.reads uri = true := by
        rw [reads_eq_true_iff, ht]
        exact nofun
      rw [hr, List.takeWhile_cons_of_neg hfirst]
      show Keyed.keys (sv.revalidate uri).activity.published = [] ∧
        ∀ u notices, _ ∈ (sv.revalidate uri).activity.published → _
      rw [hp]
      exact ⟨rfl, nofun⟩

/-- The documents that a change of the configuration comes to: those that have a last analysis, up to the first one without a
text under the new settings. -/
def reached (sv : State) (payload : Payload) : List String := sv.cache.keys.takeWhile (sv.configured payload).reads

/-- A change of the configuration publishes one list of notices for a document: those of its present text under the settings
after the change. -/
def Reaches (sv : State) (payload : Payload) (uri : String) : Prop :=
  ∃ text notices, sv.sourceOf uri = .ok (RawText.ofText text) ∧
    (sv.handle (.configure payload)).activity.heard uri = [notices] ∧
    (sv.handle (.configure payload)).state.settings.Shows sv.engine text notices

/-- What a change of the configuration publishes for a document, if it comes to it, is right; for others it publishes
nothing. -/
theorem heard_configure (h : sv.Sound) (ht : sv.Tidy) (payload : Payload) (uri : String) :
    if uri ∈ sv.reached payload then sv.Reaches payload uri else (sv.handle (.configure payload)).activity.heard uri = [] := by
  have hsound : (sv.configured payload).Sound := h
  obtain ⟨hkeys, hshown⟩ := hsound.revalidateAll sv.cache.keys
  have hnodup : (Keyed.keys (sv.handle (.configure payload)).activity.published).Nodup := by
    show (Keyed.keys ((sv.configured payload).revalidateAll sv.cache.keys).activity.published).Nodup
    rw [hkeys]
    exact ht.cache.sublist (List.takeWhile_sublist _)
  have hsettings : (sv.handle (.configure payload)).state.settings = (sv.configured payload).settings :=
    (kept_rests.revalidateAll sv.cache.keys (sv.configured payload)).settings
  have hreached : Keyed.keys (sv.handle (.configure payload)).activity.published = sv.reached payload := hkeys
  have hheard := Activity.heard_eq_toList_get? hnodup uri
  split
  next hmem =>
    rw [← hreached] at hmem
    obtain ⟨notices, hnotices⟩ := Option.ne_none_iff_exists'.mp
      (mt (Keyed.get?_eq_none_iff (sv.handle (.configure payload)).activity.published uri).mp (not_not.mpr hmem))
    obtain ⟨text, htext, hs⟩ := hshown uri notices ((Keyed.mem_iff_get? hnodup uri notices).mpr hnotices)
    refine ⟨text, notices, htext, ?_, ?_⟩
    · rw [hheard, hnotices]
      rfl
    · rwa [hsettings]
  next hmem =>
    rw [← hreached] at hmem
    rw [hheard, (Keyed.get?_eq_none_iff _ _).mpr hmem]
    rfl

/-- A change of the configuration reaches exactly the documents that it comes to. -/
theorem reaches_iff (h : sv.Sound) (ht : sv.Tidy) (payload : Payload) (uri : String) :
    sv.Reaches payload uri ↔ uri ∈ sv.reached payload := by
  have hheard := heard_configure h ht payload uri
  split at hheard
  next hmem => exact iff_of_true hheard hmem
  next hmem =>
    refine iff_of_false ?_ hmem
    rintro ⟨_, _, -, hone, -⟩
    rw [hheard] at hone
    cases hone

end State

/-- A change of the configuration comes to all documents that have a last analysis, if they all have texts. -/
theorem State.mem_reached_iff {sv : State} {payload : Payload}
    (h : ∀ v ∈ sv.cache.keys, (sv.configured payload).reads v = true) (uri : String) :
    uri ∈ sv.reached payload ↔ sv.cache.get? uri ≠ none := by
  rw [State.reached, List.takeWhile_eq_self_iff.mpr h, Ne, Keyed.get?_eq_none_iff, not_not]

/-- Which documents a change of the configuration reaches. The server comes to some of the open documents, publishes for
each of them once and by its present text, and for no other document. So it reaches all open documents exactly if each of
them has been analysed since it was opened and has a text under the new settings; with a client that keeps paths apart and
sends nothing but texts, and a pattern without surrogates, it reaches every document that has been analysed since it was
opened. -/
theorem configuration_reaches_iff (site : Site) {messages : List Message} (h : Orderly messages)
    (payload : Payload) :
    let sv := (State.start site).run messages
    (∀ uri, if uri ∈ sv.reached payload then uri ∈ openDocuments messages ∧ sv.Reaches payload uri
      else (sv.handle (.configure payload)).activity.heard uri = []) ∧
    ((∀ uri ∈ openDocuments messages, sv.Reaches payload uri) ↔
      ∀ uri ∈ openDocuments messages, Analysed site messages uri ∧ (sv.configured payload).reads uri = true) ∧
    (PathsApart messages → (∀ m ∈ messages, m.SendsText) → (sv.configured payload).settings.patternText.IsText →
      ∀ uri, Analysed site messages uri → sv.Reaches payload uri) := by
  intro sv
  have hsound : sv.Sound := (State.sound_start site).run messages
  have htidy : sv.Tidy := (State.tidy_start site).run messages
  have hknown : ∀ v ∈ sv.cache.keys, Known (openDocuments messages) v := fun _ => known_of_mem_keys site h
  have hreaches := State.reaches_iff hsound htidy payload
  have hcached := cached_run_iff site h
  refine ⟨fun uri => ?_, ⟨fun hall uri hopen => ?_, fun hall uri hopen => ?_⟩, fun hpaths htexts hpattern uri hmade => ?_⟩
  · have hheard := State.heard_configure hsound htidy payload uri
    split at hheard
    next hmem =>
      rw [if_pos hmem]
      exact ⟨(hknown uri ((List.takeWhile_prefix _).subset hmem)).1, hheard⟩
    next hmem =>
      rw [if_neg hmem]
      exact hheard
  · have hmem := (hreaches uri).mp (hall uri hopen)
    have hkey : uri ∈ sv.cache.keys := (List.takeWhile_prefix _).subset hmem
    refine ⟨(hcached uri).mp fun hnone => (Keyed.get?_eq_none_iff _ _).mp hnone hkey, ?_⟩
    exact List.mem_takeWhile_imp hmem
  · rw [hreaches, State.mem_reached_iff fun v hv => (hall v (hknown v hv).1).2, hcached]
    exact (hall uri hopen).1
  · have hholds := holds_run site h hpaths
    have hheld := holdsTexts_run site htexts
    have hkey := (Settings.isText_key_iff _).mpr hpattern
    have hreads : ∀ v ∈ sv.cache.keys, (sv.configured payload).reads v = true := by
      intro v hv
      obtain ⟨source, hsource⟩ := hholds.sourceOf (hknown v hv)
      obtain ⟨text, rfl⟩ := hheld.isText hsource
      exact State.reads_eq_true_iff.mpr ⟨text, State.textOf_eq_ok_iff.mpr ⟨_, hsource, State.encodes_ofText hkey text⟩⟩
    rw [hreaches, State.mem_reached_iff hreads, hcached]
    exact hmade

/-- The client opens two documents. -/
def twoOpened : List Message := [.opened "file:///a" "1".toList, .opened "file:///b" "(".toList]

/-- The client takes back the pattern of its configuration. -/
def patternUnset : Payload := .record [("mathlex".toList, .record [("pattern".toList, .null)])]

/-- Both documents are reached. -/
theorem configuration_reaches_iff_two_opened :
    Orderly twoOpened ∧ ∀ uri ∈ openDocuments twoOpened,
      ((State.start {}).run twoOpened).Reaches patternUnset uri := by
  have hopened : Orderly twoOpened := by decide
  refine ⟨hopened, (configuration_reaches_iff _ hopened patternUnset).2.1.mpr ?_⟩
  have hreads : (openDocuments twoOpened).all (((State.start {}).run twoOpened).configured patternUnset).reads = true := by
    decide +kernel
  intro uri hopen
  refine ⟨(since_append_singleton _ _ [.opened "file:///a" "1".toList] (.opened "file:///b" "(".toList)).mpr ?_,
    List.all_eq_true.mp hreads uri hopen⟩
  have hlist : openDocuments twoOpened = ["file:///b", "file:///a"] := by decide
  rw [hlist] at hopen
  rcases List.mem_pair.mp hopen with rfl | rfl
  · refine Or.inl ⟨rfl, ⟨⟨.root, ["b".toList]⟩, by decide +kernel⟩, ?_⟩
    exact ⟨"(".toList, State.encodes_ofText (by decide +kernel) _, by decide +kernel⟩
  · refine Or.inr ⟨(since_append_singleton _ _ [] _).mpr (Or.inl ⟨rfl, ⟨⟨.root, ["a".toList]⟩, by decide +kernel⟩, ?_⟩), nofun⟩
    exact ⟨"1".toList, State.encodes_ofText (by decide +kernel) _, by decide +kernel⟩

/-- The client opens a document under a pattern with a bound that is too large. -/
def overlongBound : List Message :=
  [.configure (.record [("mathlex".toList, .record [("pattern".toList, .text "a\x7b4294967295\x7d".toList)])]),
    .opened "file:///a" "1".toList]

/-- A document whose analysis failed when it was opened may not be reached by a change of the configuration. -/
theorem not_reaches_after_overlong_bound :
    Orderly overlongBound ∧ "file:///a" ∈ openDocuments overlongBound ∧
      ¬ ((State.start {}).run overlongBound).Reaches patternUnset "file:///a" := by
  have horderly : Orderly overlongBound := by decide
  refine ⟨horderly, by decide, fun hreached => ?_⟩
  have hmem := (State.reaches_iff ((State.sound_start _).run overlongBound) ((State.tidy_start _).run overlongBound)
    patternUnset "file:///a").mp hreached
  have hkey := (List.takeWhile_prefix _).subset hmem
  have hmade := (cached_run_iff {} horderly "file:///a").mp fun hnone =>
    (Keyed.get?_eq_none_iff _ _).mp hnone hkey
  obtain ⟨before, m, after, hsplit, hanalyses, -⟩ := hmade
  rcases before with _ | ⟨_, _ | ⟨_, before⟩⟩
  · cases hsplit
    exact hanalyses
  · cases hsplit
    obtain ⟨-, -, text, hs, hok⟩ := hanalyses
    obtain rfl := RawText.ofText_injective hs.source_eq
    have hfails : (((State.start {}).run (overlongBound.take 1)).settings.outcome .plain "1".toList).isOk = false := by
      decide +kernel
    exact Bool.false_ne_true (hfails.symm.trans hok)
  · simp [overlongBound] at hsplit

end Server

end ExprLex
