import ExprLex.Proofs.Views
import Mathlib.Data.List.Induction
import Mathlib.Data.List.Nodup

/-!
# Clients

An orderly client sends changes, saves and closings only for documents that are open. Then the server has last analyses and
waitings of open documents only. If the client moreover never has two documents open whose addresses lead to one path, the
server always has the text of every open document.
-/

namespace ExprLex

namespace Server

/-! ## Open documents -/

/-- The documents that are open after a message, given those that were open before. -/
def Message.openAfter (opened : List String) : Message → List String
  | .opened uri _ => opened.insert uri
  | .closed uri => opened.filter (· ≠ uri)
  | _ => opened

/-- The documents that were opened by some messages and not yet closed. -/
def openDocuments (messages : List Message) : List String := messages.foldl Message.openAfter []

/-- A message that an orderly client may send. Validations by themselves are not for clients. -/
def Message.Permitted (opened : List String) : Message → Prop
  | .changed uri _ | .saved uri | .closed uri => uri ∈ opened
  | .validate _ _ _ => False
  | _ => True

/-- The messages of a client that sends changes, saves and closings for open documents only. -/
def Orderly (messages : List Message) : Prop :=
  ∀ before m after, messages = before ++ m :: after → m.Permitted (openDocuments before)

/-- No two of some documents have addresses that lead to one path. -/
def Apart (opened : List String) : Prop :=
  ∀ u ∈ opened, ∀ v ∈ opened, ∀ path, documentPath u = .ok path → documentPath v = .ok path → u = v

/-- At no time are two documents open whose addresses lead to one path. -/
def PathsApart (messages : List Message) : Prop :=
  ∀ before after, messages = before ++ after → Apart (openDocuments before)

theorem openDocuments_append_singleton (messages : List Message) (m : Message) :
    openDocuments (messages ++ [m]) = m.openAfter (openDocuments messages) := by
  simp [openDocuments]

instance (opened : List String) (m : Message) : Decidable (m.Permitted opened) :=
  match m with
  | .changed uri _ | .saved uri | .closed uri => inferInstanceAs (Decidable (uri ∈ opened))
  | .validate _ _ _ => .isFalse id
  | .initialise _ | .configure _ | .opened _ _ | .advance _ | .hover _ _ _ | .actions _ _ | .tokens _ | .rules =>
    .isTrue trivial

/-- Whether a client is orderly can be told message by message. -/
theorem orderly_iff (messages : List Message) :
    Orderly messages ↔ ∀ n, (h : n < messages.length) → messages[n].Permitted (openDocuments (messages.take n)) := by
  constructor
  · intro h n hn
    exact h _ _ (messages.drop (n + 1)) (by rw [← List.drop_eq_getElem_cons hn, List.take_append_drop])
  · rintro h before m after rfl
    simpa using h before.length (by simp)

instance (messages : List Message) : Decidable (Orderly messages) := decidable_of_iff _ (orderly_iff messages).symm

/-- Whether two addresses name one document: they are the same, or they lead to one path. -/
def sameDocument (u v : String) : Bool :=
  u == v ||
    match documentPath u, documentPath v with
    | .ok path, .ok other => path == other
    | _, _ => false

/-- Two addresses name one document if they are the same or lead to one path. -/
theorem sameDocument_iff {u v : String} :
    sameDocument u v = true ↔ u = v ∨ ∃ path, documentPath u = .ok path ∧ documentPath v = .ok path := by
  unfold sameDocument
  rw [Bool.or_eq_true, beq_iff_eq]
  refine or_congr Iff.rfl ?_
  cases documentPath u with
  | error e => simp
  | ok path =>
    cases documentPath v with
    | error e => simp
    | ok other =>
      rw [beq_iff_eq]
      constructor
      · rintro rfl
        exact ⟨path, rfl, rfl⟩
      · rintro ⟨_, hu, hv⟩
        cases hu
        cases hv
        rfl

/-- Two addresses name two documents if they are different and no path is that of both. -/
theorem sameDocument_eq_false_iff {u v : String} :
    sameDocument u v = false ↔ u ≠ v ∧ ∀ path, documentPath u = .ok path → documentPath v ≠ .ok path := by
  rw [← Bool.not_eq_true, sameDocument_iff, not_or, not_exists]
  simp only [not_and]

/-- Documents are apart if no two addresses of them name one document. -/
theorem apart_iff (opened : List String) :
    Apart opened ↔ ∀ u ∈ opened, ∀ v ∈ opened, sameDocument u v = true → u = v := by
  refine forall₂_congr fun u _ => forall₂_congr fun v _ => ?_
  rw [sameDocument_iff]
  constructor
  · rintro h (rfl | ⟨path, hu, hv⟩)
    · rfl
    · exact h path hu hv
  · exact fun h path hu hv => h (Or.inr ⟨path, hu, hv⟩)

instance (opened : List String) : Decidable (Apart opened) := decidable_of_iff _ (apart_iff opened).symm

/-- Whether paths are kept apart can be told message by message. -/
theorem pathsApart_iff (messages : List Message) :
    PathsApart messages ↔ ∀ n ≤ messages.length, Apart (openDocuments (messages.take n)) := by
  constructor
  · exact fun h n _ => h _ _ (List.take_append_drop n messages).symm
  · rintro h before after rfl
    simpa using h before.length (by simp)

instance (messages : List Message) : Decidable (PathsApart messages) :=
  decidable_of_iff _ (pathsApart_iff messages).symm

section

variable {messages : List Message} {m : Message}

/-- A client that is orderly in the end was so before. -/
theorem Orderly.of_append {later : List Message} (h : Orderly (messages ++ later)) : Orderly messages := by
  intro before m after hsplit
  exact h before m (after ++ later) (by rw [hsplit, List.append_assoc, List.cons_append])

/-- What an orderly client sends last is permitted. -/
theorem Orderly.of_append_singleton (h : Orderly (messages ++ [m])) :
    Orderly messages ∧ m.Permitted (openDocuments messages) := ⟨h.of_append, h messages m [] rfl⟩

/-- A client that keeps paths apart in the end did so before. -/
theorem PathsApart.of_append {later : List Message} (h : PathsApart (messages ++ later)) : PathsApart messages := by
  intro before after hsplit
  exact h before (after ++ later) (by rw [hsplit, List.append_assoc])

/-- In the end, too, documents are apart. -/
theorem PathsApart.apart (h : PathsApart messages) : Apart (openDocuments messages) :=
  h messages [] (List.append_nil messages).symm

end

/-! ## Since some message -/

/-- Something began with a message, given the ones before it, and since then no message has ended it. -/
def Since (Begins Ends : List Message → Message → Prop) (messages : List Message) : Prop :=
  ∃ before m after, messages = before ++ m :: after ∧ Begins before m ∧
    ∀ between m' rest, after = between ++ m' :: rest → ¬ Ends (before ++ m :: between) m'

/-- Before any message nothing has begun. -/
theorem not_since_nil (Begins Ends : List Message → Message → Prop) : ¬ Since Begins Ends [] := by
  rintro ⟨before, m, after, hsplit, -⟩
  exact absurd hsplit.symm (List.append_ne_nil_of_right_ne_nil before (List.cons_ne_nil m after))

/-- One more message begins it, or leaves what began before. -/
theorem since_append_singleton (Begins Ends : List Message → Message → Prop) (messages : List Message) (m : Message) :
    Since Begins Ends (messages ++ [m]) ↔ Begins messages m ∨ Since Begins Ends messages ∧ ¬ Ends messages m := by
  constructor
  · rintro ⟨before, m₀, after, hsplit, hbegins, hlasts⟩
    rcases List.eq_nil_or_concat after with rfl | ⟨after, x, rfl⟩
    · obtain ⟨rfl, hm⟩ := List.append_inj' hsplit rfl
      cases hm
      exact Or.inl hbegins
    · rw [List.concat_eq_append, ← List.cons_append, ← List.append_assoc] at hsplit
      obtain ⟨rfl, hm⟩ := List.append_inj' hsplit rfl
      cases hm
      refine Or.inr ⟨⟨before, m₀, after, rfl, hbegins, fun between m' rest hafter => ?_⟩, ?_⟩
      · exact hlasts between m' (rest ++ [m]) (by rw [hafter, List.concat_eq_append, List.append_assoc, List.cons_append])
      · exact hlasts after m [] (by rw [List.concat_eq_append])
  · rintro (hbegins | ⟨⟨before, m₀, after, rfl, hbegins, hlasts⟩, hm⟩)
    · exact ⟨messages, m, [], rfl, hbegins, fun between m' rest hafter => absurd hafter (by simp)⟩
    · refine ⟨before, m₀, after ++ [m], by rw [List.append_assoc, List.cons_append], hbegins, ?_⟩
      intro between m' rest hafter
      rcases List.eq_nil_or_concat rest with rfl | ⟨rest, x, rfl⟩
      · obtain ⟨rfl, hx⟩ := List.append_inj' hafter rfl
        cases hx
        exact hm
      · rw [List.concat_eq_append, ← List.cons_append, ← List.append_assoc] at hafter
        exact hlasts between m' rest (List.append_inj' hafter rfl).1

namespace State

/-- A run of two halves is a run of the second half after the first. -/
theorem run_append (sv : State) (messages later : List Message) :
    sv.run (messages ++ later) = (sv.run messages).run later := by
  induction messages generalizing sv with
  | nil => rfl
  | cons m messages ih => exact ih (sv.handle m).state

theorem run_append_singleton (sv : State) (messages : List Message) (m : Message) :
    sv.run (messages ++ [m]) = ((sv.run messages).handle m).state := run_append sv messages [m]

/-! ## What loops keep -/

/-- Validations and ends of waitings keep all but the last analyses and the waitings. -/
structure Rests (a b : State) : Prop where
  settings : b.settings = a.settings
  site : b.toSite = a.toSite
  documents : b.documents = a.documents
  clock : b.clock = a.clock

/-- Single validations do, so all loops of them do. -/
theorem kept_rests : Kept Rests where
  refl _ := ⟨rfl, rfl, rfl, rfl⟩
  trans h h' := ⟨h'.settings.trans h.settings, h'.site.trans h.site, h'.documents.trans h.documents,
    h'.clock.trans h.clock⟩
  validate sv uri source force := by
    rcases sv.state_validate uri source force with h | ⟨_, _, _, -, -, h⟩
    · rw [h]
      exact ⟨rfl, rfl, rfl, rfl⟩
    · rw [h]
      exact ⟨rfl, rfl, rfl, rfl⟩
  timers _ _ := ⟨rfl, rfl, rfl, rfl⟩

/-- Validations have one last analysis for each document. -/
theorem kept_nodup_cache : Kept fun a b => a.cache.keys.Nodup → b.cache.keys.Nodup where
  refl _ h := h
  trans h h' := h' ∘ h
  validate sv uri source force h := by
    rcases sv.state_validate uri source force with hs | ⟨_, _, _, -, -, hs⟩
    · rwa [hs]
    · rw [hs]
      exact Keyed.nodup_keys_put h _ _
  timers _ _ h := h

/-- Validations keep the last analysis of a document in its place. -/
theorem kept_cached (uri : String) : Kept fun a b => a.cache.get? uri ≠ none → b.cache.get? uri ≠ none where
  refl _ h := h
  trans h h' := h' ∘ h
  validate sv other source force h := by
    rcases sv.state_validate other source force with hs | ⟨_, _, _, -, -, hs⟩
    · rwa [hs]
    · rw [hs]
      by_cases hu : uri = other
      · subst hu
        rw [Keyed.get?_put_self]
        exact nofun
      · rwa [Keyed.get?_put_other _ hu]
  timers _ _ h := h

/-- A validation leaves the waitings as they are. -/
theorem timers_validate (sv : State) (uri : String) (source : RawText) (force : Bool) :
    (sv.validate uri source force).state.timers = sv.timers := by
  rcases sv.state_validate uri source force with h | ⟨_, _, _, -, -, h⟩
  · rw [h]
  · rw [h]

/-- The validation of a document as it is leaves the waitings as they are. -/
theorem timers_revalidate (sv : State) (uri : String) : (sv.revalidate uri).state.timers = sv.timers := by
  obtain ⟨cache, h⟩ := sv.state_revalidate uri
  rw [h]

theorem timers_revalidateAll (sv : State) (uris : List String) : (sv.revalidateAll uris).state.timers = sv.timers := by
  induction uris generalizing sv with
  | nil => rfl
  | cons uri rest ih =>
    rw [revalidateAll_cons]
    cases (sv.revalidate uri).result with
    | error f => rw [Reaction.state_failure, timers_revalidate]
    | ok _ => rw [Reaction.state_after, ih, timers_revalidate]

/-- Waitings that end leave no document on the list twice. -/
theorem nodup_timers_fireAll (sv : State) (h : sv.timers.keys.Nodup) (uris : List String) :
    (sv.fireAll uris).state.timers.keys.Nodup := by
  induction uris generalizing sv with
  | nil => exact h
  | cons uri rest ih =>
    rw [fireAll_cons, Reaction.state_after]
    refine ih _ ?_
    rw [state_fire, timers_withTimers, timers_revalidate]
    cases (sv.revalidate uri).result with
    | ok _ => exact Keyed.nodup_keys_remove h uri
    | error _ => exact Keyed.nodup_keys_put h uri none

/-! ## Waitings that are over -/

/-- The documents whose waiting is over, and when it was, the earliest first. -/
def ripe (sv : State) : List (String × Nat) :=
  (sv.timers.filterMap fun (uri, deadline) => (deadline.filter (· ≤ sv.clock)).map (uri, ·)).mergeSort
    fun a b => decide (a.2 ≤ b.2)

theorem due_eq (sv : State) : sv.due = sv.ripe.map (·.1) := rfl

/-- A waiting is over if its time has come. -/
theorem mem_ripe_iff (sv : State) (h : sv.timers.keys.Nodup) (uri : String) (time : Nat) :
    (uri, time) ∈ sv.ripe ↔ sv.timers.get? uri = some (some time) ∧ time ≤ sv.clock := by
  rw [ripe, List.mem_mergeSort, List.mem_filterMap, ← Keyed.mem_iff_get? h]
  constructor
  · rintro ⟨⟨other, deadline⟩, hmem, he⟩
    obtain ⟨d, hd, he⟩ := Option.map_eq_some_iff.mp he
    cases he
    obtain ⟨rfl, hle⟩ := Option.filter_eq_some_iff.mp hd
    exact ⟨hmem, of_decide_eq_true hle⟩
  · rintro ⟨hmem, hle⟩
    refine ⟨(uri, some time), hmem, ?_⟩
    simp [Option.filter, hle]

/-- The waiting of a document ends once. -/
theorem nodup_due (sv : State) (h : sv.timers.keys.Nodup) : sv.due.Nodup := by
  rw [due_eq]
  refine ((List.mergeSort_perm _ _).map Prod.fst).nodup_iff.mpr (h.sublist ?_)
  generalize sv.timers = timers
  induction timers with
  | nil => exact List.Sublist.refl _
  | cons e rest ih =>
    obtain ⟨uri, deadline⟩ := e
    rw [List.filterMap_cons]
    cases hd : (deadline.filter (· ≤ sv.clock)).map (uri, ·) with
    | none =>
      simp only [hd]
      exact ih.cons _
    | some e =>
      obtain ⟨d, -, rfl⟩ := Option.map_eq_some_iff.mp hd
      simp only [hd]
      exact ih.cons_cons _

/-- A document is due if there is a time that it waits for and the time has come. -/
theorem mem_due_iff (sv : State) (h : sv.timers.keys.Nodup) (uri : String) :
    uri ∈ sv.due ↔ ∃ time, sv.timers.get? uri = some (some time) ∧ time ≤ sv.clock := by
  rw [due_eq, List.mem_map]
  constructor
  · rintro ⟨⟨other, time⟩, hmem, rfl⟩
    exact ⟨time, (mem_ripe_iff sv h _ _).mp hmem⟩
  · rintro ⟨time, ht⟩
    exact ⟨(uri, time), (mem_ripe_iff sv h _ _).mpr ht, rfl⟩

/-! ## What a message does -/

/-- The state in which the configuration has changed and no document was validated yet. -/
def configured (sv : State) (payload : Payload) : State :=
  { sv with settings :=
      match section? payload with
      | some options => sv.settings.update options
      | none => sv.settings }

/-- The state in which the client has sent something for a path. -/
def holding (sv : State) (path : Path) (text : RawText) : State := { sv with documents := sv.documents.put path text }

/-- The state in which a document is closed. -/
def without (sv : State) (uri : String) (path : Path) : State :=
  { sv with documents := sv.documents.remove path, cache := sv.cache.remove uri, timers := sv.timers.remove uri }

/-- The state in which some time has passed and no waiting has ended yet. -/
def later (sv : State) (duration : Nat) : State := { sv with clock := sv.clock + duration }

end State

/-- The document that a message is about. -/
def Message.document? : Message → Option String
  | .opened uri _ | .changed uri _ | .saved uri | .closed uri | .validate uri _ _ | .hover uri _ _ | .actions uri _
  | .tokens uri => some uri
  | _ => none

/-- A message that only asks for something. -/
def Message.isQuestion : Message → Bool
  | .hover _ _ _ | .actions _ _ | .tokens _ | .rules => true
  | _ => false

/-- The state after a message and what is published. -/
inductive Step (sv : State) : Message → State → List (String × List Client.Notice) → Prop where
  | initialised (options : Payload) : Step sv (.initialise options) { sv with settings := sv.settings.update options } []
  | configured (payload : Payload) :
    Step sv (.configure payload) ((sv.configured payload).revalidateAll sv.cache.keys).state
      ((sv.configured payload).revalidateAll sv.cache.keys).activity.published
  | opened {uri : String} {path : Path} (hp : documentPath uri = .ok path) (text : RawText) :
    Step sv (.opened uri text) ((sv.holding path text).validate uri text false).state
      ((sv.holding path text).validate uri text false).activity.published
  | awaited {uri : String} {path : Path} (hp : documentPath uri = .ok path) (text : RawText)
    (hon : sv.settings.analyseOnChange = true) : Step sv (.changed uri text) ((sv.holding path text).await uri) []
  | changed {uri : String} {path : Path} (hp : documentPath uri = .ok path) (text : RawText)
    (hoff : sv.settings.analyseOnChange = false) : Step sv (.changed uri text) (sv.holding path text) []
  | saved (uri : String) : Step sv (.saved uri) (sv.revalidate uri).state (sv.revalidate uri).activity.published
  | closed {uri : String} {path : Path} (hp : documentPath uri = .ok path) :
    Step sv (.closed uri) (sv.without uri path) []
  | validated (uri : String) (source : RawText) (force : Bool) :
    Step sv (.validate uri source force) (sv.validate uri source force).state
      (sv.validate uri source force).activity.published
  | advanced (duration : Nat) :
    Step sv (.advance duration) ((sv.later duration).fireAll (sv.later duration).due).state
      ((sv.later duration).fireAll (sv.later duration).due).activity.published
  /-- the address leads nowhere -/
  | nowhere {m : Message} {uri : String} {e : AddressError} (hm : m.document? = some uri)
    (hp : documentPath uri = .error e) : Step sv m sv []
  | asked {m : Message} (hm : m.isQuestion = true) : Step sv m sv []

/-- A complaint about the pattern publishes nothing. -/
theorem State.published_currentPattern {sv : State} {pattern : Pattern} {complaint : Activity}
    (h : sv.currentPattern = .ok (pattern, complaint)) : complaint.published = [] := by
  unfold State.currentPattern at h
  split at h
  · cases h
    rfl
  · split at h
    · cases h
      rfl
    · cases h

/-- Every message does one of these steps. -/
theorem step_handle (sv : State) (m : Message) :
    Step sv m (sv.handle m).state (sv.handle m).activity.published := by
  cases m with
  | initialise options => exact .initialised options
  | configure payload => exact .configured payload
  | opened uri text =>
    simp only [State.handle, State.atPath]
    cases hp : documentPath uri with
    | error e => exact .nowhere rfl hp
    | ok path => exact .opened hp text
  | changed uri text =>
    simp only [State.handle, State.atPath]
    cases hp : documentPath uri with
    | error e => exact .nowhere rfl hp
    | ok path =>
      by_cases hs : sv.settings.analyseOnChange = true
      · simp only [hs, if_true]
        exact .awaited hp text hs
      · simp only [hs]
        exact .changed hp text (Bool.eq_false_iff.mpr hs)
  | saved uri => exact .saved uri
  | closed uri =>
    simp only [State.handle, State.atPath]
    cases hp : documentPath uri with
    | error e => exact .nowhere rfl hp
    | ok path => exact .closed hp
  | validate uri source force => exact .validated uri source force
  | advance duration => exact .advanced duration
  | hover uri line character =>
    simp only [State.handle]
    split
    · exact .asked rfl
    · split
      · exact .asked rfl
      · exact .asked rfl
  | actions uri notices =>
    simp only [State.handle]
    split
    · exact .asked rfl
    · exact .asked rfl
  | tokens uri => exact .asked rfl
  | rules =>
    simp only [State.handle]
    cases hc : sv.currentPattern with
    | error f => exact .asked rfl
    | ok found =>
      obtain ⟨pattern, complaint⟩ := found
      have hquiet := State.published_currentPattern hc
      show Step sv .rules sv complaint.published
      rw [hquiet]
      exact .asked rfl

namespace State

/-- There is one last analysis and one waiting for a document. -/
structure Tidy (sv : State) : Prop where
  cache : sv.cache.keys.Nodup
  timers : sv.timers.keys.Nodup

variable {sv : State}

/-- Validations are tidy. -/
theorem Tidy.validate (h : sv.Tidy) (uri : String) (source : RawText) (force : Bool) :
    (sv.validate uri source force).state.Tidy := by
  refine ⟨kept_nodup_cache.validate sv uri source force h.cache, ?_⟩
  rw [timers_validate]
  exact h.timers

/-- A waiting that begins anew takes the place of the one before. -/
theorem nodup_await (sv : State) (h : sv.timers.keys.Nodup) (uri : String) : (sv.await uri).timers.keys.Nodup := by
  have hkeys : (sv.await uri).timers.keys = (sv.timers.remove uri).keys ++ [uri] := List.map_append
  rw [hkeys]
  refine List.Nodup.append (Keyed.nodup_keys_remove h uri) (List.nodup_singleton uri) ?_
  rw [List.disjoint_singleton]
  exact (Keyed.get?_eq_none_iff _ _).mp (Keyed.get?_remove_self sv.timers uri)

/-- Every step is tidy. -/
theorem Tidy.step {m : Message} {after : State} {published : List (String × List Client.Notice)}
    (hs : Step sv m after published) (h : sv.Tidy) : after.Tidy := by
  cases hs with
  | initialised options => exact ⟨h.cache, h.timers⟩
  | configured payload =>
    refine ⟨kept_nodup_cache.revalidateAll _ (sv.configured payload) h.cache, ?_⟩
    rw [timers_revalidateAll]
    exact h.timers
  | @opened uri path hp text =>
    have hholding : (sv.holding path text).Tidy := ⟨h.cache, h.timers⟩
    exact hholding.validate uri text false
  | awaited hp text hon => exact ⟨h.cache, nodup_await (sv.holding _ text) h.timers _⟩
  | changed hp text hoff => exact ⟨h.cache, h.timers⟩
  | saved uri =>
    refine ⟨kept_nodup_cache.revalidate sv uri h.cache, ?_⟩
    rw [timers_revalidate]
    exact h.timers
  | closed hp => exact ⟨Keyed.nodup_keys_remove h.cache _, Keyed.nodup_keys_remove h.timers _⟩
  | validated uri source force => exact h.validate uri source force
  | advanced duration =>
    exact ⟨kept_nodup_cache.fireAll _ (sv.later duration) h.cache,
      nodup_timers_fireAll (sv.later duration) h.timers _⟩
  | nowhere hm hp => exact h
  | asked hm => exact h

theorem Tidy.handle (h : sv.Tidy) (m : Message) : (sv.handle m).state.Tidy := h.step (step_handle sv m)

/-- There is nothing to be tidied at the start. -/
theorem tidy_start (site : Site) : (start site).Tidy := ⟨List.nodup_nil, List.nodup_nil⟩

/-- Runs are tidy. -/
theorem Tidy.run (h : sv.Tidy) (messages : List Message) : (sv.run messages).Tidy := by
  induction messages generalizing sv with
  | nil => exact h
  | cons m later ih => exact ih (h.handle m)

/-! ## Documents that are not open -/

/-- The server has no last analysis of a document and does not wait for it. -/
structure Ignores (sv : State) (u : String) : Prop where
  entry : sv.cache.get? u = none
  timer : sv.timers.get? u = none

end State

/-- What spares a document that the server does not know leaves it unknown. -/
theorem Spares.ignores {α : Type} {u : String} {sv : State} {r : Reaction α} (h : Spares u sv r) (hi : sv.Ignores u) :
    r.state.Ignores u := ⟨h.state.entry.symm.trans hi.entry, h.state.timer.symm.trans hi.timer⟩

/-- A document that is open and whose address leads somewhere. -/
def Known (opened : List String) (u : String) : Prop := u ∈ opened ∧ ∃ path, documentPath u = .ok path

/-- A message that is about another document neither opens nor closes one. -/
theorem Message.mem_openAfter_of_ne {m : Message} {u : String} (h : m.document? ≠ some u) (opened : List String) :
    u ∈ m.openAfter opened ↔ u ∈ opened := by
  cases m with
  | opened uri text =>
    have hne : u ≠ uri := fun he => h (congrArg some he.symm)
    simp [openAfter, hne]
  | closed uri =>
    have hne : u ≠ uri := fun he => h (congrArg some he.symm)
    simp [openAfter, hne]
  | _ => exact Iff.rfl

/-- A question opens and closes nothing. -/
theorem Message.openAfter_of_isQuestion {m : Message} (h : m.isQuestion = true) (opened : List String) :
    m.openAfter opened = opened := by
  cases m with
  | opened uri text => cases h
  | closed uri => cases h
  | _ => rfl

/-- A message of an orderly client makes the server know of no document that is not open. -/
theorem Step.ignores {sv after : State} {m : Message} {published : List (String × List Client.Notice)}
    (hs : Step sv m after published) {opened : List String} (hm : m.Permitted opened) (ht : sv.Tidy)
    (h : ∀ u, ¬ Known opened u → sv.Ignores u) (u : String) (hu : ¬ Known (m.openAfter opened) u) :
    after.Ignores u := by
  cases hs with
  | initialised options => exact ⟨(h u hu).entry, (h u hu).timer⟩
  | configured payload =>
    have hi : (sv.configured payload).Ignores u := ⟨(h u hu).entry, (h u hu).timer⟩
    have habsent : u ∉ sv.cache.keys := (Keyed.get?_eq_none_iff _ _).mp (h u hu).entry
    exact (spares_revalidateAll fun hmem => absurd hmem habsent).ignores hi
  | @opened v path hp text =>
    have hne : u ≠ v := by
      rintro rfl
      exact hu ⟨List.mem_insert_self, path, hp⟩
    have hi := h u fun hk => hu ⟨List.mem_insert_of_mem hk.1, hk.2⟩
    exact (spares_validate hne (sv.holding path text) text false).ignores ⟨hi.entry, hi.timer⟩
  | @awaited v path hp text hon =>
    have hne : u ≠ v := by
      rintro rfl
      exact hu ⟨hm, path, hp⟩
    exact ⟨(h u hu).entry, (State.timer_await_other hne (sv.holding path text)).trans (h u hu).timer⟩
  | changed hp text hoff => exact ⟨(h u hu).entry, (h u hu).timer⟩
  | saved v =>
    by_cases hv : u = v
    · subst hv
      cases hp : documentPath u with
      | ok path => exact absurd ⟨hm, path, hp⟩ hu
      | error e =>
        have hrefused : sv.revalidate u = .failure (.address e) sv {} := by
          simp only [State.revalidate, State.sourceOf, hp]
          rfl
        rw [hrefused]
        exact h u hu
    · exact (spares_revalidate hv sv).ignores (h u hu)
  | @closed v path hp =>
    by_cases hv : u = v
    · subst hv
      exact ⟨Keyed.get?_remove_self _ _, Keyed.get?_remove_self _ _⟩
    · have hi := h u fun hk => hu ⟨List.mem_filter.mpr ⟨hk.1, by simpa using hv⟩, hk.2⟩
      exact ⟨(Keyed.get?_remove_other _ hv).trans hi.entry, (Keyed.get?_remove_other _ hv).trans hi.timer⟩
  | validated v source force => exact absurd hm id
  | advanced duration =>
    have habsent : u ∉ (sv.later duration).due := by
      rw [State.mem_due_iff (sv.later duration) ht.timers]
      rintro ⟨time, htime, -⟩
      have htimer : (sv.later duration).timers.get? u = none := (h u hu).timer
      rw [htimer] at htime
      cases htime
    exact (spares_fireAll habsent (sv.later duration)).ignores ⟨(h u hu).entry, (h u hu).timer⟩
  | @nowhere m v e hv hp =>
    refine h u fun hk => ?_
    by_cases hne : m.document? = some u
    · obtain ⟨-, path, hpath⟩ := hk
      rw [hv] at hne
      cases hne
      rw [hp] at hpath
      cases hpath
    · exact hu ⟨(Message.mem_openAfter_of_ne hne opened).mpr hk.1, hk.2⟩
  | asked hq =>
    rw [Message.openAfter_of_isQuestion hq] at hu
    exact h u hu

/-- With an orderly client the server knows of open documents only. -/
theorem ignores_run (site : Site) {messages : List Message} (h : Orderly messages) (u : String)
    (hu : ¬ Known (openDocuments messages) u) : ((State.start site).run messages).Ignores u := by
  induction messages using List.reverseRecOn generalizing u with
  | nil => exact ⟨rfl, rfl⟩
  | append_singleton messages m ih =>
    obtain ⟨hmessages, hm⟩ := h.of_append_singleton
    rw [openDocuments_append_singleton] at hu
    rw [State.run_append_singleton]
    exact (step_handle _ m).ignores hm ((State.tidy_start site).run messages) (ih hmessages) u hu

/-- The documents that have a last analysis are open. -/
theorem known_of_mem_keys (site : Site) {messages : List Message} (h : Orderly messages) {uri : String}
    (hmem : uri ∈ ((State.start site).run messages).cache.keys) : Known (openDocuments messages) uri := by
  by_contra hunknown
  exact (Keyed.get?_eq_none_iff _ _).mp (ignores_run site h uri hunknown).entry hmem

/-! ## What was sent for open documents -/

/-- The server has something that was sent for the path of every open document. -/
def State.Holds (sv : State) (opened : List String) : Prop :=
  ∀ u ∈ opened, ∀ path, documentPath u = .ok path → sv.documents.get? path ≠ none

section

variable {sv after : State} {opened : List String}

/-- Only a change of what was sent could make a difference to that. -/
theorem State.Holds.of_documents_eq (h : sv.Holds opened) (hs : after.documents = sv.documents) : after.Holds opened := by
  intro u hu path hp
  rw [hs]
  exact h u hu path hp

/-- What is sent for a path makes the server hold every document with that path. -/
theorem State.Holds.put (h : sv.Holds opened) {v : String} {path : Path} (hp : documentPath v = .ok path) {text : RawText}
    (hs : after.documents = sv.documents.put path text) : after.Holds (opened.insert v) := by
  intro u hu other hother
  rw [hs]
  by_cases hpath : other = path
  · subst hpath
    rw [Keyed.get?_put_self]
    exact nofun
  · rw [Keyed.get?_put_other _ hpath]
    rcases List.mem_insert_iff.mp hu with rfl | hu
    · cases hp.symm.trans hother
      exact absurd rfl hpath
    · exact h u hu other hother

/-- A message of an orderly client that keeps paths apart leaves something for every open document. -/
theorem Step.holds {m : Message} {published : List (String × List Client.Notice)} (hs : Step sv m after published)
    (hm : m.Permitted opened) (hapart : Apart opened) (h : sv.Holds opened) : after.Holds (m.openAfter opened) := by
  cases hs with
  | initialised options => exact h
  | configured payload => exact h.of_documents_eq (State.kept_rests.revalidateAll _ (sv.configured payload)).documents
  | opened hp text =>
    exact h.put hp (State.kept_rests.validate (sv.holding _ text) _ text false).documents
  | @awaited v path hp text hon =>
    have hput : ((sv.holding path text).await v).Holds (opened.insert v) := h.put hp rfl
    rwa [List.insert_of_mem hm] at hput
  | @changed v path hp text hoff =>
    have hput : (sv.holding path text).Holds (opened.insert v) := h.put hp rfl
    rwa [List.insert_of_mem hm] at hput
  | saved v => exact h.of_documents_eq (State.kept_rests.revalidate sv v).documents
  | @closed v path hp =>
    intro u hu other hother
    obtain ⟨hopen, hne⟩ := List.mem_filter.mp hu
    have hpath : other ≠ path := by
      rintro rfl
      exact of_decide_eq_true hne (hapart u hopen v hm other hother hp)
    show (sv.documents.remove path).get? other ≠ none
    rw [Keyed.get?_remove_other _ hpath]
    exact h u hopen other hother
  | validated v source force => exact absurd hm id
  | advanced duration => exact h.of_documents_eq (State.kept_rests.fireAll _ (sv.later duration)).documents
  | @nowhere m v e hv hp =>
    intro u hu path hpath
    refine h u ((Message.mem_openAfter_of_ne (m := m) ?_ opened).mp hu) path hpath
    intro hmu
    rw [hv] at hmu
    cases hmu
    rw [hp] at hpath
    cases hpath
  | asked hq =>
    rw [Message.openAfter_of_isQuestion hq]
    exact h

end

/-- With an orderly client that keeps paths apart the server has what was sent for every open document. -/
theorem holds_run (site : Site) {messages : List Message} (h : Orderly messages) (hpaths : PathsApart messages) :
    ((State.start site).run messages).Holds (openDocuments messages) := by
  induction messages using List.reverseRecOn with
  | nil =>
    intro u hu
    cases hu
  | append_singleton messages m ih =>
    obtain ⟨hmessages, hm⟩ := h.of_append_singleton
    have hbefore := hpaths.of_append
    rw [openDocuments_append_singleton, State.run_append_singleton]
    exact (step_handle _ m).holds hm hbefore.apart (ih hmessages hbefore)

/-- What was sent for a document that is open is what it holds. -/
theorem State.Holds.sourceOf {sv : State} {opened : List String} (h : sv.Holds opened) {u : String}
    (hu : Known opened u) : ∃ source, sv.sourceOf u = .ok source := by
  obtain ⟨hopen, path, hp⟩ := hu
  obtain ⟨source, hsource⟩ := Option.ne_none_iff_exists'.mp (h u hopen path hp)
  refine ⟨source, ?_⟩
  simp only [State.sourceOf, hp, Except.mapError, bind, Except.bind, hsource]
  rfl

/-! ## Texts -/

/-- What a message sends for a document is a text. -/
def Message.SendsText : Message → Prop
  | .opened _ source | .changed _ source => source.IsText
  | _ => True

instance (m : Message) : Decidable m.SendsText :=
  match m with
  | .opened _ source | .changed _ source => inferInstanceAs (Decidable source.IsText)
  | .initialise _ | .configure _ | .saved _ | .closed _ | .validate _ _ _ | .advance _ | .hover _ _ _ | .actions _ _
  | .tokens _ | .rules => .isTrue trivial

/-- All that the server holds for open documents are texts. -/
def State.HoldsTexts (sv : State) : Prop := ∀ path source, sv.documents.get? path = some source → source.IsText

section

variable {sv after : State}

theorem State.HoldsTexts.of_documents_eq (h : sv.HoldsTexts) (hs : after.documents = sv.documents) : after.HoldsTexts := by
  intro path source
  rw [hs]
  exact h path source

/-- A text may be put there. -/
theorem State.HoldsTexts.holding (h : sv.HoldsTexts) {text : RawText} (ht : text.IsText) (path : Path) :
    (sv.holding path text).HoldsTexts := by
  intro other source hs
  by_cases hpath : other = path
  · subst hpath
    have hput : (sv.holding other text).documents.get? other = some text := Keyed.get?_put_self _ _ _
    cases hput.symm.trans hs
    exact ht
  · have hput : (sv.holding path text).documents.get? other = sv.documents.get? other := Keyed.get?_put_other _ hpath _
    exact h other source (hput.symm.trans hs)

/-- A message that sends a text keeps all that is held a text. -/
theorem Step.holdsTexts {m : Message} {published : List (String × List Client.Notice)} (hs : Step sv m after published)
    (hm : m.SendsText) (h : sv.HoldsTexts) : after.HoldsTexts := by
  cases hs with
  | initialised options => exact h
  | configured payload => exact h.of_documents_eq (State.kept_rests.revalidateAll _ (sv.configured payload)).documents
  | opened hp text =>
    exact (h.holding hm _).of_documents_eq (State.kept_rests.validate (sv.holding _ text) _ text false).documents
  | awaited hp text hon => exact (h.holding hm _).of_documents_eq rfl
  | changed hp text hoff => exact h.holding hm _
  | saved v => exact h.of_documents_eq (State.kept_rests.revalidate sv v).documents
  | @closed v path hp =>
    intro other source hsource
    by_cases hpath : other = path
    · subst hpath
      have hremoved : (sv.without v other).documents.get? other = none := Keyed.get?_remove_self _ _
      cases hremoved.symm.trans hsource
    · have hremoved : (sv.without v path).documents.get? other = sv.documents.get? other :=
        Keyed.get?_remove_other _ hpath
      exact h other source (hremoved.symm.trans hsource)
  | validated v source force => exact h.of_documents_eq (State.kept_rests.validate sv v source force).documents
  | advanced duration => exact h.of_documents_eq (State.kept_rests.fireAll _ (sv.later duration)).documents
  | nowhere hv hp => exact h
  | asked hq => exact h

/-- A client that sends texts makes the server hold texts. -/
theorem holdsTexts_run (site : Site) {messages : List Message} (h : ∀ m ∈ messages, m.SendsText) :
    ((State.start site).run messages).HoldsTexts := by
  induction messages using List.reverseRecOn with
  | nil => exact nofun
  | append_singleton messages m ih =>
    rw [State.run_append_singleton]
    exact (step_handle _ m).holdsTexts (h m (by simp)) (ih fun m' hmem => h m' (List.mem_append_left [m] hmem))

/-- Where the server holds texts, what a document holds is a text. -/
theorem State.HoldsTexts.isText (h : sv.HoldsTexts) {u : String} {source : RawText} (hs : sv.sourceOf u = .ok source) :
    source.IsText := by
  unfold State.sourceOf at hs
  cases hp : documentPath u with
  | error e =>
    rw [hp] at hs
    cases hs
  | ok path =>
    rw [hp] at hs
    simp only [Except.mapError, bind, Except.bind] at hs
    split at hs
    · rename_i held hheld
      cases hs
      exact h path source hheld
    · cases hread : sv.files.readStrictly path.toText with
      | error e =>
        rw [hread] at hs
        cases hs
      | ok text =>
        rw [hread] at hs
        cases hs
        exact RawText.isText_ofText text

end

end Server

end ExprLex
