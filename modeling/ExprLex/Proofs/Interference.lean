import ExprLex.Proofs.Clients

/-!
# Documents by themselves

What the server publishes and knows for a document depends on the messages about that document and on those about none. A
document is told from others by its path: a message that names it by another address counts too, since it may change the
text. Other messages can only come between when the configuration changes while a document that was analysed earlier has no
text, because the server stops there: the text is lost, or it holds surrogates.
-/

namespace ExprLex

namespace Server

/-! ## Messages that matter for a document -/

/-- Whether a message is about a document, by whatever address, or about no document. -/
def Message.concerns (u : String) (m : Message) : Bool :=
  match m.document? with
  | some v => sameDocument u v
  | none => !m.isQuestion

section

variable {u v : String} {a b sv : State} {m : Message}

/-- What a document holds is the same under all its addresses. -/
theorem State.sourceOf_eq_of_sameDocument (h : sameDocument u v = true) (sv : State) :
    sv.sourceOf v = sv.sourceOf u := by
  rcases sameDocument_iff.mp h with rfl | ⟨path, hu, hv⟩
  · rfl
  · simp only [State.sourceOf, hu, hv]

/-- A message that is about another document does not name this one. -/
theorem Message.document?_ne_of_concerns_eq_false (h : m.concerns u = false) : m.document? ≠ some u := by
  intro hm
  rw [concerns, hm] at h
  exact (sameDocument_eq_false_iff.mp h).1 rfl

/-! ## What documents hold -/

namespace State

/-- A document holds what was sent last for its path. -/
theorem sourceOf_holding_self {path : Path} (h : documentPath u = .ok path) (sv : State) (text : RawText) :
    (sv.holding path text).sourceOf u = .ok text := by
  have hget : (sv.documents.put path text).get? path = some text := Keyed.get?_put_self _ _ _
  simp only [sourceOf, h, Except.mapError, bind, Except.bind, holding, hget]
  rfl

/-- What is sent for other paths does not matter to it. -/
theorem sourceOf_holding_other {path : Path} (h : documentPath u ≠ .ok path) (sv : State) (text : RawText) :
    (sv.holding path text).sourceOf u = sv.sourceOf u := by
  unfold sourceOf
  cases hp : documentPath u with
  | error e => rfl
  | ok other =>
    have hne : other ≠ path := fun he => h (he ▸ hp)
    simp only [Except.mapError, bind, Except.bind, holding, Keyed.get?_put_other _ hne]

/-- A document that is closed holds what its file holds. -/
theorem sourceOf_without_self {path : Path} (h : documentPath u = .ok path) (sv : State) (uri : String) :
    (sv.without uri path).sourceOf u =
      ((sv.files.readStrictly path.toText).mapError .reading).map RawText.ofText := by
  have hget : (sv.documents.remove path).get? path = none := Keyed.get?_remove_self _ _
  simp only [sourceOf, h, Except.mapError, bind, Except.bind, without, hget]
  cases sv.files.readStrictly path.toText with
  | error e => rfl
  | ok text => rfl

/-- What a document holds does not change if one with another path is closed. -/
theorem sourceOf_without_other {path : Path} (h : documentPath u ≠ .ok path) (sv : State) (uri : String) :
    (sv.without uri path).sourceOf u = sv.sourceOf u := by
  unfold sourceOf
  cases hp : documentPath u with
  | error e => rfl
  | ok other =>
    have hne : other ≠ path := fun he => h (he ▸ hp)
    simp only [Except.mapError, bind, Except.bind, without, Keyed.get?_remove_other _ hne]

end State

/-! ## Messages about other documents -/

/-- Nothing is heard for a document if all that is published is for others. -/
theorem heard_eq_nil_iff {a : Activity} : a.heard u = [] ↔ ∀ e ∈ a.published, e.1 ≠ u := by
  simp [Activity.heard, List.filter_eq_nil_iff]

/-- What a message about another document does for a document: nothing. -/
theorem Step.spares {after : State} {published : List (String × List Client.Notice)} (hs : Step sv m after published)
    (h : m.concerns u = false) : Alike u sv after ∧ ∀ e ∈ published, e.1 ≠ u := by
  have hother : ∀ v, m.document? = some v → u ≠ v ∧ ∀ path, documentPath v = .ok path → documentPath u ≠ .ok path := by
    intro v hv
    rw [Message.concerns, hv] at h
    obtain ⟨hne, hpath⟩ := sameDocument_eq_false_iff.mp h
    exact ⟨hne, fun path hp hu => hpath path hu hp⟩
  cases hs with
  | initialised options => cases h
  | configured payload => cases h
  | @opened v path hp text =>
    obtain ⟨hne, hpath⟩ := hother v rfl
    have hspared := spares_validate hne (sv.holding path text) text false
    have hholding : Alike u sv (sv.holding path text) :=
      ⟨rfl, rfl, rfl, (State.sourceOf_holding_other (hpath path hp) sv text).symm, rfl, rfl⟩
    exact ⟨hholding.trans hspared.state, heard_eq_nil_iff.mp hspared.heard⟩
  | @awaited v path hp text hon =>
    obtain ⟨hne, hpath⟩ := hother v rfl
    exact ⟨⟨rfl, rfl, rfl, (State.sourceOf_holding_other (hpath path hp) sv text).symm, rfl,
      (State.timer_await_other hne (sv.holding path text)).symm⟩, nofun⟩
  | @changed v path hp text hoff =>
    obtain ⟨hne, hpath⟩ := hother v rfl
    exact ⟨⟨rfl, rfl, rfl, (State.sourceOf_holding_other (hpath path hp) sv text).symm, rfl, rfl⟩, nofun⟩
  | saved v =>
    have hspared := spares_revalidate (hother v rfl).1 sv
    exact ⟨hspared.state, heard_eq_nil_iff.mp hspared.heard⟩
  | @closed v path hp =>
    obtain ⟨hne, hpath⟩ := hother v rfl
    exact ⟨⟨rfl, rfl, rfl, (State.sourceOf_without_other (hpath path hp) sv v).symm,
      (Keyed.get?_remove_other _ hne).symm, (Keyed.get?_remove_other _ hne).symm⟩, nofun⟩
  | validated v source force =>
    have hspared := spares_validate (hother v rfl).1 sv source force
    exact ⟨hspared.state, heard_eq_nil_iff.mp hspared.heard⟩
  | advanced duration => cases h
  | nowhere hm hp => exact ⟨.refl u sv, nofun⟩
  | asked hq => exact ⟨.refl u sv, nofun⟩

/-- So a message about another document spares this one. -/
theorem spares_handle (h : m.concerns u = false) (sv : State) : Spares u sv (sv.handle m) := by
  obtain ⟨hstate, hpublished⟩ := (step_handle sv m).spares h
  exact ⟨hstate, heard_eq_nil_iff.mpr hpublished⟩

/-! ## The same message to two servers -/

/-- Removing a key leaves the same under every key, where it was the same before. -/
theorem get?_remove_congr {α : Type} {m n : Keyed String α} (h : m.get? u = n.get? u) (v : String) :
    (m.remove v).get? u = (n.remove v).get? u := by
  by_cases hv : u = v
  · subst hv
    rw [Keyed.get?_remove_self, Keyed.get?_remove_self]
  · rw [Keyed.get?_remove_other _ hv, Keyed.get?_remove_other _ hv, h]

theorem Alike.configured (h : Alike u a b) (payload : Payload) : Alike u (a.configured payload) (b.configured payload) := by
  refine ⟨?_, h.site, h.clock, h.source, h.entry, h.timer⟩
  simp only [State.configured, h.settings]

/-- The same is known of a document after the same was sent for a path. -/
theorem Alike.holding (h : Alike u a b) (path : Path) (text : RawText) :
    Alike u (a.holding path text) (b.holding path text) := by
  refine ⟨h.settings, h.site, h.clock, ?_, h.entry, h.timer⟩
  rcases Classical.em (documentPath u = .ok path) with hp | hp
  · rw [State.sourceOf_holding_self hp, State.sourceOf_holding_self hp]
  · rw [State.sourceOf_holding_other hp, State.sourceOf_holding_other hp, h.source]

theorem Alike.without (h : Alike u a b) (v : String) (path : Path) : Alike u (a.without v path) (b.without v path) := by
  refine ⟨h.settings, h.site, h.clock, ?_, get?_remove_congr h.entry v, get?_remove_congr h.timer v⟩
  rcases Classical.em (documentPath u = .ok path) with hp | hp
  · rw [State.sourceOf_without_self hp, State.sourceOf_without_self hp, congrArg Site.files h.site]
  · rw [State.sourceOf_without_other hp, State.sourceOf_without_other hp, h.source]

/-- The same is known of a document after the same one began to wait. -/
theorem Alike.await (h : Alike u a b) (v : String) : Alike u (a.await v) (b.await v) := by
  refine ⟨h.settings, h.site, h.clock, h.source, h.entry, ?_⟩
  by_cases hv : u = v
  · subst hv
    rw [State.timer_await_self, State.timer_await_self, h.clock]
  · rw [State.timer_await_other hv, State.timer_await_other hv, h.timer]

/-- The same is known of a document after the same text was sent as a change, since both servers wait or neither does. -/
theorem Alike.changed (h : Alike u a b) (v : String) (path : Path) (text : RawText) :
    Alike u (if a.settings.analyseOnChange then (a.holding path text).await v else a.holding path text)
      (if b.settings.analyseOnChange then (b.holding path text).await v else b.holding path text) := by
  rw [h.settings]
  split
  · exact (h.holding path text).await v
  · exact h.holding path text

theorem Alike.later (h : Alike u a b) (duration : Nat) : Alike u (a.later duration) (b.later duration) := by
  refine ⟨h.settings, h.site, ?_, h.source, h.entry, h.timer⟩
  simp only [State.later, h.clock]

/-- What is the same in two reactions to a message, looked at for a document: what the server knows of it afterwards, what it
publishes for it, and the answer, if the message is about the document by its own address. -/
structure Agree (u : String) (m : Message) {α : Type} (r r' : Reaction α) : Prop where
  state : Alike u r.state r'.state
  heard : r.activity.heard u = r'.activity.heard u
  answer : m.document? = some u → r.result = r'.result

/-- What is the same for a document agrees for every message. -/
theorem SameFor.agree {α : Type} {r r' : Reaction α} (h : SameFor u r r') (m : Message) : Agree u m r r' :=
  ⟨h.state, h.heard, fun _ => h.result⟩

/-- Two reactions that spare a document agree for messages about others. -/
theorem Spares.agree {α : Type} {r r' : Reaction α} (h : Alike u a b) (hr : Spares u a r) (hr' : Spares u b r')
    (hm : m.document? ≠ some u) : Agree u m r r' :=
  ⟨hr.state.symm.trans (h.trans hr'.state), hr.heard.trans hr'.heard.symm, fun he => absurd he hm⟩

/-- What is made of the results does not matter. -/
theorem Agree.map {α β : Type} {r r' : Reaction α} (h : Agree u m r r') (f : α → β) :
    Agree u m { r with result := r.result.map f } { r' with result := r'.result.map f } :=
  ⟨h.state, h.heard, fun hm => congrArg (Except.map f) (h.answer hm)⟩

/-- Validations agree, whichever document they are of. -/
theorem Alike.agree_validate (h : Alike u a b) (hm : m.document? = some v) (source : RawText) (force : Bool) :
    Agree u m (a.validate v source force) (b.validate v source force) := by
  by_cases hv : u = v
  · subst hv
    exact (h.validate source force).agree m
  · refine Spares.agree h (spares_validate hv a source force) (spares_validate hv b source force) ?_
    rw [hm]
    exact fun he => hv (Option.some.inj he).symm

/-- Validations of documents as they are agree, whichever document it is. -/
theorem Alike.agree_revalidate (h : Alike u a b) (hm : m.document? = some v) :
    Agree u m (a.revalidate v) (b.revalidate v) := by
  by_cases hv : u = v
  · subst hv
    exact h.revalidate.agree m
  · refine Spares.agree h (spares_revalidate hv a) (spares_revalidate hv b) ?_
    rw [hm]
    exact fun he => hv (Option.some.inj he).symm

/-- Waitings that end agree, since a document is due in both states or in neither. -/
theorem Alike.agree_fireAll (h : Alike u a b) (ht : a.Tidy) (ht' : b.Tidy) (hm : m.document? ≠ some u) :
    Agree u m (a.fireAll a.due) (b.fireAll b.due) := by
  have hdue : u ∈ a.due ↔ u ∈ b.due := by
    rw [a.mem_due_iff ht.timers, b.mem_due_iff ht'.timers, h.timer, h.clock]
  by_cases hu : u ∈ a.due
  · have hsame := fireAll_of_mem (a.nodup_due ht.timers) hu a
    have hsame' := fireAll_of_mem (b.nodup_due ht'.timers) (hdue.mp hu) b
    exact (hsame.symm.trans (h.fire.trans hsame')).agree m
  · exact Spares.agree h (spares_fireAll hu a) (spares_fireAll (mt hdue.mpr hu) b) hm

/-- The other documents that a loop over the last analyses comes to before a document have texts. -/
def State.ReadsBefore (sv : State) (u : String) : Prop :=
  ∀ v ∈ sv.cache.keys.takeWhile (· ≠ u), sameDocument u v = false → ∃ text, sv.sourceOf v = .ok (RawText.ofText text)

/-- Such a loop comes to the document, if that has a text and a last analysis itself. -/
theorem State.ReadsBefore.revalidateAll (h : sv.ReadsBefore u) (ht : sv.Tidy) (hs : sv.Sound)
    (hu : u ∈ sv.cache.keys) {text : Text} (htext : sv.textOf u = .ok text) :
    Alike u (sv.revalidate u).state (sv.revalidateAll sv.cache.keys).state ∧
      (sv.revalidate u).activity.heard u = (sv.revalidateAll sv.cache.keys).activity.heard u := by
  obtain ⟨_, -, hencodes⟩ := State.textOf_eq_ok_iff.mp htext
  refine revalidateAll_of_mem ht.cache hu hs fun v hv => ?_
  cases hsame : sameDocument u v with
  | true =>
    refine ⟨text, State.textOf_eq_ok_iff.mpr ⟨_, ?_, State.encodes_ofText hencodes.key text⟩⟩
    rw [State.sourceOf_eq_of_sameDocument hsame, State.sourceOf_of_textOf_eq_ok htext]
  | false =>
    obtain ⟨other, hother⟩ := h v hv hsame
    exact ⟨other, State.textOf_eq_ok_iff.mpr ⟨_, hother, State.encodes_ofText hencodes.key other⟩⟩

/-- Loops over the last analyses agree, provided that they come to the document. -/
theorem Alike.agree_revalidateAll (h : Alike u a b) (ht : a.Tidy) (ht' : b.Tidy) (hs : a.Sound) (hs' : b.Sound)
    (hread : u ∈ a.cache.keys → a.ReadsBefore u) (hread' : u ∈ b.cache.keys → b.ReadsBefore u)
    (hm : m.document? ≠ some u) : Agree u m (a.revalidateAll a.cache.keys) (b.revalidateAll b.cache.keys) := by
  have hkeys : u ∈ a.cache.keys ↔ u ∈ b.cache.keys := by
    rw [← not_iff_not, ← Keyed.get?_eq_none_iff, ← Keyed.get?_eq_none_iff, h.entry]
  cases htext : a.textOf u with
  | error f =>
    exact Spares.agree h (spares_revalidateAll fun _ => ⟨f, htext⟩)
      (spares_revalidateAll fun _ => ⟨f, h.text.symm.trans htext⟩) hm
  | ok text =>
    by_cases hu : u ∈ a.cache.keys
    · obtain ⟨hstate, hheard⟩ := (hread hu).revalidateAll ht hs hu htext
      obtain ⟨hstate', hheard'⟩ := (hread' (hkeys.mp hu)).revalidateAll ht' hs' (hkeys.mp hu) (h.text.symm.trans htext)
      have hsame := h.revalidate
      exact ⟨hstate.symm.trans (hsame.state.trans hstate'), hheard.symm.trans (hsame.heard.trans hheard'),
        fun he => absurd he hm⟩
    · exact Spares.agree h (spares_revalidateAll fun hmem => absurd hmem hu)
        (spares_revalidateAll fun hmem => absurd hmem (mt hkeys.mpr hu)) hm

/-- A question changes nothing and publishes nothing. -/
theorem Step.of_isQuestion {after : State} {published : List (String × List Client.Notice)}
    (hs : Step sv m after published) (hq : m.isQuestion = true) : after = sv ∧ published = [] := by
  cases hs with
  | nowhere _ _ | asked _ => exact ⟨rfl, rfl⟩
  | _ => cases hq

/-- Questions agree if their answers do. -/
theorem Alike.agree_question (h : Alike u a b) (hq : m.isQuestion = true)
    (hanswer : m.document? = some u → (a.handle m).result = (b.handle m).result) :
    Agree u m (a.handle m) (b.handle m) := by
  obtain ⟨hstate, hpublished⟩ := (step_handle a m).of_isQuestion hq
  obtain ⟨hstate', hpublished'⟩ := (step_handle b m).of_isQuestion hq
  refine ⟨?_, ?_, hanswer⟩
  · rw [hstate, hstate']
    exact h
  · rw [Activity.heard_of_nil hpublished, Activity.heard_of_nil hpublished']

/-- Two servers that know the same of a document do the same for it when they get the same message; when the configuration
changes, provided that they come to it. -/
theorem Alike.agree_handle (h : Alike u a b) (ht : a.Tidy) (ht' : b.Tidy) (hs : a.Sound) (hs' : b.Sound) (m : Message)
    (hread : ∀ payload, m = .configure payload →
      (u ∈ a.cache.keys → a.ReadsBefore u) ∧ (u ∈ b.cache.keys → b.ReadsBefore u)) :
    Agree u m (a.handle m) (b.handle m) := by
  cases m with
  | initialise options =>
    refine ⟨⟨?_, h.site, h.clock, h.source, h.entry, h.timer⟩, rfl, fun hq => by cases hq⟩
    simp only [State.handle, Reaction.answer, h.settings]
  | configure payload =>
    obtain ⟨hothers, hothers'⟩ := hread payload rfl
    have hagree := (h.configured payload).agree_revalidateAll (m := .configure payload) ⟨ht.cache, ht.timers⟩
      ⟨ht'.cache, ht'.timers⟩ hs hs' hothers hothers' (fun hq => by cases hq)
    exact ⟨hagree.state, hagree.heard, fun hq => by cases hq⟩
  | opened v text =>
    simp only [State.handle, State.atPath]
    cases documentPath v with
    | error e => exact ⟨h, rfl, fun _ => rfl⟩
    | ok path => exact ((h.holding path text).agree_validate rfl text false).map _
  | changed v text =>
    simp only [State.handle, State.atPath]
    cases documentPath v with
    | error e => exact ⟨h, rfl, fun _ => rfl⟩
    | ok path => exact ⟨h.changed v path text, rfl, fun _ => rfl⟩
  | saved v => exact (h.agree_revalidate rfl).map _
  | closed v =>
    simp only [State.handle, State.atPath]
    cases documentPath v with
    | error e => exact ⟨h, rfl, fun _ => rfl⟩
    | ok path => exact ⟨h.without v path, rfl, fun _ => rfl⟩
  | validate v source force => exact (h.agree_validate rfl source force).map _
  | advance duration =>
    have hagree := (h.later duration).agree_fireAll (m := .advance duration) ⟨ht.cache, ht.timers⟩ ⟨ht'.cache, ht'.timers⟩
      (fun hq => by cases hq)
    exact ⟨hagree.state, hagree.heard, fun hq => by cases hq⟩
  | hover v line character =>
    refine h.agree_question rfl fun hv => ?_
    cases hv
    simp only [State.handle]
    cases Client.Position.make line character with
    | error e => rfl
    | ok asked =>
      simp only [h.entry]
      cases b.cache.get? u with
      | none => rfl
      | some entry => rfl
  | actions v notices =>
    refine h.agree_question rfl fun hv => ?_
    cases hv
    simp only [State.handle, h.source]
    cases b.sourceOf u with
    | error f => rfl
    | ok source => rfl
  | tokens v =>
    refine h.agree_question rfl fun hv => ?_
    cases hv
    simp only [State.handle, h.entry]
    rfl
  | rules => exact h.agree_question rfl (fun hv => by cases hv)

end

/-! ## Runs -/

/-- What a client sees that looks at one document only. -/
inductive Sight where
  | notices (ns : List Client.Notice)
  | answer (a : Except Failure Answer)

namespace State

/-- What is seen of one message: the notices that are published for the document, and the answer, if the message is about the
document by its own address. -/
def sights (sv : State) (u : String) (m : Message) : List Sight :=
  ((sv.handle m).activity.heard u).map .notices ++ if m.document? = some u then [.answer (sv.handle m).result] else []

/-- What is seen of a run, in order. -/
def transcript (sv : State) (u : String) : List Message → List Sight
  | [] => []
  | m :: later => sv.sights u m ++ (sv.handle m).state.transcript u later

/-- Whenever the configuration changes in a run and a document has a last analysis, the other documents that the server comes
to before it have texts. -/
def Unbroken (sv : State) (u : String) (messages : List Message) : Prop :=
  ∀ before payload after, messages = before ++ .configure payload :: after →
    u ∈ (sv.run before).cache.keys → (sv.run before).ReadsBefore u

end State

section

variable {u : String} {a b sv : State} {m : Message} {messages : List Message}

/-- What is seen of two runs, one after the other. -/
theorem transcript_append (sv : State) (u : String) (messages later : List Message) :
    sv.transcript u (messages ++ later) = sv.transcript u messages ++ (sv.run messages).transcript u later := by
  induction messages generalizing sv with
  | nil => rfl
  | cons m messages ih =>
    show sv.sights u m ++ (sv.handle m).state.transcript u (messages ++ later) = _
    rw [ih, ← List.append_assoc]
    rfl

/-- A run that goes on unbroken is so behind its first half. -/
theorem State.Unbroken.of_append {later : List Message} (h : sv.Unbroken u (messages ++ later)) :
    (sv.run messages).Unbroken u later := by
  rintro before payload after rfl
  rw [← State.run_append]
  exact h (messages ++ before) payload after (List.append_assoc _ _ _).symm

theorem State.Unbroken.of_cons (h : sv.Unbroken u (m :: messages)) : (sv.handle m).state.Unbroken u messages := by
  rintro before payload after rfl
  exact h (m :: before) payload after rfl

/-- Where reactions agree, the same is seen of them. -/
theorem Agree.sights_eq (h : Agree u m (a.handle m) (b.handle m)) : a.sights u m = b.sights u m := by
  unfold State.sights
  rw [h.heard]
  split
  next hm => rw [h.answer hm]
  next => rfl

/-- Nothing is seen of a message about another document. -/
theorem sights_eq_nil (h : m.concerns u = false) (sv : State) : sv.sights u m = [] := by
  rw [State.sights, (spares_handle h sv).heard, if_neg (Message.document?_ne_of_concerns_eq_false h)]
  rfl

/-- Messages about other documents are not seen. -/
theorem transcript_of_concerns_eq_false (h : ∀ m ∈ messages, m.concerns u = false) (sv : State) :
    sv.transcript u messages = [] ∧ Alike u sv (sv.run messages) := by
  induction messages generalizing sv with
  | nil => exact ⟨rfl, .refl u sv⟩
  | cons m later ih =>
    have hm := h m List.mem_cons_self
    obtain ⟨hlater, halike⟩ := ih (fun m' hmem => h m' (List.mem_cons_of_mem m hmem)) (sv.handle m).state
    refine ⟨?_, (spares_handle hm sv).state.trans halike⟩
    rw [State.transcript, sights_eq_nil hm, hlater]
    rfl

/-- From states that know the same of a document, runs with the same messages for it show the same, whatever lies between
them. -/
theorem transcript_congr (h : Alike u a b) (ht : a.Tidy) (ht' : b.Tidy) (hs : a.Sound) (hs' : b.Sound)
    {messages' : List Message} (hsame : messages.filter (·.concerns u) = messages'.filter (·.concerns u))
    (hread : a.Unbroken u messages) (hread' : b.Unbroken u messages') :
    a.transcript u messages = b.transcript u messages' ∧ Alike u (a.run messages) (b.run messages') := by
  induction messages generalizing a b messages' with
  | nil =>
    have hquiet : ∀ m ∈ messages', m.concerns u = false := by
      intro m hmem
      have hnone := List.filter_eq_nil_iff.mp hsame.symm m hmem
      simpa using hnone
    obtain ⟨htranscript, halike⟩ := transcript_of_concerns_eq_false hquiet b
    exact ⟨htranscript.symm, h.trans halike⟩
  | cons m later ih =>
    cases hm : m.concerns u with
    | false =>
      rw [List.filter_cons_of_neg (by simp [hm])] at hsame
      obtain ⟨htranscript, halike⟩ := ih ((spares_handle hm a).state.symm.trans h) (ht.handle m) ht' (hs.handle m) hs'
        hsame hread.of_cons hread'
      refine ⟨?_, halike⟩
      rw [State.transcript, sights_eq_nil hm, htranscript]
      rfl
    | true =>
      -- The other run comes to the same message too, after some that are about other documents.
      rw [List.filter_cons_of_pos hm] at hsame
      obtain ⟨skipped, later', rfl, hskipped, -, hrest⟩ := List.filter_eq_cons_iff.mp hsame.symm
      obtain ⟨hquiet, hskip⟩ := transcript_of_concerns_eq_false (fun m' hmem => by simpa using hskipped m' hmem) b
      have hbehind : (b.run skipped).Unbroken u (m :: later') := hread'.of_append
      have hagree := (h.trans hskip).agree_handle ht (ht'.run skipped) hs (hs'.run skipped) m fun payload hp =>
        ⟨hread [] payload later (by rw [hp]; rfl), hbehind [] payload later' (by rw [hp]; rfl)⟩
      obtain ⟨htranscript, halike⟩ := ih hagree.state (ht.handle m) ((ht'.run skipped).handle m) (hs.handle m)
        ((hs'.run skipped).handle m) hrest.symm hread.of_cons hbehind.of_cons
      rw [transcript_append, hquiet, State.run_append]
      refine ⟨?_, halike⟩
      rw [State.transcript, State.transcript, hagree.sights_eq, htranscript]
      rfl

end

/-- Documents do not interfere. Two runs in which the same messages are about a document, by whatever address of it, or about
no document, show the same of that document and leave the same behind, whatever other messages there are; provided that
neither of them changes the configuration while another document, to which the server comes before, has no text. -/
theorem documents_do_not_interfere (site : Site) (u : String) {messages messages' : List Message}
    (hsame : messages.filter (·.concerns u) = messages'.filter (·.concerns u))
    (h : (State.start site).Unbroken u messages) (h' : (State.start site).Unbroken u messages') :
    (State.start site).transcript u messages = (State.start site).transcript u messages' ∧
      ((State.start site).run messages).cache.get? u = ((State.start site).run messages').cache.get? u ∧
      ((State.start site).run messages).timers.get? u = ((State.start site).run messages').timers.get? u := by
  have htidy := State.tidy_start site
  have hsound := State.sound_start site
  obtain ⟨htranscript, halike⟩ := transcript_congr (.refl u _) htidy htidy hsound hsound hsame h h'
  exact ⟨htranscript, halike.entry, halike.timer⟩

/-- An orderly client that keeps paths apart and sends nothing but texts never changes the configuration while a document has
no text. -/
theorem unbroken_of_pathsApart (site : Site) {messages : List Message} (h : Orderly messages)
    (hpaths : PathsApart messages) (htexts : ∀ m ∈ messages, m.SendsText) (u : String) :
    (State.start site).Unbroken u messages := by
  rintro before payload after rfl - v hv -
  have hknown := known_of_mem_keys site h.of_append ((List.takeWhile_prefix _).subset hv)
  obtain ⟨source, hsource⟩ := (holds_run site h.of_append hpaths.of_append).sourceOf hknown
  obtain ⟨text, rfl⟩ := (holdsTexts_run site fun m hm => htexts m (List.mem_append_left _ hm)).isText hsource
  exact ⟨text, hsource⟩

/-- The client opens a document and saves it when the configuration has changed. -/
def savedAfterConfiguration : List Message :=
  [.opened "file:///zq/A.expr" "1".toList,
    .configure (.record [("mathlex".toList, .record [("strict".toList, .flag true)])]), .saved "file:///zq/A.expr"]

/-- The same with another document open meanwhile. -/
def savedBesideAnother : List Message :=
  [.opened "file:///zq/A.expr" "1".toList, .opened "file:///zq/B.expr" "$".toList,
    .configure (.record [("mathlex".toList, .record [("strict".toList, .flag true)])]),
    .changed "file:///zq/B.expr" "(".toList, .saved "file:///zq/A.expr", .closed "file:///zq/B.expr"]

/-- Another document is opened, changed and closed, and nothing of it is seen. -/
theorem documents_do_not_interfere_beside_another :
    (State.start {}).transcript "file:///zq/A.expr" savedAfterConfiguration =
      (State.start {}).transcript "file:///zq/A.expr" savedBesideAnother := by
  have hself : sameDocument "file:///zq/A.expr" "file:///zq/A.expr" = true := by decide +kernel
  have hother : sameDocument "file:///zq/A.expr" "file:///zq/B.expr" = false := by decide +kernel
  have hsame : savedAfterConfiguration.filter (·.concerns "file:///zq/A.expr") =
      savedBesideAnother.filter (·.concerns "file:///zq/A.expr") := by
    simp [savedAfterConfiguration, savedBesideAnother, Message.concerns, Message.document?, Message.isQuestion, hself, hother]
  have hapart : PathsApart savedAfterConfiguration := by decide +kernel
  have hapart' : PathsApart savedBesideAnother := by decide +kernel
  exact (documents_do_not_interfere _ _ hsame (unbroken_of_pathsApart _ (by decide) hapart (by decide +kernel) _)
    (unbroken_of_pathsApart _ (by decide) hapart' (by decide +kernel) _)).1

/-- Whether a message is about a document, by its own address, or about no document. -/
def Message.names (u : String) (m : Message) : Bool :=
  match m.document? with
  | some v => v == u
  | none => !m.isQuestion

/-- Two runs with orderly clients show different things of a document, though the same messages are about it, by its own
address, or about no document. -/
structure Differ (u : String) (messages messages' : List Message) : Prop where
  orderly : Orderly messages
  orderly' : Orderly messages'
  same : messages.filter (·.names u) = messages'.filter (·.names u)
  transcript_ne : (State.start {}).transcript u messages ≠ (State.start {}).transcript u messages'

/-- A document is opened and saved. -/
def savedAlone : List Message := [.opened "file:///zq/A.expr" "1".toList, .saved "file:///zq/A.expr"]

/-- The same with a document opened meanwhile whose address is another one with the same path. -/
def savedUnderBoth : List Message :=
  [.opened "file:///zq/A.expr" "1".toList, .opened "file:///zq/%41.expr" "$".toList, .saved "file:///zq/A.expr"]

/-- A document is opened, and the configuration changes. -/
def configuredAlone : List Message := [.opened "file:///zq/A.expr" "1".toList, .configure .null]

/-- The same behind another document, which loses its text when it is closed under another address. -/
def configuredBehindLost : List Message :=
  [.opened "file:///zq/B.expr" "1".toList, .opened "file:///zq/%42.expr" "1".toList,
    .opened "file:///zq/A.expr" "1".toList, .closed "file:///zq/%42.expr", .configure .null]

/-- The same behind another document, which is changed to what is no text. -/
def configuredBehindSurrogate : List Message :=
  [.opened "file:///zq/B.expr" "1".toList, .opened "file:///zq/A.expr" "1".toList,
    .changed "file:///zq/B.expr" [.surrogate ⟨0xD800, by decide⟩], .configure .null]

/-- How many notices are seen. -/
def Sight.size : Sight → Nat
  | .notices ns => ns.length
  | .answer _ => 0

/-- A message that names another address may show for a document, and so may one about another document that makes a change
of the configuration stop before it. -/
theorem differ_under_both_and_behind_textless :
    Differ "file:///zq/A.expr" savedAlone savedUnderBoth ∧
      Differ "file:///zq/A.expr" configuredAlone configuredBehindLost ∧
      Differ "file:///zq/A.expr" configuredAlone configuredBehindSurrogate := by
  have hconfigured : ((State.start {}).transcript "file:///zq/A.expr" configuredAlone).length = 3 := by decide +kernel
  refine ⟨⟨by decide, by decide, rfl, fun hsame => ?_⟩, ⟨by decide, by decide, rfl, fun hsame => ?_⟩,
    ⟨by decide, by decide, rfl, fun hsame => ?_⟩⟩
  · have halone : ((State.start {}).transcript "file:///zq/A.expr" savedAlone).map Sight.size = [0, 0, 0, 0] := by
      decide +kernel
    have hboth : ((State.start {}).transcript "file:///zq/A.expr" savedUnderBoth).map Sight.size = [0, 0, 1, 0] := by
      decide +kernel
    rw [hsame, hboth] at halone
    cases halone
  · have hbehind : ((State.start {}).transcript "file:///zq/A.expr" configuredBehindLost).length = 2 := by decide +kernel
    rw [hsame, hbehind] at hconfigured
    cases hconfigured
  · have hbehind : ((State.start {}).transcript "file:///zq/A.expr" configuredBehindSurrogate).length = 2 := by
      decide +kernel
    rw [hsame, hbehind] at hconfigured
    cases hconfigured

end Server

end ExprLex
