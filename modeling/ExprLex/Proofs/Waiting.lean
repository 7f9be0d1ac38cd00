import ExprLex.Proofs.Clients

/-!
# Waiting after a change

If changes are analysed, a document that was changed waits for its validation, and a later change makes the waiting start
anew. So the documents that wait are those whose last such change is not yet long enough ago and that were not closed since,
and each of them is validated once, by the text that it has when its waiting is over. The one thing that can go wrong is that
it has no text then, because that is lost or because it cannot be encoded; its waiting stays on the list without an end.
-/

namespace ExprLex

namespace Server

/-! ## What a message does to a waiting -/

/-- How much time passes by a message. -/
def Message.duration : Message → Nat
  | .advance duration => duration
  | _ => 0

namespace State

/-- A change that makes a document wait until some time. -/
def Calls (sv : State) (uri : String) (time : Nat) : Message → Prop
  | .changed u _ => u = uri ∧ (∃ path, documentPath uri = .ok path) ∧ sv.settings.analyseOnChange = true ∧
      sv.clock + changeDelay = time
  | _ => False

/-- A message that ends the waiting of a document before its time, to begin another one or for good. -/
def Resets (sv : State) (uri : String) : Message → Prop
  | .changed u _ => u = uri ∧ (∃ path, documentPath uri = .ok path) ∧ sv.settings.analyseOnChange = true
  | .closed u => u = uri ∧ ∃ path, documentPath uri = .ok path
  | _ => False

/-- A change that calls for a validation ends the waiting before. -/
theorem Calls.resets {sv : State} {uri : String} {time : Nat} {m : Message} (h : sv.Calls uri time m) :
    sv.Resets uri m := by
  cases m with
  | changed u text => exact ⟨h.1, h.2.1, h.2.2.1⟩
  | _ => exact h.elim

/-- No time passes by a message that ends a waiting before its time. -/
theorem Resets.duration_eq {sv : State} {uri : String} {m : Message} (h : sv.Resets uri m) : m.duration = 0 := by
  cases m with
  | advance duration => exact h.elim
  | _ => rfl

theorem Calls.time_eq {sv : State} {uri : String} {time : Nat} {m : Message} (h : sv.Calls uri time m) :
    time = sv.clock + changeDelay := by
  cases m with
  | changed u text => exact h.2.2.2.symm
  | _ => exact h.elim

end State

section

variable {sv after : State} {m : Message} {published : List (String × List Client.Notice)}

/-- The time goes on by as much as passes, whatever else a message does. -/
theorem Step.clock (hs : Step sv m after published) : after.clock = sv.clock + m.duration := by
  cases hs with
  | configured payload => exact (State.kept_rests.revalidateAll _ (sv.configured payload)).clock
  | opened hp text => exact (State.kept_rests.validate (sv.holding _ text) _ text false).clock
  | saved uri => exact (State.kept_rests.revalidate sv uri).clock
  | validated uri source force => exact (State.kept_rests.validate sv uri source force).clock
  | advanced duration => exact (State.kept_rests.fireAll _ (sv.later duration)).clock
  | initialised _ | awaited _ _ _ | changed _ _ _ | closed _ => rfl
  | @nowhere m uri e hm hp =>
    cases m with
    | advance duration => cases hm
    | _ => rfl
  | asked hq =>
    cases m with
    | advance duration => cases hq
    | _ => rfl

/-- What a message does to the waiting of a document. -/
inductive Timing (uri : String) (sv : State) (m : Message) : Option (Option Nat) → Prop where
  /-- it begins, or begins anew -/
  | begins (h : sv.Calls uri (sv.clock + changeDelay) m) : Timing uri sv m (some (some (sv.clock + changeDelay)))
  /-- it ends with the document -/
  | closes (h : m = .closed uri) (hr : sv.Resets uri m) : Timing uri sv m none
  /-- its time is over, and the document has a text -/
  | ends {duration time : Nat} (hm : m = .advance duration) (h : sv.timers.get? uri = some (some time))
    (hover : time ≤ sv.clock + duration) {text : Text} (ht : sv.textOf uri = .ok text) : Timing uri sv m none
  /-- its time is over, and the document has no text -/
  | fails {duration time : Nat} (hm : m = .advance duration) (h : sv.timers.get? uri = some (some time))
    (hover : time ≤ sv.clock + duration) {f : Failure} (ht : sv.textOf uri = .error f) : Timing uri sv m (some none)
  /-- it goes on, or there is none -/
  | stays (hr : ¬ sv.Resets uri m) (h : ∀ time, sv.timers.get? uri = some (some time) → sv.clock < time →
      sv.clock + m.duration < time) : Timing uri sv m (sv.timers.get? uri)

/-- Where no time passes and nothing touches the waiting it goes on. -/
theorem Timing.of_eq {uri : String} (hr : ¬ sv.Resets uri m) (hd : m.duration = 0)
    (h : after.timers.get? uri = sv.timers.get? uri) : Timing uri sv m (after.timers.get? uri) := by
  rw [h]
  refine .stays hr fun time _ hlater => ?_
  rwa [hd]

/-- A message that is about an address which leads nowhere resets nothing. -/
theorem State.not_resets_of_documentPath_eq_error {uri v : String} {e : AddressError} (hm : m.document? = some v)
    (hp : documentPath v = .error e) : ¬ sv.Resets uri m := by
  intro hr
  cases m with
  | changed u text =>
    obtain ⟨rfl, ⟨path, hpath⟩, -⟩ := hr
    cases hm
    cases hp.symm.trans hpath
  | closed u =>
    obtain ⟨rfl, path, hpath⟩ := hr
    cases hm
    cases hp.symm.trans hpath
  | _ => exact hr

/-- When some time passes, a waiting whose time is over ends if the document has a text, and fails if it has none; any other
goes on. -/
theorem State.Sound.timing_advanced (h : sv.Sound) (ht : sv.Tidy) (duration : Nat) (uri : String) :
    Timing uri sv (.advance duration)
      (((sv.later duration).fireAll (sv.later duration).due).state.timers.get? uri) := by
  by_cases hdue : uri ∈ (sv.later duration).due
  · obtain ⟨time, htime, hover⟩ := ((sv.later duration).mem_due_iff ht.timers uri).mp hdue
    -- the loop comes to a document once, so it does what one validation of the document does
    rw [← (fireAll_of_mem ((sv.later duration).nodup_due ht.timers) hdue _).state.timer, State.state_fire,
      State.timers_withTimers, get?_timersAfter_self]
    have hlater : (sv.later duration).Sound := h
    rcases hlater.revalidate uri with ⟨text, notices, htext, hr, -⟩ | ⟨f, htext, hr, -⟩
    · rw [hr]
      exact .ends rfl htime hover htext
    · rw [hr]
      exact .fails rfl htime hover htext
  · rw [← (spares_fireAll hdue (sv.later duration)).state.timer]
    refine .stays id fun time htime _ => ?_
    by_contra hover
    exact hdue (((sv.later duration).mem_due_iff ht.timers uri).mpr ⟨time, htime, Nat.le_of_not_lt hover⟩)

/-- What every message does to the waiting of a document. -/
theorem Step.timing (hs : Step sv m after published) (ht : sv.Tidy) (h : sv.Sound) (uri : String) :
    Timing uri sv m (after.timers.get? uri) := by
  cases hs with
  | initialised options => exact .of_eq id rfl rfl
  | configured payload => exact .of_eq id rfl (by rw [State.timers_revalidateAll]; rfl)
  | opened hp text => exact .of_eq id rfl (by rw [State.timers_validate]; rfl)
  | @awaited v path hp text hon =>
    by_cases hv : v = uri
    · subst hv
      rw [State.timer_await_self]
      exact .begins ⟨rfl, ⟨path, hp⟩, hon, rfl⟩
    · exact .of_eq (fun hr => hv hr.1) rfl (State.timer_await_other (Ne.symm hv) (sv.holding path text))
  | changed hp text hoff =>
    refine .of_eq (fun hr => ?_) rfl rfl
    rw [hr.2.2] at hoff
    cases hoff
  | saved v => exact .of_eq id rfl (by rw [State.timers_revalidate])
  | @closed v path hp =>
    by_cases hv : v = uri
    · subst hv
      have htimer : (sv.without v path).timers.get? v = none := Keyed.get?_remove_self _ _
      rw [htimer]
      exact .closes rfl ⟨rfl, path, hp⟩
    · exact .of_eq (fun hr => hv hr.1) rfl (Keyed.get?_remove_other _ (Ne.symm hv))
  | validated v source force => exact .of_eq id rfl (by rw [State.timers_validate])
  | advanced duration => exact h.timing_advanced ht duration uri
  | @nowhere m v e hm hp =>
    refine .of_eq (State.not_resets_of_documentPath_eq_error hm hp) ?_ rfl
    cases m with
    | advance duration => cases hm
    | _ => rfl
  | asked hq =>
    cases m with
    | hover _ _ _ | actions _ _ | tokens _ | rules => exact .of_eq id rfl rfl
    | _ => cases hq

end

/-! ## Runs -/

namespace State

/-- The waitings that end with a message: the documents, each with the time when its waiting was over. -/
def endings (sv : State) : Message → List (String × Nat)
  | .advance duration => (sv.later duration).ripe
  | _ => []

/-- The waitings that end in a run. Each of them ends with a validation. -/
def firings (sv : State) : List Message → List (String × Nat)
  | [] => []
  | m :: later => sv.endings m ++ firings (sv.handle m).state later

/-- The waitings that end in a run with one more message. -/
theorem firings_append_singleton (sv : State) (messages : List Message) (m : Message) :
    sv.firings (messages ++ [m]) = sv.firings messages ++ (sv.run messages).endings m := by
  induction messages generalizing sv with
  | nil => simp [firings, run]
  | cons m' messages ih => simp [firings, run, ih, List.append_assoc]

variable {sv : State}

/-- A waiting ends with a message if its time comes meanwhile. -/
theorem mem_endings_iff (ht : sv.Tidy) {uri : String} {time : Nat}
    (hlive : sv.timers.get? uri = some (some time) → sv.clock < time) (m : Message) :
    (uri, time) ∈ sv.endings m ↔ sv.timers.get? uri = some (some time) ∧ time ≤ sv.clock + m.duration := by
  cases m with
  | advance duration => exact (sv.later duration).mem_ripe_iff ht.timers uri time
  | _ => exact iff_of_false List.not_mem_nil fun h => absurd (hlive h.1) (Nat.not_lt.mpr h.2)

/-- None of them ends twice meanwhile. -/
theorem nodup_endings (ht : sv.Tidy) (m : Message) : (sv.endings m).Nodup := by
  cases m with
  | advance duration => exact List.Nodup.of_map Prod.fst ((sv.later duration).nodup_due ht.timers)
  | _ => exact List.nodup_nil

end State

/-- A document was changed, with changes analysed, so that its waiting is over at some time; and before that time it was not
changed like that again, nor closed. -/
def Called (site : Site) (messages : List Message) (uri : String) (time : Nat) : Prop :=
  Since (fun before m => ((State.start site).run before).Calls uri time m)
    (fun before m => ((State.start site).run before).Resets uri m ∧ ((State.start site).run before).clock < time) messages

/-- The waiting of a document was over when it had no text, and since then the document was not changed with changes
analysed, nor closed. -/
def Stranded (site : Site) (messages : List Message) (uri : String) : Prop :=
  Since
    (fun before m => ∃ duration time, m = .advance duration ∧ Called site before uri time ∧
      ((State.start site).run before).clock < time ∧ time ≤ ((State.start site).run before).clock + duration ∧
      ∃ f, ((State.start site).run before).textOf uri = .error f)
    (fun before m => ((State.start site).run before).Resets uri m) messages

/-- The list of waitings goes by the changes of a document. -/
structure Debounced (site : Site) (messages : List Message) (uri : String) : Prop where
  /-- it waits until the times that it was called for -/
  waits : ∀ time, ((State.start site).run messages).timers.get? uri = some (some time) ↔
    ((State.start site).run messages).clock < time ∧ Called site messages uri time
  /-- it is on the list without an end if its waiting was in vain -/
  vain : ((State.start site).run messages).timers.get? uri = some none ↔ Stranded site messages uri
  /-- its waiting was over at the times that it was called for -/
  fired : ∀ time, (uri, time) ∈ (State.start site).firings messages ↔
    time ≤ ((State.start site).run messages).clock ∧ Called site messages uri time

section

variable {site : Site} {messages : List Message} {uri : String}

/-- What a document is called for, after one more message. -/
theorem called_append_singleton (site : Site) (messages : List Message) (m : Message) (uri : String) (time : Nat) :
    Called site (messages ++ [m]) uri time ↔ ((State.start site).run messages).Calls uri time m ∨
      Called site messages uri time ∧ ¬ (((State.start site).run messages).Resets uri m ∧
        ((State.start site).run messages).clock < time) :=
  since_append_singleton _ _ messages m

theorem clock_append_singleton (site : Site) (messages : List Message) (m : Message) :
    ((State.start site).run (messages ++ [m])).clock = ((State.start site).run messages).clock + m.duration := by
  rw [State.run_append_singleton]
  exact (step_handle _ m).clock

theorem timing_append_singleton (site : Site) (messages : List Message) (m : Message) (uri : String) :
    Timing uri ((State.start site).run messages) m (((State.start site).run (messages ++ [m])).timers.get? uri) := by
  rw [State.run_append_singleton]
  exact (step_handle _ m).timing ((State.tidy_start site).run messages) ((State.sound_start site).run messages) uri

/-- When the waiting of a document is over, no other is to come. -/
theorem Debounced.not_called_of_over (h : Debounced site messages uri) {duration time : Nat}
    (htime : ((State.start site).run messages).timers.get? uri = some (some time))
    (hover : time ≤ ((State.start site).run messages).clock + duration) (other : Nat) :
    ¬ (((State.start site).run messages).clock + duration < other ∧
      Called site (messages ++ [.advance duration]) uri other) := by
  rw [called_append_singleton]
  rintro ⟨hlater, hcalls | ⟨hcalled, -⟩⟩
  · exact hcalls
  · have hother := (h.waits other).mpr ⟨Nat.lt_of_le_of_lt (Nat.le_add_right _ _) hlater, hcalled⟩
    cases htime.symm.trans hother
    exact Nat.not_lt.mpr hover hlater

/-- One more message keeps the list of waitings right: the times that are to come. -/
theorem Debounced.waits_append_singleton (h : Debounced site messages uri) (m : Message) (time : Nat) :
    ((State.start site).run (messages ++ [m])).timers.get? uri = some (some time) ↔
      ((State.start site).run (messages ++ [m])).clock < time ∧ Called site (messages ++ [m]) uri time := by
  have htiming := timing_append_singleton site messages m uri
  rw [clock_append_singleton]
  generalize ((State.start site).run (messages ++ [m])).timers.get? uri = timer at htiming
  cases htiming with
  | begins hcalls =>
    rw [hcalls.resets.duration_eq, called_append_singleton]
    constructor
    · intro he
      cases he
      exact ⟨Nat.lt_add_of_pos_right (by decide), Or.inl hcalls⟩
    · rintro ⟨hlater, hcalls' | ⟨-, hlasts⟩⟩
      · rw [hcalls'.time_eq]
      -- an earlier call does not last through the new one
      · exact absurd ⟨hcalls.resets, hlater⟩ hlasts
  | closes hm hr =>
    subst hm
    rw [called_append_singleton]
    refine iff_of_false nofun ?_
    rintro ⟨hlater, hcalls | ⟨-, hlasts⟩⟩
    · exact hcalls
    · exact hlasts ⟨hr, hlater⟩
  | ends hm htime hover htext =>
    subst hm
    exact iff_of_false nofun (h.not_called_of_over htime hover time)
  | fails hm htime hover htext =>
    subst hm
    exact iff_of_false nofun (h.not_called_of_over htime hover time)
  | stays hr hlast =>
    rw [h.waits, called_append_singleton]
    constructor
    · rintro ⟨hlater, hcalled⟩
      exact ⟨hlast time ((h.waits time).mpr ⟨hlater, hcalled⟩) hlater, Or.inr ⟨hcalled, fun hreset => hr hreset.1⟩⟩
    · rintro ⟨hlater, hcalls | ⟨hcalled, -⟩⟩
      · exact absurd hcalls.resets hr
      · exact ⟨Nat.lt_of_le_of_lt (Nat.le_add_right _ _) hlater, hcalled⟩

/-- One more message keeps the list of waitings right: those that are in vain. -/
theorem Debounced.vain_append_singleton (h : Debounced site messages uri) (m : Message) :
    ((State.start site).run (messages ++ [m])).timers.get? uri = some none ↔ Stranded site (messages ++ [m]) uri := by
  have htiming := timing_append_singleton site messages m uri
  rw [Stranded, since_append_singleton, ← Stranded]
  generalize ((State.start site).run (messages ++ [m])).timers.get? uri = timer at htiming
  cases htiming with
  | begins hcalls =>
    refine iff_of_false nofun ?_
    rintro (⟨duration, time, rfl, -⟩ | ⟨-, hlasts⟩)
    · exact hcalls
    · exact hlasts hcalls.resets
  | closes hm hr =>
    refine iff_of_false nofun ?_
    rintro (⟨duration, time, rfl, -⟩ | ⟨-, hlasts⟩)
    · exact hr
    · exact hlasts hr
  | ends hm htime hover htext =>
    refine iff_of_false nofun ?_
    rintro (⟨duration, time, -, -, -, -, f, hf⟩ | ⟨hstranded, -⟩)
    · cases htext.symm.trans hf
    · cases htime.symm.trans (h.vain.mpr hstranded)
  | fails hm htime hover htext =>
    obtain ⟨hlater, hcalled⟩ := (h.waits _).mp htime
    exact iff_of_true rfl (Or.inl ⟨_, _, hm, hcalled, hlater, hover, _, htext⟩)
  | stays hr hlast =>
    rw [h.vain]
    constructor
    · exact fun hstranded => Or.inr ⟨hstranded, hr⟩
    · rintro (⟨duration, time, rfl, hcalled, hlater, hover, -⟩ | ⟨hstranded, -⟩)
      · exact absurd hover (Nat.not_le.mpr (hlast time ((h.waits time).mpr ⟨hlater, hcalled⟩) hlater))
      · exact hstranded

/-- One more message keeps the list of waitings right: those that have ended. -/
theorem Debounced.fired_append_singleton (h : Debounced site messages uri) (m : Message) (time : Nat) :
    (uri, time) ∈ (State.start site).firings (messages ++ [m]) ↔
      time ≤ ((State.start site).run (messages ++ [m])).clock ∧ Called site (messages ++ [m]) uri time := by
  have htidy := (State.tidy_start site).run messages
  rw [State.firings_append_singleton, List.mem_append, h.fired,
    State.mem_endings_iff htidy fun htime => ((h.waits time).mp htime).1, h.waits, clock_append_singleton,
    called_append_singleton]
  constructor
  · rintro (⟨hover, hcalled⟩ | ⟨⟨hlater, hcalled⟩, hover⟩)
    · exact ⟨Nat.le_add_right_of_le hover, Or.inr ⟨hcalled, fun hreset => Nat.not_lt.mpr hover hreset.2⟩⟩
    · refine ⟨hover, Or.inr ⟨hcalled, fun hreset => ?_⟩⟩
      rw [hreset.1.duration_eq] at hover
      exact Nat.not_lt.mpr hover hlater
  · rintro ⟨hover, hcalls | ⟨hcalled, -⟩⟩
    · rw [hcalls.resets.duration_eq, hcalls.time_eq] at hover
      exact absurd hover (Nat.not_le.mpr (Nat.lt_add_of_pos_right (by decide)))
    · rcases Nat.lt_or_ge ((State.start site).run messages).clock time with hlater | hbefore
      · exact Or.inr ⟨⟨hlater, hcalled⟩, hover⟩
      · exact Or.inl ⟨hbefore, hcalled⟩

/-- In every run the list of waitings goes by the changes. -/
theorem debounced_run (site : Site) (messages : List Message) (uri : String) : Debounced site messages uri := by
  induction messages using List.reverseRecOn with
  | nil =>
    refine ⟨fun time => ?_, ?_, fun time => ?_⟩
    · exact iff_of_false nofun fun h => not_since_nil _ _ h.2
    · exact iff_of_false nofun (not_since_nil _ _)
    · exact iff_of_false nofun fun h => not_since_nil _ _ h.2
  | append_singleton messages m ih =>
    exact ⟨ih.waits_append_singleton m, ih.vain_append_singleton m, ih.fired_append_singleton m⟩

/-- No waiting ends twice. -/
theorem nodup_firings (site : Site) (messages : List Message) : ((State.start site).firings messages).Nodup := by
  induction messages using List.reverseRecOn with
  | nil => exact List.nodup_nil
  | append_singleton messages m ih =>
    have htidy := (State.tidy_start site).run messages
    rw [State.firings_append_singleton]
    refine List.Nodup.append ih (State.nodup_endings htidy m) ?_
    rintro ⟨uri, time⟩ hearlier hnow
    have h := debounced_run site messages uri
    obtain ⟨hbefore, -⟩ := (h.fired time).mp hearlier
    have htime := ((State.mem_endings_iff htidy (fun ht => ((h.waits time).mp ht).1) m).mp hnow).1
    exact Nat.not_lt.mpr hbefore ((h.waits time).mp htime).1

end

/-! ## While time passes -/

namespace State

/-- Nothing is done for a document while some time passes. -/
def IsIdle (sv : State) (uri : String) (duration : Nat) : Prop :=
  (sv.handle (.advance duration)).activity.heard uri = [] ∧
    (sv.handle (.advance duration)).state.cache.get? uri = sv.cache.get? uri

/-- A document is validated by what it holds while some time passes. If that is lost nothing is done for it. -/
def IsValidated (sv : State) (uri : String) (duration : Nat) : Prop :=
  match sv.sourceOf uri with
  | .ok source =>
    (sv.handle (.advance duration)).activity.heard uri =
        ((sv.later duration).validate uri source false).activity.heard uri ∧
      (sv.handle (.advance duration)).state.cache.get? uri =
        ((sv.later duration).validate uri source false).state.cache.get? uri
  | .error _ => sv.IsIdle uri duration

variable {sv : State} {uri : String} {duration : Nat}

/-- Nothing is done for a document that is not due. -/
theorem isIdle_of_not_mem_due (h : uri ∉ (sv.later duration).due) : sv.IsIdle uri duration := by
  have hspared := spares_fireAll h (sv.later duration)
  exact ⟨hspared.heard, hspared.state.entry.symm⟩

/-- One that is due is validated. -/
theorem isValidated_of_mem_due (ht : sv.Tidy) (h : uri ∈ (sv.later duration).due) : sv.IsValidated uri duration := by
  have hsame := fireAll_of_mem ((sv.later duration).nodup_due ht.timers) h (sv.later duration)
  have hactivity : (sv.handle (.advance duration)).activity =
      ((sv.later duration).fireAll (sv.later duration).due).activity := rfl
  have hstate : (sv.handle (.advance duration)).state =
      ((sv.later duration).fireAll (sv.later duration).due).state := rfl
  have hsource : (sv.later duration).sourceOf uri = sv.sourceOf uri := rfl
  unfold IsValidated IsIdle
  rw [hactivity, hstate, ← hsame.heard, ← hsame.state.entry, activity_fire, state_fire, cache_withTimers, revalidate,
    hsource]
  cases sv.sourceOf uri with
  | ok source => exact ⟨rfl, rfl⟩
  | error f => exact ⟨rfl, rfl⟩

end State

/-- All that is to be encoded can be: the client sends texts for its documents, and at no time is the pattern of the settings
anything but a text. -/
structure Encodable (site : Site) (messages : List Message) : Prop where
  sent : ∀ m ∈ messages, m.SendsText
  pattern : ∀ before after, messages = before ++ after → ((State.start site).run before).settings.patternText.IsText

/-- What can be encoded in the end could be before. -/
theorem Encodable.of_append {site : Site} {messages later : List Message} (h : Encodable site (messages ++ later)) :
    Encodable site messages where
  sent m hm := h.sent m (List.mem_append_left later hm)
  pattern before after hsplit := h.pattern before (after ++ later) (by rw [hsplit, List.append_assoc])

/-- With an orderly client that keeps paths apart every open document has a text, if all can be encoded. -/
theorem textOf_run (site : Site) {messages : List Message} (h : Orderly messages) (hpaths : PathsApart messages)
    (hencodable : Encodable site messages) {uri : String} (hknown : Known (openDocuments messages) uri) :
    ∃ text, ((State.start site).run messages).textOf uri = .ok text := by
  obtain ⟨source, hsource⟩ := (holds_run site h hpaths).sourceOf hknown
  obtain ⟨text, rfl⟩ := (holdsTexts_run site hencodable.sent).isText hsource
  have hkey := (Settings.isText_key_iff _).mpr (hencodable.pattern messages [] (List.append_nil messages).symm)
  exact ⟨text, State.textOf_eq_ok_iff.mpr ⟨_, hsource, State.encodes_ofText hkey text⟩⟩

/-- With an orderly client that keeps paths apart no waiting is in vain, if all can be encoded. -/
theorem not_stranded (site : Site) {messages : List Message} (h : Orderly messages) (hpaths : PathsApart messages)
    (hencodable : Encodable site messages) (uri : String) : ¬ Stranded site messages uri := by
  rintro ⟨before, m, after, rfl, ⟨duration, time, -, hcalled, hlater, -, f, hf⟩, -⟩
  have htimer := ((debounced_run site before uri).waits time).mpr ⟨hlater, hcalled⟩
  have hknown : Known (openDocuments before) uri := by
    by_contra hunknown
    cases (ignores_run site h.of_append uri hunknown).timer.symm.trans htimer
  obtain ⟨text, htext⟩ := textOf_run site h.of_append hpaths.of_append hencodable.of_append hknown
  cases htext.symm.trans hf

/-- How documents wait after changes, in every run. A document waits exactly for the times that its changes call for, and
its waiting ends exactly at these times, once for each of them; it is validated then by what it holds. Besides, those
documents are on the list that had no text at the end of a waiting: it was lost, or it could not be encoded, or the pattern
of the settings could not. With an orderly client that keeps paths apart there are none, if all can be encoded. -/
theorem debounce_exact (site : Site) (messages : List Message) :
    let sv := (State.start site).run messages
    sv.timers.keys.Nodup ∧ ((State.start site).firings messages).Nodup ∧
      ∀ uri, Debounced site messages uri ∧
        (∀ duration time, sv.clock < time → time ≤ sv.clock + duration → Called site messages uri time →
          sv.IsValidated uri duration) ∧
        (∀ duration, (∀ time, sv.clock < time → Called site messages uri time → sv.clock + duration < time) →
          sv.IsIdle uri duration) ∧
        (Orderly messages → PathsApart messages → Encodable site messages → ¬ Stranded site messages uri) := by
  intro sv
  have htidy : sv.Tidy := (State.tidy_start site).run messages
  refine ⟨htidy.timers, nodup_firings site messages, fun uri => ?_⟩
  have h := debounced_run site messages uri
  refine ⟨h, fun duration time hlater hover hcalled => ?_, fun duration hnone => ?_, fun horderly hpaths hencodable => ?_⟩
  · have htime := (h.waits time).mpr ⟨hlater, hcalled⟩
    exact State.isValidated_of_mem_due htidy (((sv.later duration).mem_due_iff htidy.timers uri).mpr ⟨time, htime, hover⟩)
  · refine State.isIdle_of_not_mem_due fun hdue => ?_
    obtain ⟨time, htime, hover⟩ := ((sv.later duration).mem_due_iff htidy.timers uri).mp hdue
    obtain ⟨hlater, hcalled⟩ := (h.waits time).mp htime
    exact Nat.not_lt.mpr hover (hnone time hlater hcalled)
  · exact not_stranded site horderly hpaths hencodable uri

/-- The settings that a client sends to have changes analysed. -/
def changesAnalysed : Payload := .record [("mathlex".toList, .record [("analyzeOnChange".toList, .flag true)])]

/-- The client changes a document twice in less than the delay. -/
def changedTwice : List Message :=
  [.configure changesAnalysed, .opened "file:///a" "1".toList, .changed "file:///a" "12".toList, .advance 300,
    .changed "file:///a" "123".toList]

/-- The second change takes the place of the first. -/
theorem debounce_exact_changed_twice :
    Called {} changedTwice "file:///a" 800 ∧
      ¬ Called {} changedTwice "file:///a" 500 := by
  have h := ((debounce_exact {} changedTwice).2.2 "file:///a").1
  have htimer : ((State.start {}).run changedTwice).timers.get? "file:///a" = some (some 800) := by
    decide +kernel
  have hclock : ((State.start {}).run changedTwice).clock = 300 := by decide +kernel
  refine ⟨((h.waits 800).mp htimer).2, fun hcalled => ?_⟩
  have hearlier := (h.waits 500).mpr ⟨by rw [hclock]; decide, hcalled⟩
  cases htimer.symm.trans hearlier

/-- The client opens a document under two addresses with one path, changes it under the one and closes it under the other. -/
def closedElsewhere : List Message :=
  [.configure changesAnalysed, .opened "file:///zq/A.expr" "1".toList, .opened "file:///zq/%41.expr" "1".toList,
    .changed "file:///zq/A.expr" "2".toList, .closed "file:///zq/%41.expr", .advance 500]

/-- A waiting that is over may stay on the list. -/
theorem waiting_in_vain_closed_elsewhere :
    Orderly closedElsewhere ∧
      ((State.start {}).run closedElsewhere).timers.get? "file:///zq/A.expr" = some none :=
  ⟨by decide, by decide +kernel⟩

end Server

end ExprLex
