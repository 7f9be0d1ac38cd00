import ExprLex.Proofs.Interference
import ExprLex.Proofs.Waiting

/-!
# Closed documents

A server with an orderly client has last analyses and waitings of open documents only. From the time a document is closed
until it is opened again nothing is published for it, and there is nothing to show over it: neither a waiting that began
earlier nor a change of the configuration comes back to it.
-/

namespace ExprLex

namespace Server

/-! ## Until it is opened again -/

/-- The message does not open the document. -/
def Message.LeavesShut (u : String) (m : Message) : Prop := ∀ text, m ≠ .opened u text

/-- A message that does not open a document leaves it shut. -/
theorem Message.LeavesShut.not_mem_openAfter {u : String} {m : Message} (h : m.LeavesShut u) {opened : List String}
    (hu : u ∉ opened) : u ∉ m.openAfter opened := by
  cases m with
  | opened v text =>
    have hne : u ≠ v := by
      rintro rfl
      exact h text rfl
    exact fun hmem => (List.mem_insert_iff.mp hmem).elim hne hu
  | closed v => exact fun hmem => hu (List.mem_filter.mp hmem).1
  | _ => exact hu

/-- A document that was closed is not open as long as no message opens it. -/
theorem not_mem_openDocuments (before : List Message) {u : String} {between : List Message}
    (h : ∀ m ∈ between, m.LeavesShut u) : u ∉ openDocuments (before ++ .closed u :: between) := by
  induction between using List.reverseRecOn with
  | nil =>
    rw [openDocuments_append_singleton]
    exact fun hmem => of_decide_eq_true (List.mem_filter.mp hmem).2 rfl
  | append_singleton between m ih =>
    rw [← List.cons_append, ← List.append_assoc, openDocuments_append_singleton]
    exact (h m (by simp)).not_mem_openAfter (ih fun m' hmem => h m' (List.mem_append_left [m] hmem))

/-! ## What is heard in a run -/

/-- What is published for a document in a run, in order. -/
def State.heardIn (sv : State) (u : String) : List Message → List (List Client.Notice)
  | [] => []
  | m :: later => (sv.handle m).activity.heard u ++ (sv.handle m).state.heardIn u later

/-- What is heard in a run with one more message. -/
theorem State.heardIn_append_singleton (sv : State) (u : String) (messages : List Message) (m : Message) :
    sv.heardIn u (messages ++ [m]) = sv.heardIn u messages ++ ((sv.run messages).handle m).activity.heard u := by
  induction messages generalizing sv with
  | nil => simp [heardIn, run]
  | cons m' later ih =>
    show (sv.handle m').activity.heard u ++ (sv.handle m').state.heardIn u (later ++ [m]) = _
    rw [ih, ← List.append_assoc]
    rfl

/-- A message of an orderly client publishes nothing for a document that is not open and that the server does not know,
unless it opens it. -/
theorem Step.silent {sv after : State} {m : Message} {published : List (String × List Client.Notice)}
    (hs : Step sv m after published) {opened : List String} (hm : m.Permitted opened) (ht : sv.Tidy) {u : String}
    (hu : u ∉ opened) (hi : sv.Ignores u) (h : m.LeavesShut u) : ∀ e ∈ published, e.1 ≠ u := by
  cases hs with
  | configured payload =>
    have habsent : u ∉ sv.cache.keys := (Keyed.get?_eq_none_iff _ _).mp hi.entry
    exact heard_eq_nil_iff.mp (spares_revalidateAll fun hmem => absurd hmem habsent).heard
  | @opened v path hp text =>
    have hne : u ≠ v := by
      rintro rfl
      exact h text rfl
    exact heard_eq_nil_iff.mp (spares_validate hne (sv.holding path text) text false).heard
  | saved v =>
    have hne : u ≠ v := by
      rintro rfl
      exact hu hm
    exact heard_eq_nil_iff.mp (spares_revalidate hne sv).heard
  | validated v source force => exact absurd hm id
  | advanced duration =>
    -- A waiting that began before the closing is not on the list any more.
    have habsent : u ∉ (sv.later duration).due := by
      rw [State.mem_due_iff (sv.later duration) ht.timers]
      rintro ⟨time, htime, -⟩
      cases hi.timer.symm.trans htime
    exact heard_eq_nil_iff.mp (spares_fireAll habsent (sv.later duration)).heard
  | _ => exact nofun

/-- A closing publishes nothing. -/
theorem Step.published_closed {sv after : State} {u : String} {published : List (String × List Client.Notice)}
    (hs : Step sv (.closed u) after published) : published = [] := by
  cases hs with
  | _ => rfl

/-- Nothing is published for a document between its closing and its next opening. -/
theorem heardIn_closed (site : Site) (before : List Message) {u : String} {between : List Message}
    (horderly : Orderly (before ++ .closed u :: between)) (h : ∀ m ∈ between, m.LeavesShut u) :
    ((State.start site).run before).heardIn u (.closed u :: between) = [] := by
  induction between using List.reverseRecOn with
  | nil =>
    rw [State.heardIn, Activity.heard_of_nil (step_handle _ _).published_closed]
    rfl
  | append_singleton between m ih =>
    rw [← List.cons_append, ← List.append_assoc] at horderly
    obtain ⟨hbefore, hm⟩ := horderly.of_append_singleton
    have hbetween : ∀ m' ∈ between, m'.LeavesShut u := fun m' hmem => h m' (List.mem_append_left [m] hmem)
    have hshut := not_mem_openDocuments before hbetween
    have hignores := ignores_run site hbefore u fun hk => hshut hk.1
    have hsilent := (step_handle _ m).silent hm ((State.tidy_start site).run _) hshut hignores (h m (by simp))
    rw [← List.cons_append, State.heardIn_append_singleton, ih hbefore hbetween, ← State.run_append,
      heard_eq_nil_iff.mpr hsilent, List.nil_append]

/-- There is nothing to show over a document without a last analysis. -/
theorem State.Ignores.hover {sv : State} {u : String} (h : sv.Ignores u) {line character : Int} {asked : Client.Position}
    (hp : Client.Position.make line character = .ok asked) :
    (sv.handle (.hover u line character)).result = .ok (.hover none) := by
  simp only [State.handle, hp, h.entry]
  rfl

/-- Closed documents stay silent. In every run with an orderly client the server has last analyses and waitings of open
documents only. From the closing of a document until its next opening nothing is published for it, and whoever asks what
there is to show over it is told that there is nothing. -/
theorem closed_documents_stay_silent (site : Site) {messages : List Message} (h : Orderly messages) :
    let sv := (State.start site).run messages
    (∀ u ∈ sv.cache.keys, u ∈ openDocuments messages) ∧ (∀ u ∈ sv.timers.keys, u ∈ openDocuments messages) ∧
      ∀ before u between, messages = before ++ .closed u :: between → (∀ m ∈ between, m.LeavesShut u) →
        ((State.start site).run before).heardIn u (.closed u :: between) = [] ∧
          ∀ line character asked, Client.Position.make line character = .ok asked →
            (sv.handle (.hover u line character)).result = .ok (.hover none) := by
  intro sv
  have hignores : ∀ u, u ∉ openDocuments messages → sv.Ignores u := fun u hu => ignores_run site h u fun hk => hu hk.1
  refine ⟨fun u hmem => (known_of_mem_keys site h hmem).1, fun u hmem => ?_, ?_⟩
  · by_contra hu
    exact (Keyed.get?_eq_none_iff _ _).mp (hignores u hu).timer hmem
  · rintro before u between rfl hshut
    refine ⟨heardIn_closed site before h hshut, fun line character asked hp => ?_⟩
    exact (hignores u (not_mem_openDocuments before hshut)).hover hp

/-- The client opens a document and changes it. -/
def changedOnce : List Message :=
  [.configure changesAnalysed, .opened "file:///a" "1".toList, .changed "file:///a" "$".toList, .advance 300]

/-- After the closing the delay passes and the configuration changes. -/
def delayedAndConfigured : List Message := [.advance 300, .configure changesAnalysed]

/-- A document is closed while it waits, and nothing comes of the waiting. -/
theorem closed_documents_stay_silent_changed_once :
    ((State.start {}).run changedOnce).timers.get? "file:///a" = some (some 500) ∧
      ((State.start {}).run changedOnce).heardIn "file:///a"
        (.closed "file:///a" :: delayedAndConfigured) = [] := by
  have horderly : Orderly (changedOnce ++ .closed "file:///a" :: delayedAndConfigured) := by decide
  have hshut : ∀ m ∈ delayedAndConfigured, m.LeavesShut "file:///a" := by
    simp [delayedAndConfigured, Message.LeavesShut]
  have h := closed_documents_stay_silent {} horderly
  exact ⟨by decide +kernel, (h.2.2 changedOnce "file:///a" delayedAndConfigured rfl hshut).1⟩

end Server

end ExprLex
