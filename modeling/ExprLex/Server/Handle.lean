import ExprLex.Client.Action
import ExprLex.Client.Hover
import ExprLex.Server.Validate

/-!
# Messages

How the server handles the messages of its client and the passing of time. A document is validated when it is opened and
when it is saved, when the settings change, and, if the settings ask for that, some time after its last change.
-/

namespace ExprLex

namespace Server

/-- What the server reacts to. -/
inductive Message where
  | initialise (options : Payload)
  | configure (settings : Payload)
  | opened (uri : String) (text : RawText)
  | changed (uri : String) (text : RawText)
  | saved (uri : String)
  | closed (uri : String)
  /-- validates a text under the address of a document, whether that is open or not -/
  | validate (uri : String) (source : RawText) (force : Bool)
  /-- so many milliseconds pass -/
  | advance (duration : Nat)
  | hover (uri : String) (line character : Int)
  | actions (uri : String) (notices : List Client.Notice)
  /-- asks for the tokens of the last analysis -/
  | tokens (uri : String)
  /-- asks for the function names and the pattern in force -/
  | rules

/-- What the server answers. -/
inductive Answer where
  | nothing
  | settings (s : Settings)
  | hover (h : Option Client.Hover)
  | actions (as : List Client.Action)
  | tokens (ts : Option (List (Int × List Token)))
  /-- the function names, and the pattern if it is not the default one -/
  | rules (functions : List RawText) (pattern : Option RawText)

/-- How long the server waits after a change, in milliseconds. -/
def changeDelay : Nat := 500

namespace State

/-- What a document holds: what was sent for the open one with the same path, or the text of the file there. -/
def sourceOf (sv : State) (uri : String) : Except Failure RawText := do
  let path ← (documentPath uri).mapError .address
  match sv.documents.get? path with
  | some source => return source
  | none =>
    let text ← (sv.files.readStrictly path.toText).mapError .reading
    return text

/-- Validates a document as it is. -/
def revalidate (sv : State) (uri : String) : Reaction Unit :=
  match sv.sourceOf uri with
  | .error f => .failure f sv {}
  | .ok source => sv.validate uri source false

/-- Validates documents one after another, up to the first failure. -/
def revalidateAll (sv : State) : List String → Reaction Unit
  | [] => .answer () sv {}
  | uri :: rest =>
    let first := sv.revalidate uri
    match first.result with
    | .error f => .failure f first.state first.activity
    | .ok () => .after first.activity (first.state.revalidateAll rest)

/-- The settings that a change of the configuration brings: those in the section of this server. -/
def section? (settings : Payload) : Option Payload := settings.field? "mathlex"

/-- The state in which a document waits to be validated; the waiting starts anew. -/
def await (sv : State) (uri : String) : State :=
  { sv with timers := sv.timers.remove uri ++ [(uri, some (sv.clock + changeDelay))] }

/-- Ends the waiting of a document and validates it. A failure has no one to be told to; it leaves the waiting in vain. -/
def fire (sv : State) (uri : String) : Reaction Unit :=
  let tried := sv.revalidate uri
  let timers := match tried.result with
    | .ok () => tried.state.timers.remove uri
    | .error _ => tried.state.timers.put uri none
  ⟨.ok (), { tried.state with timers := timers }, tried.activity⟩

/-- Ends the waiting of documents one after another. -/
def fireAll (sv : State) : List String → Reaction Unit
  | [] => .answer () sv {}
  | uri :: rest =>
    let first := sv.fire uri
    .after first.activity (first.state.fireAll rest)

/-- The documents whose waiting is over, the earliest first. -/
def due (sv : State) : List String :=
  let ripe := sv.timers.filterMap fun (uri, deadline) => (deadline.filter (· ≤ sv.clock)).map (uri, ·)
  (ripe.mergeSort fun a b => decide (a.2 ≤ b.2)).map (·.1)

/-- The reaction to a message about the document at an address, given its path. -/
def atPath {α : Type} (sv : State) (uri : String) (react : Path → Reaction α) : Reaction α :=
  match documentPath uri with
  | .error e => .failure (.address e) sv {}
  | .ok path => react path

/-- The reaction to a message. -/
def handle (sv : State) : Message → Reaction Answer
  | .initialise options =>
    let settings := sv.settings.update options
    .answer (.settings settings) { sv with settings := settings } (.info "Server initialized")
  | .configure payload =>
    let settings := match section? payload with
      | some options => sv.settings.update options
      | none => sv.settings
    let sv := { sv with settings := settings }
    -- what is open does not matter here, only what has a last analysis
    let all := sv.revalidateAll sv.cache.keys
    { all with result := all.result.map fun _ => .settings settings }
  | .opened uri text =>
    sv.atPath uri fun path =>
      let validated := { sv with documents := sv.documents.put path text }.validate uri text false
      { validated with result := validated.result.map fun _ => .nothing }
  | .changed uri text =>
    sv.atPath uri fun path =>
      let sv := { sv with documents := sv.documents.put path text }
      .answer .nothing (if sv.settings.analyseOnChange then sv.await uri else sv) {}
  | .saved uri =>
    let validated := sv.revalidate uri
    { validated with result := validated.result.map fun _ => .nothing }
  | .closed uri =>
    sv.atPath uri fun path =>
      let sv := { sv with
        documents := sv.documents.remove path
        cache := sv.cache.remove uri
        timers := sv.timers.remove uri }
      .answer .nothing sv {}
  | .validate uri source force =>
    let validated := sv.validate uri source force
    { validated with result := validated.result.map fun _ => .nothing }
  | .advance duration =>
    let sv := { sv with clock := sv.clock + duration }
    let fired := sv.fireAll sv.due
    -- who lets the time pass is told of no failure
    { fired with result := .ok .nothing }
  | .hover uri line character =>
    match Client.Position.make line character with
    | .error e => .failure (.position e) sv {}
    | .ok asked =>
      match sv.cache.get? uri with
      | none => .answer (.hover none) sv {}
      | some entry =>
        ⟨(Client.hoverAt entry.analysis asked.line asked.character).mapError .position |>.map .hover, sv, {}⟩
  | .actions uri notices =>
    match sv.sourceOf uri with
    | .error f => .failure f sv {}
    | .ok source =>
      let found := notices.mapM fun n => Client.actionsIn uri source n
      ⟨found.mapError .position |>.map fun as => .actions as.flatten, sv, {}⟩
  | .tokens uri => .answer (.tokens ((sv.cache.get? uri).map (·.analysis.tokens))) sv {}
  | .rules =>
    match sv.currentPattern with
    | .error f => .failure f sv {}
    | .ok (pattern, complaint) =>
      let shown := if pattern = Pattern.default then none else some sv.settings.patternText
      .answer (.rules sv.settings.listedNames shown) sv complaint

end State

end Server

end ExprLex
