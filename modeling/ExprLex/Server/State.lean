import ExprLex.Client.Notice
import ExprLex.Document
import ExprLex.FileSystem
import ExprLex.Keyed
import ExprLex.Server.Address
import ExprLex.Server.Settings

/-!
# State of the server

The server keeps the texts of the documents that are open, by their paths, and by the addresses that the client uses the
last analysis of each document and, for each document that was changed, the time when it is to be analysed. The texts are raw,
as the client sent them; only what could be encoded was ever analysed. Handling a
message changes the state and leaves a record of what the server did: the notices it published, the analyses it made and the
lines it logged.
-/

namespace ExprLex

namespace Server

/-- The last analysis of a document, and what it was made from. -/
structure Entry where
  analysis : Analysis
  source : Text
  /-- the key of the settings it was made under -/
  key : RawText
  deriving DecidableEq, Repr

/-- What a server finds where it runs. -/
structure Site where
  /-- the files, for the documents that are not open -/
  files : FileSystem := FileTree.toFileSystem []
  /-- what patterns are read with -/
  engine : Pattern.Engine := .plain

/-- The state of a server. -/
structure State extends Site where
  settings : Settings := {}
  /-- the texts of the open documents -/
  documents : Keyed Path RawText := []
  /-- the last analyses -/
  cache : Keyed String Entry := []
  /-- when changed documents are to be analysed, in milliseconds; in the order in which the waiting began. There is no time
  where the waiting was in vain -/
  timers : Keyed String (Option Nat) := []
  /-- the time, in milliseconds -/
  clock : Nat := 0

/-- The gravity of a logged line. -/
inductive Level where
  | info | error
  deriving DecidableEq, Repr

/-- A logged line. -/
structure LogLine where
  level : Level
  message : String
  deriving DecidableEq, Repr

/-- The rendered form of a logged line. -/
def LogLine.render (l : LogLine) : String :=
  (match l.level with
    | .info => "INFO "
    | .error => "ERROR ") ++ l.message

/-- What a server did. -/
structure Activity where
  /-- the notices that were published, document by document -/
  published : List (String × List Client.Notice) := []
  /-- how many analyses were made -/
  analyses : Nat := 0
  log : List LogLine := []
  deriving DecidableEq, Repr

namespace Activity

/-- One activity after another. -/
def append (a b : Activity) : Activity := ⟨a.published ++ b.published, a.analyses + b.analyses, a.log ++ b.log⟩

instance : Append Activity := ⟨append⟩

/-- The activity of logging a line. -/
def info (message : String) : Activity := { log := [⟨.info, message⟩] }

/-- The activity of logging an error. -/
def error (message : String) : Activity := { log := [⟨.error, message⟩] }

/-- The activity of publishing the notices of a document. -/
def publish (uri : String) (notices : List Client.Notice) : Activity := { published := [(uri, notices)] }

/-- The activity of an analysis. -/
def analysis : Activity := { analyses := 1 }

end Activity

/-- Why a message cannot be answered. -/
inductive Failure where
  /-- the address of a document leads nowhere -/
  | address (e : AddressError)
  /-- the document is not open, and it cannot be read from its file -/
  | reading (e : FileError)
  /-- the text of a document, or the key of the settings, is no text -/
  | encoding (e : RawText.EncodingError)
  | position (e : Client.PositionError)
  /-- the pattern of the settings cannot be read -/
  | pattern (source : Text) (fault : Pattern.Fault)
  deriving DecidableEq, Repr

/-- The wording of a failure. -/
def Failure.message : Failure → String
  | .address e => e.message
  | .reading e => e.message
  | .encoding e => e.message
  | .position e => e.message
  | .pattern source fault => fault.message source

/-- What handling a message gives: an answer or a failure, the state after it, and what the server did. -/
structure Reaction (α : Type) where
  result : Except Failure α
  state : State
  activity : Activity

namespace Reaction

/-- An answer. -/
def answer {α : Type} (a : α) (state : State) (activity : Activity) : Reaction α := ⟨.ok a, state, activity⟩

/-- A failure. -/
def failure {α : Type} (f : Failure) (state : State) (activity : Activity) : Reaction α := ⟨.error f, state, activity⟩

/-- A reaction with some activity before it. -/
def after {α : Type} (earlier : Activity) (r : Reaction α) : Reaction α := { r with activity := earlier ++ r.activity }

end Reaction

end Server

end ExprLex
