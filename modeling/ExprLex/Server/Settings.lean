import ExprLex.Payload
import ExprLex.Pattern.Delimiter
import ExprLex.Token.Classify

/-!
# Settings of the server

What a client may set: whether advice is reported, whether a change of a document sets off an analysis, which function names
there are, and the delimiter pattern. Clients send values of any shape. A flag goes by whether its value counts as true,
function names are the displays of the items of a list, and the pattern is the display of its value. Names and patterns may
hold surrogates. Such a name is the lexeme of no text, and under such a pattern no document is analysed.
-/

namespace ExprLex

namespace Server

/-- The settings of a server. -/
structure Settings where
  /-- advisory diagnostics are reported too -/
  strict : Bool := false
  /-- a change of a document is followed by its analysis, after a delay -/
  analyseOnChange : Bool := false
  /-- function names besides the catalogue -/
  functions : List RawText := []
  /-- the catalogue of function names counts -/
  includeDefaults : Bool := true
  /-- the delimiter pattern as it was sent, if it counts as true -/
  pattern : Option Payload := none

namespace Settings

/-- The settings after a client sent new ones. Only a record with fields has an effect, and only the fields it has. -/
def update (s : Settings) (options : Payload) : Settings where
  strict := ((options.field? "strict").map Payload.isTrue).getD s.strict
  analyseOnChange := ((options.field? "analyzeOnChange").map Payload.isTrue).getD s.analyseOnChange
  functions := match options.field? "functions" with
    | some (.list names) => names.map Payload.display
    | _ => s.functions
  includeDefaults := ((options.field? "includeDefaultFunctions").map Payload.isTrue).getD s.includeDefaults
  pattern := match options.field? "pattern" with
    | some value => if value.isTrue then some value else none
    | none => s.pattern

/-- The display of the pattern; it is that of null where none is set. -/
def patternText (s : Settings) : RawText := (s.pattern.getD .null).display

/-- The text that tells whether an analysis was made under settings that amount to the same: the flag for advice, the sorted
function names, the flag for the catalogue and the pattern, all as they are displayed. -/
def key (s : Settings) : RawText :=
  (Payload.flag s.strict).display ++
    (Payload.list ((RawText.sorted s.functions).map .text)).display ++
    (Payload.flag s.includeDefaults).display ++ s.patternText

/-- The function names that are texts, without the catalogue. -/
def names (s : Settings) : List Text := s.functions.filterMap fun name => name.encode.toOption

/-- The classification rules under the settings. -/
def rules (s : Settings) : Rules := .ofFunctions (.build s.names s.includeDefaults)

/-- All function names, each once, in the order of their code points. -/
def listedNames (s : Settings) : List RawText :=
  (RawText.sorted ((Registry.build [] s.includeDefaults).map .ofText ++ s.functions)).eraseDups

/-- The delimiter pattern under the settings: the default one where none is set. One that is no text is read as it is
shown. -/
def delimiter (s : Settings) (engine : Pattern.Engine) : Except Pattern.Fault Pattern :=
  match s.pattern with
  | none => .ok .default
  | some value => Pattern.compile engine value.display.shown

end Settings

end Server

end ExprLex
