import ExprLex.Server.State

/-!
# Validating a document

A document is validated by publishing the notices of its analysis. First of all the text and the key of the settings are
encoded, to be compared with those of the last analysis; where that fails the validation fails, and nothing is published. The
analysis is made anew unless the last one was made from the same text and under settings that amount to the same. A pattern
that is malformed is replaced by the default one; any other failure of the analysis is published as a notice of its own, and
leaves the last analysis as it was.
-/

namespace ExprLex

namespace Server

/-- The notices of an analysis. -/
def noticesOf (a : Analysis) : Except Client.PositionError (List Client.Notice) :=
  a.diagnostics.mapM fun (line, d) => Client.Notice.ofDiagnostic a.lines line d

namespace State

/-- The pattern that documents are analysed with, and the complaint about the one that is set if it is malformed. A bound
that is too large is a failure, and so are groups that nest too deep. -/
def currentPattern (sv : State) : Except Failure (Pattern × Activity) :=
  match sv.settings.delimiter sv.engine with
  | .ok pattern => .ok (pattern, {})
  | .error fault =>
    if fault.isMalformed then
      .ok (.default, .error ("Invalid delimiter pattern " ++ (sv.settings.pattern.getD .null).inner.toString ++
        ", using default: " ++ fault.message sv.settings.patternText.shown))
    else .error (.pattern sv.settings.patternText.shown fault)

/-- The last analysis of a document, if it was made from this text and under settings that amount to the present ones. -/
def upToDate? (sv : State) (uri : String) (source : Text) : Option Entry :=
  (sv.cache.get? uri).filter fun entry => entry.source == source && entry.key == sv.settings.key

/-- A fresh analysis of a text and the notices it gives, or why there are none, and what the server does meanwhile. -/
def inspect (sv : State) (source : Text) : Except Failure (Analysis × List Client.Notice) × Activity :=
  match sv.currentPattern with
  | .error f => (.error f, {})
  | .ok (pattern, complaint) =>
    let analysis := analyse pattern sv.settings.rules sv.settings.strict source
    ((noticesOf analysis).mapError .position |>.map (analysis, ·), complaint ++ Activity.analysis)

/-- Validates a document by a fresh analysis, which becomes the last one unless it fails. -/
def validateAnew (sv : State) (uri : String) (source : Text) : Reaction Unit :=
  match sv.inspect source with
  | (.ok (analysis, notices), work) =>
    .answer () { sv with cache := sv.cache.put uri ⟨analysis, source, sv.settings.key⟩ }
      (work ++ .publish uri notices ++ .info ("Tokenizing complete: " ++ uri ++ " (0.000s, " ++
        toString analysis.diagnostics.length ++ " diagnostics)"))
  | (.error f, work) =>
    .answer () sv (work ++ .publish uri [.internalError ("Internal error: " ++ f.message)] ++
      .error ("Tokenizing failed for " ++ uri ++ ": " ++ f.message))

/-- Publishes the notices of the last analysis again. -/
def publishAgain (sv : State) (uri : String) (entry : Entry) : Reaction Unit :=
  match noticesOf entry.analysis with
  | .ok notices =>
    .answer () sv (.publish uri notices ++ .info ("Cache hit for " ++ uri ++ " (source unchanged)"))
  | .error e => .failure (.position e) sv {}

/-- Validates a document that can be encoded. `force` asks for a fresh analysis in any case. -/
def validateText (sv : State) (uri : String) (source : Text) (force : Bool) : Reaction Unit :=
  match if force then none else sv.upToDate? uri source with
  | some entry => sv.publishAgain uri entry
  | none => sv.validateAnew uri source

/-- The text of a document that is encoded to be compared, and after it the key of the settings. -/
def encoded (sv : State) (source : RawText) : Except Failure Text := do
  let text ← source.encode.mapError .encoding
  let _ ← sv.settings.key.encode.mapError .encoding
  return text

/-- Validates a document. -/
def validate (sv : State) (uri : String) (source : RawText) (force : Bool) : Reaction Unit :=
  .after (.info ("Tokenizing " ++ uri))
    (match sv.encoded source with
      | .error f => .failure f sv {}
      | .ok text => sv.validateText uri text force)

end State

end Server

end ExprLex
