import ExprLex.Lexeme

/-!
# Arguments of the command

The arguments of the command are first told apart one by one: options, which may be abbreviated, words, and the mark behind
which all are words. Then they take effect from left to right. The first word is the expression; what nothing can be made of
is collected, and is an error at the end. The conventions for options have two editions (`Conventions`), which differ in what
becomes of a value that looks like the separator and of what is attached to the short call for help.
-/

namespace ExprLex

namespace CommandLine

/-- The options of the command. -/
inductive Switch where
  | help | file | pattern | functions | functionsFile | noDefaultFunctions | lexemes | strict | tests | benchmark | verbose
  deriving DecidableEq, Repr

namespace Switch

/-- The long spelling of an option. -/
def spelling : Switch → String
  | .help => "--help"
  | .file => "--file"
  | .pattern => "--pattern"
  | .functions => "--functions"
  | .functionsFile => "--functions-file"
  | .noDefaultFunctions => "--no-default-functions"
  | .lexemes => "--lexemes"
  | .strict => "--strict"
  | .tests => "--tests"
  | .benchmark => "--benchmark"
  | .verbose => "--verbose"

/-- How an option is named in error messages, with all its spellings. -/
def title : Switch → String
  | .help => "-h/--help"
  | s => s.spelling

/-- Whether an option has a value. -/
def takesValue : Switch → Bool
  | .file | .pattern | .functions | .functionsFile => true
  | _ => false

/-- All options, in the order in which the help lists them. -/
def all : List Switch :=
  [.help, .file, .pattern, .functions, .functionsFile, .noDefaultFunctions, .lexemes, .strict, .tests, .benchmark, .verbose]

/-- The options whose long spelling starts like this. -/
def startingWith (start : Text) : List Switch := all.filter fun s => start.isPrefixOf s.spelling.toList

end Switch

/-- Why the arguments cannot be used. -/
inductive UsageError where
  | ambiguous (argument : Text) (candidates : List Switch)
  | valueMissing (s : Switch)
  | valueIgnored (s : Switch) (value : Text)
  | unrecognised (arguments : List Text)
  deriving DecidableEq, Repr

/-- The wording of an error. -/
def UsageError.message : UsageError → String
  | .ambiguous argument candidates =>
    "ambiguous option: " ++ argument.toString ++ " could match " ++ ", ".intercalate (candidates.map Switch.spelling)
  | .valueMissing s => "argument " ++ s.title ++ ": expected one argument"
  | .valueIgnored s value => "argument " ++ s.title ++ ": ignored explicit argument " ++ value.quoted
  | .unrecognised arguments => "unrecognized arguments: " ++ " ".intercalate (arguments.map Text.toString)

/-- The editions of the conventions for options. -/
inductive Conventions where
  /-- A value attached to an option is dropped if it looks like the separator, and nothing but more letters of the same option
  may follow a short one. -/
  | early
  /-- All values stay, and a short option is heard whatever letter follows it. -/
  | late
  deriving DecidableEq, Repr

/-- What an argument is. -/
inductive Argument where
  | word (t : Text)
  /-- an option, with the value that is attached to it, if any; `short` tells its short spelling, to which anything may be
  attached, a sign of equality included -/
  | switch (s : Switch) (short : Bool) (attached : Option Text)
  /-- an option that the command does not have -/
  | unknown (t : Text)
  /-- the mark behind which all arguments are words -/
  | separator
  deriving DecidableEq, Repr

/-- Whether an argument is a negative number, which is a word. A line feed at its end does not matter. -/
def isNegativeNumber : Text → Bool
  | '-' :: rest => Lexeme.isNumber (if rest.getLast? = some '\n' then rest.dropLast else rest)
  | _ => false

/-- What an argument with a leading dash is if it is no option. -/
def wordOrUnknown (t : Text) : Argument := if isNegativeNumber t || t.contains ' ' then .word t else .unknown t

namespace Argument

/-- What an argument with two leading dashes is: an option by its spelling or by the start of it, if that fits no other. -/
def ofLong (t : Text) : Except UsageError Argument :=
  let (name, attached) := Text.cutAt '=' t
  match Switch.all.find? fun s => s.spelling.toList == name with
  | some s => .ok (.switch s false attached)
  | none =>
    match Switch.startingWith name with
    | [] => .ok (wordOrUnknown t)
    | [s] => .ok (.switch s false attached)
    | candidates => .error (.ambiguous t candidates)

/-- What an argument is that comes before any separator. -/
def ofText (t : Text) : Except UsageError Argument :=
  match t with
  | '-' :: '-' :: _ => ofLong t
  | ['-', 'h'] => .ok (.switch .help true none)
  | '-' :: 'h' :: attached => .ok (.switch .help true (some attached))
  | ['-'] => .ok (.word t)
  | '-' :: _ => .ok (wordOrUnknown t)
  | _ => .ok (.word t)

/-- What the arguments are. -/
def ofTexts : List Text → Except UsageError (List Argument)
  | [] => .ok []
  | t :: rest =>
    if t = ['-', '-'] then .ok (.separator :: rest.map .word)
    else do
      let argument ← ofText t
      return argument :: (← ofTexts rest)

end Argument

/-- What the arguments say about the delimiter pattern. -/
inductive PatternChoice where
  | unset
  | source (t : Text)
  /-- the option is there, but its value was dropped -/
  | void
  deriving DecidableEq, Repr

/-- What the arguments ask for. -/
structure Request where
  expression : Option Text := none
  file : Option Text := none
  pattern : PatternChoice := .unset
  functions : Option Text := none
  functionsFile : Option Text := none
  noDefaultFunctions : Bool := false
  lexemes : Bool := false
  strict : Bool := false
  tests : Bool := false
  benchmark : Bool := false
  verbose : Bool := false
  deriving DecidableEq, Repr

namespace Request

/-- The request with a value of an option; the last one counts. -/
def setValue (r : Request) (s : Switch) (value : Text) : Request :=
  match s with
  | .file => { r with file := some value }
  | .pattern => { r with pattern := .source value }
  | .functions => { r with functions := some value }
  | .functionsFile => { r with functionsFile := some value }
  | _ => r

/-- The request with a value that is attached to an option. By the early conventions a value that looks like the separator is
dropped: that leaves an empty path or list, and no pattern at all. -/
def attachValue (conventions : Conventions) (r : Request) (s : Switch) (value : Text) : Request :=
  if conventions = .late || value != ['-', '-'] then r.setValue s value
  else if s = .pattern then { r with pattern := .void }
  else r.setValue s []

/-- The request with an option that has no value. -/
def setFlag (r : Request) : Switch → Request
  | .noDefaultFunctions => { r with noDefaultFunctions := true }
  | .lexemes => { r with lexemes := true }
  | .strict => { r with strict := true }
  | .tests => { r with tests := true }
  | .benchmark => { r with benchmark := true }
  | .verbose => { r with verbose := true }
  | _ => r

/-- Why the arguments give no request. -/
inductive Stop where
  /-- they ask for help -/
  | help
  | usage (e : UsageError)
  deriving DecidableEq, Repr

/-- What a short call for help stops with by the early conventions. A sign of equality hands over what is behind it. -/
def earlyHelpStop (attached : Text) : Stop :=
  let value := if attached.head? = some '=' then attached.tail else attached
  let rest := value.dropWhile (· == 'h')
  if rest.isEmpty && !value.isEmpty then .help else .usage (.valueIgnored .help rest)

/-- What a short call for help stops with by the late conventions. Behind each of its letters a sign of equality or a dash
hands over a value; any other letter would be an option, but help comes first. -/
def lateHelpStop : (attached : Text) → Stop
  | '=' :: value => .usage (.valueIgnored .help value)
  | '-' :: rest => .usage (.valueIgnored .help ('-' :: rest))
  | 'h' :: rest => lateHelpStop rest
  | _ => .help

/-- What a call for help stops with. -/
def helpStop : Conventions → (short : Bool) → (attached : Option Text) → Stop
  | _, _, none => .help
  | _, false, some value => .usage (.valueIgnored .help value)
  | .early, true, some attached => earlyHelpStop attached
  | .late, true, some attached => lateHelpStop attached

section Collecting

variable (conventions : Conventions)

/-- The request of arguments that follow others. `placed` tells that the place of the expression has been passed, and
`extras` what nothing could be made of. A separator next to the expression belongs to it. -/
def collect : Request → (placed : Bool) → (extras : List Text) → List Argument → Except Stop Request
  | r, _, extras, [] => if extras.isEmpty then .ok r else .error (.usage (.unrecognised extras))
  | r, true, extras, .word t :: rest => collect r true (extras ++ [t]) rest
  | r, false, extras, .word t :: .separator :: rest => collect { r with expression := some t } true extras rest
  | r, false, extras, .word t :: rest => collect { r with expression := some t } true extras rest
  | r, true, extras, .separator :: rest => collect r true (extras ++ [['-', '-']]) rest
  | r, false, extras, .separator :: .word t :: rest => collect { r with expression := some t } true extras rest
  | r, false, extras, .separator :: rest => collect r true extras rest
  | r, placed, extras, .unknown t :: rest => collect r placed (extras ++ [t]) rest
  | r, placed, extras, .switch s short (some value) :: rest =>
    if s = .help then .error (helpStop conventions short (some value))
    else if s.takesValue then collect (attachValue conventions r s value) placed extras rest
    else .error (.usage (.valueIgnored s value))
  | r, placed, extras, .switch s short none :: .word value :: rest =>
    if s = .help then .error (helpStop conventions short none)
    else if s.takesValue then collect (r.setValue s value) placed extras rest
    else collect (r.setFlag s) placed extras (.word value :: rest)
  | r, placed, extras, .switch s short none :: rest =>
    if s = .help then .error (helpStop conventions short none)
    else if s.takesValue then .error (.usage (.valueMissing s))
    else collect (r.setFlag s) placed extras rest

/-- The request of the arguments of the command. -/
def ofTexts (arguments : List Text) : Except Stop Request := do
  let parsed ← (Argument.ofTexts arguments).mapError .usage
  collect conventions {} false [] parsed

end Collecting

end Request

end CommandLine

end ExprLex
