import ExprLex.Text.Quoted

/-!
# Paths

A path leads from the working directory or from the root to a file, by the names of the directories on the way. Its spelling
is not unique: doubled and trailing slashes and single points mean nothing, and only two slashes at the very start are told
apart from one. A double point leads up, which is left for the files to decide.
-/

namespace ExprLex

namespace Path

/-- Where a path starts. -/
inductive Origin where
  /-- the working directory -/
  | here
  /-- the root, spelled with one slash or with more than two -/
  | root
  /-- the root, spelled with two slashes -/
  | doubleRoot
  deriving DecidableEq, Repr

end Path

/-- A path: where it starts, and the names on the way. -/
structure Path where
  origin : Path.Origin
  names : List Text
  deriving DecidableEq, Repr

namespace Path

/-- The start of the path that a text spells. -/
def Origin.ofText : Text → Origin
  | '/' :: '/' :: '/' :: _ => .root
  | '/' :: '/' :: _ => .doubleRoot
  | '/' :: _ => .root
  | _ => .here

/-- How the start of a path is spelled. -/
def Origin.toText : Origin → Text
  | .here => []
  | .root => ['/']
  | .doubleRoot => ['/', '/']

/-- The path that a text spells. -/
def ofText (t : Text) : Path where
  origin := .ofText t
  names := (Text.splitOn '/' t).filter fun name => !(name.isEmpty || name == ['.'])

/-- The shortest spelling of a path. The working directory itself is a single point. -/
def toText (p : Path) : Text :=
  match p.origin, p.names with
  | .here, [] => ['.']
  | origin, names => origin.toText ++ ['/'].intercalate names

/-- The path as reports show it. -/
def quoted (p : Path) : String := p.toText.quoted

end Path

end ExprLex
