import ExprLex.Path
import ExprLex.Text.Utf8

/-!
# Files

A command reads files by their paths. What it sees of the files is a function from paths to bytes, or to the reason why
there are none; a path with a null character is not even looked for. One source of files is a tree under the working
directory. Reading from it walks down the names of the path. Nothing is known of what lies outside of the tree but that
there are directories on the way to it.
-/

namespace ExprLex

/-- Why a file cannot be read. -/
inductive FileError where
  | notFound (path : Path)
  | isDirectory (path : Path)
  | notDirectory (path : Path)
  | nameTooLong (path : Path)
  /-- for a reason of another kind, by its number and its wording -/
  | unreadable (path : Path) (number : Nat) (reason : String)
  /-- the path holds a null character -/
  | nullCharacter
  /-- the file holds bytes that are no text, where that is not put up with -/
  | undecodable (misfit : Utf8.Misfit)
  deriving DecidableEq, Repr

/-- The wording of an error. -/
def FileError.message : FileError → String
  | .notFound path => "[Errno 2] No such file or directory: " ++ path.quoted
  | .isDirectory path => "[Errno 21] Is a directory: " ++ path.quoted
  | .notDirectory path => "[Errno 20] Not a directory: " ++ path.quoted
  | .nameTooLong path => "[Errno 36] File name too long: " ++ path.quoted
  | .unreadable path number reason => "[Errno " ++ toString number ++ "] " ++ reason ++ ": " ++ path.quoted
  | .nullCharacter => "embedded null byte"
  | .undecodable misfit => misfit.message

/-- Whether an error comes from looking for the file, and not from the path alone or from what the file holds. -/
def FileError.isSystem : FileError → Bool
  | .nullCharacter => false
  | .undecodable _ => false
  | _ => true

/-- The files that a command sees. -/
structure FileSystem where
  /-- the bytes of the file at a path -/
  bytes : Path → Except FileError (List UInt8)
  /-- the names on the way to each file and each directory under the working directory -/
  listing : List (List Text)

namespace FileSystem

/-- The text of the file at the path that a text spells. -/
def read (files : FileSystem) (path : Text) : Except FileError Text :=
  if path.contains '\x00' then .error .nullCharacter else (files.bytes (.ofText path)).map Text.ofBytes

/-- The text of the file at the path that a text spells, if all its bytes fit. -/
def readStrictly (files : FileSystem) (path : Text) : Except FileError Text := do
  if path.contains '\x00' then .error .nullCharacter
  else
    let bytes ← files.bytes (.ofText path)
    return Text.unifyBreaks (← (Utf8.decodeStrictly bytes).mapError .undecodable)

/-- Whether there is a file or a directory at a path. A name that is too long is neither there nor missing. -/
def isThere (files : FileSystem) (path : Text) : Except FileError Bool :=
  match files.read path with
  | .ok _ => .ok true
  | .error (.isDirectory _) => .ok true
  | .error (.nameTooLong p) => .error (.nameTooLong p)
  | .error _ => .ok false

end FileSystem

/-- What is at a place. -/
inductive Node where
  | file (bytes : List UInt8)
  | directory
  deriving DecidableEq, Repr

/-- A tree of files: the names on the way to each, and what is there. A directory is there as soon as something is in it. -/
abbrev FileTree : Type := List (List Text × Node)

namespace FileTree

/-- A place that a walk reaches. -/
inductive Place where
  /-- in the tree, by the names on the way -/
  | inside (names : List Text)
  /-- above the tree -/
  | outside
  deriving DecidableEq, Repr

/-- What is at a place. -/
def node? (tree : FileTree) : Place → Option Node
  | .outside => some .directory
  | .inside names =>
    match tree.lookup names with
    | some node => some node
    | none => if names.isEmpty || tree.any (fun (p, _) => names.isPrefixOf p) then some .directory else none

/-- The place that a name leads to from a directory, if the tree knows of it. -/
def Place.step? : Place → (name : Text) → Option Place
  | .outside, name => if name = ['.', '.'] then some .outside else none
  | .inside [], name => if name = ['.', '.'] then some .outside else some (.inside [name])
  | .inside names, name => if name = ['.', '.'] then some (.inside names.dropLast) else some (.inside (names ++ [name]))

/-- The number of bytes of a text. -/
def byteLength : Text → Nat
  | [] => 0
  | c :: t => c.utf8Size + byteLength t

/-- The most bytes that a name may have. -/
def nameLimit : Nat := 255

/-- The most bytes that the spelling of a path may have. -/
def pathLimit : Nat := 4095

/-- What some names lead to from a place that was reached. `path` is the whole path, for error messages. -/
def walk (tree : FileTree) (path : Path) : (reached : Place) → (names : List Text) → Except FileError Node
  | reached, [] =>
    match tree.node? reached with
    | none => .error (.notFound path)
    | some node => .ok node
  | reached, name :: rest =>
    match tree.node? reached with
    | none => .error (.notFound path)
    | some (.file _) => .error (.notDirectory path)
    | some .directory =>
      if nameLimit < byteLength name then .error (.nameTooLong path)
      else
        match reached.step? name with
        | none => .error (.notFound path)
        | some next => walk tree path next rest

/-- The bytes of the file at a path. -/
def bytes (tree : FileTree) (path : Path) : Except FileError (List UInt8) :=
  if pathLimit < byteLength path.toText then .error (.nameTooLong path)
  else
    match tree.walk path (if path.origin = .here then .inside [] else .outside) path.names with
    | .error e => .error e
    | .ok .directory => .error (.isDirectory path)
    | .ok (.file bytes) => .ok bytes

/-- The names on the way to all that is in a tree, directories included, each once. -/
def listing (tree : FileTree) : List (List Text) :=
  (tree.flatMap fun (p, _) => (List.range p.length).map fun n => p.take (n + 1)).eraseDups

/-- The files of a tree, as a command sees them. -/
def toFileSystem (tree : FileTree) : FileSystem := ⟨tree.bytes, tree.listing⟩

end FileTree

end ExprLex
