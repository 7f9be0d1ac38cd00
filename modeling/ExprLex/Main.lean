import ExprLex.CommandLine.Run

/-!
# The command

The files that the arguments call for are read first. What the command makes of them is printed, and its exit code is
returned.
-/

namespace ExprLex

namespace CommandLine

/-- The reason for a failed attempt to read the file at a path. -/
def reasonFor (path : Path) : IO.Error → FileError
  | .noFileOrDirectory _ _ _ => .notFound path
  | .inappropriateType _ number _ => if number = 21 then .isDirectory path else .notDirectory path
  | .invalidArgument _ number reason => if number = 36 then .nameTooLong path else .unreadable path number.toNat reason
  | .permissionDenied _ number reason => .unreadable path number.toNat reason
  | _ => .unreadable path 5 "Input/output error"

/-- The bytes of the file at a path, or why there are none. -/
def bytesAt (path : Path) : IO (Except FileError (List UInt8)) := do
  try return .ok (← IO.FS.readBinFile path.toText.toString).toList
  catch e => return .error (reasonFor path e)

/-- The names on the way to a directory entry and to all that is in it, as far down as a path can lead. -/
def namesFrom : (depth : Nat) → (way : List Text) → IO.FS.DirEntry → IO (List (List Text))
  | 0, _, _ => return []
  | depth + 1, way, entry => do
    let here := way ++ [entry.fileName.toList]
    let entries ← try entry.path.readDir catch _ => pure #[]
    return here :: (← entries.toList.mapM (namesFrom depth here)).flatten

/-- The names on the way to all that is in the directory of fixtures. -/
def fixtureNames : IO (List (List Text)) := do
  let tops := (← (← IO.currentDir).readDir).toList.filter fun entry => entry.fileName.toList == Fixture.directory
  return (← tops.mapM (namesFrom FileTree.pathLimit [])).flatten

/-- The files that a request calls for. -/
def filesFor (r : Request) : IO FileSystem := do
  let listing ← if r.tests then fixtureNames else pure []
  let fixtures := Fixture.suitePaths ⟨fun path => .error (.notFound path), listing⟩
  let named := [r.file, r.functionsFile].filterMap id ++ fixtures
  let found ← named.mapM fun name => do return (Path.ofText name, ← bytesAt (.ofText name))
  return ⟨fun path => (found.lookup path).getD (.error (.notFound path)), listing⟩

/-- What a run gives that depends on how long it takes. It is run once to learn that. -/
def timed (runFor : (elapsed : Nat) → Outcome) : IO Outcome := do
  let start ← IO.monoMsNow
  let _ ← IO.wait (Task.spawn fun _ => runFor 0)
  return runFor ((← IO.monoMsNow) - start)

/-- What the arguments give. The command by itself knows no names of characters and no structural tests. -/
def perform (arguments : List Text) : IO Outcome := do
  match Request.ofTexts Installation.plain.conventions arguments with
  | .error _ => return run .plain arguments (FileTree.toFileSystem []) 0
  | .ok r =>
    let files ← filesFor r
    if r.benchmark then timed (run .plain arguments files) else return run .plain arguments files 0

end CommandLine

end ExprLex

open ExprLex

/-- Prints what the arguments give and returns the exit code. -/
def main (args : List String) : IO UInt32 := do
  let outcome ← CommandLine.perform (args.map String.toList)
  IO.print outcome.out
  IO.eprint outcome.err
  match outcome.ending with
  | .returned code => return code.toUInt32
  | .exited code => return code.toUInt32
  | .failed failure =>
    IO.eprintln ("mathlex: " ++ failure.message)
    return 1
