import CompileCommands.CommandLine

/-!
# The program

The files that matter are read into a file system, and the command line is run over it. From
here no other program can be started, so every call of the build tool is refused.
-/

namespace CompileCommands

/-- A file system with a directory and those above it. -/
def FileSystem.withDirectory (fs : FileSystem) (location : Location) : FileSystem :=
  let directories := (List.range location.length).map fun n => location.take (n + 1)
  directories.foldl (·.set · .directory) fs

/-- A file system with a file and the directories above it. -/
def FileSystem.withFile (fs : FileSystem) (location : Location) (content : List UInt8)
    (isProgram : Bool) : FileSystem :=
  (fs.withDirectory location.dropLast).set location (.file content isProgram)

/-- The paths that the build tool may have. -/
def CommandLine.programs (host : Host) (fs : FileSystem) (arguments : List String) :
    List String :=
  match Options.read arguments with
  | .error _ => []
  | .ok options =>
    match (options.config host).runFrom fs with
    | (.ok config, _) => Bazel.candidates host config.bazel
    | (.error _, _) => []

/-- Refuse a call. -/
def refuseCall : Launch := fun _ =>
  throw (.other 38 "Function not implemented")

/-- The content of a file, if it can be read. -/
def contentAt? (path : String) : IO (Option (List UInt8)) := do
  try return some (← IO.FS.readBinFile path).toList
  catch _ => return none

/-- Add the files at some paths to a file system. -/
def readInto (host : Host) (isProgram : Bool) (fs : FileSystem) (paths : List String) :
    IO FileSystem := do
  let mut fs := fs
  for path in paths do
    if let some content ← contentAt? path then
      let location := Path.components (Path.join (FileSystem.pathOf host.directory) path)
      fs := fs.withFile location content isProgram
  return fs

end CompileCommands

open CompileCommands in
/-- Run the command line. -/
def main (arguments : List String) : IO UInt32 := do
  let here := (← IO.currentDir).toString
  let host : Host := {
    directory := Path.components here
    home := (← IO.getEnv "HOME").getD ""
    searchPath := (← IO.getEnv "PATH").getD "" }
  let settings := [Config.Layer.homeFile host, Path.settings here]
  let fs ← readInto host false (FileSystem.withDirectory {} host.directory) settings
  let fs ← readInto host true fs (CommandLine.programs host fs arguments)
  let (ending, _) := (CommandLine.run host refuseCall arguments).run ⟨fs, []⟩
  (← IO.getStdout).putStr ending.output
  (← IO.getStderr).putStr ending.complaints
  return UInt32.ofNat ending.code
