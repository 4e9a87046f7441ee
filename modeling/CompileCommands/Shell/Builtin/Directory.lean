import CompileCommands.Shell.State

/-!
# The current directory of a shell

A shell knows its current directory by the path along which it came there. Two dots take back
the last step of that path, even if the step followed a link.
-/

namespace CompileCommands.Shell

/-- The steps of a path, from the last one, after some others. -/
def stepsAfter : (steps : List String) → List String → List String
  | steps, [] => steps
  | steps, name :: rest =>
    if name = "" ∨ name = "." then stepsAfter steps rest
    else if name = ".." then stepsAfter steps.tail rest
    else stepsAfter (name :: steps) rest

/-- The path along which one comes from a directory to another path. -/
def pathFrom (path target : String) : String :=
  let start := if target.startsWith "/" then [] else stepsAfter [] (Text.fields '/' path)
  "/" ++ "/".intercalate (stepsAfter start (Text.fields '/' target)).reverse

/-- A shell in another directory. -/
def enter (shell : Shell) (directory : Location) (path : String) : Shell :=
  let moved := { shell with host := { shell.host with directory }, path }
  let moved := (moved.bind "OLDPWD" (some shell.path)).bind "PWD" (some path)
  { moved with exported := "PWD" :: "OLDPWD" :: moved.exported }

/-- The directory that the arguments of `cd` or `pwd` ask for, and whether links are followed. -/
def directoryArguments : (physical : Bool) → List String → ShellTask (Bool × List String)
  | physical, "--" :: rest => return (physical, rest)
  | physical, "-" :: rest => return (physical, "-" :: rest)
  | physical, argument :: rest => do
    match argument.toList with
    | '-' :: letters =>
      match letters.find? fun c => c ≠ 'L' ∧ c ≠ 'P' with
      | some c => fail ("Illegal option -" ++ String.singleton c)
      | none => directoryArguments (letters.getLast? = some 'P') rest
    | _ => return (physical, argument :: rest)
  | physical, [] => return (physical, [])

/-- Go to another directory. -/
def changeDirectory (arguments : List String) : ShellTask Unit := do
  let (physical, arguments) ← directoryArguments false arguments
  let shell ← get
  let target := match arguments with
    | [] => shell.valueOf "HOME"
    | "-" :: _ => (shell.binding? "OLDPWD").getD shell.path
    | path :: _ => path
  let path := if physical then target else pathFrom shell.path target
  let fs ← files
  match fs.resolve shell.host.directory (Text.Octets.toText (Path.join path ".")) with
  | .ok directory =>
    let path :=
      if physical then Text.Octets.ofText (FileSystem.pathOf directory) else path
    set (shell.enter directory path)
    if arguments.head? = some "-" then print (path ++ "\n")
    finish 0
  | .error _ => fail ("can't cd to " ++ target)

/-- Write the path of the current directory. -/
def printDirectory (arguments : List String) : ShellTask Unit := do
  let (physical, _) ← directoryArguments false arguments
  let shell ← get
  let path :=
    if physical then Text.Octets.ofText (FileSystem.pathOf shell.host.directory) else shell.path
  print (path ++ "\n")
  finish 0

end CompileCommands.Shell
