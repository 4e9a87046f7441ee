import CompileCommands.Shell.Utility

/-!
# Which program a file is

A file that may be run is a program of the system, or a script that names the program for it in
its first line. That program may be a script again, a few times over.
-/

namespace CompileCommands.Shell

/-- The directories of the programs that come with the system. -/
def systemDirectories : List Location := [["bin"], ["usr", "bin"]]

/-- The names of the programs that come with the system. -/
def systemPrograms : List String :=
  "sh" :: (utilities fun _ _ => return).map (·.1)

/-- The entries that every host has. -/
def systemEntries : List (Location × Entry) :=
  (["bin"] :: ["dev"] :: ["tmp"] :: ["usr"] :: [["usr", "bin"]]).map (·, .directory) ++
    (sinkhole, .file [] false) :: (Utility.zeros, .file [] false) ::
    systemDirectories.flatMap fun directory =>
      systemPrograms.map fun name => (directory ++ [name], .file [] true)

/-- The program of the system at a location, if there is one. -/
def systemProgram? (location : Location) : Option String :=
  location.getLast?.filter fun name =>
    systemDirectories.contains location.dropLast && systemPrograms.contains name

/-- The program that a script names in its first line, and the argument for it. -/
def interpreter? (content : List UInt8) : Option (String × List String) :=
  match (Text.Octets.ofBytes content).toList with
  | '#' :: '!' :: rest =>
    let line := (rest.takeWhile (· ≠ '\n')).dropWhile isBlank
    let program := line.takeWhile (!isBlank ·)
    let argument := ((line.drop program.length).dropWhile isBlank).reverse.dropWhile isBlank
    if program = [] then none
    else some (String.ofList program,
      if argument = [] then [] else [String.ofList argument.reverse])
  | _ => none

/-- A program of the system that is run: its name, the title that it is called by, and its
arguments. -/
structure Image where
  /-- The name of the program. -/
  name : String
  /-- The title. -/
  title : String
  /-- The arguments. -/
  arguments : List String
  deriving DecidableEq, Repr

/-- How many files may be tried, each the program for the one before it. -/
def maxInterpreters : Nat := 6

/-- What is run when the file at a path is run under a title. -/
def imageUpTo (fs : FileSystem) (here : Location) : (count : Nat) → (path title : String) →
    (arguments : List String) → Except OsError Image
  | 0, _, _, _ => .error .tooManyLinks
  | n + 1, path, title, arguments => do
    let location ← fs.programAt here (Text.Octets.toText path)
    match systemProgram? location, fs.at? location with
    | some name, _ => return { name, title, arguments }
    | none, some (.file content _) =>
      match interpreter? content with
      | some (program, argument) =>
        imageUpTo fs here n program program (argument ++ path :: arguments)
      | none => throw .noExec
    | none, _ => throw .accessDenied

/-- What is run when the file at a path is run under a title. -/
def image (fs : FileSystem) (here : Location) (path title : String) (arguments : List String) :
    Except OsError Image :=
  imageUpTo fs here maxInterpreters path title arguments

end CompileCommands.Shell
