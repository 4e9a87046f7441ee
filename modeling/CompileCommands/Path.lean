import CompileCommands.Text.Fields
import CompileCommands.Text.Opening

/-!
# Paths

Paths as text: joining, the parent directory and the file name. Nothing is normalised and no
file system is asked. The components of a path leave out empty segments, and segments that
are a single dot unless the path starts with one.
-/

namespace CompileCommands.Path

/-- The file of compile commands in a workspace. -/
def databaseName : String := "compile_commands.json"

/-- The file of settings in a directory. -/
def settingsName : String := ".bazel-compdb"

/-- The directory of external repositories. -/
def externalName : String := "external"

/-- The path starts at the root. -/
def isAbsolute (path : String) : Bool :=
  Text.startsWith "/" path

/-- The path of `name` inside `directory`. An absolute name stands for itself, the empty
directory adds nothing, and a slash at the end of the directory is not doubled. -/
def join (directory name : String) : String :=
  if isAbsolute name || directory = "" then name
  else if directory.toList.getLast? = some '/' then directory ++ name
  else directory ++ "/" ++ name

/-- The segments between the slashes, without empty ones. -/
def segments (path : String) : List String :=
  (Text.fields '/' path).filter (· ≠ "")

/-- The components of a path after the root. -/
def components (path : String) : List String :=
  match segments path with
  | [] => []
  | first :: rest =>
    let rest := rest.filter (· ≠ ".")
    if first = "." ∧ isAbsolute path then rest else first :: rest

/-- How many components a path has, the root counting as one. -/
def depth (path : String) : Nat :=
  (components path).length + if isAbsolute path then 1 else 0

/-- The path of the directory that holds the last component, if there is a component. -/
def parent? (path : String) : Option String :=
  match components path with
  | [] => none
  | first :: rest =>
    let above := "/".intercalate (first :: rest).dropLast
    some (if isAbsolute path then "/" ++ above else above)

/-- A path, the directory that holds it, the one that holds that, and so on. -/
def ancestorsUpTo : (count : Nat) → String → List String
  | 0, path => [path]
  | count + 1, path =>
    match parent? path with
    | some above => path :: ancestorsUpTo count above
    | none => [path]

/-- A path and all directories above it. -/
def ancestors (path : String) : List String :=
  ancestorsUpTo (depth path) path

/-- The last component of a path, if it is a name. -/
def fileName? (path : String) : Option String :=
  (components path).getLast?.filter fun name => name ≠ "." ∧ name ≠ ".."

/-- The file of compile commands of a workspace. -/
def database (workspace : String) : String := join workspace databaseName

/-- The settings of a directory. -/
def settings (directory : String) : String := join directory settingsName

/-- The link in a workspace that leads to the external repositories. -/
def externalLink (workspace : String) : String := join workspace externalName

/-- Where the link in a workspace leads to. -/
def externalTarget (executionRoot : String) : String := join executionRoot externalName

end CompileCommands.Path
