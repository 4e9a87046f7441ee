import CompileCommands.Failure

/-!
# Finding settings

Settings are looked for in the home directory and in the current directory. A file that cannot
be read says nothing; one that can be read has to be well-formed.
-/

namespace CompileCommands.Config.Layer

/-- The settings in a file, if it can be read. -/
def load? (host : Host) (path : String) : FileTask Failure (Option Layer) := do
  match (← FileTask.look).readText? host.directory path with
  | none => return none
  | some text =>
    match Settings.ofText text with
    | .ok layer => return some layer
    | .error e => throw (.badSettings path e)

/-- The file of settings in the home directory. -/
def homeFile (host : Host) : String := Path.settings host.homeDirectory

/-- A layer under the settings in some files, the later over the earlier. -/
def loadOver (host : Host) (layer : Layer) : List String → FileTask Failure Layer
  | [] => return layer
  | path :: rest => do
    let found ← load? host path
    loadOver host (layer.merge (found.getD {})) rest

/-- The settings in the home directory and, over them, those in a directory. -/
def discover (host : Host) (directory : String) : FileTask Failure Layer :=
  loadOver host {} [homeFile host, Path.settings directory]

end CompileCommands.Config.Layer
