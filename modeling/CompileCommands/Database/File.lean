import CompileCommands.Database
import CompileCommands.Failure

/-!
# The file of the database

The database of a workspace is one file in it, written as a whole.
-/

namespace CompileCommands.Database

/-- Write the database of a workspace, and say where it is. -/
def write (host : Host) (workspace : String) (commands : List Command) :
    FileTask Failure String := do
  let path := Path.database workspace
  (host.writeWhole path (Text.Utf8.encode (render commands))).orFail
  return path

end CompileCommands.Database
