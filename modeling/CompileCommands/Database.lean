import CompileCommands.Compile.Classification
import CompileCommands.Json.Pretty

/-!
# The database of compile commands

One record for every compile action, in the order of the actions, and the text of the file
that holds the records.
-/

namespace CompileCommands

/-- How one source is compiled. -/
structure Command where
  /-- Where the compiler runs. -/
  directory : String
  /-- The whole command line, program first. -/
  arguments : List String
  /-- The source. -/
  file : String
  /-- What the compiler writes. -/
  output : String
  deriving DecidableEq, Repr

namespace Command

/-- The command of an action, if it is a compile action. -/
def ofAction? (workspace : String) (action : Action) : Option Command :=
  action.classify?.map fun found =>
    { directory := workspace, arguments := action.arguments, file := found.source
      output := found.output }

/-- The record of a command in the database. -/
def toJson (command : Command) : Json.Value :=
  .object [
    ("directory", .text command.directory),
    ("arguments", .ofTexts command.arguments),
    ("file", .text command.file),
    ("output", .text command.output)]

end Command

namespace Database

/-- The commands of some actions. -/
def assemble (workspace : String) (actions : List Action) : List Command :=
  actions.filterMap (Command.ofAction? workspace)

/-- The text of the database. -/
def render (commands : List Command) : String :=
  (Json.Value.array (commands.map Command.toJson)).pretty ++ "\n"

/-- There are at most as many commands as actions. -/
theorem length_assemble_le (workspace : String) (actions : List Action) :
    (assemble workspace actions).length ≤ actions.length :=
  List.length_filterMap_le ..

/-- The commands of two lists of actions, one after the other. -/
@[simp] theorem assemble_append (workspace : String) (first second : List Action) :
    assemble workspace (first ++ second) = assemble workspace first ++ assemble workspace second :=
  List.filterMap_append ..

end Database

end CompileCommands
