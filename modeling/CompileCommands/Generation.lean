import CompileCommands.Bazel
import CompileCommands.Database.File
import CompileCommands.External
import CompileCommands.Query

/-!
# Generating compile commands

The build tool is located and asked for the workspace and for its compile actions; their
commands become the database of the workspace; and the link to the external repositories is
made. The first failure ends it all, and before the actions are known nothing is written.
-/

namespace CompileCommands

/-- What has been generated. -/
structure Summary where
  /-- The workspace. -/
  workspace : String
  /-- The file of the database. -/
  database : String
  /-- How many actions the build tool reported. -/
  actions : Nat
  /-- How many commands the database has. -/
  commands : Nat
  /-- What became of the link. -/
  external : External.Outcome
  deriving DecidableEq, Repr

/-- Generate the compile commands of the workspace around the current directory. -/
def generate (host : Host) (launch : Launch) (config : Config) : FileTask Failure Summary := do
  let bazel ← Bazel.locate host config.bazel
  let workspace ← bazel.workspace launch
  let output ← bazel.query launch workspace (Query.arguments config)
  let actions ← .ofExcept ((ActionGraph.decode output).mapError Failure.undecodable)
  let commands := Database.assemble workspace actions
  let database ← Database.write host workspace commands
  let executionRoot ← bazel.executionRoot launch workspace
  let external ← External.link host workspace executionRoot
  return {
    workspace, database, actions := actions.length, commands := commands.length, external }

end CompileCommands
