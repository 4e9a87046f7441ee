import CompileCommands.CommandLine.Guide
import CompileCommands.Config.Discovery
import CompileCommands.Generation

/-!
# The command line

The arguments are read, the settings are found and merged, and the compile commands are
generated. Errors in the arguments or the settings end with code 2, later failures with
code 1.
-/

namespace CompileCommands.CommandLine

/-- How the program ends. -/
structure Ending where
  /-- The exit code. -/
  code : Nat
  /-- What goes to the standard output. -/
  output : String := ""
  /-- What goes to the standard error. -/
  complaints : String := ""
  deriving DecidableEq, Repr

/-- The end when the reading of arguments stops. -/
def Stop.ending : Stop → Ending
  | .help => { code := 0, output := helpText }
  | .version => { code := 0, output := versionText }
  | .wrong e => { code := 2, complaints := e.message }

/-- The end with a failure. -/
def failed (code : Nat) (what : String) (failure : Failure) : Ending :=
  { code, complaints := "error: " ++ what ++ ": " ++ failure.chain ++ "\n" }

/-- The settings under some options: those in files, then the build tool, then the arguments
for it. -/
def Options.resolveOver (options : Options) (found : Config.Layer) : Config :=
  ((found.merge { bazel := options.bazel }).merge (.ofArguments options.bazelArguments)).resolve

/-- The settings under some options, with those that are found in files. -/
def Options.config (options : Options) (host : Host) : FileTask Failure Config := do
  return options.resolveOver (← Config.Layer.discover host (FileSystem.pathOf host.directory))

/-- A summary as a JSON value. -/
def summaryJson (summary : Summary) : Json.Value :=
  .object [
    ("workspace", .text summary.workspace),
    ("database", .text summary.database),
    ("actions", .number summary.actions),
    ("commands", .number summary.commands),
    ("external", .text summary.external.name)]

/-- A summary in words. -/
def summaryText (summary : Summary) : String :=
  let noun := if summary.commands = 1 then "compile command" else "compile commands"
  "Wrote " ++ toString summary.commands ++ " " ++ noun ++ " to " ++ summary.database ++ "\n" ++
    match summary.external with
    | .created => "Linked " ++ Path.externalLink summary.workspace ++ "\n"
    | .alreadyPresent => ""

/-- What is written about a summary. -/
def report (json : Bool) (summary : Summary) : String :=
  if json then (summaryJson summary).pretty ++ "\n" else summaryText summary

/-- Run the command line. -/
def run (host : Host) (launch : Launch) (arguments : List String) : StateM Journal Ending := do
  match Options.read arguments with
  | .error stop => return stop.ending
  | .ok options =>
    match ← (options.config host).run with
    | .error failure => return failed 2 "failed to load config" failure
    | .ok config =>
      match ← (generate host launch config).run with
      | .error failure => return failed 1 "failed to generate compile_commands.json" failure
      | .ok summary => return { code := 0, output := report options.json summary }

end CompileCommands.CommandLine
