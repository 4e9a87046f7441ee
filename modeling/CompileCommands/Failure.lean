import CompileCommands.Config.Settings
import CompileCommands.Host.Process
import CompileCommands.Wire.ActionGraph

/-!
# Failures

Why settings cannot be read or compile commands cannot be made. A failure has a text, and a
chain of texts that also names its cause.
-/

namespace CompileCommands

/-- Why something cannot be done. -/
inductive Failure where
  /-- There is no build tool of that name. -/
  | bazelNotFound (name : String)
  /-- The build tool failed. -/
  | commandFailed (command : String) (status : ExitStatus) (complaints : String)
  /-- The build tool gave an empty answer. -/
  | emptyAnswer (command : String)
  /-- The answer is no action graph. -/
  | undecodable (cause : ActionGraph.DecodeError)
  /-- A file is no settings. -/
  | badSettings (path : String) (cause : Config.SettingsError)
  /-- A link cannot be made. -/
  | noLink (link target : String) (cause : OsError)
  /-- The system refuses. -/
  | system (cause : OsError)
  deriving DecidableEq, Repr

namespace Failure

/-- The text of a failure. -/
def message : Failure → String
  | bazelNotFound name => "bazel binary not found: " ++ name
  | commandFailed command status complaints =>
    command ++ " failed: " ++ status.message ++ "\n" ++ complaints
  | emptyAnswer command => command ++ " returned empty path"
  | undecodable cause => "decode aquery proto: " ++ cause.message
  | badSettings path cause => "parse " ++ path ++ ": " ++ cause.message
  | noLink link target cause =>
    "create symlink " ++ link ++ " -> " ++ target ++ ": " ++ cause.message
  | system cause => cause.message

/-- The text of the cause, if the failure has one apart from itself. -/
def cause? : Failure → Option String
  | undecodable cause => some cause.message
  | badSettings _ cause => some cause.message
  | noLink _ _ cause => some cause.message
  | _ => none

/-- The text of a failure and that of its cause. -/
def chain (failure : Failure) : String :=
  ": ".intercalate (failure.message :: failure.cause?.toList)

end Failure

/-- A task that the system may refuse, as a task that may fail. -/
def FileTask.orFail {α : Type} (task : FileTask OsError α) : FileTask Failure α :=
  task.failAs .system

end CompileCommands
