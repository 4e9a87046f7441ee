import CompileCommands.Failure

/-!
# External repositories

A link in the workspace leads to the external repositories in the execution root, so that the
paths in compile commands lead somewhere. What is there already is left alone.
-/

namespace CompileCommands.External

/-- What becomes of the link. -/
inductive Outcome where
  /-- It is new. -/
  | created
  /-- Something was there already. -/
  | alreadyPresent
  deriving DecidableEq, Repr

/-- The name of an outcome. -/
def Outcome.name : Outcome → String
  | created => "created"
  | alreadyPresent => "already_present"

/-- Make the link, unless something is in its place. -/
def link (host : Host) (workspace executionRoot : String) : FileTask Failure Outcome := do
  let path := Path.externalLink workspace
  let target := Path.externalTarget executionRoot
  match (← FileTask.look).linkStatus host.directory path with
  | .ok _ => return .alreadyPresent
  | .error _ =>
    (host.perform (.makeLink target path)).failAs (Failure.noLink path target)
    return .created

end CompileCommands.External
