import CompileCommands.Config.Layer
import CompileCommands.Query.Pattern

/-!
# The query for compile actions

Each target is wrapped in a filter by mnemonic, so that the build tool reports compile
actions alone. No targets stand for the whole workspace.
-/

namespace CompileCommands.Query

/-- A target behind the filter. -/
def wrap (target : String) : String :=
  "mnemonic(\"" ++ Pattern.compileMnemonic.render ++ "\", " ++ target ++ ")"

/-- The query for some targets. -/
def ofTargets (targets : List String) : List String :=
  if targets = [] then [wrap Config.defaultTarget] else targets.map wrap

/-- The arguments of the query under some settings, without the program. -/
def arguments (config : Config) : List String :=
  "aquery" :: config.bazelFlags ++ "--output=proto" :: ofTargets config.targets

end CompileCommands.Query
