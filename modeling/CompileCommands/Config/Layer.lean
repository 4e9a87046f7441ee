import CompileCommands.Config.Arguments

/-!
# Settings in layers

A layer says some of the settings and leaves the others open. Layers are merged, the later
over the earlier, and at the end the defaults fill what no layer said. An empty program name
says nothing when it is merged over another layer; an empty list does say something.
-/

namespace CompileCommands

/-- Settings, all of them said. -/
structure Config where
  /-- The build tool to run. -/
  bazel : String
  /-- The flags for its query. -/
  bazelFlags : List String
  /-- What to ask for. -/
  targets : List String
  deriving DecidableEq, Repr

namespace Config

/-- The build tool that is run when no layer names one. -/
def defaultBazel : String := "bazel"

/-- What is asked for when no layer names a target. -/
def defaultTarget : String := "//..."

/-- Settings of which some are said. -/
structure Layer where
  /-- The build tool to run. -/
  bazel : Option String := none
  /-- The flags for its query. -/
  bazelFlags : Option (List String) := none
  /-- What to ask for. -/
  targets : Option (List String) := none
  deriving DecidableEq, Repr, Inhabited

namespace Layer

/-- A list that says something unless it is empty. -/
def unlessEmpty (items : List String) : Option (List String) :=
  if items = [] then none else some items

/-- The layer of the arguments for the build tool. -/
def ofArguments (arguments : List String) : Layer where
  bazelFlags := unlessEmpty (Arguments.split arguments).1
  targets := unlessEmpty (Arguments.split arguments).2

/-- The settings of `upper`, and those of `layer` where `upper` says nothing. -/
def merge (layer upper : Layer) : Layer where
  bazel := (upper.bazel.filter (· ≠ "")).or layer.bazel
  bazelFlags := upper.bazelFlags.or layer.bazelFlags
  targets := upper.targets.or layer.targets

/-- The settings, with defaults for what the layer does not say. -/
def resolve (layer : Layer) : Config where
  bazel := (layer.bazel.filter (· ≠ "")).getD defaultBazel
  bazelFlags := layer.bazelFlags.getD []
  targets := if layer.targets.getD [] = [] then [defaultTarget] else layer.targets.getD []

end Layer

/-- The settings when no layer says anything. -/
def default : Config := Layer.resolve {}

end Config

end CompileCommands
