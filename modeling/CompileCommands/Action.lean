/-!
# Actions

One action of a build graph, as far as compile commands need it.
-/

namespace CompileCommands

/-- An action of the build graph. -/
structure Action where
  /-- The kind of work, such as `CppCompile`. -/
  mnemonic : String := ""
  /-- The command line, program first. -/
  arguments : List String := []
  deriving DecidableEq, Repr, Inhabited

end CompileCommands
