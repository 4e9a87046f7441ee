import CompileCommands.Action
import CompileCommands.Compile.Output
import CompileCommands.Compile.Source

/-!
# Classification of actions

An action is a compile action when its mnemonic has a kind and its command line names both a
source of that kind and an output.
-/

namespace CompileCommands

/-- What is known of a compile action. -/
structure Classification where
  /-- The kind of the action. -/
  kind : Kind
  /-- The source, as the command line spells it. -/
  source : String
  /-- The output, as the command line spells it. -/
  output : String
  deriving DecidableEq, Repr

/-- The classification of a command line under a mnemonic. -/
def classify? (mnemonic : String) (arguments : List String) : Option Classification := do
  let kind ← Kind.ofMnemonic? mnemonic
  let source ← kind.source? arguments
  let output ← output? arguments
  return { kind, source, output }

/-- The classification of an action. -/
def Action.classify? (action : Action) : Option Classification :=
  CompileCommands.classify? action.mnemonic action.arguments

end CompileCommands
