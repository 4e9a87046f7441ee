import CompileCommands.Text.Opening
import CompileCommands.Text.Whitespace

/-!
# Arguments for the build tool

What stands after `--` on the command line. Up to a second `--`, what starts with a dash is a
flag and the rest are targets; everything after it is one query expression, a last target.
-/

namespace CompileCommands.Arguments

/-- The arguments before the first `--` and those after it. -/
def splitAtSeparator : List String → List String × List String
  | [] => ([], [])
  | argument :: rest =>
    if argument = "--" then ([], rest)
    else (argument :: (splitAtSeparator rest).1, (splitAtSeparator rest).2)

/-- The argument is a flag. -/
def isFlag (argument : String) : Bool :=
  Text.startsWith "-" argument

/-- The query expression that the arguments after the separator make up. -/
def expression (arguments : List String) : String :=
  Text.trim (" ".intercalate arguments)

/-- The flags and the targets. -/
def split (arguments : List String) : List String × List String :=
  let (before, after) := splitAtSeparator arguments
  let (flags, targets) := before.partition isFlag
  (flags, if expression after = "" then targets else targets ++ [expression after])

@[simp] theorem splitAtSeparator_nil : splitAtSeparator [] = ([], []) := rfl

@[simp] theorem splitAtSeparator_separator (rest : List String) :
    splitAtSeparator ("--" :: rest) = ([], rest) := by
  simp [splitAtSeparator]

end CompileCommands.Arguments
