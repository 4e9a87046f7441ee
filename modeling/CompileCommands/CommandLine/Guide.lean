import CompileCommands.CommandLine.Options

/-!
# What the command line says about itself

Help, the version, and the texts of errors in the arguments.
-/

namespace CompileCommands.CommandLine

/-- The name of the program. -/
def programName : String := "bazel-compdb"

/-- The text of the version. -/
def versionText : String := programName ++ " 0.1.0\n"

/-- The arguments for the build tool, in a usage. -/
def bazelArgumentsUsage : String := "[-- <BAZEL_ARGS>...]"

/-- The choice of all arguments, in a usage. -/
def choiceUsage : String := "<--bazel <PATH>|--json|BAZEL_ARGS>"

/-- The line of a usage. -/
def Usage.line (usage : Usage) : String :=
  let last := if usage.choice then choiceUsage else bazelArgumentsUsage
  "Usage: " ++ " ".intercalate (programName :: usage.shown ++ [last])

/-- The text of the help. -/
def helpText : String :=
  "\n".intercalate [
    "Generate compile_commands.json from the C/C++/Objective-C/CUDA actions of a Bazel build",
    "",
    Usage.general.line,
    "",
    "Arguments:",
    "  [BAZEL_ARGS]...  Bazel flags and targets; anything after a second `--` is one query " ++
      "expression",
    "",
    "Options:",
    "      --bazel <PATH>  Path to the bazel binary (default: `bazel` on PATH)",
    "  -j, --json          Print the run summary as JSON",
    "  -h, --help          Print help",
    "  -V, --version       Print version",
    ""]

namespace UsageError

/-- What is wrong. -/
def summary : UsageError → String
  | unexpected argument _ _ => "unexpected argument '" ++ argument ++ "' found"
  | valueMissing => "a value is required for '--bazel <PATH>' but none was supplied"
  | repeated option => "the argument '" ++ option ++ "' cannot be used multiple times"
  | valueUnexpected option value _ =>
    "unexpected value '" ++ value ++ "' for '" ++ option ++ "' found; no more were expected"

/-- What can be done about it. -/
def tips : UsageError → List String
  | unexpected argument similar _ =>
    let dashed := Text.startsWith "-" argument && argument ≠ "-"
    similar.toList.map (fun name => "a similar argument exists: '" ++ name ++ "'") ++
      if dashed then ["to pass '" ++ argument ++ "' as a value, use '-- " ++ argument ++ "'"]
      else []
  | _ => []

/-- The usage that is shown. -/
def usage? : UsageError → Option Usage
  | unexpected _ _ usage => some usage
  | valueMissing => none
  | repeated _ => some .general
  | valueUnexpected _ _ usage => some usage

/-- The text of an error. -/
def message (e : UsageError) : String :=
  let tips := e.tips.map fun tip => "  tip: " ++ tip ++ "\n"
  "error: " ++ e.summary ++ "\n\n" ++
    (if tips = [] then "" else String.join tips ++ "\n") ++
    (match e.usage? with
      | some usage => usage.line ++ "\n\n"
      | none => "") ++
    "For more information, try '--help'.\n"

end UsageError

end CompileCommands.CommandLine
