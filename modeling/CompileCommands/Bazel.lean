import CompileCommands.Failure
import CompileCommands.Text.Whitespace

/-!
# The build tool

The build tool is located once, by a path or on the search path, and then called for the
workspace, for the execution root and for the action graph.
-/

namespace CompileCommands

/-- A build tool that has been located. -/
structure Bazel where
  /-- The path of the program. -/
  program : String
  deriving DecidableEq, Repr

namespace Bazel

/-- A directory of the search path, in which a tilde in front stands for the home directory. -/
def expandHome (home directory : String) : String :=
  if Path.isAbsolute directory then directory else
  match Path.components directory with
  | "~" :: rest => if rest = [] then home else Path.join home ("/".intercalate rest)
  | _ => directory

/-- The paths that a name may stand for. A name of several components is one itself, from the
current directory; any other is looked up on the search path. -/
def candidates (host : Host) (name : String) : List String :=
  if 1 < Path.depth name then [Path.join (FileSystem.pathOf host.directory) name]
  else (Text.fields ':' host.searchPath).map fun directory =>
    Path.join (expandHome host.homeDirectory directory) name

/-- Locate the build tool: the first candidate that leads to a program. -/
def locate (host : Host) (name : String) : FileTask Failure Bazel := do
  let fs ← FileTask.look
  match (candidates host name).find? (fs.leadsToProgram host.directory) with
  | some program => return ⟨program⟩
  | none => throw (.bazelNotFound name)

/-- A call of the build tool as it is named in failures. -/
def commandLine (bazel : Bazel) (arguments : List String) : String :=
  " ".intercalate ((Path.fileName? bazel.program).getD bazel.program :: arguments)

/-- Call the build tool and take what it writes. -/
def call (bazel : Bazel) (launch : Launch) (directory : Option String)
    (arguments : List String) : FileTask Failure (List UInt8) := do
  let reply ← (launch ⟨directory, bazel.program, arguments⟩).orFail
  if reply.status.isSuccess then return reply.output
  else
    throw (.commandFailed (bazel.commandLine arguments) reply.status
      (Text.Utf8.decodeLossy reply.complaints))

/-- The answer that some output is: its text without white space around it, unless nothing
is left. -/
def answer? (output : List UInt8) : Option String :=
  let text := Text.trim (Text.Utf8.decodeLossy output)
  if text = "" then none else some text

/-- Ask the build tool for one of the things it knows about itself. -/
def info (bazel : Bazel) (launch : Launch) (directory : Option String) (key : String) :
    FileTask Failure String := do
  let output ← bazel.call launch directory ["info", key]
  match answer? output with
  | some answer => return answer
  | none => throw (.emptyAnswer (bazel.commandLine ["info", key]))

/-- The root of the workspace around the current directory. -/
def workspace (bazel : Bazel) (launch : Launch) : FileTask Failure String :=
  bazel.info launch none "workspace"

/-- The directory in which the actions of a workspace run. -/
def executionRoot (bazel : Bazel) (launch : Launch) (workspace : String) :
    FileTask Failure String :=
  bazel.info launch (some workspace) "execution_root"

/-- What a query in a workspace writes. -/
def query (bazel : Bazel) (launch : Launch) (workspace : String) (arguments : List String) :
    FileTask Failure (List UInt8) :=
  bazel.call launch (some workspace) arguments

end Bazel

end CompileCommands
