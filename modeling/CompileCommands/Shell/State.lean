import CompileCommands.Host.Process
import CompileCommands.Shell.Format
import CompileCommands.Shell.Source
import CompileCommands.Text.Octets

/-!
# The state of a shell

What a shell knows while it runs a script, where its descriptors lead to, and the tasks that it
does. Texts that are read and written by several shells are kept by number, so that a shell
inside another one goes on where the other one is.
-/

namespace CompileCommands

/-- Where a descriptor leads to. -/
inductive Shell.Channel where
  /-- To a text that grows as it is written. -/
  | buffer (number : Nat)
  /-- To a text that shrinks as it is read. -/
  | input (number : Nat)
  /-- To the end of a file. -/
  | file (location : Location)
  /-- To a directory, which cannot be read. -/
  | directory
  /-- Nowhere. -/
  | nowhere
  deriving DecidableEq, Repr

/-- What a variable was before it was set for one command. -/
structure Shell.Shadowed where
  /-- Its name. -/
  name : String
  /-- Its value, if it was set. -/
  value : Option String
  /-- Programs were handed it. -/
  exported : Bool
  deriving DecidableEq, Repr

/-- A shell that runs a script. -/
structure Shell where
  /-- Where it runs. -/
  host : Host
  /-- The path of the current directory as it was come to. -/
  path : String := ""
  /-- The name of the script. -/
  name : String
  /-- The arguments of the script. -/
  arguments : List String := []
  /-- The number of the line that is run. -/
  line : Nat := 0
  /-- The command of the shell that is running. -/
  running : Option String := none
  /-- The number of its process. -/
  process : Nat := 4321
  /-- The greatest number of a process so far. -/
  lastProcess : Nat := 4321
  /-- The variables. -/
  bindings : List (String × String) := []
  /-- The names of the variables that programs are handed. -/
  exported : List String := []
  /-- The names of the variables that may not be set. -/
  fixed : List String := []
  /-- What the variables that are set for the commands that are running were before. -/
  shadowed : List (List Shell.Shadowed) := []
  /-- How many functions are running. -/
  calls : Nat := 0
  /-- The functions. -/
  functions : List (String × Shell.Command) := []
  /-- The names of programs that have been found on the search path. -/
  tracked : List String := []
  /-- The texts of here-documents. -/
  documents : List (Nat × Shell.Word) := []
  /-- How many here-documents there are. -/
  documentCount : Nat := 0
  /-- The options that are on. -/
  options : List Char := []
  /-- Where in an argument of the script the next option stands, if it is not the first one
  there. -/
  optionOffset : Option Nat := none
  /-- What is run when signals come, by their numbers, or under zero when the script ends. -/
  traps : List (Nat × String) := []
  /-- The commands that were not waited for, by their processes, and how they ended. -/
  jobs : List (Nat × Nat) := []
  /-- The latest process that was not waited for. -/
  background : Option Nat := none
  /-- The status of the last command. -/
  status : Nat := 0
  /-- What the traps of the process have to do when the command that is running is done. -/
  pending : List String := []
  /-- What the process does when signals come, while a command is run apart from it. -/
  processTraps : Option (List (Nat × String)) := none
  /-- The status of the last command before a trap. -/
  trapStatus : Option Nat := none
  /-- The status of the last command inside a word. -/
  wordStatus : Nat := 0
  /-- How many loops the command is in. -/
  loops : Nat := 0
  /-- Where the descriptors lead to. -/
  descriptors : List (Nat × Shell.Channel) := []
  /-- Something could not be written. -/
  lost : Bool := false
  /-- The texts that are written. -/
  buffers : List String := []
  /-- The texts that are read. -/
  inputs : List String := []

namespace Shell

/-- Why a task ends before it is done. -/
inductive Leap where
  /-- The script ends. -/
  | exited
  /-- An error ends the script, unless the command of the shell in which it comes up stops it. -/
  | failed
  /-- A signal ends a process. -/
  | killed (process number : Nat)
  /-- A function is done. -/
  | returned
  /-- As many loops end. -/
  | broken (count : Nat)
  /-- As many loops but one end, and that one goes on. -/
  | continued (count : Nat)
  deriving DecidableEq, Repr

end Shell

/-- A task of a shell. -/
abbrev ShellTask := ExceptT Shell.Leap (StateT Shell (StateM Journal))

namespace Shell

/-- Do a task on the file system. -/
def onFiles {α : Type} (task : Host → FileTask OsError α) : ShellTask (Except OsError α) := do
  let shell ← get
  liftM (m := StateM Journal) (task shell.host).run

/-- The file system. -/
def files : ShellTask FileSystem := do
  match ← onFiles fun _ => FileTask.look with
  | .ok fs => return fs
  | .error _ => return {}

/-- Put the file system into its next state. -/
def setFiles (fs : FileSystem) : ShellTask Unit :=
  discard (onFiles fun _ => FileTask.record fs)

/-- The file that drops what is written to it. -/
def sinkhole : Location := ["dev", "null"]

/-! ## Reading and writing -/

/-- Add to the end of a file. -/
def appendFile (location : Location) (content : List UInt8) (host : Host) :
    FileTask OsError Unit := do
  match (← FileTask.look).at? location with
  | some (.file old _) => host.perform (.fill location (old ++ content))
  | _ => throw .noEntry

/-- Where a descriptor leads to, if it is open. -/
def channel? (shell : Shell) (descriptor : Nat) : Option Channel :=
  shell.descriptors.lookup descriptor

/-- A shell in which a descriptor leads elsewhere, or is closed. -/
def lead (shell : Shell) (descriptor : Nat) (channel? : Option Channel) : Shell :=
  let others := shell.descriptors.filter (·.1 ≠ descriptor)
  { shell with
    descriptors := match channel? with
      | some channel => (descriptor, channel) :: others
      | none => others }

/-- Write to where a channel leads. -/
def writeTo (channel? : Option Channel) (text : String) : ShellTask Unit := do
  if text = "" then return
  match channel? with
  | some (.buffer number) =>
    modify fun shell => { shell with buffers := shell.buffers.modify number (· ++ text) }
  | some (.file location) =>
    discard (onFiles (appendFile location (Text.Octets.toBytes text)))
  | some .nowhere => return
  | _ => modify ({ · with lost := true })

/-- Write to where a descriptor leads. -/
def write (descriptor : Nat) (text : String) : ShellTask Unit := do
  writeTo ((← get).channel? descriptor) text

/-- Write to the standard output. -/
def print (text : String) : ShellTask Unit := write 1 text

/-- Write a line to the standard error, if it is open. -/
def report (text : String) : ShellTask Unit := do
  let lost := (← get).lost
  write 2 (text ++ "\n")
  modify ({ · with lost })

/-- Write a line to the standard error, with the name of the script, the number of the line and
the command of the shell that is running. -/
def complain (text : String) : ShellTask Unit := do
  let shell ← get
  let running := match shell.running with
    | some name => name ++ ": "
    | none => ""
  report (shell.name ++ ": " ++ toString shell.line ++ ": " ++ running ++ text)

/-- What is left to read of a text. -/
def remaining (shell : Shell) (descriptor : Nat) : String :=
  match shell.channel? descriptor with
  | some (.input number) => shell.inputs[number]?.getD ""
  | _ => ""

/-- A shell in which something is left to read of a text. -/
def withRemaining (shell : Shell) (descriptor : Nat) (text : String) : Shell :=
  match shell.channel? descriptor with
  | some (.input number) => { shell with inputs := shell.inputs.modify number fun _ => text }
  | _ => shell

/-- Read all that is left. -/
def readAll (descriptor : Nat) : ShellTask String := do
  let shell ← get
  set (shell.withRemaining descriptor "")
  return shell.remaining descriptor

/-- A new text to be read. -/
def newInput (text : String) : ShellTask Channel := do
  let shell ← get
  set { shell with inputs := shell.inputs ++ [text] }
  return .input shell.inputs.length

/-- What a task writes to the standard output, with that led back where it was. -/
def writtenBy (task : ShellTask Unit) : ShellTask String := do
  let before ← get
  let number := before.buffers.length
  set { before.lead 1 (some (.buffer number)) with buffers := before.buffers ++ [""] }
  task
  let after ← get
  set { after with descriptors := before.descriptors }
  return after.buffers[number]?.getD ""

/-! ## Status -/

/-- The status of the command that is done. -/
def finish (status : Nat) : ShellTask Unit :=
  modify ({ · with status })

/-- End the script with a status. -/
def leave {α : Type} (status : Nat) : ShellTask α := do
  finish status
  throw .exited

/-- End with a complaint. -/
def fail {α : Type} (text : String) : ShellTask α := do
  complain text
  finish 2
  throw .failed

/-- An option is on. -/
def has (shell : Shell) (option : Char) : Bool :=
  shell.options.contains option

/-- What another shell leaves behind: the texts that were read and written, and its status, of
which eight bits are kept. -/
def after (before later : Shell) : Shell :=
  { before with
    buffers := later.buffers, inputs := later.inputs, status := later.status % 256
    lastProcess := later.lastProcess }

/-- Do a task, and say whether it ends early. -/
def caught (task : ShellTask Unit) : ShellTask (Option Leap) :=
  try
    task
    return none
  catch leap => return some leap

/-- End early, or go on. -/
def resume : Option Leap → ShellTask Unit
  | some leap => throw leap
  | none => return

/-- Do a task apart: what it changes in the shell is forgotten, and so is its end, unless a
signal ends the whole. -/
def apart (task : ShellTask Unit) : ShellTask Unit := do
  let before ← get
  set { before with
    traps := before.traps.filter (·.2 = ""), jobs := []
    processTraps := some (before.processTraps.getD before.traps) }
  let leap? ← caught task
  modify fun later => { before.after later with pending := later.pending }
  match leap? with
  | some (.killed process number) => throw (.killed process number)
  | _ => return

/-! ## Variables -/

/-- The value of a variable. -/
def binding? (shell : Shell) (name : String) : Option String :=
  shell.bindings.lookup name

/-- The value of a variable, or an empty text. -/
def valueOf (shell : Shell) (name : String) : String :=
  (shell.binding? name).getD ""

/-- A shell in which a variable is set, or not set any more. -/
def bind (shell : Shell) (name : String) (value? : Option String) : Shell :=
  let others := shell.bindings.filter (·.1 ≠ name)
  { shell with
    bindings := match value? with
      | some value => (name, value) :: others
      | none => others }

/-- Set a variable. -/
def assign (name value : String) : ShellTask Unit := do
  let shell ← get
  if shell.fixed.contains name then fail (name ++ ": is read only")
  let shell := shell.bind name (some value)
  let shell := if name = "OPTIND" then { shell with optionOffset := none } else shell
  let shell := if name = "PATH" then { shell with tracked := [] } else shell
  set (if shell.has 'a' then { shell with exported := name :: shell.exported } else shell)

/-- Hand a variable on to programs, and set it if there is a value. -/
def handOn (name : String) (value? : Option String) : ShellTask Unit := do
  if let some value := value? then assign name value
  modify fun shell => { shell with exported := name :: shell.exported }

/-- The separators of fields. -/
def separators (shell : Shell) : List Char :=
  ((shell.binding? "IFS").getD " \t\n").toList

/-- The directories of programs. -/
def searchPath (shell : Shell) : String :=
  Text.Octets.toText (shell.valueOf "PATH")

/-- The letters of the options that are on. -/
def optionLetters (shell : Shell) : String :=
  String.ofList ("ubaCEVvxsnmiIfe".toList.filter shell.has)

/-- The value of a parameter, if it is set. -/
def parameter? (shell : Shell) (name : String) : Option String :=
  match name with
  | "0" => some shell.name
  | "#" => some (toString shell.arguments.length)
  | "?" => some (toString shell.status)
  | "$" => some (toString shell.process)
  | "!" => shell.background.map toString
  | "-" => some shell.optionLetters
  | "@" | "*" =>
    let separator := match shell.binding? "IFS" with
      | none => " "
      | some text => String.ofList (text.toList.take 1)
    some (separator.intercalate shell.arguments)
  | _ =>
    match name.toNat? with
    | some n => if n = 0 then some shell.name else shell.arguments[n - 1]?
    | none => shell.binding? name

/-- The text without the line ends at its end. -/
def withoutLineEnds (text : String) : String :=
  String.ofList (text.toList.reverse.dropWhile (· = '\n')).reverse

end Shell

end CompileCommands
