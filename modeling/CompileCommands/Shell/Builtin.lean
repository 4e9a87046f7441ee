import CompileCommands.Shell.Builtin.Directory
import CompileCommands.Shell.Builtin.Variable
import CompileCommands.Shell.Condition
import CompileCommands.Shell.Redirection
import CompileCommands.Shell.Script

/-!
# The commands of the shell

Each command that the shell carries out by itself, and what a name stands for when it is run. A
special command ends the script when it fails.
-/

namespace CompileCommands.Shell

/-! ## What names stand for -/

/-- The commands of the shell that are not special. -/
def regularBuiltins : List String :=
  ["alias", "bg", "cd", "command", "echo", "false", "fc", "fg", "getopts", "hash", "jobs", "kill",
    "printf", "pwd", "read", "test", "[", "true", "type", "ulimit", "umask", "unalias", "wait"]

/-- A name is that of a special command. -/
def isSpecial (name : String) : Bool :=
  name = "local" || specialBuiltins.contains name

/-- What a name stands for. -/
inductive Meaning where
  /-- A command of the shell. -/
  | builtin (isSpecial : Bool)
  /-- A function. -/
  | function (body : Command)
  /-- A program at a path. -/
  | program (path : String)
  /-- Nothing that can be run. -/
  | unknown (e : OsError)

/-- The path of a program on a search path. -/
def programPath (fs : FileSystem) (shell : Shell) (searchPath name : String) :
    Except OsError String := do
  let call : Call := { program := Text.Octets.toText name, arguments := [] }
  let (path, _) ← call.programIn { shell.host with searchPath } fs shell.host.directory
  return Text.Octets.ofText path

/-- What a name stands for. -/
def meaning (fs : FileSystem) (shell : Shell) (name : String) : Meaning :=
  if isSpecial name then .builtin true
  else
    match shell.functions.lookup name with
    | some body => .function body
    | none =>
      if regularBuiltins.contains name then .builtin false
      else
        match programPath fs shell shell.searchPath name with
        | .ok path => .program path
        | .error e => .unknown e

/-- Why a name cannot be run, with the status that it leaves. -/
def refusalOf : OsError → String × Nat
  | .noEntry | .notDirectory => ("not found", 127)
  | .nameTooLong => (OsError.nameTooLong.reason, 127)
  | .tooManyLinks => (OsError.tooManyLinks.reason, 127)
  | e => (e.reason, 126)

/-- Keep in mind that a program has been found on the search path. -/
def track (name : String) : ShellTask Unit := do
  if !name.contains '/' then
    modify fun shell => { shell with tracked := name :: shell.tracked }

/-- Write what a name stands for, in a sentence or as it is run. The result says whether it
stands for anything. -/
def describe (inFull : Bool) (name : String) : ShellTask Bool := do
  let say (text short : String) : ShellTask Bool := do
    print ((if inFull then name ++ text else short) ++ "\n")
    return true
  if reservedWords.contains name then say " is a shell keyword" name
  else
    match meaning (← files) (← get) name with
    | .builtin true => say " is a special shell builtin" name
    | .builtin false => say " is a shell builtin" name
    | .function _ => say " is a shell function" name
    | .program path =>
      let isTracked := (← get).tracked.contains name
      track name
      say ((if isTracked then " is a tracked alias for " else " is ") ++ path) path
    | .unknown _ =>
      if inFull then print (name ++ ": not found\n")
      return false

/-! ## Commands that change where the script goes on -/

/-- End the script. -/
def exit (arguments : List String) : ShellTask Unit := do
  let shell ← get
  match arguments with
  | [] => leave (shell.trapStatus.getD shell.status)
  | text :: _ => leave (← numberOf text)

/-- End a function. -/
def endFunction (arguments : List String) : ShellTask Unit := do
  if let text :: _ := arguments then finish (← numberOf text)
  throw .returned

/-- End some loops, or go on with the next turn of one. -/
def endLoops (leap : Nat → Leap) (arguments : List String) : ShellTask Unit := do
  let count ← match arguments with
    | [] => pure 1
    | text :: _ => numberOf text
  if count = 0 then fail ("Illegal number: " ++ arguments.headD "")
  finish 0
  let loops := (← get).loops
  if loops ≠ 0 then throw (leap (min count loops))

/-! ## Printing and testing -/

/-- Write text with its escapes replaced. -/
def echoArguments (arguments : List String) : ShellTask Unit := do
  print (echo arguments)
  finish 0

/-- Write arguments as a format says. -/
def printFormatted (arguments : List String) : ShellTask Unit := do
  match if arguments.head? = some "--" then arguments.tail else arguments with
  | [] => fail "usage: printf format [arg ...]"
  | format :: rest =>
    let printed := printf format rest
    printed.complaints.reverse.forM complain
    print printed.text
    finish printed.status

/-- Find out whether a condition holds. -/
def testCondition (closed : Bool) (arguments : List String) : ShellTask Unit := do
  if closed ∧ arguments.getLast? ≠ some "]" then fail "missing ]"
  let words := if closed then arguments.dropLast else arguments
  let fs ← files
  let shell ← get
  match Condition.ofWords fs shell.host.directory (words.length + 1) words with
  | .ok holds => finish (if holds then 0 else 1)
  | .error text => fail text

/-! ## Scripts inside scripts -/

section Scripts

variable (run : (tested : Bool) → Command → ShellTask Unit)

/-- The path of the file that `.` asks for. -/
def sourcePath (name : String) : ShellTask String := do
  if name.contains '/' then return name
  let shell ← get
  let fs ← files
  let isFile (path : String) : Bool :=
    match (fs.status shell.host.directory path).toOption with
    | some (.file ..) => true
    | _ => false
  match (searchCandidates shell.searchPath (Text.Octets.toText name)).find? isFile with
  | some path => return Text.Octets.ofText path
  | none => fail (name ++ ": not found")

/-- Run the commands in a file. -/
def runFile (arguments : List String) : ShellTask Unit := do
  match arguments with
  | [] => finish 0
  | name :: _ =>
    let path ← sourcePath name
    let shell ← get
    match (← openInput path) with
    | .error e => fail ("cannot open " ++ name ++ ": " ++ openReason true e)
    | .ok channel =>
      let opened ← get
      let text := match channel with
        | .input number => opened.inputs[number]?.getD ""
        | _ => ""
      modify ({ · with running := some path })
      let leap? ← caught (run false (.script text))
      modify ({ · with running := shell.running })
      match leap? with
      | some .returned => return
      | leap? => resume leap?

/-- Find out what names stand for. -/
def describeAll (names : List String) : ShellTask Unit := do
  let known ← names.mapM (describe true)
  finish (if known.all id then 0 else 127)

/-- A command of the shell, by its name. -/
def builtin (tested : Bool) (name : String) : List String → ShellTask Unit :=
  match name with
  | "false" => fun _ => finish 1
  | "exit" => exit
  | "return" => endFunction
  | "break" => endLoops .broken
  | "continue" => endLoops .continued
  | "echo" => echoArguments
  | "printf" => printFormatted
  | "test" => testCondition false
  | "[" => testCondition true
  | "cd" => changeDirectory
  | "pwd" => printDirectory
  | "export" => exportVariables
  | "readonly" => fixVariables
  | "local" => localVariables
  | "unset" => unset
  | "set" => setShell
  | "shift" => shiftArguments
  | "read" => readVariables
  | "getopts" => nextOption
  | "trap" => trap
  | "kill" => kill
  | "wait" => await
  | "type" => describeAll
  | "eval" => fun arguments => run tested (.script (" ".intercalate arguments))
  | "." => runFile run
  | "umask" => fun arguments => do
    if arguments.isEmpty then print "0022\n"
    finish 0
  | "ulimit" => fun arguments => do
    if arguments.isEmpty then print "unlimited\n"
    finish 0
  | "times" => fun _ => do
    print "0m0.000000s 0m0.000000s\n0m0.000000s 0m0.000000s\n"
    finish 0
  | "fg" | "bg" => fun _ => fail "No current job"
  | _ => fun _ => finish 0

end Scripts

end CompileCommands.Shell
