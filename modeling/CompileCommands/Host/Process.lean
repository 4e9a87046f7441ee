import CompileCommands.Host

/-!
# Processes

A program is called with arguments in some directory. When it has ended, it leaves a status and
what it wrote. How a call is answered is a parameter of everything that calls programs; which
program a call runs is said here.
-/

namespace CompileCommands

/-- How a process ended. -/
inductive ExitStatus where
  /-- It ended by itself with a code. -/
  | exited (code : Nat)
  /-- A signal ended it. -/
  | signaled (number : Nat)
  deriving DecidableEq, Repr

/-- The names of the signals, from number 1 on. -/
def signalNames : List String :=
  ["HUP", "INT", "QUIT", "ILL", "TRAP", "ABRT", "BUS", "FPE", "KILL", "USR1", "SEGV", "USR2",
    "PIPE", "ALRM", "TERM", "STKFLT", "CHLD", "CONT", "STOP", "TSTP", "TTIN", "TTOU", "URG",
    "XCPU", "XFSZ", "VTALRM", "PROF", "WINCH", "IO", "PWR", "SYS"]

namespace ExitStatus

/-- The process did what it was asked. -/
def isSuccess (status : ExitStatus) : Bool :=
  status == .exited 0

/-- The text of a status. -/
def message : ExitStatus → String
  | exited code => "exit status: " ++ toString code
  | signaled number =>
    "signal: " ++ toString number ++
      match if number = 0 then none else signalNames[number - 1]? with
      | some name => " (SIG" ++ name ++ ")"
      | none => ""

end ExitStatus

/-- What a process leaves. -/
structure Reply where
  /-- How it ended. -/
  status : ExitStatus := .exited 0
  /-- What it wrote to the standard output. -/
  output : List UInt8 := []
  /-- What it wrote to the standard error. -/
  complaints : List UInt8 := []
  deriving DecidableEq, Repr

/-- A call of a program. -/
structure Call where
  /-- Where the program runs, if not in the directory of the caller. -/
  directory : Option String := none
  /-- The program. A path with a slash is followed from the directory where the program runs;
  a bare name is looked up on the search path. -/
  program : String
  /-- The arguments, without the program. -/
  arguments : List String
  deriving DecidableEq, Repr

/-- How calls of programs are answered. -/
abbrev Launch := Call → FileTask OsError Reply

/-! ## Which program a call runs -/

/-- The paths that a name may stand for on a search path. An empty directory is the current
one. -/
def searchCandidates (searchPath name : String) : List String :=
  (Text.fields ':' searchPath).map fun directory => Path.join directory name

/-- The location of the program to which a path leads. -/
def FileSystem.programAt (fs : FileSystem) (here : Location) (path : String) :
    Except OsError Location :=
  match fs.resolve here path with
  | .error e => .error e
  | .ok location =>
    match fs.at? location with
    | some (.file _ true) => .ok location
    | _ => .error .accessDenied

/-- The first of some paths that leads to a program, and where that is. Paths that lead nowhere
are passed over; `denied` says that one of them led to something that is no program. -/
def FileSystem.firstProgram (fs : FileSystem) (here : Location) :
    (denied : Bool) → List String → Except OsError (String × Location)
  | denied, [] => .error (if denied then .accessDenied else .noEntry)
  | denied, path :: rest =>
    match fs.programAt here path with
    | .ok location => .ok (path, location)
    -- The search goes on past what may not be run, which is remembered for the end.
    | .error .accessDenied => firstProgram fs here true rest
    | .error .noEntry => firstProgram fs here denied rest
    | .error .notDirectory => firstProgram fs here denied rest
    | .error e => .error e

/-- The directory in which a call runs its program. -/
def Call.directoryOn (call : Call) (host : Host) (fs : FileSystem) : Except OsError Location :=
  match call.directory with
  | none => .ok host.directory
  | some path =>
    match fs.resolve host.directory path with
    | .error e => .error e
    | .ok location => if fs.isDirectory location then .ok location else .error .notDirectory

/-- The path and the location of the program that a call runs in a directory. -/
def Call.programIn (call : Call) (host : Host) (fs : FileSystem) (here : Location) :
    Except OsError (String × Location) :=
  if call.program = "" then .error .noEntry
  else if call.program.toList.contains '/' then
    (fs.programAt here call.program).map (call.program, ·)
  else fs.firstProgram here false (searchCandidates host.searchPath call.program)

end CompileCommands
