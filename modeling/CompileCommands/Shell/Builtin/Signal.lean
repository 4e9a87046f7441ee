import CompileCommands.Shell.Expansion

/-!
# Signals and traps

A signal ends a process, unless the shell has been told what to do then. The number zero stands
for the end of the script.
-/

namespace CompileCommands.Shell

/-- The numbers below which signals are. -/
def signalLimit : Nat := 65

/-- The signals that do not end a process. -/
def harmlessSignals : List Nat := [0, 17, 18, 23, 28]

/-- The name of a signal. -/
def signalName (number : Nat) : String :=
  if number = 0 then "EXIT" else signalNames[number - 1]?.getD (toString number)

/-- The number of a signal, given by itself or by the name. -/
def signalNumber? (least : Nat) (text : String) : Option Nat :=
  if text ≠ "" ∧ text.toList.all Char.isDigit then text.toNat?.filter (· < signalLimit)
  else
    let name := text.toUpper
    if name = "EXIT" ∧ least = 0 then some 0
    else (signalNames.idxOf? name).map (· + 1)

/-- A number among the arguments of a command. -/
def numberOf (text : String) : ShellTask Nat :=
  match if text ≠ "" ∧ text.toList.all Char.isDigit then text.toNat? else none with
  | some n => return n
  | none => fail ("Illegal number: " ++ text)

/-- What a signal says that has ended a process, if that is worth saying. -/
def endOf? (number : Nat) : Option String :=
  let texts :=
    [(1, "Hangup"), (3, "Quit"), (4, "Illegal instruction"), (5, "Trace/breakpoint trap"),
      (6, "Aborted"), (7, "Bus error"), (8, "Floating point exception"), (9, "Killed"),
      (10, "User defined signal 1"), (11, "Segmentation fault"), (12, "User defined signal 2"),
      (14, "Alarm clock"), (15, "Terminated"), (16, "Stack fault"), (24, "CPU time limit exceeded"),
      (25, "File size limit exceeded"), (26, "Virtual timer expired"),
      (27, "Profiling timer expired"), (29, "I/O possible"), (30, "Power failure"),
      (31, "Bad system call")]
  if number = 2 ∨ number = 13 then none
  else some ((texts.lookup number).getD ("Real-time signal " ++ toString (number - 34)))

/-- A signal comes to a process. The result says whether there is such a process. -/
def signal (process number : Nat) : ShellTask Bool := do
  let shell ← get
  if process = shell.process then
    match (shell.processTraps.getD shell.traps).lookup number with
    | some "" => return true
    | some action => set { shell with pending := shell.pending ++ [action] }
    | none => if !harmlessSignals.contains number then throw (.killed process number)
    return true
  else return shell.jobs.any (·.1 = process)

/-- How `kill` is used. -/
def killUsage : String :=
  "Usage: kill [-s sigspec | -signum | -sigspec] [pid | job]... or\nkill -l [exitstatus]"

/-- Send a signal to some processes. -/
def sendSignal (number : Nat) (processes : List String) : ShellTask Unit := do
  if processes.isEmpty then fail killUsage
  let found ← processes.mapM fun process => do
    let found ← signal (← numberOf process) number
    if !found then complain "No such process\n"
    return found
  finish (if found.all id then 0 else 1)

/-- Write the names of signals. -/
def listSignals : List String → ShellTask Unit
  | [] => do
    print ("0\n" ++ String.join (signalNames.map (· ++ "\n")))
    finish 0
  | text :: _ => do
    let status ← numberOf text
    let number := if 128 < status then status - 128 else status
    if number = 0 ∨ signalLimit ≤ number then
      fail ("invalid signal number or exit status: " ++ text)
    print (signalName number ++ "\n")
    finish 0

/-- Send a signal, or name the signals. -/
def kill (arguments : List String) : ShellTask Unit := do
  match arguments with
  | [] => fail killUsage
  | first :: rest =>
    match first.toList with
    | '-' :: letters =>
      match signalNumber? 1 (String.ofList letters), letters with
      | some number, _ => sendSignal number rest
      | none, 'l' :: _ => listSignals rest
      | none, 's' :: more =>
        let (text, processes) := match more, rest with
          | [], text :: processes => (some text, processes)
          | [], [] => (none, [])
          | more, processes => (some (String.ofList more), processes)
        match text, text.bind (signalNumber? 1) with
        | none, _ => fail "No arg for -s option"
        | some text, none => fail ("invalid signal number or name: " ++ text)
        | some _, some number => sendSignal number processes
      | none, '-' :: [] => sendSignal 15 rest
      | none, c :: _ => fail ("Illegal option -" ++ String.singleton c)
      | none, [] => sendSignal 15 arguments
    | _ => sendSignal 15 arguments

/-- A text in single quotes. -/
def quoted (text : String) : String :=
  "'" ++ "'\"'\"'".intercalate (Text.fields '\'' text) ++ "'"

/-- Set what is done when signals come. The result says whether all of them are known. -/
def setTraps (action? : Option String) : List String → ShellTask Bool
  | [] => return true
  | text :: rest => do
    match signalNumber? 0 text with
    | none =>
      report ("trap: " ++ text ++ ": bad trap")
      return false
    | some number =>
      modify fun shell =>
        { shell with
          traps := (action?.map (number, ·)).toList ++ shell.traps.filter (·.1 ≠ number) }
      setTraps action? rest

/-- Set or write what is done when signals come. -/
def trap (arguments : List String) : ShellTask Unit := do
  match if arguments.head? = some "--" then arguments.tail else arguments with
  | [] =>
    let traps := (← get).traps.mergeSort fun a b => a.1 ≤ b.1
    traps.forM fun (number, action) =>
      print ("trap -- " ++ quoted action ++ " " ++ signalName number ++ "\n")
    finish 0
  | action :: signals =>
    let known ←
      if signals.isEmpty ∨ (action.toNat?.any (· < signalLimit)) then
        setTraps none (action :: signals)
      else setTraps (if action = "-" then none else some action) signals
    finish (if known then 0 else 1)

/-- Wait for processes. They have ended already. -/
def await (arguments : List String) : ShellTask Unit := do
  match arguments.getLast? with
  | none => finish 0
  | some text =>
    let process ← numberOf text
    finish (((← get).jobs.lookup process).getD 127)

end CompileCommands.Shell
