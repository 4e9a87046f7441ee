import CompileCommands.Shell.Program

/-!
# Running commands

What each command does, given how the commands inside it are run. A condition is run as tested:
its failure does not end a script that is told to end on failures.
-/

namespace CompileCommands.Shell

/-- How many turns a loop may take. -/
def maxTurns : Nat := 1000000

/-- How a turn of a loop ends. -/
inductive Turn where
  /-- As it should. -/
  | done
  /-- With the next turn at once. -/
  | next
  /-- With the loop. -/
  | last
  deriving DecidableEq, Repr

/-- Do a part of a turn of a loop, and say how it ends. -/
def turn (task : ShellTask Unit) : ShellTask Turn := do
  match ← caught task with
  | none => return .done
  | some (.broken count) => if count ≤ 1 then return .last else throw (.broken (count - 1))
  | some (.continued count) => if count ≤ 1 then return .next else throw (.continued (count - 1))
  | some leap => throw leap

/-- Do a task that is one more loop. -/
def inLoop (task : ShellTask Unit) : ShellTask Unit := do
  modify fun shell => { shell with loops := shell.loops + 1 }
  let leap? ← caught task
  modify fun shell => { shell with loops := shell.loops - 1 }
  resume leap?

/-- Do a task in a process of its own, which a signal may end by itself. -/
def inProcess (task : ShellTask Unit) : ShellTask Unit := do
  let before ← get
  let process := before.lastProcess + 1
  set { before with
    -- Traps that ignore a signal are the only ones that a new process keeps.
    process, lastProcess := process, jobs := [], pending := [], processTraps := none
    traps := before.traps.filter (·.2 = "") }
  let leap? ← caught task
  modify before.after
  match leap? with
  | some (.killed ended number) =>
    -- A signal to the script itself ends more than this process.
    if ended = process then
      (endOf? number).forM report
      finish (128 + number)
    else throw (.killed ended number)
  | _ => return

/-- Arguments without the `command` in front that keeps functions from being run, and whether
it is there. -/
def withoutCommand : List String → List String × Bool
  | "command" :: rest =>
    match rest with
    | "-v" :: _ | "-V" :: _ => ("command" :: rest, false)
    | "-p" :: "--" :: more | "-p" :: more | "--" :: more => ((withoutCommand more).1, true)
    | more => ((withoutCommand more).1, true)
  | words => (words, false)

/-- A shell for another script, that knows of a shell what programs are handed. -/
def successor (shell : Shell) (fs : FileSystem) (name : String) (arguments : List String) :
    Shell :=
  let handed := shell.exported.eraseDups.filterMap fun name =>
    (shell.binding? name).map (name, ·)
  let here := shell.host.directory
  -- A path that is handed on counts only if it still leads here.
  let path := match handed.lookup "PWD" with
    | some path =>
      if path.startsWith "/" ∧ (fs.resolve here (Text.Octets.toText path)).toOption = some here
      then path
      else Text.Octets.ofText (FileSystem.pathOf here)
    | none => Text.Octets.ofText (FileSystem.pathOf here)
  let own : List (String × String) :=
    [("IFS", " \t\n"), ("OPTIND", "1"), ("PWD", path), ("PPID", "4320")]
  -- These are set only where nothing has been handed on.
  let usual : List (String × String) :=
    [("PATH", "/usr/local/sbin:/usr/local/bin:/usr/sbin:/usr/bin:/sbin:/bin"), ("PS1", "$ "),
      ("PS2", "> "), ("PS4", "+ ")]
  { host := shell.host, path, name, arguments
    process := shell.process, lastProcess := shell.lastProcess
    bindings := own ++ handed.filter (fun binding => (own.lookup binding.1).isNone) ++
      usual.filter fun binding => (handed.lookup binding.1).isNone
    exported := "PWD" :: handed.map (·.1)
    traps := shell.traps.filter (·.2 = "")
    descriptors := shell.descriptors, buffers := shell.buffers, inputs := shell.inputs }

section Commands

variable (run : (tested : Bool) → Command → ShellTask Unit)

/-- Do what traps have to do. -/
def runTraps : ShellTask Unit := do
  let shell ← get
  if shell.processTraps.isNone then
    set { shell with pending := [] }
    shell.pending.forM (runTrap run)

/-- Do what traps have to do after a command, and end the script if the command has failed and
that is told to end it. -/
def settle (tested : Bool) : ShellTask Unit := do
  runTraps run
  let shell ← get
  if !tested ∧ shell.has 'e' ∧ shell.status ≠ 0 then throw .exited

/-! ## Scripts and programs -/

/-- Run the lines of a script. The result says whether there are any commands. -/
def runLines (tested : Bool) : (count : Nat) → (found : Bool) → Source → ShellTask Bool
  | 0, found, _ => return found
  | n + 1, found, source => do
    let shell ← get
    -- A line is read only after the line before it has been run, so that a fault in a later line
    -- does not undo an earlier one.
    match readLine.run { source with count := shell.documentCount } with
    | .error complaint =>
      modify ({ · with line := complaint.line })
      fail complaint.text
    | .ok (none, _) => return found
    | .ok (some command, source) =>
      modify fun shell =>
        { shell with
          documentCount := source.count
          documents := source.documents ++ shell.documents }
      match command with
      | .nothing => runLines tested n found { source with documents := [] }
      | command =>
        run tested command
        runLines tested n true { source with documents := [] }

/-- Run the commands in a text. -/
def runScript (tested : Bool) (text : String) : ShellTask Unit := do
  if !(← runLines run tested (text.length + 2) false { rest := text.toList }) then finish 0

/-- Run the script that the arguments of a shell ask for. -/
def runShell (title : String) (arguments : List String) : ShellTask Unit := do
  modify ({ · with name := title })
  let rec follow : (count : Nat) → (ofText : Bool) → List String →
      ShellTask (Bool × List String)
    | 0, ofText, rest => return (ofText, rest)
    | n + 1, ofText, argument :: rest => do
      match argument.toList with
      | ['-'] | ['-', '-'] => return (ofText, rest)
      | '-' :: letters =>
        let others ← setOptions true (letters.filter fun c => c ≠ 'c' ∧ c ≠ 'l') rest
        follow n (ofText || letters.contains 'c') others
      | '+' :: letters => follow n ofText (← setOptions false letters rest)
      | _ => return (ofText, argument :: rest)
    | _, ofText, [] => return (ofText, [])
  match ← follow (arguments.length + 1) false arguments with
  | (true, []) => fail "-c requires an argument"
  | (true, text :: rest) =>
    modify fun shell =>
      { shell with name := rest.headD title, arguments := rest.tail }
    run false (.script text)
  | (false, rest) =>
    if rest = [] ∨ (← get).has 's' then
      modify ({ · with arguments := rest })
      run false (.script (← readAll 0))
    else
      let path := rest.headD ""
      match ← openInput path with
      | .error e => fail ("cannot open " ++ path ++ ": " ++ openReason true e)
      | .ok channel =>
        let shell ← get
        let text := match channel with
          | .input number => shell.inputs[number]?.getD ""
          | _ => ""
        set { shell with name := path, arguments := rest.tail }
        run false (.script text)

/-- Do the task of a program, which most programs write the output of when they end. -/
def writingAtEnd (name : String) (task : ShellTask Unit) : ShellTask Unit := do
  -- These programs write as they go, or run other programs.
  if ["cat", "env", "tee", "xargs"].contains name then task
  else
    let before ← get
    let number := before.buffers.length
    set { before.lead 1 (some (.buffer number)) with buffers := before.buffers ++ [""] }
    let leap? ← caught task
    modify fun shell => { shell with descriptors := before.descriptors }
    print ((← get).buffers[number]?.getD "")
    resume leap?

/-- Run a program of the system in place of the shell. -/
def runImage (image : Image) : ShellTask Unit := do
  let before ← get
  set { before with traps := before.traps.filter (·.2 = ""), lost := false }
  let task : ShellTask Unit ←
    if image.name = "sh" then do
      let fs ← files
      modify (·.successor fs image.title image.arguments)
      pure (untilEnd run (runShell run image.title image.arguments))
    else
      match (utilities run).lookup image.name with
      | some utility => pure (writingAtEnd image.name (utility image.title image.arguments))
      | none => pure (leave 127)
  match ← caught task with
  | some (.killed process number) => throw (.killed process number)
  | _ =>
    -- Output that went nowhere because the descriptor is closed makes a program fail.
    if image.name ≠ "sh" ∧ (← get).lost then
      report (image.title ++ ": write error: " ++ badDescriptor)
      finish 1
    modify before.after
    throw .exited

/-- Run the file at a path in place of the shell. A file that names no program for itself is a
script. -/
def runProgram (path title : String) (arguments : List String) : ShellTask Unit := do
  let fs ← files
  match image fs (← get).host.directory path title arguments with
  | .ok image => runImage run image
  | .error .noExec => runImage run { name := "sh", title, arguments := path :: arguments }
  | .error e =>
    let (reason, status) := refusalOf e
    complain (title ++ ": " ++ reason)
    leave status

/-! ## Simple commands -/

/-- The names of commands whose arguments may be assignments. -/
def declaringBuiltins : List String := ["export", "readonly", "local"]

/-- The fields of the words of a command. Arguments that are assignments stay whole after a
command that declares variables. -/
def commandFields : List Word → ShellTask (List String)
  | [] => return []
  | word :: rest => do
    match ← wordFields run word with
    | [] => commandFields rest
    | first :: fields =>
      -- Only a word that is spelled out can be the name of a command that declares variables.
      let name := ((withoutCommand (first :: rest.map Word.unquoted)).1).headD ""
      if declaringBuiltins.contains name then
        let others ← rest.mapM fun word => do
          match assignment? word with
          | some (name, value) => return [name ++ "=" ++ (← valueText run value)]
          | none => wordFields run word
        return first :: fields ++ others.flatten
      else return first :: fields ++ (← allFields run rest)

/-- Set variables to the values of words, each of which is prepared first. -/
def assignAll (prepare : String → ShellTask Unit) (assignments : List (String × Word)) :
    ShellTask (List String) :=
  assignments.mapM fun (name, word) => do
    let value ← valueText run word
    prepare name
    assign name value
    return name ++ "=" ++ value

/-- Write a command before it is run, if that is asked for. -/
def trace (channel? : Option Channel) (fields : List String) : ShellTask Unit := do
  let shell ← get
  if shell.has 'x' then
    writeTo channel? (shell.valueOf "PS4" ++ " ".intercalate fields ++ "\n")

/-- Run a command of the shell under its name. An error in it ends the script only if it is
special. -/
def runBuiltin (isSpecial : Bool) (name : String) (task : ShellTask Unit) : ShellTask Unit := do
  let before ← get
  set { before with running := some name, lost := false }
  let leap? ← caught task
  if (← get).lost then
    complain (name ++ ": I/O error")
    finish 1
  modify ({ · with running := before.running, lost := false })
  match leap? with
  | some .failed => if isSpecial then throw .failed
  | leap? => resume leap?

/-- How many functions may be running at once. -/
def maxCalls : Nat := 1000

/-- Run a function. -/
def runFunction (tested : Bool) (body : Command) (arguments : List String) :
    ShellTask Unit := do
  let before ← get
  if maxCalls ≤ before.calls then
    fail ("Maximum function recursion depth (" ++ toString maxCalls ++ ") reached")
  set { before with
    arguments, loops := 0, calls := before.calls + 1, optionOffset := none }
  let leap? ← caught (run tested body)
  modify fun shell =>
    { shell with
      arguments := before.arguments, loops := before.loops, calls := before.calls
      optionOffset := before.optionOffset }
  match leap? with
  | some .returned => return
  | leap? => resume leap?

/-- Run a program in place of the shell; nothing comes after it. -/
def replaceShell (name : String) (arguments : List String) : ShellTask Unit := do
  let shell ← get
  match programPath (← files) shell shell.searchPath name with
  | .ok path => runProgram run path name arguments
  | .error e =>
    let (reason, status) := refusalOf e
    complain (name ++ ": " ++ reason)
    leave status

/-- Run what a name stands for. -/
def runMeaning (tested : Bool) (name : String) (arguments : List String) :
    Meaning → ShellTask Unit
  | .builtin isSpecial =>
    match name, arguments with
    | "exec", program :: arguments =>
      runBuiltin isSpecial name (replaceShell run program arguments)
    | "command", option :: program :: _ =>
      runBuiltin false name do
        let known ← describe (option = "-V") program
        finish (if known then 0 else 127)
    | _, _ => runBuiltin isSpecial name (builtin run tested name arguments)
  | .function body => runFunction run tested body arguments
  | .program path => do
    track name
    inProcess (runProgram run path name arguments)
  | .unknown e => do
    let (reason, status) := refusalOf e
    complain (name ++ ": " ++ reason)
    finish status

/-- Run a simple command. -/
def runSimple (tested : Bool) (line : Nat) (assignments : List (String × Word))
    (words : List Word) (redirections : List Redirection) : ShellTask Unit := do
  modify ({ · with line, wordStatus := 0 })
  let fields ← commandFields run words
  -- The trace goes where errors went before the redirections of the command itself.
  let errors? := (← get).channel? 2
  let (called, bare) := withoutCommand fields
  match called with
  | [] =>
    under run redirections (finish 2) do
      let set ← assignAll run (fun _ => return) assignments
      trace errors? (set ++ fields)
      let status := (← get).wordStatus
      -- With nothing to run, the status is that of the last command inside the words.
      finish (if fields.isEmpty then status else 0)
  | name :: arguments =>
    let special := isSpecial name && !bare
    let refused : ShellTask Unit := do
      finish 2
      if special then throw .failed
    let find (set : List String) : ShellTask Meaning := do
      trace errors? (set ++ fields)
      let shell ← get
      return meaning (← files) (if bare then { shell with functions := [] } else shell) name
    -- Without a program the redirections are for the shell itself, and stay.
    if name = "exec" ∧ arguments.isEmpty then
      let set ← assignAll run (fun _ => return) assignments
      trace errors? (set ++ fields)
      if ← redirectAll run redirections then finish 0 else refused
    else
      under run redirections refused do
        -- Assignments before a special command stay; before any other they are taken back after it.
        if isSpecial name then
          let set ← assignAll run (fun name' => do if name = "exec" then handOn name' none)
            assignments
          match ← find set with
          | .builtin _ => runMeaning run tested name arguments (.builtin special)
          | other => runMeaning run tested name arguments other
        else
          shadowing do
            let set ← assignAll run (fun name => do
              shadow name
              handOn name none) assignments
            runMeaning run tested name arguments (← find set)

/-! ## Commands made of commands -/

/-- Run the stages of a pipeline, each of which reads what the one before it writes. -/
def runStages (tested : Bool) : List Command → ShellTask Unit
  | [] => return
  | [stage] => apart (untilEnd run (run tested stage))
  | stage :: rest => do
    -- The stages run one after another: what one writes is all there before the next one reads.
    let text ← writtenBy (apart (untilEnd run (run tested stage)))
    let channel ← newInput text
    modify (·.lead 0 (some channel))
    runStages tested rest

/-- Run a loop, after a turn that has left a status. -/
def runLoop (tested untilSuccess : Bool) (condition body : Command) : (count : Nat) →
    (status : Nat) → ShellTask Unit
  | 0, status => finish status
  | n + 1, status => do
    match ← turn (run true condition) with
    | .last => finish status
    | .next => runLoop tested untilSuccess condition body n status
    | .done =>
      if ((← get).status = 0) = untilSuccess then finish status
      else
        match ← turn (run tested body) with
        | .last => return
        | _ => runLoop tested untilSuccess condition body n (← get).status

/-- Run a command for each of some values of a variable. -/
def runEach (tested : Bool) (name : String) (body : Command) : List String → ShellTask Unit
  | [] => return
  | value :: rest => do
    assign name value
    match ← turn (run tested body) with
    | .last => return
    | _ => runEach tested name body rest

/-- Run the command of the first clause with a pattern that a text is. -/
def runFirst (tested : Bool) (text : String) : List (List Word × Command) → ShellTask Unit
  | [] => finish 0
  | (patterns, body) :: rest => do
    if ← patterns.anyM fun pattern => return fits (← wordPattern run pattern) text.toList then
      match body with
      | .nothing => finish 0
      | body => run tested body
    else runFirst tested text rest

/-- Run a command. -/
def runCommand (tested : Bool) : Command → ShellTask Unit
  | .nothing => return
  | .script text => runScript run tested text
  | .program path title arguments => runProgram run path title arguments
  | .simple line assignments words redirections => do
    runSimple run tested line assignments words redirections
    settle run tested
  | .redirected line redirections command => do
    modify ({ · with line })
    let refused : ShellTask Unit := do
      finish 2
      settle run tested
    under run redirections refused (run tested command)
  | .sequence first second => do
    run tested first
    run tested second
  -- What stands before an operator or in a condition is tested: its failure is no end.
  | .both first second => do
    run true first
    if (← get).status = 0 then run tested second
  | .either first second => do
    run true first
    if (← get).status ≠ 0 then run tested second
  | .negated command => do
    run true command
    finish (if (← get).status = 0 then 1 else 0)
  | .pipeline stages => do
    let before ← get
    runStages run tested stages
    modify fun shell => { shell with descriptors := before.descriptors }
    settle run tested
  | .apart line command => do
    modify ({ · with line })
    apart (untilEnd run (run tested command))
    settle run tested
  | .background command => do
    let before ← get
    let process := before.lastProcess + 1
    -- A command in the background reads nothing and is over before anything else happens.
    set { before.lead 0 (some .nowhere) with lastProcess := process }
    apart (untilEnd run (run false command))
    modify fun shell =>
      { shell with
        descriptors := before.descriptors, status := 0, background := some process
        jobs := (process, shell.status) :: shell.jobs }
  | .choice condition yes no => do
    run true condition
    if (← get).status = 0 then run tested yes
    else
      match no with
      | .nothing => finish 0
      | no => run tested no
  | .loop untilSuccess condition body =>
    inLoop (runLoop run tested untilSuccess condition body maxTurns 0)
  | .each line name words body => do
    modify ({ · with line })
    let values ←
      match words with
      | some words => allFields run words
      | none => pure (← get).arguments
    finish 0
    inLoop (runEach run tested name body values)
  | .cases line subject clauses => do
    modify ({ · with line })
    runFirst run tested (← wordText run subject) clauses
  | .function name body => do
    modify fun shell =>
      { shell with functions := (name, body) :: shell.functions.filter (·.1 ≠ name) }
    finish 0

end Commands

/-- Run a command in which commands are inside one another up to some depth. -/
def runUpTo : (depth : Nat) → (tested : Bool) → Command → ShellTask Unit
  | 0, _, _ => leave 2
  | depth + 1, tested, command => runCommand (runUpTo depth) tested command

end CompileCommands.Shell
