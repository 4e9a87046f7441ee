import CompileCommands.Shell.Builtin
import CompileCommands.Shell.Utility.Files

/-!
# Programs like the commands of the shell, and programs that run programs

What the shell does by itself can be had as a program, too. Other programs prepare the variables
or the arguments of a program and run it then.
-/

namespace CompileCommands.Shell.Utility

/-! ## Printing and testing -/

/-- Write arguments, with their escapes replaced if that is asked for. -/
def echoPlainly (replaces lineEnd : Bool) : List String → ShellTask Unit
  | [] => do
    if lineEnd then print "\n"
    finish 0
  | first :: rest => do
    let letters := first.toList.drop 1
    if first.startsWith "-" ∧ letters ≠ [] ∧ letters.all ("neE".toList.contains ·) then
      echoPlainly
        (letters.foldl (fun on c => if c = 'e' then true else if c = 'E' then false else on)
          replaces)
        (lineEnd && !letters.contains 'n') rest
    else
      let text := " ".intercalate (first :: rest)
      let (cs, goesOn) := if replaces then unescape text else (text.toList, true)
      print (String.ofList cs ++ if goesOn ∧ lineEnd then "\n" else "")
      finish 0

/-- Write arguments as a format says. -/
def format (title : String) (arguments : List String) : ShellTask Unit := do
  match if arguments.head? = some "--" then arguments.tail else arguments with
  | [] => refuseUsage title "missing operand"
  | form :: rest =>
    let printed := printf form rest
    printed.complaints.reverse.forM (complainAs title)
    print printed.text
    finish (min 1 printed.status)

/-- Find out whether a condition holds. -/
def examine (title : String) (closed : Bool) (arguments : List String) : ShellTask Unit := do
  let complaint (text : String) : ShellTask Unit := do
    complainAs title text
    finish 2
  let words := if closed then arguments.dropLast else arguments
  if closed ∧ arguments.getLast? ≠ some "]" then complaint ("missing " ++ named "]")
  else
    let fs ← files
    let shell ← get
    match Condition.ofWords fs shell.host.directory (words.length + 1) words with
    | .ok holds => finish (if holds then 0 else 1)
    | .error text => complaint text

/-- Write the path of the current directory. -/
def printPlace (logical : Bool) : ShellTask Unit := do
  let shell ← get
  print ((if logical then shell.path
    else Text.Octets.ofText (FileSystem.pathOf shell.host.directory)) ++ "\n")
  finish 0

/-- Write the paths of programs. -/
def whichPrograms (names : List String) : ShellTask Unit := do
  let shell ← get
  let fs ← files
  let found ← (names.filter (!·.startsWith "-")).mapM fun name => do
    match programPath fs shell shell.searchPath name with
    | .ok path =>
      print (path ++ "\n")
      return true
    | .error _ => return false
  finish (if found.all id then 0 else 1)

/-- Make a file or a directory with a name that nothing has. -/
def makeTemporary (title : String) (arguments : List String) : ShellTask Unit := do
  let orders ← ordersOf title [⟨'d', "directory", false⟩, ⟨'q', "quiet", false⟩,
    ⟨'u', "dry-run", false⟩, ⟨'t', "", false⟩, ⟨'p', "tmpdir", true⟩] arguments
  let shell ← get
  let fs ← files
  let place := (orders.value? 'p').getD ((shell.binding? "TMPDIR").getD "/tmp")
  let template := match orders.operands with
    | [] => Path.join place "tmp.XXXXXXXXXX"
    | given :: _ => if orders.has 't' ∨ orders.has 'p' then Path.join place given else given
  let marks := (template.toList.reverse.takeWhile (· = 'X')).length
  if marks < 3 then refuse title ("too few X's in template " ++ named template)
  let stem := String.ofList (template.toList.take (template.length - marks))
  let path (i : Nat) : String :=
    stem ++ String.ofList (List.replicate (marks - (toString i).length) '0') ++ toString i
  let isFree (i : Nat) : Bool :=
    (fs.linkStatus shell.host.directory (Text.Octets.toText (path i))).toOption.isNone
  let chosen := path (((List.range (fs.entries.length + 1)).find? isFree).getD 0)
  let kind := if orders.has 'd' then "directory" else "file"
  let made ← attempt title ("failed to create " ++ kind ++ " via template " ++ named template)
    fun host => do
      let path := Text.Octets.toText chosen
      if orders.has 'd' then host.perform (.makeDirectory path)
      else host.perform (.create (← .ofExcept (fs.vacancy host.directory false path)))
  if made then print (chosen ++ "\n")
  finish (if made then 0 else 1)

/-! ## Programs that run programs -/

section Running

variable (run : (tested : Bool) → Command → ShellTask Unit)

/-- Where programs are searched for if no variable says so. -/
def usualPath : String := "/bin:/usr/bin"

/-- Run a program in place of this one. -/
def become (title : String) (words : List String) : ShellTask Unit := do
  let name := words.headD ""
  let shell ← get
  let searchPath := if (shell.binding? "PATH").isSome then shell.searchPath else usualPath
  match programPath (← files) shell searchPath name with
  | .ok path => run false (.program path name words.tail)
  | .error e =>
    complainAs title (named name ++ ": " ++ e.reason)
    leave (if e = .noEntry then 127 else 126)

/-- Run a program with other variables. -/
def withVariables (title : String) : (count : Nat) → List String → ShellTask Unit
  | 0, _ => leave 125
  | _ + 1, [] => do
    let shell ← get
    print (ofLines (shell.exported.eraseDups.filterMap fun name =>
      (shell.binding? name).map fun value => name ++ "=" ++ value))
    finish 0
  | n + 1, word :: rest => do
    let drop (name : String) : ShellTask Unit :=
      modify fun shell =>
        { shell.bind name none with exported := shell.exported.filter (· ≠ name) }
    match word with
    | "-i" | "-" | "--ignore-environment" =>
      modify fun shell =>
        { shell with
          bindings := shell.bindings.filter fun binding => !shell.exported.contains binding.1
          exported := [] }
      withVariables title n rest
    | "-u" =>
      drop (rest.headD "")
      withVariables title n rest.tail
    | "--" => withVariables title n rest
    | "-S" =>
      withVariables title n
        ((Text.fields ' ' (rest.headD "")).filter (· ≠ "") ++ rest.tail)
    | _ =>
      if word.startsWith "-S" then
        withVariables title n
          ((Text.fields ' ' (String.ofList (word.toList.drop 2))).filter (· ≠ "") ++ rest)
      else if word.startsWith "-u" then
        drop (String.ofList (word.toList.drop 2))
        withVariables title n rest
      else if word.startsWith "-" then
        match word.toList.drop 1 with
        | '-' :: _ => complainAs title ("unrecognized option '" ++ word ++ "'")
        | c :: _ => complainAs title ("invalid option -- '" ++ String.singleton c ++ "'")
        | [] => return
        report ("Try '" ++ title ++ " --help' for more information.")
        leave 125
      else if word.contains '=' then
        let (name, value?) := bindingOf word
        modify fun shell =>
          { shell.bind name value? with exported := name :: shell.exported }
        withVariables title n rest
      else become run title (word :: rest)

/-- How many words are handed to a program at most, as the arguments say, and the program with its
own arguments. -/
def wordLimit : List String → Option Nat × List String
  | "-n" :: most :: rest => (most.toNat?, rest)
  | "-r" :: rest => (none, rest)
  | argument :: rest =>
    match argument.toList with
    | '-' :: 'n' :: digits => ((String.ofList digits).toNat?, rest)
    | _ => (none, argument :: rest)
  | [] => (none, [])

/-- Run a program with more arguments that are the words of the standard input. -/
def withWords (title : String) (arguments : List String) : ShellTask Unit := do
  let text := (← readChannel 0).toOption.getD ""
  let plain := text.map fun c => if c = '\n' ∨ c = '\t' then ' ' else c
  let words := (Text.fields ' ' plain).filter (· ≠ "")
  let (limit?, program) := wordLimit arguments
  let program := if program.isEmpty then ["echo"] else program
  if words.isEmpty ∧ arguments.head? = some "-r" then finish 0
  else
    match limit?.filter (0 < ·) with
    | none => become run title (program ++ words)
    | some most =>
      let groups := (List.range ((words.length + most - 1) / most)).map fun i =>
        (words.drop (i * most)).take most
      groups.forM fun group => apart (become run title (program ++ group))

end Running

end CompileCommands.Shell.Utility
