import CompileCommands.Shell.Builtin.Signal

/-!
# Variables, options and arguments

The commands of the shell that set its variables, its options and the arguments of the script.
-/

namespace CompileCommands.Shell

/-! ## Variables -/

/-- The name and the value that an argument sets. -/
def bindingOf (argument : String) : String × Option String :=
  match argument.splitOn "=" with
  | name :: value :: rest => (name, some ("=".intercalate (value :: rest)))
  | _ => (argument, none)

/-- A name of a variable. -/
def checkName (name : String) : ShellTask Unit := do
  if !isName name then fail (name ++ ": bad variable name")

/-- The letters of the options at the front of some arguments, and what follows them. -/
def optionArguments (allowed : String) : List String → ShellTask (List Char × List String)
  | [] => return ([], [])
  | argument :: rest => do
    match argument.toList with
    | ['-', '-'] => return ([], rest)
    | '-' :: c :: letters =>
      match (c :: letters).find? (!allowed.toList.contains ·) with
      | some c => fail ("Illegal option -" ++ String.singleton c)
      | none =>
        let (more, others) ← optionArguments allowed rest
        return (c :: letters ++ more, others)
    | _ => return ([], argument :: rest)

/-- Write variables as commands that set them. -/
def printVariables (command : String) (names : List String) : ShellTask Unit := do
  let shell ← get
  (names.eraseDups.mergeSort fun a b => a ≤ b).forM fun name =>
    print (command ++ name ++
      (match shell.binding? name with
        | some value => "=" ++ quoted value
        | none => "") ++ "\n")

/-- Hand variables on to programs. -/
def exportVariables (arguments : List String) : ShellTask Unit := do
  let (letters, names) ← optionArguments "p" arguments
  if names.isEmpty ∨ letters ≠ [] then printVariables "export " (← get).exported
  else
    names.forM fun argument => do
      let (name, value?) := bindingOf argument
      checkName name
      handOn name value?
  finish 0

/-- Keep variables from being set. -/
def fixVariables (arguments : List String) : ShellTask Unit := do
  let (letters, names) ← optionArguments "p" arguments
  if names.isEmpty ∨ letters ≠ [] then printVariables "readonly " (← get).fixed
  else
    names.forM fun argument => do
      let (name, value?) := bindingOf argument
      checkName name
      value?.forM (assign name)
      modify fun shell => { shell with fixed := name :: shell.fixed }
  finish 0

/-- Keep what a variable is, for the time when the command that is running is done. -/
def shadow (name : String) : ShellTask Unit :=
  modify fun shell =>
    match shell.shadowed with
    | frame :: frames =>
      let shadowed : Shadowed :=
        { name, value := shell.binding? name, exported := shell.exported.contains name }
      { shell with shadowed := (shadowed :: frame) :: frames }
    | [] => shell

/-- A shell in which a variable is what it was. -/
def unshadow (shell : Shell) (shadowed : Shadowed) : Shell :=
  let others := shell.exported.filter (· ≠ shadowed.name)
  { shell.bind shadowed.name shadowed.value with
    exported := if shadowed.exported then shadowed.name :: others else others }

/-- Do a task for which variables may be set that are afterwards what they were. -/
def shadowing (task : ShellTask Unit) : ShellTask Unit := do
  modify fun shell => { shell with shadowed := [] :: shell.shadowed }
  let leap? ← caught task
  modify fun shell =>
    { (shell.shadowed.headD []).foldl unshadow shell with shadowed := shell.shadowed.tail }
  resume leap?

/-- Make variables those of a function. -/
def localVariables (arguments : List String) : ShellTask Unit := do
  if (← get).calls = 0 then fail "not in a function"
  arguments.forM fun argument => do
    let (name, value?) := bindingOf argument
    checkName name
    shadow name
    value?.forM (assign name)
  finish 0

/-- Forget variables or functions. -/
def unset (arguments : List String) : ShellTask Unit := do
  let (letters, names) ← optionArguments "fv" arguments
  names.forM fun name => do
    if letters.getLast? = some 'f' then
      modify fun shell =>
        { shell with functions := shell.functions.filter (·.1 ≠ name) }
    else
      checkName name
      let shell ← get
      if shell.fixed.contains name then fail (name ++ ": is read only")
      set { shell.bind name none with exported := shell.exported.filter (· ≠ name) }
  finish 0

/-! ## Options and arguments -/

/-- The names of the options and their letters, if they have one. -/
def optionNames : List (String × Option Char) :=
  [("errexit", 'e'), ("noglob", 'f'), ("ignoreeof", 'I'), ("interactive", 'i'), ("monitor", 'm'),
    ("noexec", 'n'), ("stdin", 's'), ("xtrace", 'x'), ("verbose", 'v'), ("vi", 'V'),
    ("emacs", 'E'), ("noclobber", 'C'), ("allexport", 'a'), ("notify", 'b'),
    ("nounset", 'u')].map (fun (name, letter) => (name, some letter)) ++
    [("nolog", none), ("debug", none)]

/-- A shell with an option on or off. -/
def withOption (shell : Shell) (on : Bool) (letter : Char) : Shell :=
  let others := shell.options.filter (· ≠ letter)
  { shell with options := if on then letter :: others else others }

/-- Write the options. -/
def printOptions (asCommands : Bool) : ShellTask Unit := do
  let shell ← get
  let isOn (letter : Option Char) : Bool := letter.any shell.has
  if asCommands then
    optionNames.forM fun (name, letter) =>
      print ("set " ++ (if isOn letter then "-" else "+") ++ "o " ++ name ++ "\n")
  else
    print "Current option settings\n"
    optionNames.forM fun (name, letter) =>
      print (name ++ String.ofList (List.replicate (16 - name.length) ' ') ++
        (if isOn letter then "on\n" else "off\n"))

/-- Turn an option on or off that is given by its name. -/
def setNamedOption (on : Bool) (name : String) : ShellTask Unit := do
  match optionNames.lookup name with
  | some letter => letter.forM fun letter => modify (·.withOption on letter)
  | none => fail ("Illegal option " ++ (if on then "-o " else "+o ") ++ name)

/-- Turn options on or off, given by their letters; `o` takes names from the arguments, which are
handed back without those. -/
def setOptions (on : Bool) : List Char → List String → ShellTask (List String)
  | [], arguments => return arguments
  | 'o' :: letters, arguments => do
    match arguments with
    | [] => printOptions !on
    | name :: _ => setNamedOption on name
    setOptions on letters arguments.tail
  | letter :: letters, arguments => do
    if !optionNames.any (·.2 = some letter) then
      fail ("Illegal option " ++ String.ofList [if on then '-' else '+', letter])
    modify (·.withOption on letter)
    setOptions on letters arguments

/-- Follow the options at the front of some arguments. What is left, if the arguments of the
script are to be set. -/
def followOptions : (count : Nat) → List String → ShellTask (Option (List String))
  | 0, _ => return none
  | _ + 1, [] => return none
  | n + 1, argument :: rest => do
    match argument.toList with
    | ['-'] =>
      modify fun shell => (shell.withOption false 'x').withOption false 'v'
      return if rest.isEmpty then none else some rest
    | ['-', '-'] => return some rest
    | '-' :: letters => followOptions n (← setOptions true letters rest)
    | '+' :: letters => followOptions n (← setOptions false letters rest)
    | _ => return some (argument :: rest)

/-- Set options and the arguments of the script, or write the variables. -/
def setShell (arguments : List String) : ShellTask Unit := do
  if arguments.isEmpty then printVariables "" ((← get).bindings.map (·.1))
  else
    if let some rest ← followOptions (arguments.length + 1) arguments then
      modify ({ · with arguments := rest })
  finish 0

/-- Drop some arguments of the script. -/
def shiftArguments (arguments : List String) : ShellTask Unit := do
  let count ← match arguments with
    | [] => pure 1
    | text :: _ => numberOf text
  let shell ← get
  if shell.arguments.length < count then fail "can't shift that many"
  set { shell with arguments := shell.arguments.drop count, status := 0 }

/-! ## Reading a line -/

/-- The first line of some text and the rest after it, and whether the line is complete. A
backslash takes the meaning from the character after it, and a line end after it away, unless
the line is read as it stands. -/
def lineOf (plainly : Bool) : List Char → List Glyph × List Char × Bool
  | [] => ([], [], false)
  | '\n' :: rest => ([], rest, true)
  | '\\' :: c :: rest =>
    if plainly then
      let (line, after, complete) := lineOf plainly (c :: rest)
      (⟨'\\', false⟩ :: line, after, complete)
    else
      let (line, after, complete) := lineOf plainly rest
      (if c = '\n' then line else ⟨c, true⟩ :: line, after, complete)
  | c :: rest =>
    let (line, after, complete) := lineOf plainly rest
    (if c = '\\' ∧ !plainly then line else ⟨c, false⟩ :: line, after, complete)

/-- The character ends a field of a line. -/
def Glyph.separates (separators : List Char) (g : Glyph) : Bool :=
  !g.quoted && separators.contains g.char

/-- The character is white space that ends a field of a line. -/
def Glyph.isWhite (separators : List Char) (g : Glyph) : Bool :=
  g.separates separators && isWhiteSeparator g.char

/-- A line after its first field, without the separators after that. -/
def afterField (separators : List Char) (line : List Glyph) : List Glyph :=
  let rest := (line.dropWhile (!·.separates separators)).dropWhile (·.isWhite separators)
  match rest with
  | g :: after =>
    if g.separates separators then after.dropWhile (·.isWhite separators) else rest
  | [] => []

/-- The fields of a line for some names. The last of them takes all that is left. -/
def lineFields (separators : List Char) : (names : List String) → List Glyph →
    List (String × String)
  | [], _ => []
  | name :: names, line =>
    let text (field : List Glyph) : String := String.ofList (field.map (·.char))
    let field := line.takeWhile (!·.separates separators)
    if names.isEmpty then
      let all := (line.reverse.dropWhile (·.isWhite separators)).reverse
      [(name, text (if afterField separators line = [] then field else all))]
    else (name, text field) :: lineFields separators names (afterField separators line)

/-- Set variables to the fields of the next line of the standard input. -/
def readVariables (arguments : List String) : ShellTask Unit := do
  let (letters, names) ←
    match arguments with
    | "-p" :: _ :: rest => optionArguments "r" rest
    | "-r" :: "-p" :: _ :: rest => pure (['r'], rest)
    | all => optionArguments "r" all
  if names.isEmpty then fail "arg count"
  let shell ← get
  let (line, rest, complete) := lineOf (letters ≠ []) (shell.remaining 0).toList
  set (shell.withRemaining 0 (String.ofList rest))
  let separators := shell.separators
  (lineFields separators names (line.dropWhile (·.isWhite separators))).forM
    fun (name, value) => do
      checkName name
      assign name value
  finish (if complete then 0 else 1)

/-! ## Options of a script -/

/-- What is left of the argument in which options are being taken, which is the one before the
next. -/
def optionLettersLeft (shell : Shell) (arguments : List String) (next : Nat) : List Char :=
  match shell.optionOffset, arguments[next - 2]? with
  | some offset, some argument => if next ≤ 1 then [] else argument.toList.drop offset
  | _, _ => []

/-- Take the next option of the script. -/
def nextOption (arguments : List String) : ShellTask Unit := do
  match arguments with
  | allowed :: name :: given =>
    let shell ← get
    let arguments := if given.isEmpty then shell.arguments else given
    let quiet := allowed.startsWith ":"
    let next := max 1 ((shell.valueOf "OPTIND").toNat?.getD 1)
    let finishAt (next : Nat) (letters? : Option (List Char)) (value : String) (status : Nat) :
        ShellTask Unit := do
      assign "OPTIND" (toString next)
      modify ({ · with
        optionOffset := letters?.map fun letters =>
          (arguments[next - 2]?.getD "").length - letters.length })
      checkName name
      assign name value
      finish status
    let atEnd (next : Nat) : ShellTask Unit := finishAt next none "?" 1
    let take (letter : Char) (letters : List Char) (next : Nat) : ShellTask Unit := do
      let text := String.singleton letter
      match allowed.toList.dropWhile fun c => c ≠ letter ∨ c = ':' with
      | [] =>
        if quiet then assign "OPTARG" text
        else
          report ("Illegal option -" ++ text)
          modify (·.bind "OPTARG" none)
        finishAt next (some letters) "?" 0
      | _ :: ':' :: _ =>
        match letters, arguments[next - 1]? with
        | [], none =>
          if quiet then assign "OPTARG" text
          else
            report ("No arg for -" ++ text ++ " option")
            modify (·.bind "OPTARG" none)
          finishAt next (some letters) (if quiet then ":" else "?") 0
        | [], some value =>
          assign "OPTARG" value
          finishAt (next + 1) none text 0
        | value, _ =>
          assign "OPTARG" (String.ofList value)
          finishAt next none text 0
      | _ =>
        assign "OPTARG" ""
        finishAt next (some letters) text 0
    match shell.optionLettersLeft arguments next with
    | letter :: letters => take letter letters next
    | [] =>
      match (arguments[next - 1]?.getD "").toList with
      | ['-', '-'] => atEnd (next + 1)
      | '-' :: letter :: letters => take letter letters (next + 1)
      | _ => atEnd next
  | _ => fail "Usage: getopts optstring var [arg...]"

end CompileCommands.Shell
