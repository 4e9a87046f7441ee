import CompileCommands.Shell.Redirection

/-!
# What the programs of the system share

A program of the system reads files or its standard input, and complains under the name by which
it is called. A name in a complaint stands between quotes.
-/

namespace CompileCommands.Shell.Utility

/-- The text needs quotes to be told from what stands around it. -/
def needsQuotes (text : String) : Bool :=
  text = "" ||
    text.toList.any fun c =>
      !(c.isAlphanum || "%+,-./:=@_^\x7b\x7d]".toList.contains c) ||
        (c = '\x7b' && text.length = 1) || (c = '\x7d' && text.length = 1)

/-- A name between quotes. -/
def named (text : String) : String :=
  if text.toList.contains '\'' ∧ !text.toList.any ("\"$\\`!".toList.contains ·) then
    "\"" ++ text ++ "\""
  else "'" ++ "'\\''".intercalate (Text.fields '\'' text) ++ "'"

/-- A name, between quotes if it needs them. -/
def shown (text : String) : String :=
  if needsQuotes text then named text else text

/-- Complain under the name of a program. -/
def complainAs (title text : String) : ShellTask Unit :=
  report (title ++ ": " ++ text)

/-- End a program with a complaint. -/
def refuse {α : Type} (title text : String) : ShellTask α := do
  complainAs title text
  leave 1

/-- End a program with a complaint and a hint at its help. -/
def refuseUsage {α : Type} (title text : String) : ShellTask α := do
  complainAs title text
  report ("Try '" ++ title ++ " --help' for more information.")
  leave 1

/-- What can be read of a channel. -/
def readChannel (descriptor : Nat) : ShellTask (Except OsError String) := do
  let shell ← get
  match shell.channel? descriptor with
  | none => return .error (.other 9 badDescriptor)
  | some .directory => return .error .isDirectory
  | some (.input _) => return .ok (← readAll descriptor)
  | _ => return .ok ""

/-- What can be read at a path; a dash stands for the standard input. -/
def content (path : String) : ShellTask (Except OsError String) := do
  if path = "-" then readChannel 0
  else
    let shell ← get
    let fs ← files
    return (fs.read shell.host.directory (Text.Octets.toText path)).map Text.Octets.ofBytes

/-- What a path leads to. -/
def entry (path : String) : ShellTask (Except OsError Entry) := do
  let shell ← get
  let fs ← files
  return fs.status shell.host.directory (Text.Octets.toText path)

/-- What is at a path, without following a link there. -/
def linkEntry (path : String) : ShellTask (Except OsError Entry) := do
  let shell ← get
  let fs ← files
  return fs.linkStatus shell.host.directory (Text.Octets.toText path)

/-- A path leads to a directory. -/
def isDirectory (path : String) : ShellTask Bool := do
  match ← entry path with
  | .ok .directory => return true
  | _ => return false

/-- The lines of some text without their ends, and whether the last one has an end. -/
def linesOf (text : String) : List String × Bool :=
  let fields := Text.fields '\n' text
  if fields.getLast? = some "" then (fields.dropLast, true) else (fields, false)

/-- Lines with their ends. -/
def ofLines (lines : List String) : String :=
  String.join (lines.map (· ++ "\n"))

/-- An option of a program: its letter, its name, and whether it takes a value. -/
structure Switch where
  /-- Its letter. -/
  letter : Char
  /-- Its name. -/
  name : String := ""
  /-- It takes a value. -/
  takesValue : Bool := false

/-- What a program is told by its arguments. -/
structure Orders where
  /-- The letters of the options and their values, in order. -/
  switches : List (Char × String) := []
  /-- The other arguments. -/
  operands : List String := []

namespace Orders

/-- An option is given. -/
def has (orders : Orders) (letter : Char) : Bool :=
  orders.switches.any (·.1 = letter)

/-- The last value of an option. -/
def value? (orders : Orders) (letter : Char) : Option String :=
  orders.switches.reverse.lookup letter

/-- Orders with an option in front. -/
def add (orders : Orders) (letter : Char) (value : String) : Orders :=
  { orders with switches := (letter, value) :: orders.switches }

end Orders

/-- The options among some letters after a dash. The last one may lack its value, which is the
next argument then. -/
def lettersOf (title : String) (known : List Switch) :
    List Char → ShellTask (List (Char × String) × Option Char)
  | [] => return ([], none)
  | c :: rest => do
    match known.find? (·.letter = c) with
    | none => refuseUsage title ("invalid option -- '" ++ String.singleton c ++ "'")
    | some switch =>
      if switch.takesValue then
        if rest = [] then return ([], some c) else return ([(c, String.ofList rest)], none)
      else
        let (more, open?) ← lettersOf title known rest
        return ((c, "") :: more, open?)

/-- What some arguments tell a program. Options may stand anywhere before a double dash. -/
def ordersOf (title : String) (known : List Switch) : List String → ShellTask Orders
  | [] => return {}
  | "--" :: rest => return { operands := rest }
  | argument :: rest => do
    match argument.toList with
    | '-' :: '-' :: long =>
      let (name, value?) := match (String.ofList long).splitOn "=" with
        | name :: value :: more => (name, some ("=".intercalate (value :: more)))
        | _ => (String.ofList long, none)
      match known.find? fun switch => switch.name ≠ "" ∧ switch.name = name with
      | none => refuseUsage title ("unrecognized option '" ++ argument ++ "'")
      | some switch =>
        match switch.takesValue, value?, rest with
        | true, none, value :: rest => return (← ordersOf title known rest).add switch.letter value
        | _, value?, rest =>
          return (← ordersOf title known rest).add switch.letter (value?.getD "")
    | '-' :: c :: letters =>
      let (found, open?) ← lettersOf title known (c :: letters)
      match open?, rest with
      | none, rest =>
        let orders ← ordersOf title known rest
        return { orders with switches := found ++ orders.switches }
      | some letter, value :: rest =>
        let orders ← ordersOf title known rest
        return { orders with switches := found ++ (letter, value) :: orders.switches }
      | some letter, [] =>
        refuseUsage title ("option requires an argument -- '" ++ String.singleton letter ++ "'")
    | _ =>
      let orders ← ordersOf title known rest
      return { orders with operands := argument :: orders.operands }

end CompileCommands.Shell.Utility
