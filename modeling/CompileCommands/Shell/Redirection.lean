import CompileCommands.Shell.Expansion

/-!
# Redirections

The descriptors of a command are led to files, to where other descriptors lead, or to the texts
of here-documents. What cannot be opened is complained about.
-/

namespace CompileCommands.Shell

/-- Why nothing can be read or written where a descriptor is closed. -/
def badDescriptor : String := "Bad file descriptor"

/-- Why a file cannot be opened, in the words of the shell. -/
def openReason (forReading : Bool) : OsError → String
  | .noEntry | .notDirectory => if forReading then "No such file" else "Directory nonexistent"
  | e => e.reason

/-- The location of a file that is written, made if it is missing. -/
def openFile (keep : Bool) (path : String) (host : Host) : FileTask OsError Location := do
  let fs ← FileTask.look
  match fs.resolve host.directory path with
  | .ok location =>
    if location = sinkhole then return location
    else if fs.isDirectory location then throw .isDirectory
    else
      if !keep then host.perform (.fill location [])
      return location
  | .error .noEntry =>
    let location ← .ofExcept (fs.vacancy host.directory false path)
    host.perform (.create location)
    return location
  | .error e => throw e

/-- Open a file to read from it. -/
def openInput (path : String) : ShellTask (Except OsError Channel) := do
  let shell ← get
  let fs ← files
  match fs.resolve shell.host.directory (Text.Octets.toText path) with
  | .error e => return .error e
  | .ok location =>
    if location = sinkhole then return .ok .nowhere
    match fs.at? location with
    | some (.file content _) => return .ok (← newInput (Text.Octets.ofBytes content))
    | _ => return .ok .directory

/-- Open a file to write to it. -/
def openOutput (keep : Bool) (path : String) : ShellTask (Except OsError Channel) := do
  match ← onFiles (openFile keep (Text.Octets.toText path)) with
  | .ok location => return .ok (if location = sinkhole then .nowhere else .file location)
  | .error e => return .error e

/-- Open a file to write it anew while files are protected: only one that is not there already,
or that is no plain file. -/
def openProtected (path : String) : ShellTask (Except OsError Channel) := do
  let here := (← get).host.directory
  let fs ← files
  match fs.resolve here (Text.Octets.toText path), fs.linkStatus here (Text.Octets.toText path) with
  | .ok location, _ =>
    if location = sinkhole || fs.isDirectory location then openOutput true path
    else return .error .alreadyExists
  | .error _, .ok _ => return .error .alreadyExists
  | .error _, .error _ => openOutput false path

section Redirections

variable (run : (tested : Bool) → Command → ShellTask Unit)

/-- Do a redirection. The result says whether that is possible. -/
def redirect : Redirection → ShellTask Bool
  | .file descriptor opening word => do
    let path ← wordText run word
    let found ←
      match opening with
      | .read => openInput path
      | .write => if (← get).has 'C' then openProtected path else openOutput false path
      | .overwrite => openOutput false path
      | .append => openOutput true path
      | .both => do
        match ← openOutput true path with
        | .ok _ => openInput path
        | .error e => pure (.error e)
    match found with
    | .ok channel =>
      modify (·.lead descriptor (some channel))
      return true
    | .error e =>
      let reading := opening = .read
      complain ("cannot " ++ (if reading then "open " else "create ") ++ path ++ ": " ++
        openReason reading e)
      return false
  | .copy descriptor word => do
    let source ← wordText run word
    match source.toList with
    | ['-'] =>
      modify (·.lead descriptor none)
      return true
    | [c] =>
      if !c.isDigit then fail "Syntax error: Bad fd number"
      match (← get).channel? (c.toNat - 0x30) with
      | some channel =>
        modify (·.lead descriptor (some channel))
        return true
      | none =>
        complain (source ++ ": " ++ badDescriptor)
        return false
    | _ => fail "Syntax error: Bad fd number"
  | .document descriptor number => do
    let word := ((← get).documents.lookup number).getD []
    let leap? ← caught do
      let channel ← newInput (joined (← wordPieces run false word))
      modify (·.lead descriptor (some channel))
    match leap? with
    | some .failed => return false
    | leap? =>
      resume leap?
      return true

/-- Do some redirections. The result says whether that is possible. -/
def redirectAll : List Redirection → ShellTask Bool
  | [] => return true
  | redirection :: rest => do
    if ← redirect run redirection then redirectAll rest else return false

/-- Do a task under some redirections, which are taken back after it, also when it ends early.
If they are not possible the task is `refused`. -/
def under (redirections : List Redirection) (refused task : ShellTask Unit) :
    ShellTask Unit := do
  if redirections.isEmpty then task
  else
    let before ← get
    let leap? ← caught do
      if ← redirectAll run redirections then task else refused
    modify fun shell => { shell with descriptors := before.descriptors }
    resume leap?

end Redirections

end CompileCommands.Shell
