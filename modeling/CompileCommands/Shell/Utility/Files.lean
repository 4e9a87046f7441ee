import CompileCommands.Shell.Utility.Basic

/-!
# Programs that change files

Making, copying, moving and removing files, directories and links, and telling where links lead.
-/

namespace CompileCommands.Shell.Utility

/-- A path without slashes at its end. -/
def withoutSlashes (path : String) : String :=
  let kept := (path.toList.reverse.dropWhile (· = '/')).reverse
  if kept = [] ∧ path ≠ "" then "/" else String.ofList kept

/-- The last component of a path. -/
def baseName (path : String) : String :=
  let path := withoutSlashes path
  if path = "/" then path else ((Text.fields '/' path).getLast?).getD ""

/-- A path without its last component. -/
def directoryName (path : String) : String :=
  match (Text.fields '/' (withoutSlashes path)).dropLast with
  | [] => if withoutSlashes path = "/" then "/" else "."
  | fields =>
    let directory := "/".intercalate fields
    if directory = "" then "/" else withoutSlashes directory

/-- Do something to each of some operands. The status says whether all went well. -/
def forOperands (title : String) (operands : List String) (task : String → ShellTask Bool) :
    ShellTask Unit := do
  if operands.isEmpty then refuseUsage title "missing operand"
  let done ← operands.mapM task
  finish (if done.all id then 0 else 1)

/-- Complain unless a change of the file system is possible. -/
def attempt (title complaint : String) (change : Host → FileTask OsError Unit) :
    ShellTask Bool := do
  match ← onFiles change with
  | .ok _ => return true
  | .error e =>
    complainAs title (complaint ++ ": " ++ e.reason)
    return false

/-- The location that a path names, a link at its end not followed. -/
def placeOf (fs : FileSystem) (here : Location) (path : String) : Except OsError Location := do
  match ← fs.slot here path with
  | ⟨directory, .name name, false⟩ => return directory ++ [name]
  | _ => fs.resolve here path

/-- The file system without what is at and below a location. -/
def without (fs : FileSystem) (location : Location) : FileSystem :=
  ⟨fs.entries.filter fun entry => !location.isPrefixOf entry.1⟩

/-- The file system with a copy of what is at and below a location. -/
def withCopy (fs : FileSystem) (source target : Location) : FileSystem :=
  let copies := fs.entries.filterMap fun (location, entry) =>
    if source.isPrefixOf location then some (target ++ location.drop source.length, entry)
    else none
  copies.foldl (fun fs (location, entry) =>
    if entry = .directory ∧ fs.isDirectory location then fs else fs.set location entry) fs

/-- Make directories. -/
def makeDirectories (title : String) (arguments : List String) : ShellTask Unit := do
  let orders ← ordersOf title
    [⟨'p', "parents", false⟩, ⟨'v', "verbose", false⟩, ⟨'m', "mode", true⟩] arguments
  forOperands title orders.operands fun operand =>
    let path := Text.Octets.toText operand
    attempt title ("cannot create directory " ++ named operand) fun host =>
      if orders.has 'p' then host.makeDirectories (Path.ancestors path)
      else host.perform (.makeDirectory path)

/-- Remove empty directories. -/
def removeDirectories (title : String) (arguments : List String) : ShellTask Unit := do
  let orders ← ordersOf title [] arguments
  forOperands title orders.operands fun operand =>
    attempt title ("failed to remove " ++ named operand) fun host => do
      let fs ← FileTask.look
      let location ← .ofExcept (placeOf fs host.directory (Text.Octets.toText operand))
      if fs.at? location = none then throw .noEntry
      if !fs.isDirectory location then throw .notDirectory
      if !(fs.namesIn location).isEmpty then throw (.other 39 "Directory not empty")
      FileTask.record (fs.erase location)

/-- Make files that are missing. -/
def touch (title : String) (arguments : List String) : ShellTask Unit := do
  let orders ← ordersOf title [⟨'c', "no-create", false⟩, ⟨'a', "", false⟩, ⟨'m', "", false⟩,
    ⟨'t', "", true⟩, ⟨'d', "date", true⟩, ⟨'r', "reference", true⟩] arguments
  if orders.operands.isEmpty then refuseUsage title "missing file operand"
  forOperands title orders.operands fun operand => do
    let path := Text.Octets.toText operand
    attempt title ("cannot touch " ++ named operand) fun host => do
      let fs ← FileTask.look
      match fs.resolve host.directory path with
      | .ok _ => return
      | .error .noEntry =>
        if !orders.has 'c' then
          host.perform (.create (← .ofExcept (fs.vacancy host.directory false path)))
      | .error e => throw e

/-- Remove files. -/
def remove (title : String) (arguments : List String) : ShellTask Unit := do
  let orders ← ordersOf title [⟨'r', "recursive", false⟩, ⟨'R', "", false⟩,
    ⟨'f', "force", false⟩, ⟨'d', "dir", false⟩, ⟨'v', "verbose", false⟩, ⟨'i', "", false⟩]
    arguments
  if orders.operands.isEmpty ∧ orders.has 'f' then finish 0
  else
    forOperands title orders.operands fun operand =>
      attempt title ("cannot remove " ++ named operand) fun host => do
        let fs ← FileTask.look
        match placeOf fs host.directory (Text.Octets.toText operand) with
        | .error e =>
          if !(orders.has 'f' ∧ (e = .noEntry ∨ e = .notDirectory)) then throw e
        | .ok location =>
          match fs.at? location with
          | none => if !orders.has 'f' then throw .noEntry
          | some .directory =>
            if orders.has 'r' ∨ orders.has 'R' then FileTask.record (without fs location)
            else throw .isDirectory
          | some _ => FileTask.record (fs.erase location)

/-- The paths to which some sources go: inside a directory, or to the one path that is given. -/
def targetsOf (title : String) (orders : Orders) : ShellTask (List (String × String)) := do
  let inside (directory : String) (sources : List String) : List (String × String) :=
    sources.map fun source => (source, Path.join directory (baseName source))
  match orders.value? 't', orders.operands with
  | some directory, sources => return inside directory sources
  | none, [] => refuseUsage title "missing file operand"
  | none, [only] => refuseUsage title ("missing destination file operand after " ++ named only)
  | none, operands =>
    let target := operands.getLastD ""
    let sources := operands.dropLast
    if !orders.has 'T' ∧ !(orders.has 'n' ∧ (← linkEntry target).toOption.any (· ≠ .directory)) ∧
        (← isDirectory target) then
      return inside target sources
    match sources with
    | [source] => return [(source, target)]
    | _ =>
      let reason := match ← entry target with
        | .ok _ => OsError.notDirectory.reason
        | .error e => e.reason
      refuse title ("target " ++ named target ++ ": " ++ reason)

/-- Do something to each pair of a source and a target. -/
def forTargets (title : String) (orders : Orders)
    (change : (source target : String) → ShellTask Bool) : ShellTask Unit := do
  let done ← (← targetsOf title orders).mapM fun (source, target) => change source target
  finish (if done.all id then 0 else 1)

/-- The options of programs that have sources and targets. -/
def targetSwitches : List Switch :=
  [⟨'f', "force", false⟩, ⟨'v', "verbose", false⟩, ⟨'T', "no-target-directory", false⟩,
    ⟨'t', "target-directory", true⟩]

/-- Move files. -/
def move (title : String) (arguments : List String) : ShellTask Unit := do
  let orders ← ordersOf title (targetSwitches ++ [⟨'i', "", false⟩]) arguments
  forTargets title orders fun source target => do
    match ← linkEntry source with
    | .error e =>
      complainAs title ("cannot stat " ++ named source ++ ": " ++ e.reason)
      return false
    | .ok _ =>
      attempt title ("cannot move " ++ named source ++ " to " ++ named target) fun host => do
        let fs ← FileTask.look
        let source ← .ofExcept (placeOf fs host.directory (Text.Octets.toText source))
        match fs.vacancy host.directory true (Text.Octets.toText target) with
        | .ok location => FileTask.record (without (withCopy fs source location) source)
        | .error .alreadyExists =>
          let location ← .ofExcept (placeOf fs host.directory (Text.Octets.toText target))
          if fs.isDirectory location ∧ !fs.isDirectory source then throw .isDirectory
          if location ≠ source then
            FileTask.record (without (withCopy (fs.erase location) source location) source)
        | .error e => throw e

/-- Copy a file, or a link as such. -/
def copyFile (title target : String) (entry : Entry) : ShellTask Bool :=
  attempt title ("cannot create regular file " ++ named target) fun host => do
    let fs ← FileTask.look
    match fs.resolve host.directory (Text.Octets.toText target), entry with
    | .ok location, .file content _ => host.perform (.fill location content)
    | .ok _, _ => throw .alreadyExists
    | .error .noEntry, entry =>
      let location ← .ofExcept (fs.vacancy host.directory false (Text.Octets.toText target))
      FileTask.record (fs.set location entry)
    | .error e, _ => throw e

/-- Copy files. -/
def copy (title : String) (arguments : List String) : ShellTask Unit := do
  let orders ← ordersOf title (targetSwitches ++ [⟨'r', "recursive", false⟩, ⟨'R', "", false⟩,
    ⟨'a', "archive", false⟩, ⟨'p', "", false⟩, ⟨'L', "", false⟩, ⟨'P', "", false⟩,
    ⟨'d', "", false⟩]) arguments
  let deeply := orders.has 'r' || orders.has 'R' || orders.has 'a'
  let asLinks := (deeply || orders.has 'P' || orders.has 'd') && !orders.has 'L'
  forTargets title orders fun source target => do
    match ← (if asLinks then linkEntry source else entry source) with
    | .error e =>
      complainAs title ("cannot stat " ++ named source ++ ": " ++ e.reason)
      return false
    | .ok .directory =>
      if !deeply then
        complainAs title ("-r not specified; omitting directory " ++ named source)
        return false
      attempt title ("cannot create directory " ++ named target) fun host => do
        let fs ← FileTask.look
        let source ← .ofExcept (fs.resolve host.directory (Text.Octets.toText source))
        match fs.vacancy host.directory true (Text.Octets.toText target) with
        | .ok location => FileTask.record (withCopy fs source location)
        | .error .alreadyExists =>
          let location ← .ofExcept (fs.resolve host.directory (Text.Octets.toText target))
          if !fs.isDirectory location then throw .alreadyExists
          FileTask.record (withCopy fs source location)
        | .error e => throw e
    | .ok entry => copyFile title target entry

/-- Make links. -/
def link (title : String) (arguments : List String) : ShellTask Unit := do
  let orders ← ordersOf title (targetSwitches ++ [⟨'s', "symbolic", false⟩,
    ⟨'n', "no-dereference", false⟩, ⟨'r', "relative", false⟩]) arguments
  let orders := match orders.operands with
    | [only] => { orders with operands := [only, baseName only] }
    | _ => orders
  let symbolic := orders.has 's'
  forTargets title orders fun source target => do
    let kind := if symbolic then "symbolic" else "hard"
    if !symbolic then
      if let .error e ← entry source then
        complainAs title ("failed to access " ++ named source ++ ": " ++ e.reason)
        return false
    attempt title ("failed to create " ++ kind ++ " link " ++ named target ++
        (if symbolic then "" else " => " ++ named source)) fun host => do
      let fs ← FileTask.look
      if orders.has 'f' then
        if let .ok location := placeOf fs host.directory (Text.Octets.toText target) then
          if !fs.isDirectory location then FileTask.record (fs.erase location)
      if symbolic then
        host.perform (.makeLink (Text.Octets.toText source) (Text.Octets.toText target))
      else
        let fs ← FileTask.look
        let location ← .ofExcept (fs.vacancy host.directory false (Text.Octets.toText target))
        match fs.status host.directory (Text.Octets.toText source) with
        | .ok entry => FileTask.record (fs.set location entry)
        | .error e => throw e

/-- What a mode does to the permission to run a file. -/
def modeOf? (mode : String) : Option (Option Bool) :=
  if mode ≠ "" ∧ mode.toList.all isOctal then
    some (some (mode.toList.reverse.take 3 |>.any fun c => (c.toNat - 0x30) % 2 = 1))
  else
    let parts := (Text.fields ',' mode).map fun part =>
      let rest := part.toList.dropWhile ("ugoa".toList.contains ·)
      match rest with
      | '+' :: more => if more.any (· = 'x') then some (some true) else some none
      | '-' :: more => if more.any (· = 'x') then some (some false) else some none
      | '=' :: more => some (some (more.any (· = 'x')))
      | _ => none
    if parts.any (· = none) then none
    else some ((parts.filterMap id).foldl (fun found next => next.orElse fun _ => found) none)

/-- Change the permissions of files. Only the one to run them counts. -/
def changeMode (title : String) (arguments : List String) : ShellTask Unit := do
  let arguments := arguments.filter fun argument =>
    argument ∉ ["-R", "-f", "-v", "--"]
  match arguments with
  | [] => refuseUsage title "missing operand"
  | [mode] => refuseUsage title ("missing operand after " ++ named mode)
  | mode :: operands =>
    match modeOf? mode with
    | none => refuseUsage title ("invalid mode: " ++ named mode)
    | some effect? =>
      forOperands title operands fun operand =>
        attempt title ("cannot access " ++ named operand) fun host => do
          let fs ← FileTask.look
          let location ← .ofExcept (fs.resolve host.directory (Text.Octets.toText operand))
          match fs.at? location, effect? with
          | some (.file content _), some isProgram =>
            FileTask.record (fs.set location (.file content isProgram))
          | _, _ => return

/-- The path without links in it, of which the last name may be missing. -/
def physicalPath (mayMiss : Bool) (path : String) : ShellTask (Except OsError String) := do
  let shell ← get
  let fs ← files
  let path := Text.Octets.toText path
  let text (location : Location) : String := Text.Octets.ofText (FileSystem.pathOf location)
  match fs.resolve shell.host.directory path with
  | .ok location => return .ok (text location)
  | .error .noEntry =>
    if !mayMiss then return .error .noEntry
    match fs.slot shell.host.directory path with
    | .ok ⟨directory, .name name, _⟩ =>
      match fs.at? (directory ++ [name]) with
      | some (.link target) =>
        return match fs.slot directory target with
          | .ok ⟨directory, .name name, _⟩ => .ok (text (directory ++ [name]))
          | .ok _ => .error .noEntry
          | .error e => .error e
      | _ => return .ok (text (directory ++ [name]))
    | .ok _ => return .error .noEntry
    | .error e => return .error e
  | .error e => return .error e

/-- Write where links lead. -/
def readLink (title : String) (arguments : List String) : ShellTask Unit := do
  let orders ← ordersOf title [⟨'f', "canonicalize", false⟩,
    ⟨'e', "canonicalize-existing", false⟩, ⟨'m', "canonicalize-missing", false⟩,
    ⟨'n', "no-newline", false⟩, ⟨'q', "", false⟩, ⟨'s', "", false⟩, ⟨'v', "", false⟩] arguments
  let lineEnd := if orders.has 'n' ∧ orders.operands.length = 1 then "" else "\n"
  forOperands title orders.operands fun operand => do
    let found ←
      if orders.has 'f' ∨ orders.has 'e' ∨ orders.has 'm' then
        pure (← physicalPath (!orders.has 'e') operand).toOption
      else
        match ← linkEntry operand with
        | .ok (.link target) => pure (some (Text.Octets.ofText target))
        | _ => pure none
    match found with
    | some path =>
      print (path ++ lineEnd)
      return true
    | none => return false

/-- Write paths without links in them. -/
def realPath (title : String) (arguments : List String) : ShellTask Unit := do
  let orders ← ordersOf title [⟨'e', "canonicalize-existing", false⟩,
    ⟨'m', "canonicalize-missing", false⟩, ⟨'q', "quiet", false⟩, ⟨'P', "physical", false⟩]
    arguments
  forOperands title orders.operands fun operand => do
    match ← physicalPath (!orders.has 'e') operand with
    | .ok path =>
      print (path ++ "\n")
      return true
    | .error e =>
      if !orders.has 'q' then complainAs title (shown operand ++ ": " ++ e.reason)
      return false

/-- Write the names in directories. -/
def list (title : String) (arguments : List String) : ShellTask Unit := do
  let orders ← ordersOf title [⟨'a', "all", false⟩, ⟨'A', "almost-all", false⟩, ⟨'1', "", false⟩,
    ⟨'d', "directory", false⟩, ⟨'r', "reverse", false⟩] arguments
  let ordered (names : List String) : List String :=
    let names := names.mergeSort fun a b => a ≤ b
    if orders.has 'r' then names.reverse else names
  let operands := if orders.operands.isEmpty then ["."] else orders.operands
  let shell ← get
  let fs ← files
  let missing ← operands.filterM fun operand => do
    match ← linkEntry operand with
    | .ok _ => return false
    | .error e =>
      complainAs title ("cannot access " ++ named operand ++ ": " ++ e.reason)
      return true
  let present := ordered (operands.filter (!missing.contains ·))
  let directories ← present.filterM fun operand => return !orders.has 'd' && (← isDirectory operand)
  let others := present.filter (!directories.contains ·)
  print (ofLines others)
  let listings := directories.map fun directory =>
    let names :=
      match fs.resolve shell.host.directory (Text.Octets.toText directory) with
      | .ok location => (fs.namesIn location).map Text.Octets.ofText
      | .error _ => []
    let visible :=
      if orders.has 'a' then "." :: ".." :: names
      else if orders.has 'A' then names
      else names.filter (!·.startsWith ".")
    (if operands.length = 1 then "" else directory ++ ":\n") ++ ofLines (ordered visible)
  print ((if others.isEmpty ∨ listings.isEmpty then "" else "\n") ++ "\n".intercalate listings)
  finish (if missing.isEmpty then 0 else 2)

end CompileCommands.Shell.Utility
