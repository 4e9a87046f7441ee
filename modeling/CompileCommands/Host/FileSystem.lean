import CompileCommands.Host.OsError
import CompileCommands.Path
import CompileCommands.Text.Utf8

/-!
# A file system

Directories, files and symbolic links, each at a location: the names that lead to it from the
root. A path is turned into a location name by name, starting at the root or at some directory.
Links are followed where they stand; a dot stays, two dots go up.
-/

namespace CompileCommands

/-- The names that lead from the root to an entry. -/
abbrev Location := List String

/-- What is at a location. -/
inductive Entry where
  /-- A directory. -/
  | directory
  /-- A file with its content; it may be a program. -/
  | file (content : List UInt8) (isProgram : Bool)
  /-- A symbolic link that leads to a path. -/
  | link (target : String)
  deriving DecidableEq, Repr

/-- A file system. The root is always a directory. -/
structure FileSystem where
  /-- The entries and their locations. -/
  entries : List (Location × Entry) := []
  deriving DecidableEq, Repr

namespace FileSystem

/-- What is at a location. -/
def at? (fs : FileSystem) (location : Location) : Option Entry :=
  if location = [] then some .directory else fs.entries.lookup location

/-- Entries with one more, in place of the one at its location if there is one. -/
def setEntry (location : Location) (entry : Entry) :
    List (Location × Entry) → List (Location × Entry)
  | [] => [(location, entry)]
  | (l, e) :: rest =>
    if l = location then (location, entry) :: rest else (l, e) :: setEntry location entry rest

/-- Put an entry at a location. -/
def set (fs : FileSystem) (location : Location) (entry : Entry) : FileSystem :=
  ⟨setEntry location entry fs.entries⟩

/-- Remove what is at a location. -/
def erase (fs : FileSystem) (location : Location) : FileSystem :=
  ⟨fs.entries.filter (·.1 ≠ location)⟩

/-- A directory is at the location. -/
def isDirectory (fs : FileSystem) (location : Location) : Bool :=
  fs.at? location == some .directory

/-! ## Paths -/

/-- How many links may be followed on one path. -/
def maxLinks : Nat := 40

/-- How many bytes a name may have. -/
def maxName : Nat := 255

/-- How many bytes a path may have. -/
def maxPath : Nat := 4095

/-- The name has too many bytes. -/
def isLongName (name : String) : Bool :=
  maxName < (Text.Utf8.encode name).length

/-- A slash ends the path. -/
def endsInSlash (path : String) : Bool :=
  path.toList.getLast? == some '/'

/-- Why no entry can have the path. -/
def pathError? (path : String) : Option OsError :=
  if path = "" then some .noEntry
  else if path.toList.contains '\x00' then some .zeroInPath
  else if maxPath < (Text.Utf8.encode path).length then some .nameTooLong
  else none

/-- The names of a path. A slash at the end asks for a directory, like a dot after it. -/
def names (path : String) : List String :=
  Path.segments path ++ if endsInSlash path then ["."] else []

/-- Where a path starts. -/
def origin (here : Location) (path : String) : Location :=
  if Path.isAbsolute path then [] else here

/-- How far names lead without following a link. -/
inductive Walk where
  /-- To a location. -/
  | arrived (location : Location)
  /-- To a link in a directory, with names that are left. -/
  | link (directory : Location) (target : String) (rest : List String)
  deriving DecidableEq, Repr

/-- Go from a location along some names, up to the first link. -/
def walk (fs : FileSystem) (here : Location) : List String → Except OsError Walk
  | [] => .ok (.arrived here)
  | name :: rest =>
    if !fs.isDirectory here then .error .notDirectory
    else if name = "." then walk fs here rest
    else if name = ".." then walk fs here.dropLast rest
    else if isLongName name then .error .nameTooLong
    else
      match fs.at? (here ++ [name]) with
      | none => .error .noEntry
      | some (.link target) => .ok (.link here target rest)
      | some _ => walk fs (here ++ [name]) rest

/-- Go from a location along some names and follow up to `links` links. -/
def follow (fs : FileSystem) : (links : Nat) → Location → List String → Except OsError Location
  | links, here, path =>
    match fs.walk here path with
    | .error e => .error e
    | .ok (.arrived location) => .ok location
    | .ok (.link directory target rest) =>
      match links with
      | 0 => .error .tooManyLinks
      -- The target counts from the directory of the link, unless it starts at the root.
      | links + 1 => follow fs links (origin directory target) (names target ++ rest)

/-- The location to which a path leads from a directory. -/
def resolve (fs : FileSystem) (here : Location) (path : String) : Except OsError Location :=
  match pathError? path with
  | some e => .error e
  | none => fs.follow maxLinks (origin here path) (names path)

/-- What a path leads to. -/
def status (fs : FileSystem) (here : Location) (path : String) : Except OsError Entry :=
  match fs.resolve here path with
  | .error e => .error e
  | .ok location =>
    match fs.at? location with
    | some entry => .ok entry
    | none => .error .noEntry

/-- The last component of a path. -/
inductive Last where
  /-- A name. -/
  | name (name : String)
  /-- The directory itself, the one above, or the root. -/
  | special
  deriving DecidableEq, Repr

/-- The place that a path names, whether or not something is there. -/
structure Slot where
  /-- The directory. -/
  directory : Location
  /-- The component inside it. -/
  last : Last
  /-- A slash ends the path. -/
  slash : Bool
  deriving DecidableEq, Repr

/-- The place that a path names from a directory. Links are followed up to the last component,
which is not followed. -/
def slot (fs : FileSystem) (here : Location) (path : String) : Except OsError Slot :=
  match pathError? path with
  | some e => .error e
  | none =>
    match fs.follow maxLinks (origin here path) (Path.segments path).dropLast with
    | .error e => .error e
    | .ok directory =>
      if !fs.isDirectory directory then .error .notDirectory
      else
        match (Path.segments path).getLast? with
        | none => .ok ⟨directory, .special, true⟩
        | some name =>
          if name = "." ∨ name = ".." then .ok ⟨directory, .special, endsInSlash path⟩
          else if isLongName name then .error .nameTooLong
          else .ok ⟨directory, .name name, endsInSlash path⟩

/-- What is at the place that a path names. A link is not followed, unless a slash asks for a
directory. -/
def linkStatus (fs : FileSystem) (here : Location) (path : String) : Except OsError Entry :=
  match fs.slot here path with
  | .error e => .error e
  | .ok ⟨directory, .name name, false⟩ =>
    match fs.at? (directory ++ [name]) with
    | some entry => .ok entry
    | none => .error .noEntry
  -- A slash at the end follows the link after all.
  | .ok _ => fs.status here path

/-- The content of the file to which a path leads. -/
def read (fs : FileSystem) (here : Location) (path : String) : Except OsError (List UInt8) :=
  match fs.status here path with
  | .error e => .error e
  | .ok (.file content _) => .ok content
  | .ok _ => .error .isDirectory

/-- The text of the file to which a path leads, if it can be read and is text. -/
def readText? (fs : FileSystem) (here : Location) (path : String) : Option String :=
  (fs.read here path).toOption.bind Text.Utf8.decode?

/-- The path leads to a directory. -/
def leadsToDirectory (fs : FileSystem) (here : Location) (path : String) : Bool :=
  match fs.status here path with
  | .ok .directory => true
  | _ => false

/-- The path leads to a file that is a program. -/
def leadsToProgram (fs : FileSystem) (here : Location) (path : String) : Bool :=
  match fs.status here path with
  | .ok (.file _ true) => true
  | _ => false

/-- The path of a location. -/
def pathOf (location : Location) : String :=
  "/" ++ "/".intercalate location

/-- The names in a directory. -/
def namesIn (fs : FileSystem) (directory : Location) : List String :=
  fs.entries.filterMap fun (l, _) =>
    if l.dropLast = directory then l.getLast? else none

/-- Everything below a location with its path from there, ordered by path. -/
def below (fs : FileSystem) (location : Location) : List (String × Entry) :=
  let found := fs.entries.filterMap fun (l, e) =>
    if location.isPrefixOf l ∧ l ≠ location then
      some ("/".intercalate (l.drop location.length), e)
    else none
  found.mergeSort fun a b => a.1 ≤ b.1

/-! ## Entries -/

theorem lookup_setEntry (location l : Location) (entry : Entry)
    (entries : List (Location × Entry)) :
    (setEntry location entry entries).lookup l =
      if l = location then some entry else entries.lookup l := by
  induction entries with
  | nil => grind [setEntry]
  | cons first rest ih => grind [setEntry]

/-- An entry that has been put somewhere is there, and everything else is as before. -/
theorem at?_set (fs : FileSystem) {location : Location} (l : Location) (entry : Entry)
    (h : location ≠ []) :
    (fs.set location entry).at? l = if l = location then some entry else fs.at? l := by
  simp only [at?, set, lookup_setEntry]
  grind

end FileSystem

end CompileCommands
