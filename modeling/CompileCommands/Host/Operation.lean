import CompileCommands.Host.FileSystem

/-!
# Changes of a file system

Each change is one step: it is done as a whole, or it fails and nothing changes.
-/

namespace CompileCommands

/-- One change of a file system. -/
inductive Operation where
  /-- Make a directory. -/
  | makeDirectory (path : String)
  /-- Make a link that leads to a target. -/
  | makeLink (target path : String)
  /-- Make an empty file where nothing is. -/
  | create (location : Location)
  /-- Give a file another content. -/
  | fill (location : Location) (content : List UInt8)
  /-- Move a file to a path, in place of what is there unless that is a directory. -/
  | rename (location : Location) (path : String)
  deriving DecidableEq, Repr

namespace FileSystem

/-- The free location that a path names. Only a directory may be made at a path that ends in a
slash. -/
def vacancy (fs : FileSystem) (here : Location) (forDirectory : Bool) (path : String) :
    Except OsError Location :=
  match fs.slot here path with
  | .error e => .error e
  | .ok ⟨_, .special, _⟩ => .error .alreadyExists
  | .ok ⟨directory, .name name, slash⟩ =>
    if (fs.at? (directory ++ [name])).isSome then .error .alreadyExists
    else if slash && !forDirectory then .error .noEntry
    else .ok (directory ++ [name])

/-- The location that a path names for a file that is moved there. -/
def destination (fs : FileSystem) (here : Location) (path : String) : Except OsError Location :=
  match fs.slot here path with
  | .error e => .error e
  | .ok ⟨_, .special, _⟩ => .error .busy
  | .ok ⟨directory, .name name, slash⟩ =>
    if slash then .error .notDirectory
    else if fs.isDirectory (directory ++ [name]) then .error .isDirectory
    else .ok (directory ++ [name])

end FileSystem

namespace Operation

/-- The file system after the change, made by someone in the directory `here`. -/
def apply (here : Location) (fs : FileSystem) : Operation → Except OsError FileSystem
  | makeDirectory path =>
    match fs.vacancy here true path with
    | .error e => .error e
    | .ok location => .ok (fs.set location .directory)
  | makeLink target path =>
    match FileSystem.pathError? target, fs.vacancy here false path with
    | some e, _ => .error e
    | none, .error e => .error e
    | none, .ok location => .ok (fs.set location (.link target))
  | create location =>
    if (fs.at? location).isSome then .error .alreadyExists
    else .ok (fs.set location (.file [] false))
  | fill location content =>
    match fs.at? location with
    | some (.file _ isProgram) => .ok (fs.set location (.file content isProgram))
    | some _ => .error .isDirectory
    | none => .error .noEntry
  | rename source path =>
    match fs.at? source, fs.destination here path with
    | none, _ => .error .noEntry
    | some _, .error e => .error e
    | some entry, .ok location => .ok ((fs.erase source).set location entry)

end Operation

end CompileCommands
