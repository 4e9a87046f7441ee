import CompileCommands.Host.Journal

/-!
# The host

Where a task is done: a current directory, the home directory and the search path of the
environment, and a file system that may refuse a change for reasons of its own, such as a full
disk.
-/

namespace CompileCommands

/-- Where tasks are done. -/
structure Host where
  /-- The current directory. -/
  directory : Location := []
  /-- The home directory that the environment names; it names none by the empty text. -/
  home : String := "/"
  /-- The home directory of the account. -/
  accountHome : String := "/root"
  /-- The directories of programs, with a colon between them. -/
  searchPath : String := ""
  /-- Why a change that is possible is refused all the same. -/
  refusal : FileSystem → Operation → Option OsError := fun _ _ => none

namespace Host

/-- The home directory: the one that the environment names, or else that of the account. -/
def homeDirectory (host : Host) : String :=
  if host.home = "" then host.accountHome else host.home

/-- Make a change. -/
def perform (host : Host) (operation : Operation) : FileTask OsError Unit := do
  let fs ← FileTask.look
  match host.refusal fs operation with
  | some e => throw e
  | none => FileTask.record (← .ofExcept (operation.apply host.directory fs))

/-- A change is made as a whole, or nothing happens. -/
theorem runOn_perform (host : Host) (operation : Operation) (journal : Journal) :
    (host.perform operation).runOn journal =
      match host.refusal journal.now operation, operation.apply host.directory journal.now with
      | some e, _ => (.error e, journal)
      | none, .error e => (.error e, journal)
      | none, .ok fs => (.ok (), journal.record fs) := by
  simp only [perform, FileTask.runOn_bind, FileTask.runOn_look]
  cases host.refusal journal.now operation with
  | some e => simp
  | none =>
    cases operation.apply host.directory journal.now <;>
      simp [FileTask.runOn_bind]

/-! ## Writing a file as a whole -/

/-- Make a directory, unless the path leads to one. -/
def ensureDirectory (host : Host) (path : String) : FileTask OsError Unit := do
  match ← (host.perform (.makeDirectory path)).outcome with
  | .ok _ => return
  | .error e =>
    if (← FileTask.look).leadsToDirectory host.directory path then return
    else throw e

/-- Make the first of some directories. Each one is inside the next, which is made when it
is missing; the empty path is the current directory. -/
def makeDirectories (host : Host) : List String → FileTask OsError Unit
  | [] => throw .noEntry
  | path :: above => do
    if path = "" then return
    else
      match ← (host.ensureDirectory path).outcome with
      | .ok _ => return
      -- The directory above is missing as well; made first, it makes room for this one.
      | .error .noEntry =>
        makeDirectories host above
        host.ensureDirectory path
      | .error e => throw e

/-- The length of the longest text. -/
def maxLength (texts : List String) : Nat :=
  (texts.map String.length).foldr max 0

/-- A name that none of some texts is. -/
def freshName (taken : List String) : String :=
  ".tmp" ++ String.ofList (List.replicate (maxLength taken) '0')

/-- Make an empty file with a fresh name in a directory, and say where it is. The name is none
of those in `avoided`. -/
def createTemporary (host : Host) (directory : String) (avoided : List String) :
    FileTask OsError Location := do
  let fs ← FileTask.look
  let directory ← .ofExcept (fs.resolve host.directory (Path.join directory "."))
  -- A name longer than every other one in the directory is none of them.
  let location := directory ++ [freshName (avoided ++ fs.namesIn directory)]
  host.perform (.create location)
  return location

/-- Make a file with some content at a path, in place of what is there. The content goes to a
temporary file in the same directory, which is then moved to the path, so that the path never
leads to a part of the content. Missing directories are made. -/
def writeWhole (host : Host) (path : String) (content : List UInt8) : FileTask OsError Unit := do
  if let some parent := Path.parent? path then
    host.makeDirectories (Path.ancestors parent)
  let location ← host.createTemporary ((Path.parent? path).getD ".") (Path.segments path)
  FileTask.orRemoving location do
    host.perform (.fill location content)
    host.perform (.rename location path)

end Host

end CompileCommands
