import CompileCommands.Host.Operation

/-!
# Tasks over a file system

A task changes the file system step by step and ends with a result or an error. The journal
keeps every state that the file system has been in, so that one can also speak of what was there
in between. A task that fails undoes nothing.
-/

namespace CompileCommands

/-- A file system and what it was before. -/
structure Journal where
  /-- The file system. -/
  now : FileSystem
  /-- Its earlier states, the latest first. -/
  past : List FileSystem := []
  deriving Repr

/-- The next state of the file system. -/
def Journal.record (journal : Journal) (fs : FileSystem) : Journal :=
  ⟨fs, journal.now :: journal.past⟩

/-- A task that uses the file system and may fail. -/
abbrev FileTask (ε α : Type) := ExceptT ε (StateM Journal) α

namespace FileTask

variable {ε ε' α : Type}

/-- Do a task from a journal: its result, and the journal after it. -/
def runOn (task : FileTask ε α) (journal : Journal) : Except ε α × Journal :=
  (ExceptT.run task).run journal

/-- Do a task from a file system: its result, and the file system after it. -/
def runFrom (task : FileTask ε α) (fs : FileSystem) : Except ε α × FileSystem :=
  let (result, journal) := task.runOn ⟨fs, []⟩
  (result, journal.now)

/-- The file system as it is. -/
def look : FileTask ε FileSystem := do
  return (← get).now

/-- Put the file system into its next state. -/
def record (fs : FileSystem) : FileTask ε Unit :=
  modify (·.record fs)

/-- A result that is known already. -/
def ofExcept : Except ε α → FileTask ε α
  | .ok a => pure a
  | .error e => throw e

/-- The result of a task, be it an error or not. -/
def outcome (task : FileTask ε α) : FileTask ε' (Except ε α) :=
  ExceptT.lift task.run

/-- A task that fails with another kind of error. -/
def failAs (wrap : ε → ε') (task : FileTask ε α) : FileTask ε' α :=
  ExceptT.adapt wrap task

/-- Do a task; if it fails, take away the file at a location. -/
def orRemoving (location : Location) (task : FileTask ε α) : FileTask ε α := do
  match ← task.outcome with
  | .ok a => return a
  | .error e =>
    record ((← look).erase location)
    throw e

/-! ## What tasks do to a journal -/

@[simp] theorem runOn_pure (a : α) (journal : Journal) :
    (pure a : FileTask ε α).runOn journal = (.ok a, journal) := rfl

@[simp] theorem runOn_throw (e : ε) (journal : Journal) :
    (throw e : FileTask ε α).runOn journal = (.error e, journal) := rfl

/-- The second task goes on where the first one ends, unless the first one fails. -/
theorem runOn_bind {β : Type} (task : FileTask ε α) (next : α → FileTask ε β)
    (journal : Journal) :
    (task >>= next).runOn journal =
      match task.runOn journal with
      | (.ok a, after) => (next a).runOn after
      | (.error e, after) => (.error e, after) := by
  simp only [runOn, ExceptT.run_bind, StateT.run_bind]
  rcases (ExceptT.run task).run journal with ⟨result, after⟩
  cases result <;> rfl

@[simp] theorem runOn_look (journal : Journal) :
    (look : FileTask ε FileSystem).runOn journal = (.ok journal.now, journal) := rfl

@[simp] theorem runOn_record (fs : FileSystem) (journal : Journal) :
    (record fs : FileTask ε Unit).runOn journal = (.ok (), journal.record fs) := rfl

@[simp] theorem runOn_ofExcept (result : Except ε α) (journal : Journal) :
    (ofExcept result).runOn journal = (result, journal) := by
  cases result <;> rfl

/-- Taking the outcome never fails. -/
@[simp] theorem runOn_outcome (task : FileTask ε α) (journal : Journal) :
    (task.outcome : FileTask ε' (Except ε α)).runOn journal =
      (.ok (task.runOn journal).1, (task.runOn journal).2) := rfl

/-- Only the kind of the error changes. -/
@[simp] theorem runOn_failAs (wrap : ε → ε') (task : FileTask ε α) (journal : Journal) :
    (task.failAs wrap).runOn journal =
      ((task.runOn journal).1.mapError wrap, (task.runOn journal).2) := rfl

end FileTask

end CompileCommands
