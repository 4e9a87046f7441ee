import CompileCommands.Proofs.Host.Process

/-!
# The program that a call runs

A path with a slash is followed from the directory where the program runs, so that a relative path
may lead to another program from another directory. An absolute path leads to the same program from
everywhere. What programs do when they run is left open.

* `FileSystem.programAt_of_isAbsolute`: where an absolute path leads.
* `Call.programIn_of_slash`: the program of a call that has a path for it.
* `Launch.running`: every call runs the program that it leads to.
* `Launch.runningOnly`, `Launch.runOn_running`: calls that all run one program.
-/

namespace CompileCommands

variable {host : Host} {fs : FileSystem} {here there program : Location} {path : String}
  {call : Call} {journal : Journal}

/-! ## Paths of programs -/

namespace FileSystem

/-- An absolute path leads to the same place from everywhere. -/
theorem resolve_of_isAbsolute (h : Path.isAbsolute path = true) :
    fs.resolve here path = fs.resolve there path := by
  have horigin : origin here path = origin there path := by
    rw [origin, origin, if_pos h, if_pos h]
  rw [resolve, resolve, horigin]

/-- An absolute path leads to the same program from everywhere. -/
theorem programAt_of_isAbsolute (h : Path.isAbsolute path = true) :
    fs.programAt here path = fs.programAt there path := by
  rw [programAt, programAt, resolve_of_isAbsolute h]

/-- The program to which a path leads is a file that may be run. -/
theorem programAt_eq_ok_iff : fs.programAt here path = .ok program ↔
    fs.resolve here path = .ok program ∧ ∃ content, fs.at? program = some (.file content true) := by
  rw [programAt]
  cases fs.resolve here path with
  | error e => simp
  | ok location =>
    dsimp only
    rw [Except.ok.injEq]
    split
    · next content hentry =>
      rw [Except.ok.injEq]
      exact ⟨fun h => ⟨h, content, h ▸ hentry⟩, And.left⟩
    · next hentry =>
      simp only [reduceCtorEq, false_iff]
      rintro ⟨rfl, content, hcontent⟩
      exact hentry content hcontent

/-- A path leads to a program exactly when there is a program to which it leads. -/
theorem leadsToProgram_iff :
    fs.leadsToProgram here path = true ↔ ∃ program, fs.programAt here path = .ok program := by
  simp only [programAt_eq_ok_iff]
  rw [leadsToProgram, status]
  cases fs.resolve here path with
  | error e => simp
  | ok location =>
    simp only [Except.ok.injEq, exists_eq_left']
    cases fs.at? location with
    | none => simp
    | some entry =>
      dsimp only
      split
      · next content hentry =>
        cases hentry
        simp
      · next hentry =>
        simp only [Bool.false_eq_true, Option.some.injEq, false_iff]
        rintro ⟨content, rfl⟩
        exact hentry content rfl

end FileSystem

/-- The path of a program with a slash is followed from the directory where the program runs. -/
theorem Call.programIn_of_slash (h : '/' ∈ call.program.toList) :
    call.programIn host fs here = (fs.programAt here call.program).map (call.program, ·) := by
  have hne : call.program ≠ "" := by
    intro hempty
    rw [hempty] at h
    cases h
  rw [programIn, if_neg hne, if_pos (List.contains_iff_mem.2 h)]

/-! ## Programs that run -/

/-- What programs do: in the directory where it runs, the program at a location answers a call. -/
abbrev Behaviour := (here program : Location) → Launch

namespace Launch

variable {behaviour : Behaviour}

/-- Every call runs the program that it leads to from its directory. -/
def running (host : Host) (behaviour : Behaviour) : Launch := fun call => do
  let fs ← FileTask.look
  let here ← .ofExcept (call.directoryOn host fs)
  let (_, program) ← .ofExcept (call.programIn host fs here)
  behaviour here program call

/-- Every call runs the same program, whatever program it names. -/
def runningOnly (host : Host) (program : Location) (behaviour : Behaviour) : Launch :=
    fun call => do
  let fs ← FileTask.look
  let here ← .ofExcept (call.directoryOn host fs)
  behaviour here program call

/-- A call that leads to a program from its directory runs that program. -/
theorem runOn_running (h : ∀ here, call.directoryOn host journal.now = .ok here →
      ∃ path, call.programIn host journal.now here = .ok (path, program)) :
    (running host behaviour call).runOn journal =
      (runningOnly host program behaviour call).runOn journal := by
  simp only [running, runningOnly, FileTask.runOn_bind, FileTask.runOn_look,
    FileTask.runOn_ofExcept]
  cases hhere : call.directoryOn host journal.now with
  | error e => rfl
  | ok here =>
    obtain ⟨path, hpath⟩ := h here hhere
    dsimp only
    rw [hpath]

end Launch

end CompileCommands
