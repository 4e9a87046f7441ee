import CompileCommands.Host.Process
import CompileCommands.Proofs.Host.Writing

/-!
# What programs leave alone

A program that is called may change the file system as well. What it does is not known, but it
may be known which entries it spares: those of the directories where nobody else has anything to
do.

* `FileTask.Spares`: a task leaves some entries as they are, whatever its result.
* `Launch.Spares`: calls do, and they run in directories that are there and stay there.
* `Launch.Gives`, `Launch.Repeats`: a call ends well and writes some output.
* `Launch.answering_spares`, `Launch.repeats_of_answering`: calls that are only answered change
  nothing and can be repeated.
-/

namespace CompileCommands

variable {ε ε' α β : Type} {spared : Location → Prop}

/-! ## Spared entries -/

/-- The spared entries are the same. -/
def FileSystem.Agrees (spared : Location → Prop) (fs fs' : FileSystem) : Prop :=
  ∀ l, spared l → fs'.at? l = fs.at? l

theorem FileSystem.Agrees.trans {fs fs' fs'' : FileSystem} (h : fs.Agrees spared fs')
    (h' : fs'.Agrees spared fs'') : fs.Agrees spared fs'' :=
  fun l hl => (h' l hl).trans (h l hl)

/-- The task leaves the spared entries as they are, whatever its result. -/
def FileTask.Spares (spared : Location → Prop) (task : FileTask ε α) : Prop :=
  ∀ ⦃journal result after⦄, task.runOn journal = (result, after) →
    journal.now.Agrees spared after.now

namespace FileTask

/-- A task after which everything is as before spares everything. -/
theorem spares_of_runOn_eq {task : FileTask ε α}
    (h : ∀ journal, (task.runOn journal).2 = journal) : task.Spares spared := by
  intro journal result after hrun l _
  have hafter : after = journal := by rw [← h journal, hrun]
  rw [hafter]

theorem spares_pure (a : α) : (pure a : FileTask ε α).Spares spared :=
  spares_of_runOn_eq fun _ => rfl

theorem spares_throw (e : ε) : (throw e : FileTask ε α).Spares spared :=
  spares_of_runOn_eq fun _ => rfl

theorem spares_ofExcept (result : Except ε α) : (ofExcept result).Spares spared :=
  spares_of_runOn_eq fun journal => by rw [runOn_ofExcept]

theorem Spares.bind {task : FileTask ε α} {next : α → FileTask ε β} (h : task.Spares spared)
    (hnext : ∀ a, (next a).Spares spared) : (task >>= next).Spares spared := by
  intro journal result after hrun
  rcases runOn_bind_eq_iff.1 hrun with ⟨e, he, -⟩ | ⟨a, middle, ha, hrest⟩
  · exact h he
  · exact (h ha).trans (hnext a hrest)

theorem Spares.failAs {task : FileTask ε α} (h : task.Spares spared) (wrap : ε → ε') :
    (task.failAs wrap).Spares spared := by
  intro journal result after hrun
  rw [runOn_failAs] at hrun
  cases hrun
  exact h rfl

/-- Another kind of error makes no difference to a result. -/
theorem mapError_eq_ok_iff {wrap : ε → ε'} {result : Except ε α} {a : α} :
    result.mapError wrap = .ok a ↔ result = .ok a := by
  cases result with
  | error e => simp [Except.mapError]
  | ok b => simp [Except.mapError]

theorem runOn_failAs_eq_ok_iff {task : FileTask ε α} {wrap : ε → ε'} {journal after : Journal}
    {a : α} : (task.failAs wrap).runOn journal = (.ok a, after) ↔
      task.runOn journal = (.ok a, after) := by
  rw [runOn_failAs, Prod.ext_iff, Prod.ext_iff, mapError_eq_ok_iff]

end FileTask

/-! ## Calls of programs -/

/-- Calls leave the spared entries as they are. A program that is to run in some directory runs
only if that is there, and leaves it there. -/
structure Launch.Spares (launch : Launch) (host : Host) (spared : Location → Prop) : Prop where
  /-- The spared entries are as before, whatever the call comes to. -/
  entries : ∀ call, (launch call).Spares spared
  /-- The path of the directory leads to it before and after a call that is answered. -/
  directory : ∀ {call path journal reply after}, call.directory = some path →
    (launch call).runOn journal = (.ok reply, after) →
      ∃ found, journal.now.LeadsTo host.directory path found ∧
        after.now.LeadsTo host.directory path found

/-- The call ends well and writes some output. -/
def Launch.Gives (launch : Launch) (journal : Journal) (call : Call) (output : List UInt8)
    (after : Journal) : Prop :=
  ∃ reply, (launch call).runOn journal = (.ok reply, after) ∧ reply.status = .exited 0 ∧
    reply.output = output

/-- Whatever is said from a directory says that the directory is there, before and after. -/
theorem Launch.Spares.exists_leadsTo {launch : Launch} {host : Host} {call : Call} {path : String}
    {output : List UInt8} {journal after : Journal} (hlaunch : launch.Spares host spared)
    (hpath : call.directory = some path) (h : launch.Gives journal call output after) :
    ∃ found, journal.now.LeadsTo host.directory path found ∧
      after.now.LeadsTo host.directory path found := by
  obtain ⟨reply, hreply, -⟩ := h
  exact hlaunch.directory hpath hreply

/-- A call that ends well leaves the entries that it spares as they are. -/
theorem Launch.Gives.agrees {launch : Launch} {call : Call} {output : List UInt8}
    {journal after : Journal} (h : launch.Gives journal call output after)
    (hspares : (launch call).Spares spared) : journal.now.Agrees spared after.now := by
  obtain ⟨reply, hreply, -⟩ := h
  exact hspares hreply

/-- Whenever the entries are those of a file system, the call ends well and writes some output. -/
def Launch.Repeats (launch : Launch) (fs : FileSystem) (call : Call) (output : List UInt8) : Prop :=
  ∀ journal : Journal, (∀ l, journal.now.at? l = fs.at? l) →
    ∃ after, launch.Gives journal call output after

/-- Calls that leave everything as it is can be repeated one after the other. -/
theorem Launch.Repeats.exists_gives {launch : Launch} {fs : FileSystem} {call : Call}
    {output : List UInt8} {journal : Journal} (h : launch.Repeats fs call output)
    (hspares : (launch call).Spares fun _ => True) (hsame : ∀ l, journal.now.at? l = fs.at? l) :
    ∃ after, launch.Gives journal call output after ∧ ∀ l, after.now.at? l = fs.at? l := by
  obtain ⟨after, hafter⟩ := h journal hsame
  exact ⟨after, hafter, fun l => (hafter.agrees hspares l trivial).trans (hsame l)⟩

/-- Calls that are answered, one way or another, if their directory is there. -/
def Launch.answering (host : Host) (answers : Call → FileSystem → Except OsError Reply) :
    Launch := fun call => do
  let fs ← FileTask.look
  let _ ← .ofExcept (call.directoryOn host fs)
  .ofExcept (answers call fs)

theorem Call.leadsTo_of_directoryOn {call : Call} {host : Host} {fs : FileSystem} {path : String}
    {found : Location} (hpath : call.directory = some path)
    (h : call.directoryOn host fs = .ok found) : fs.LeadsTo host.directory path found := by
  rw [Call.directoryOn, hpath] at h
  dsimp only at h
  split at h
  · cases h
  next location hresolve =>
  split at h
  · next hdirectory =>
    cases h
    exact ⟨hresolve, hdirectory⟩
  · cases h

/-- A call that is only answered looks at its directory, and no file changes. -/
theorem Launch.runOn_answering (host : Host) (answers : Call → FileSystem → Except OsError Reply)
    (call : Call) (journal : Journal) :
    (answering host answers call).runOn journal =
      match call.directoryOn host journal.now with
      | .error e => (.error e, journal)
      | .ok _ => (answers call journal.now, journal) := by
  simp only [answering, FileTask.runOn_bind, FileTask.runOn_look, FileTask.runOn_ofExcept]
  cases call.directoryOn host journal.now with
  | error e => rfl
  | ok directory => rfl

/-- Whatever the answers are, calls that are only answered spare everything. -/
theorem Launch.answering_spares (host : Host)
    (answers : Call → FileSystem → Except OsError Reply) (spared : Location → Prop) :
    (Launch.answering host answers).Spares host spared := by
  constructor
  · refine fun call => FileTask.spares_of_runOn_eq fun journal => ?_
    rw [runOn_answering]
    split
    · rfl
    · rfl
  · intro call path journal reply after hpath h
    rw [runOn_answering] at h
    split at h
    · cases h
    next found hfound =>
    obtain rfl : journal = after := congrArg Prod.snd h
    have hleads := call.leadsTo_of_directoryOn hpath hfound
    exact ⟨found, hleads, hleads⟩

/-- A call can be made from a directory that is there. -/
theorem Call.exists_directoryOn {call : Call} {host : Host} {fs : FileSystem}
    (h : ∀ path, call.directory = some path → ∃ found, fs.LeadsTo host.directory path found) :
    ∃ found, call.directoryOn host fs = .ok found := by
  rw [directoryOn]
  cases hdirectory : call.directory with
  | none => exact ⟨host.directory, rfl⟩
  | some path =>
    obtain ⟨found, hfound⟩ := h path hdirectory
    refine ⟨found, ?_⟩
    simp only [hfound.resolve, hfound.isDirectory, if_true]

/-- A call that is only answered, whatever files there are, can be repeated as long as its directory
is there. -/
theorem Launch.repeats_of_answering {host : Host} {answers : Call → Except OsError Reply}
    {fs : FileSystem} {call : Call} {output : List UInt8} {journal after : Journal}
    (h : (answering host fun call _ => answers call).Gives journal call output after)
    (hthere : ∀ path, call.directory = some path → ∃ found, fs.LeadsTo host.directory path found) :
    (answering host fun call _ => answers call).Repeats fs call output := by
  obtain ⟨reply, hreply, hstatus, houtput⟩ := h
  rw [runOn_answering] at hreply
  split at hreply
  · cases hreply
  obtain ⟨hanswer, -⟩ := Prod.ext_iff.1 hreply
  intro next hsame
  -- The directory of the call is there, since it was in the other file system.
  have hkeeps := FileSystem.keeps_of_forall_at?_eq hsame
  obtain ⟨found, hfound⟩ : ∃ found, call.directoryOn host next.now = .ok found :=
    call.exists_directoryOn fun path hpath =>
      (hthere path hpath).imp fun _ hleads => hleads.of_keeps hkeeps
  refine ⟨next, reply, ?_, hstatus, houtput⟩
  rw [runOn_answering, hfound]
  exact Prod.ext hanswer rfl

end CompileCommands
