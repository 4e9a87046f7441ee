import CompileCommands.Proofs.Host.Writing

/-!
# All or nothing

A file is written as a whole or not at all. Whatever the system refuses, what was there before stays
as it is, up to the file itself; the directories above the path that were missing may be new, and no
temporary file is left. On the way, the path never names a part of the content.

A path with dots may lead back to itself: over a link that is replaced by the file, or over a
directory that has been made on the way. Then the path itself leads elsewhere afterwards.

* `Grows`: all that is new are directories that were missing.
* `IsReplaced`: the file at the path is new.
* `IsReplaced.leadsTo_iff`: a path leads on to a directory unless it needs what has been replaced.
* `Journal.Grows.through_unreplaced_aside`, `Journal.Grows.through_replaced`: what the path names on
  the way if writing fails, and if it does not.
* `Host.runOn_writeWhole_cases`: what is left, and what the path names on the way.
* `Host.writeWhole_onto_itself`: two paths that lead back to themselves.
-/

namespace CompileCommands

/-! ## Directories that were missing -/

namespace FileSystem

variable {here location : Location} {paths : List String} {before middle after : FileSystem}

/-- Nothing was at the location, and now it is the directory to which one of some paths leads. -/
structure IsMade (here : Location) (paths : List String) (before after : FileSystem)
    (location : Location) : Prop where
  /-- Nothing was there. -/
  missing : before.at? location = none
  /-- A directory is there. -/
  directory : after.at? location = some .directory
  /-- One of the paths leads to it. -/
  leadsTo : ∃ path ∈ paths, after.LeadsTo here path location

/-- All that is new are directories to which some paths lead, and that were missing. -/
def Grows (here : Location) (paths : List String) (before after : FileSystem) : Prop :=
  ∀ location, after.at? location = before.at? location ∨ IsMade here paths before after location

/-- What was there is still there. -/
theorem Grows.at?_eq_some (h : Grows here paths before after) {entry : Entry}
    (hentry : before.at? location = some entry) : after.at? location = some entry := by
  rcases h location with hsame | hmade
  · rw [hsame, hentry]
  · rw [hmade.missing] at hentry
    cases hentry

theorem Grows.keeps (h : Grows here paths before after) : Keeps before after :=
  ⟨h.at?_eq_some, h.at?_eq_some⟩

/-- A directory that has been made stays one while others are made. -/
theorem IsMade.of_keeps (h : IsMade here paths before middle location)
    (hkeeps : Keeps middle after) : IsMade here paths before after location := by
  obtain ⟨path, hpath, hleads⟩ := h.leadsTo
  exact ⟨h.missing, hkeeps.directory h.directory, path, hpath, hleads.of_keeps hkeeps⟩

theorem Grows.refl (here : Location) (paths : List String) (fs : FileSystem) :
    Grows here paths fs fs :=
  fun _ => .inl rfl

theorem Grows.trans (h : Grows here paths before middle) (h' : Grows here paths middle after) :
    Grows here paths before after := by
  intro location
  rcases h location with hsame | hmade
  · rcases h' location with hsame' | hmade'
    · exact .inl (hsame'.trans hsame)
    · exact .inr ⟨hsame.symm.trans hmade'.missing, hmade'.directory, hmade'.leadsTo⟩
  · exact .inr (hmade.of_keeps h'.keeps)

/-- The paths may be some of more. -/
theorem Grows.mono {more : List String} (h : Grows here paths before after)
    (hpaths : ∀ path ∈ paths, path ∈ more) : Grows here more before after := by
  intro location
  refine (h location).imp_right fun hmade => ?_
  obtain ⟨path, hpath, hleads⟩ := hmade.leadsTo
  exact ⟨hmade.missing, hmade.directory, path, hpaths path hpath, hleads⟩

/-- One directory that is made where nothing was. -/
theorem grows_of_vacancy {path : String} (h : before.vacancy here true path = .ok location) :
    Grows here [path] before (before.set location .directory) := by
  obtain ⟨hne, hnone, hleads⟩ := leadsTo_set_of_vacancy h
  intro place
  by_cases hplace : place = location
  · subst hplace
    refine .inr ⟨hnone, ?_, path, List.mem_singleton_self path, hleads⟩
    rw [at?_set before place _ hne, if_pos rfl]
  · rw [at?_set before place _ hne, if_neg hplace]
    exact .inl rfl

end FileSystem

/-- From the first journal to the second one, one missing directory after the other is made, and
nothing else changes. -/
structure Journal.Grows (here : Location) (paths : List String) (journal after : Journal) :
    Prop where
  /-- In the end, all that is new are directories that were missing. -/
  now : FileSystem.Grows here paths journal.now after.now
  /-- So it is in between. -/
  through : journal.Through (fun fs => FileSystem.Grows here paths journal.now fs ∧
    FileSystem.Grows here paths fs after.now) after

namespace Journal.Grows

variable {here : Location} {paths more : List String} {journal middle after : Journal}

theorem refl (here : Location) (paths : List String) (journal : Journal) :
    Journal.Grows here paths journal journal :=
  ⟨.refl _ _ _, .refl _ _⟩

theorem trans (h : Journal.Grows here paths journal middle)
    (h' : Journal.Grows here paths middle after) : Journal.Grows here paths journal after := by
  refine ⟨h.now.trans h'.now, ?_⟩
  have hfirst := h.through.mono fun fs hfs => And.intro hfs.1 (hfs.2.trans h'.now)
  have hsecond := h'.through.mono fun fs hfs => And.intro (h.now.trans hfs.1) hfs.2
  exact hfirst.trans hsecond

theorem mono (h : Journal.Grows here paths journal after)
    (hpaths : ∀ path ∈ paths, path ∈ more) : Journal.Grows here more journal after :=
  ⟨h.now.mono hpaths, h.through.mono fun _ hfs => ⟨hfs.1.mono hpaths, hfs.2.mono hpaths⟩⟩

theorem record {fs : FileSystem} (h : FileSystem.Grows here paths journal.now fs) :
    Journal.Grows here paths journal (journal.record fs) :=
  ⟨h, (Journal.Through.refl _ _).record ⟨h, .refl _ _ _⟩⟩

end Journal.Grows

namespace Host

variable {host : Host} {path : String} {content : List UInt8} {journal middle after : Journal}
  {result : Except OsError Unit}

/-- However it ends, making one directory makes that one at most. -/
theorem grows_of_runOn_ensureDirectory
    (h : (host.ensureDirectory path).runOn journal = (result, after)) :
    Journal.Grows host.directory [path] journal after := by
  rw [ensureDirectory, FileTask.runOn_bind, FileTask.runOn_outcome] at h
  rcases runOn_perform_cases host (.makeDirectory path) journal with ⟨e, he⟩ | ⟨fs, hfs, hrun⟩
  · rw [he] at h
    simp only [FileTask.runOn_bind, FileTask.runOn_look] at h
    -- Nothing has been made, whether or not there is a directory.
    split at h
    · cases h
      exact .refl _ _ _
    · cases h
      exact .refl _ _ _
  · rw [hrun] at h
    cases h
    rw [Operation.apply] at hfs
    split at hfs
    · cases hfs
    next location hvacancy =>
    cases hfs
    exact .record (FileSystem.grows_of_vacancy hvacancy)

/-- However it ends, making a directory inside others makes some of them at most. -/
theorem grows_of_runOn_makeDirectories {paths : List String}
    (h : (host.makeDirectories paths).runOn journal = (result, after)) :
    Journal.Grows host.directory paths journal after := by
  -- The directories above come in between, if they come at all.
  induction paths generalizing journal result after with
  | nil =>
    cases h
    exact .refl _ _ _
  | cons path above ih =>
    have hhead : ∀ other ∈ [path], other ∈ path :: above := by
      intro other hother
      rw [List.mem_singleton.1 hother]
      exact List.mem_cons_self
    rw [makeDirectories] at h
    split at h
    · cases h
      exact .refl _ _ _
    rw [FileTask.runOn_bind, FileTask.runOn_outcome] at h
    rcases hfirst : (host.ensureDirectory path).runOn journal with ⟨first, middle⟩
    have hmiddle := (grows_of_runOn_ensureDirectory hfirst).mono hhead
    rw [hfirst] at h
    dsimp only at h
    split at h
    · cases h
      exact hmiddle
    · rcases FileTask.runOn_bind_eq_iff.1 h with ⟨e, habove, -⟩ | ⟨_, last, habove, hlast⟩
      · exact hmiddle.trans ((ih habove).mono fun other => List.mem_cons_of_mem _)
      · exact (hmiddle.trans ((ih habove).mono fun other => List.mem_cons_of_mem _)).trans
          ((grows_of_runOn_ensureDirectory hlast).mono hhead)
    · cases h
      exact hmiddle

end Host

/-! ## The file -/

/-- The directories above the last component of a path. -/
def Path.above (path : String) : List String :=
  match Path.parent? path with
  | some parent => Path.ancestors parent
  | none => []

namespace Host

variable {host : Host} {path : String} {content : List UInt8} {journal middle after : Journal}
  {result : Except OsError Unit}

/-- The missing directories above are made; if that fails, nothing else is done. -/
theorem runOn_writeWhole_stages (host : Host) (path : String) (content : List UInt8)
    (journal : Journal) :
    (∃ e after, (host.writeWhole path content).runOn journal = (.error e, after) ∧
      Journal.Grows host.directory (Path.above path) journal after) ∨
    ∃ middle, Journal.Grows host.directory (Path.above path) journal middle ∧
      (host.writeWhole path content).runOn journal = (host.replace path content).runOn middle := by
  rw [writeWhole_eq, FileTask.runOn_bind, Path.above]
  cases Path.parent? path with
  | none => exact .inr ⟨journal, .refl _ _ _, rfl⟩
  | some parent =>
    dsimp only
    rcases hfirst : (host.makeDirectories (Path.ancestors parent)).runOn journal with
      ⟨e | _, middle⟩
    · exact .inl ⟨e, middle, rfl, grows_of_runOn_makeDirectories hfirst⟩
    · exact .inr ⟨middle, grows_of_runOn_makeDirectories hfirst, rfl⟩

end Host

/-- In a file system with the directories above a path, the file at the path is new. -/
structure FileSystem.IsReplaced (made : FileSystem) (here : Location) (path : String)
    (content : List UInt8) (target : Location) (after : FileSystem) : Prop where
  /-- The path names the target, and a link there is not followed. -/
  locates : made.Locates here path target
  /-- The target is no directory. -/
  not_directory : made.isDirectory target = false
  /-- Now a file with the whole content is there, and everything else is as it was. -/
  at?_eq : ∀ l, after.at? l = if l = target then some (.file content false) else made.at? l

namespace FileSystem.IsReplaced

variable {here target location : Location} {path : String} {content : List UInt8}
  {made after : FileSystem}

/-- No directory is in the place of the file. -/
theorem at?_ne_directory (h : made.IsReplaced here path content target after) :
    made.at? target ≠ some .directory := by
  rw [Ne, ← isDirectory_iff, Bool.not_eq_true]
  exact h.not_directory

/-- No directory and no link is new. -/
theorem keeps (h : made.IsReplaced here path content target after) : Keeps after made := by
  refine keeps_of_at?_eq target ?_ ?_ fun l hl => ?_
  · simp [h.at?_eq]
  · simp [h.at?_eq]
  · rw [h.at?_eq, if_neg hl]

/-- The directories and the links are those that there are without what was at the target. -/
theorem keeps_erase (h : made.IsReplaced here path content target after) :
    Keeps after (made.erase target) ∧ Keeps (made.erase target) after :=
  keeps_erase_of_file h.locates.ne_nil h.at?_eq

/-- The path still names the target if and only if it does so without what was there. -/
theorem locates_iff (h : made.IsReplaced here path content target after) :
    after.Locates here path target ↔ (made.erase target).Locates here path target := by
  obtain ⟨herased, hkept⟩ := h.keeps_erase
  exact ⟨fun hlocates => hlocates.of_keeps herased, fun hlocates => hlocates.of_keeps hkept⟩

/-- Any path leads to a directory if and only if it does so without what was there. -/
theorem leadsTo_iff (h : made.IsReplaced here path content target after) {other : String}
    {directory : Location} :
    after.LeadsTo here other directory ↔ (made.erase target).LeadsTo here other directory := by
  obtain ⟨herased, hkept⟩ := h.keeps_erase
  exact ⟨fun hleads => hleads.of_keeps herased, fun hleads => hleads.of_keeps hkept⟩

/-- The path itself names its location afterwards if no link was there. -/
theorem locates_of_not_link (h : made.IsReplaced here path content target after)
    (hlink : ∀ link, made.at? target ≠ some (.link link)) : after.Locates here path target := by
  refine h.locates.of_keeps (keeps_of_at?_eq target h.at?_ne_directory hlink fun l hl => ?_)
  rw [h.at?_eq, if_neg hl]

end FileSystem.IsReplaced

/-! ## What the path names on the way -/

section Stages

variable {here target : Location} {path : String} {content : List UInt8}
  {journal middle last : Journal} {fs : FileSystem}

/-- No directory that has been made is in the place of the file. -/
theorem FileSystem.Grows.at?_eq_of_isReplaced {paths : List String} {before made : FileSystem}
    (h : FileSystem.Grows here paths before made)
    (hreplaced : made.IsReplaced here path content target fs) :
    made.at? target = before.at? target := by
  rcases h target with hsame | hmade
  · exact hsame
  · exact absurd hmade.directory hreplaced.at?_ne_directory

/-- While directories are made, what was there stays, and what the path names is what was there or
one of them. -/
theorem Journal.Grows.through_unreplaced
    (h : Journal.Grows here (Path.above path) journal middle) :
    journal.Through (fun fs =>
      (∀ location entry, journal.now.at? location = some entry → fs.at? location = some entry) ∧
      ∀ location, fs.Locates here path location →
        fs.at? location = journal.now.at? location ∨
          FileSystem.IsMade here (Path.above path) journal.now fs location) middle :=
  h.through.mono fun _ hfs =>
    ⟨fun _ _ => hfs.1.at?_eq_some, fun location _ => hfs.1 location⟩

/-- So it is while there is a temporary file, which is not what the path names. -/
theorem Journal.Grows.through_unreplaced_aside
    (h : Journal.Grows here (Path.above path) journal middle)
    (haside : middle.ThroughAside here path last) :
    journal.Through (fun fs =>
      (∀ location entry, journal.now.at? location = some entry → fs.at? location = some entry) ∧
      ∀ location, fs.Locates here path location →
        fs.at? location = journal.now.at? location ∨
          FileSystem.IsMade here (Path.above path) journal.now fs location) last := by
  refine h.through_unreplaced.trans (Journal.Through.mono haside fun fs hfs => ?_)
  obtain ⟨place, hdiffers⟩ := hfs
  refine ⟨fun location entry hentry => hdiffers.at?_eq_some (h.now.at?_eq_some hentry),
    fun location hlocation => ?_⟩
  rw [hdiffers.at?_eq_of_locates hlocation]
  exact (h.now location).imp_right fun hmade => hmade.of_keeps hdiffers.kept

/-- If the file is replaced in the end, the path has named what was there before or names the file
with the whole content. -/
theorem Journal.Grows.through_replaced
    (h : Journal.Grows here (Path.above path) journal middle)
    (haside : middle.ThroughAside here path last)
    (hreplaced : middle.now.IsReplaced here path content target fs) :
    journal.Through (fun fs =>
      (∀ location entry, location ≠ target → journal.now.at? location = some entry →
        fs.at? location = some entry) ∧
      ∀ location, fs.Locates here path location →
        fs.at? location = journal.now.at? location ∨
          fs.at? location = some (.file content false)) (last.record fs) := by
  have htarget := h.now.at?_eq_of_isReplaced hreplaced
  -- Whatever the path names in a state on the way is the target.
  refine Journal.Through.record (.trans (h.through.mono fun fs hfs => ?_)
    (Journal.Through.mono haside fun fs hfs => ?_)) ?_
  · refine ⟨fun location entry _ => hfs.1.at?_eq_some, fun location hlocation => ?_⟩
    obtain rfl := (hlocation.of_keeps hfs.2.keeps).unique hreplaced.locates
    rcases hfs.1 location with hsame | hmade
    · exact .inl hsame
    · -- No directory is there in the end, so none has been made there.
      exact absurd (hfs.2.keeps.directory hmade.directory) hreplaced.at?_ne_directory
  · obtain ⟨place, hdiffers⟩ := hfs
    refine ⟨fun location entry _ hentry => hdiffers.at?_eq_some (h.now.at?_eq_some hentry),
      fun location hlocation => ?_⟩
    obtain rfl := (hlocation.of_keeps hdiffers.keeps).unique hreplaced.locates
    rw [hdiffers.at?_eq_of_locates hlocation]
    exact .inl htarget
  · refine ⟨fun location entry hne hentry => ?_, fun location hlocation => ?_⟩
    · rw [hreplaced.at?_eq, if_neg hne]
      exact h.now.at?_eq_some hentry
    · obtain rfl := (hlocation.of_keeps hreplaced.keeps).unique hreplaced.locates
      rw [hreplaced.at?_eq, if_pos rfl]
      exact .inr rfl

end Stages

namespace Host

/-- Writing a file as a whole either fails, or a file with the whole content takes the place that
the path names once the missing directories above it are made. Apart from such directories
everything else is as before, also in every state on the way. In such a state the path names what
was there before or the file with the whole content; if writing fails, it may name one of those
directories. -/
theorem runOn_writeWhole_cases (host : Host) (path : String) (content : List UInt8)
    (journal : Journal) :
    (∃ e after, (host.writeWhole path content).runOn journal = (.error e, after) ∧
      FileSystem.Grows host.directory (Path.above path) journal.now after.now ∧
      journal.Through (fun fs =>
        (∀ location entry, journal.now.at? location = some entry →
          fs.at? location = some entry) ∧
        ∀ location, fs.Locates host.directory path location →
          fs.at? location = journal.now.at? location ∨
            FileSystem.IsMade host.directory (Path.above path) journal.now fs location) after) ∨
    ∃ target made after, (host.writeWhole path content).runOn journal = (.ok (), after) ∧
      FileSystem.Grows host.directory (Path.above path) journal.now made ∧
      made.at? target = journal.now.at? target ∧
      made.IsReplaced host.directory path content target after.now ∧
      (after.now.Locates host.directory path target ↔
        (made.erase target).Locates host.directory path target) ∧
      ((∀ link, journal.now.at? target ≠ some (.link link)) →
        after.now.Locates host.directory path target) ∧
      journal.Through (fun fs =>
        (∀ location entry, location ≠ target → journal.now.at? location = some entry →
          fs.at? location = some entry) ∧
        ∀ location, fs.Locates host.directory path location →
          fs.at? location = journal.now.at? location ∨
            fs.at? location = some (.file content false)) after := by
  rcases runOn_writeWhole_stages host path content journal with
    ⟨e, after, hrun, hgrows⟩ | ⟨middle, hgrows, hrun⟩
  · -- Some directories have been made, and no more.
    exact .inl ⟨e, after, hrun, hgrows.now, hgrows.through_unreplaced⟩
  rw [hrun]
  rcases runOn_replace_steps host path content middle with
    ⟨e, after, hreplace, haside, hafter⟩ |
      ⟨target, last, fs, hreplace, haside, hlocates, hdirectory, hat⟩
  · -- The temporary file has been taken away again.
    rw [hreplace]
    refine .inl ⟨e, after, rfl, fun location => ?_, hgrows.through_unreplaced_aside haside⟩
    rw [hafter]
    exact (hgrows.now location).imp_right fun hmade =>
      hmade.of_keeps (FileSystem.keeps_of_forall_at?_eq hafter)
  · rw [hreplace]
    have hreplaced : middle.now.IsReplaced host.directory path content target fs :=
      ⟨hlocates, hdirectory, hat⟩
    have htarget := hgrows.now.at?_eq_of_isReplaced hreplaced
    exact .inr ⟨target, middle.now, last.record fs, rfl, hgrows.now, htarget, hreplaced,
      hreplaced.locates_iff, fun hlink => hreplaced.locates_of_not_link (htarget ▸ hlink),
      hgrows.through_replaced haside hreplaced⟩

/-- A path over a link that leads back to that link leads nowhere once a file takes the place of the
link. A path over a missing directory that leads back to that directory leads to it once it is made,
although no file can be written there. -/
theorem writeWhole_onto_itself :
    ((({} : Host).writeWhole "/l/../l" [1]).runFrom
        ⟨[(["d"], .directory), (["l"], .link "d")]⟩).1 = .ok () ∧
      ((({} : Host).writeWhole "/l/../l" [1]).runFrom
        ⟨[(["d"], .directory), (["l"], .link "d")]⟩).2.read [] "/l/../l" = .error .notDirectory ∧
      ((({} : Host).writeWhole "/a/../a" [1]).runFrom {}).1 = .error .isDirectory ∧
      ({} : FileSystem).linkStatus [] "/a/../a" = .error .noEntry ∧
      ((({} : Host).writeWhole "/a/../a" [1]).runFrom {}).2.linkStatus [] "/a/../a" =
        .ok .directory := by
  decide +kernel

end Host

end CompileCommands
