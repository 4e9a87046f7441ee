import CompileCommands.Host
import CompileCommands.Proofs.Host.FileSystem
import CompileCommands.Proofs.Host.Journal

/-!
# Writing a file as a whole

What is left when a file has been written, or could not be: the file with the whole content at the
location that the path names, or everything as before. In between there is one more file, at a place
that the path does not name.

* `Host.runOn_perform_cases`: the two ways in which a change ends.
* `Host.makeDirectories_of_leadsTo`: directories that are there are left alone.
* `FileSystem.DiffersAside`, `Journal.ThroughAside`: at most a temporary file is new.
* `Host.runOn_replace_steps`: what the temporary file comes to, and all states on the way.
* `Host.runOn_replace_of_allows`: the temporary file becomes the file unless the host refuses it.
* `Host.runOn_writeWhole_join`, `Host.runOn_writeWhole_join_of_allows`: writing a file in a
  directory that is there.
-/

namespace CompileCommands

namespace Host

variable {host : Host} {path : String} {journal after : Journal}

/-! ## Single changes -/

/-- A change fails and leaves everything as it is, or is possible and is made. -/
theorem runOn_perform_cases (host : Host) (operation : Operation) (journal : Journal) :
    (∃ e, (host.perform operation).runOn journal = (.error e, journal)) ∨
      ∃ fs, operation.apply host.directory journal.now = .ok fs ∧
        (host.perform operation).runOn journal = (.ok (), journal.record fs) := by
  rw [runOn_perform]
  split
  · exact .inl ⟨_, rfl⟩
  · exact .inl ⟨_, rfl⟩
  · next fs _ happly => exact .inr ⟨fs, happly, rfl⟩

/-- A change that is possible is made unless the host refuses it. -/
theorem runOn_perform_of_apply {operation : Operation} {fs : FileSystem}
    (hrefusal : host.refusal journal.now operation = none)
    (happly : operation.apply host.directory journal.now = .ok fs) :
    (host.perform operation).runOn journal = (.ok (), journal.record fs) := by
  rw [runOn_perform, hrefusal, happly]

/-! ## Directories that are there -/

/-- No directory can be made where a path leads to one. -/
theorem not_apply_makeDirectory {fs fs' : FileSystem} {here found : Location}
    (h : fs.LeadsTo here path found) :
    (Operation.makeDirectory path).apply here fs ≠ .ok fs' := by
  -- Either the path names no place inside a directory, or something is at the place.
  rw [Operation.apply, FileSystem.vacancy]
  cases hslot : fs.slot here path with
  | error e => simp
  | ok slot =>
    obtain ⟨directory, last, slash⟩ := slot
    cases last with
    | special => simp
    | name name =>
      simp only [h.isSome_at? hslot, if_true, ne_eq, reduceCtorEq, not_false_eq_true]

/-- A directory that is there need not be made. -/
theorem ensureDirectory_of_leadsTo {found : Location}
    (h : journal.now.LeadsTo host.directory path found) :
    (host.ensureDirectory path).runOn journal = (.ok (), journal) := by
  rw [ensureDirectory, FileTask.runOn_bind, FileTask.runOn_outcome]
  -- Making the directory can only fail, which does not matter when there is one.
  rcases runOn_perform_cases host (.makeDirectory path) journal with ⟨e, he⟩ | ⟨fs, hfs, -⟩
  · rw [he]
    simp only [FileTask.runOn_bind, FileTask.runOn_look, h.leadsToDirectory, if_true,
      FileTask.runOn_pure]
  · exact absurd hfs (not_apply_makeDirectory h)

/-- Nothing is made when the first of the directories is there. -/
theorem makeDirectories_of_leadsTo (above : List String) {found : Location}
    (h : journal.now.LeadsTo host.directory path found) :
    (host.makeDirectories (path :: above)).runOn journal = (.ok (), journal) := by
  rw [makeDirectories]
  -- Nothing is asked about the empty path.
  split
  · rfl
  · rw [FileTask.runOn_bind, FileTask.runOn_outcome, ensureDirectory_of_leadsTo h]
    rfl

/-! ## The temporary file -/

/-- Write content to a temporary file in the directory of a path and move it to the path. -/
def replace (host : Host) (path : String) (content : List UInt8) : FileTask OsError Unit := do
  let location ← host.createTemporary ((Path.parent? path).getD ".") (Path.segments path)
  FileTask.orRemoving location do
    host.perform (.fill location content)
    host.perform (.rename location path)

/-- The directories above come first, the file itself afterwards. -/
theorem writeWhole_eq (host : Host) (path : String) (content : List UInt8) :
    host.writeWhole path content =
      (match Path.parent? path with
        | some parent => host.makeDirectories (Path.ancestors parent)
        | none => pure ()) >>= fun _ => host.replace path content := by
  unfold writeWhole replace
  cases Path.parent? path
  · rw [pure_bind]
  · rfl

/-- No text is longer than the longest one. -/
theorem length_le_maxLength {texts : List String} {text : String} (h : text ∈ texts) :
    text.length ≤ maxLength texts := by
  induction texts with
  | nil => cases h
  | cons first texts ih =>
    have hmax : maxLength (first :: texts) = max first.length (maxLength texts) := rfl
    rw [hmax]
    rcases List.mem_cons.1 h with rfl | hmem
    · exact Nat.le_max_left _ _
    · exact Nat.le_trans (ih hmem) (Nat.le_max_right _ _)

/-- A fresh name is longer than those that are taken. -/
theorem freshName_notMem (taken : List String) : freshName taken ∉ taken := by
  intro hmem
  have hlength : (freshName taken).length = 4 + maxLength taken := by
    simp only [freshName, String.length_append, String.length_ofList, List.length_replicate]
    rfl
  have hle := length_le_maxLength hmem
  omega

/-- A temporary file is made where nothing was, and its name is none of those to avoid. -/
theorem runOn_createTemporary_cases (host : Host) (directory : String) (avoided : List String)
    (journal : Journal) :
    (∃ e, (host.createTemporary directory avoided).runOn journal = (.error e, journal)) ∨
      ∃ found name, name ∉ avoided ∧ journal.now.at? (found ++ [name]) = none ∧
        (host.createTemporary directory avoided).runOn journal =
          (.ok (found ++ [name]),
            journal.record (journal.now.set (found ++ [name]) (.file [] false))) := by
  simp only [createTemporary, FileTask.runOn_bind, FileTask.runOn_look, FileTask.runOn_ofExcept]
  cases journal.now.resolve host.directory (Path.join directory ".") with
  | error e => exact .inl ⟨e, rfl⟩
  | ok found =>
    dsimp only
    have hfresh := freshName_notMem (avoided ++ journal.now.namesIn found)
    -- From here on it does not count which fresh name it is.
    generalize freshName (avoided ++ journal.now.namesIn found) = name at hfresh
    rcases runOn_perform_cases host (.create (found ++ [name])) journal with
      ⟨e, he⟩ | ⟨fs, hfs, hperform⟩
    · rw [he]
      exact .inl ⟨e, rfl⟩
    · rw [hperform]
      rw [Operation.apply] at hfs
      split at hfs
      · cases hfs
      · next hnone =>
        cases hfs
        refine .inr ⟨found, name, fun hmem => hfresh (List.mem_append_left _ hmem), ?_, rfl⟩
        simpa using hnone

end Host

namespace FileSystem

variable {here place location found : Location} {path name : String} {before fs : FileSystem}

/-- Nothing is at the place, and the path does not name it in any file system. -/
structure IsAside (before : FileSystem) (here : Location) (path : String) (place : Location) :
    Prop where
  /-- The place is not the root. -/
  ne_nil : place ≠ []
  /-- Nothing is there. -/
  vacant : before.at? place = none
  /-- The path does not name the place. -/
  not_locates : ∀ fs : FileSystem, ¬ fs.Locates here path place

/-- A path names no place with a name that is none of its segments. -/
theorem isAside_of_notMem_segments (hname : name ∉ Path.segments path)
    (hvacant : before.at? (found ++ [name]) = none) :
    before.IsAside here path (found ++ [name]) := by
  refine ⟨by simp, hvacant, fun fs hlocates => ?_⟩
  obtain ⟨directory, last, hlast, heq⟩ := hlocates.exists_mem_segments
  obtain ⟨-, hnames⟩ := List.append_inj' heq rfl
  obtain rfl : name = last := List.singleton_inj.1 hnames
  exact hname hlast

/-- The second file system has at most one file more, at a place aside from the path. -/
structure DiffersAside (before : FileSystem) (here : Location) (path : String) (place : Location)
    (fs : FileSystem) : Prop where
  /-- The place is aside. -/
  aside : before.IsAside here path place
  /-- A file is there, or nothing. -/
  file : ∀ entry, fs.at? place = some entry → ∃ content, entry = .file content false
  /-- Everything else is as before. -/
  others : ∀ l, l ≠ place → fs.at? l = before.at? l

theorem IsAside.differsAside_of_file {content : List UInt8} (h : before.IsAside here path place)
    (hfs : ∀ l, fs.at? l = if l = place then some (.file content false) else before.at? l) :
    before.DiffersAside here path place fs := by
  refine ⟨h, fun entry hentry => ⟨content, ?_⟩, fun l hl => by rw [hfs, if_neg hl]⟩
  rw [hfs, if_pos rfl] at hentry
  exact (Option.some.inj hentry).symm

namespace DiffersAside

/-- The directories and links are those from before. -/
theorem keeps (h : before.DiffersAside here path place fs) : Keeps fs before := by
  refine keeps_of_at?_eq place (fun hdirectory => ?_) (fun target hlink => ?_) h.others
  · obtain ⟨content, hcontent⟩ := h.file _ hdirectory
    cases hcontent
  · obtain ⟨content, hcontent⟩ := h.file _ hlink
    cases hcontent

/-- The directories and links from before are all there. -/
theorem kept (h : before.DiffersAside here path place fs) : Keeps before fs := by
  refine keeps_of_at?_eq place ?_ ?_ fun l hl => (h.others l hl).symm
  · simp [h.aside.vacant]
  · simp [h.aside.vacant]

/-- What the path names is what was there before. -/
theorem at?_eq_of_locates (h : before.DiffersAside here path place fs)
    (hlocates : fs.Locates here path location) : fs.at? location = before.at? location := by
  refine h.others location ?_
  rintro rfl
  exact h.aside.not_locates fs hlocates

/-- What was there before is still there. -/
theorem at?_eq_some (h : before.DiffersAside here path place fs) {entry : Entry}
    (hentry : before.at? location = some entry) : fs.at? location = some entry := by
  rw [h.others location, hentry]
  rintro rfl
  rw [h.aside.vacant] at hentry
  cases hentry

/-- With the file taken away, everything is as before. -/
theorem at?_erase (h : before.DiffersAside here path place fs) (l : Location) :
    (fs.erase place).at? l = before.at? l := by
  rw [FileSystem.at?_erase fs l h.aside.ne_nil]
  split
  · next hl => rw [hl, h.aside.vacant]
  · next hl => exact h.others l hl

/-- It may be taken away. -/
theorem erase (h : before.DiffersAside here path place fs) :
    before.DiffersAside here path place (fs.erase place) := by
  refine ⟨h.aside, fun entry hentry => ?_, fun l _ => h.at?_erase l⟩
  rw [h.at?_erase, h.aside.vacant] at hentry
  cases hentry

end DiffersAside

end FileSystem

/-- From the first journal to the second one, at most a temporary file is new. -/
def Journal.ThroughAside (here : Location) (path : String) (journal after : Journal) : Prop :=
  journal.Through (fun fs => ∃ place, journal.now.DiffersAside here path place fs) after

namespace Host

variable {host : Host} {path : String} {journal after : Journal}

/-- A temporary file that has been filled is all that is new. -/
theorem at?_of_apply_fill {fs fs' : FileSystem} {here place : Location} {content : List UInt8}
    (hplace : place ≠ [])
    (h : (Operation.fill place content).apply here (fs.set place (.file [] false)) = .ok fs')
    (l : Location) : fs'.at? l = if l = place then some (.file content false) else fs.at? l := by
  rw [Operation.apply, FileSystem.at?_set fs place _ hplace, if_pos rfl] at h
  cases h
  rw [FileSystem.at?_set _ l _ hplace, FileSystem.at?_set fs l _ hplace]
  split
  · rfl
  · rfl

/-- A file that is renamed goes to the location that the path names, where no directory is. -/
theorem apply_rename_eq_ok {fs fs' : FileSystem} {here place : Location} {entry : Entry}
    (hentry : fs.at? place = some entry)
    (h : (Operation.rename place path).apply here fs = .ok fs') :
    ∃ location, fs.Locates here path location ∧ fs.isDirectory location = false ∧
      fs' = (fs.erase place).set location entry := by
  rw [Operation.apply, hentry] at h
  cases hdestination : fs.destination here path with
  | error e =>
    rw [hdestination] at h
    cases h
  | ok location =>
    rw [hdestination] at h
    cases h
    obtain ⟨hlocates, hdirectory⟩ := FileSystem.destination_eq_ok_iff.1 hdestination
    exact ⟨location, hlocates, hdirectory, rfl⟩

/-- The temporary file becomes the file at the path, or is taken away again. Until then it is all
that is new. -/
theorem runOn_replace_steps (host : Host) (path : String) (content : List UInt8)
    (journal : Journal) :
    (∃ e after, (host.replace path content).runOn journal = (.error e, after) ∧
      journal.ThroughAside host.directory path after ∧
        ∀ l, after.now.at? l = journal.now.at? l) ∨
    ∃ location middle fs, (host.replace path content).runOn journal = (.ok (), middle.record fs) ∧
      journal.ThroughAside host.directory path middle ∧
      journal.now.Locates host.directory path location ∧
      journal.now.isDirectory location = false ∧
        ∀ l, fs.at? l =
          if l = location then some (.file content false) else journal.now.at? l := by
  simp only [replace, FileTask.runOn_bind]
  rcases runOn_createTemporary_cases host ((Path.parent? path).getD ".") (Path.segments path)
    journal with ⟨e, he⟩ | ⟨found, name, hname, hvacant, hcreate⟩
  · rw [he]
    -- No temporary file can be made.
    exact .inl ⟨e, journal, rfl, Journal.Through.refl _ _, fun _ => rfl⟩
  rw [hcreate]
  dsimp only
  rw [FileTask.runOn_orRemoving, FileTask.runOn_bind]
  have haside : journal.now.IsAside host.directory path (found ++ [name]) :=
    FileSystem.isAside_of_notMem_segments hname hvacant
  generalize found ++ [name] = place at haside
  have hempty : journal.now.DiffersAside host.directory path place
      (journal.now.set place (.file [] false)) :=
    haside.differsAside_of_file fun l => FileSystem.at?_set _ l _ haside.ne_nil
  have hcreated : journal.ThroughAside host.directory path
      (journal.record (journal.now.set place (.file [] false))) :=
    (Journal.Through.refl _ _).record ⟨place, hempty⟩
  rcases runOn_perform_cases host (.fill place content)
    (journal.record (journal.now.set place (.file [] false))) with ⟨e, he⟩ | ⟨fs, hfill, hperform⟩
  · rw [he]
    -- The temporary file stays empty and is taken away.
    exact .inl ⟨e, _, rfl, Journal.Through.record hcreated ⟨place, hempty.erase⟩, hempty.at?_erase⟩
  rw [hperform]
  have hat := at?_of_apply_fill haside.ne_nil hfill
  have hfull : journal.now.DiffersAside host.directory path place fs :=
    haside.differsAside_of_file hat
  have hfilled : journal.ThroughAside host.directory path ((journal.record _).record fs) :=
    Journal.Through.record hcreated ⟨place, hfull⟩
  dsimp only
  rcases runOn_perform_cases host (.rename place path) ((journal.record _).record fs) with
    ⟨e, he⟩ | ⟨fs', hrename, hperform⟩
  · rw [he]
    -- The temporary file is filled, but cannot be moved, and is taken away.
    exact .inl ⟨e, _, rfl, Journal.Through.record hfilled ⟨place, hfull.erase⟩, hfull.at?_erase⟩
  · rw [hperform]
    -- The temporary file is moved. It was no directory and no link, so the path leads where it did.
    obtain ⟨location, hlocates, hdirectory, rfl⟩ :=
      apply_rename_eq_ok ((hat place).trans (if_pos rfl)) hrename
    refine .inr ⟨location, _, _, rfl, hfilled, hlocates.of_keeps hfull.keeps, ?_, fun l => ?_⟩
    · rw [FileSystem.isDirectory, ← hfull.at?_eq_of_locates hlocates]
      exact hdirectory
    · rw [FileSystem.at?_set _ _ _ hlocates.ne_nil, hfull.at?_erase]

/-- The temporary file becomes the file at the path, or everything is as before. -/
theorem runOn_replace_cases (host : Host) (path : String) (content : List UInt8)
    (journal : Journal) :
    (∃ e after, (host.replace path content).runOn journal = (.error e, after) ∧
      ∀ l, after.now.at? l = journal.now.at? l) ∨
    ∃ location after, (host.replace path content).runOn journal = (.ok (), after) ∧
      journal.now.Locates host.directory path location ∧
      journal.now.isDirectory location = false ∧
        ∀ l, after.now.at? l =
          if l = location then some (.file content false) else journal.now.at? l := by
  rcases runOn_replace_steps host path content journal with
    ⟨e, after, hrun, -, hafter⟩ | ⟨location, middle, fs, hrun, -, hlocates, hdirectory, hfs⟩
  · exact .inl ⟨e, after, hrun, hafter⟩
  · exact .inr ⟨location, middle.record fs, hrun, hlocates, hdirectory, hfs⟩

/-! ## Files that are not refused -/

/-- The host refuses no file in the directory: it may be made, filled and moved. -/
structure Allows (host : Host) (directory : Location) : Prop where
  /-- A file may be made. -/
  create : ∀ fs name, host.refusal fs (.create (directory ++ [name])) = none
  /-- It may be filled. -/
  fill : ∀ fs name content, host.refusal fs (.fill (directory ++ [name]) content) = none
  /-- It may be moved. -/
  rename : ∀ fs name path, host.refusal fs (.rename (directory ++ [name]) path) = none

/-- A temporary file can be made in a directory that is there. -/
theorem runOn_createTemporary_of_leadsTo {directory : String} {found : Location}
    (avoided : List String) (hallows : host.Allows found)
    (hfound : journal.now.LeadsTo host.directory (Path.join directory ".") found) :
    ∃ name, (host.createTemporary directory avoided).runOn journal =
      (.ok (found ++ [name]),
        journal.record (journal.now.set (found ++ [name]) (.file [] false))) ∧
      name ∉ avoided ∧ journal.now.at? (found ++ [name]) = none := by
  have hfresh := freshName_notMem (avoided ++ journal.now.namesIn found)
  rw [List.mem_append, not_or] at hfresh
  have hvacant := FileSystem.at?_eq_none_of_notMem_namesIn hfresh.2
  refine ⟨_, ?_, hfresh.1, hvacant⟩
  simp only [createTemporary, FileTask.runOn_bind, FileTask.runOn_look, FileTask.runOn_ofExcept,
    hfound.resolve]
  rw [runOn_perform_of_apply (hallows.create _ _) (by rw [Operation.apply, hvacant]; rfl)]
  rfl

/-- A temporary file that has just been made can be filled. -/
theorem apply_fill_set {fs : FileSystem} {here place : Location} (hplace : place ≠ [])
    (content : List UInt8) :
    (Operation.fill place content).apply here (fs.set place (.file [] false)) =
      .ok ((fs.set place (.file [] false)).set place (.file content false)) := by
  rw [Operation.apply, FileSystem.at?_set fs place _ hplace, if_pos rfl]

/-- A temporary file can be moved to the location that the path names, unless a directory is
there. -/
theorem apply_rename_of_differsAside {before fs : FileSystem} {here place location : Location}
    {entry : Entry} (h : before.DiffersAside here path place fs)
    (hentry : fs.at? place = some entry)
    (hlocates : before.Locates here path location) (hfile : before.isDirectory location = false) :
    (Operation.rename place path).apply here fs =
      .ok ((fs.erase place).set location entry) := by
  -- The path leads where it did before, and there is what was there before.
  have hlocates' : fs.Locates here path location := hlocates.of_keeps h.kept
  have hfile' : fs.isDirectory location = false := by
    rw [FileSystem.isDirectory, h.at?_eq_of_locates hlocates']
    exact hfile
  rw [Operation.apply, hentry, FileSystem.destination_eq_ok_iff.2 ⟨hlocates', hfile'⟩]

/-- A file takes the place that its path names, unless a directory is there. -/
theorem runOn_replace_of_allows {content : List UInt8} {found location : Location}
    (hallows : host.Allows found)
    (hfound : journal.now.LeadsTo host.directory
      (Path.join ((Path.parent? path).getD ".") ".") found)
    (hlocates : journal.now.Locates host.directory path location)
    (hfile : journal.now.isDirectory location = false) :
    ∃ after, (host.replace path content).runOn journal = (.ok (), after) ∧
      ∀ l, after.now.at? l =
        if l = location then some (.file content false) else journal.now.at? l := by
  obtain ⟨name, hcreate, hname, hvacant⟩ :=
    runOn_createTemporary_of_leadsTo (Path.segments path) hallows hfound
  have haside : journal.now.IsAside host.directory path (found ++ [name]) :=
    FileSystem.isAside_of_notMem_segments hname hvacant
  have hfill : (Operation.fill (found ++ [name]) content).apply host.directory
      (journal.now.set (found ++ [name]) (.file [] false)) = .ok _ :=
    apply_fill_set haside.ne_nil content
  have hat := at?_of_apply_fill haside.ne_nil hfill
  have hrename := apply_rename_of_differsAside (haside.differsAside_of_file hat)
    ((hat _).trans (if_pos rfl)) hlocates hfile
  rcases runOn_replace_cases host path content journal with
    ⟨e, after, hrun, -⟩ | ⟨location', after, hrun, hlocates', -, hafter⟩
  · -- None of the three changes fails.
    rw [replace, FileTask.runOn_bind, hcreate] at hrun
    dsimp only at hrun
    rw [FileTask.runOn_orRemoving, FileTask.runOn_bind,
      runOn_perform_of_apply (hallows.fill _ _ _) hfill] at hrun
    dsimp only at hrun
    rw [runOn_perform_of_apply (hallows.rename _ _ _) hrename] at hrun
    cases hrun
  · obtain rfl := hlocates'.unique hlocates
    exact ⟨after, hrun, hafter⟩

theorem exists_ancestors_eq_cons (path : String) :
    ∃ above, Path.ancestors path = path :: above := by
  unfold Path.ancestors
  cases Path.depth path with
  | zero => exact ⟨[], rfl⟩
  | succ count =>
    rw [Path.ancestorsUpTo]
    split
    · exact ⟨_, rfl⟩
    · exact ⟨[], rfl⟩

/-- No directory is made for a file in a directory that is there. -/
theorem runOn_writeWhole_join {directory name : String} {content : List UInt8}
    (hname : Path.IsName name) {found : Location}
    (hdirectory : journal.now.LeadsTo host.directory directory found) :
    (host.writeWhole (Path.join directory name) content).runOn journal =
      (host.replace (Path.join directory name) content).runOn journal := by
  obtain ⟨above, habove⟩ := exists_ancestors_eq_cons (Path.normal directory)
  rw [writeWhole_eq, Path.parent?_join hdirectory.ne_empty hname]
  dsimp only
  rw [habove, FileTask.runOn_bind,
    makeDirectories_of_leadsTo above hdirectory.normal]

/-- A file with a name of two bytes or more can be written in a directory that is there, if the
path is one at all and no directory is in its place. -/
theorem runOn_writeWhole_join_of_allows {directory name : String} (content : List UInt8)
    (hname : Path.IsName name) (hlength : 2 ≤ (Text.Utf8.encode name).length) {found : Location}
    (hallows : host.Allows found)
    (hdirectory : journal.now.LeadsTo host.directory directory found)
    (hlocates : journal.now.Locates host.directory (Path.join directory name) (found ++ [name]))
    (hfile : journal.now.isDirectory (found ++ [name]) = false) :
    ∃ after, (host.writeWhole (Path.join directory name) content).runOn journal = (.ok (), after) ∧
      ∀ l, after.now.at? l =
        if l = found ++ [name] then some (.file content false) else journal.now.at? l := by
  obtain ⟨herror, -, -⟩ := (hdirectory.locates_join_iff hname).1 hlocates
  rw [runOn_writeWhole_join hname hdirectory]
  refine runOn_replace_of_allows hallows ?_ hlocates hfile
  rw [Path.parent?_join hdirectory.ne_empty hname, Option.getD_some]
  exact hdirectory.normal.join_dot
    (Path.pathError?_join_dot hdirectory.ne_empty hname hlength herror)

end Host

end CompileCommands
