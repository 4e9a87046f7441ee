import CompileCommands.External
import CompileCommands.Proofs.Host.Writing

/-!
# The link to the external repositories

The link is made where nothing is, or everything is left alone.

* `External.runOn_link_cases`: the three ways in which making the link ends.
* `External.runOn_link_of_locates`: what is there is left alone.
* `External.runOn_link_of_leadsTo`: the link in a workspace that is there.
-/

namespace CompileCommands.External

variable {host : Host} {workspace executionRoot : String} {journal after : Journal}

/-- A link is made at the location that the path names, where nothing is. -/
theorem apply_makeLink_eq_ok {fs fs' : FileSystem} {here : Location} {target path : String}
    (h : (Operation.makeLink target path).apply here fs = .ok fs') :
    ∃ location, fs.Locates here path location ∧ fs.at? location = none ∧
      fs' = fs.set location (.link target) := by
  rw [Operation.apply] at h
  split at h
  · cases h
  · cases h
  · next location _ hvacancy =>
    cases h
    obtain ⟨hlocates, hnone⟩ := FileSystem.locates_of_vacancy hvacancy
    exact ⟨location, hlocates, hnone, rfl⟩

/-- The link cannot be made; or something is there already; or the link is new at a location where
nothing was. Only in the last case anything changes, and only at that location. -/
theorem runOn_link_cases (host : Host) (workspace executionRoot : String) (journal : Journal) :
    (∃ e, (link host workspace executionRoot).runOn journal = (.error e, journal)) ∨
    (∃ entry, (link host workspace executionRoot).runOn journal = (.ok .alreadyPresent, journal) ∧
      journal.now.linkStatus host.directory (Path.externalLink workspace) = .ok entry) ∨
    ∃ location after, (link host workspace executionRoot).runOn journal = (.ok .created, after) ∧
      journal.now.Locates host.directory (Path.externalLink workspace) location ∧
        journal.now.at? location = none ∧ ∀ l, after.now.at? l =
          if l = location then some (.link (Path.externalTarget executionRoot))
          else journal.now.at? l := by
  simp only [link, FileTask.runOn_bind, FileTask.runOn_look]
  cases hstatus : journal.now.linkStatus host.directory (Path.externalLink workspace) with
  | ok entry => exact .inr (.inl ⟨entry, rfl, rfl⟩)
  | error e =>
    simp only [FileTask.runOn_bind, FileTask.runOn_failAs]
    rcases Host.runOn_perform_cases host
      (.makeLink (Path.externalTarget executionRoot) (Path.externalLink workspace)) journal with
      ⟨e, he⟩ | ⟨fs, hfs, hperform⟩
    · rw [he]
      exact .inl ⟨_, rfl⟩
    · rw [hperform]
      obtain ⟨location, hlocates, hnone, rfl⟩ := apply_makeLink_eq_ok hfs
      exact .inr (.inr ⟨location, _, rfl, hlocates, hnone,
        fun l => FileSystem.at?_set _ l _ hlocates.ne_nil⟩)

/-- Whatever is at the location that the path names, be it a link that leads nowhere, is left
alone. -/
theorem runOn_link_of_locates {location : Location} {entry : Entry}
    (hlocates : journal.now.Locates host.directory (Path.externalLink workspace) location)
    (hentry : journal.now.at? location = some entry) :
    (link host workspace executionRoot).runOn journal = (.ok .alreadyPresent, journal) := by
  simp only [link, FileTask.runOn_bind, FileTask.runOn_look,
    hlocates.linkStatus_eq_ok_iff.2 hentry, FileTask.runOn_pure]

/-- The location of the link in a directory. -/
def placeIn (directory : Location) : Location := directory ++ ["external"]

/-- The link in a workspace that is there is something afterwards, and it is new if and only if
nothing was there before. -/
theorem runOn_link_of_leadsTo {directory : Location} {outcome : Outcome}
    (hdirectory : journal.now.LeadsTo host.directory workspace directory)
    (h : (link host workspace executionRoot).runOn journal = (.ok outcome, after)) :
    journal.now.Locates host.directory (Path.externalLink workspace) (placeIn directory) ∧
      (outcome = .created ↔ journal.now.at? (placeIn directory) = none) ∧
        ∀ l, after.now.at? l =
          if l = placeIn directory ∧ outcome = .created then
            some (.link (Path.externalTarget executionRoot))
          else journal.now.at? l := by
  -- The path of the link names one place alone.
  have hlink {location : Location}
      (hlocates : journal.now.Locates host.directory (Path.externalLink workspace) location) :
      location = placeIn directory :=
    ((hdirectory.locates_join_iff Path.isName_externalName).1 hlocates).2.2
  rcases runOn_link_cases host workspace executionRoot journal with
    ⟨e, hrun⟩ | ⟨entry, hrun, hentry⟩ | ⟨location, last, hrun, hlocates, hnone, hlast⟩
  · rw [hrun] at h
    cases h
  · rw [hrun] at h
    cases h
    obtain ⟨location, hlocates, hsome⟩ := FileSystem.exists_locates_of_linkStatus_join
      hdirectory.ne_empty Path.isName_externalName hentry
    obtain rfl := hlink hlocates
    refine ⟨hlocates, iff_of_false nofun (by simp [hsome]), fun l => ?_⟩
    simp only [reduceCtorEq, and_false, if_false]
  · rw [hrun] at h
    cases h
    obtain rfl := hlink hlocates
    refine ⟨hlocates, iff_of_true rfl hnone, fun l => ?_⟩
    simp only [hlast l, and_true]

/-- No directory and no link is lost. -/
theorem keeps_of_runOn_link {directory : Location} {outcome : Outcome}
    (hdirectory : journal.now.LeadsTo host.directory workspace directory)
    (h : (link host workspace executionRoot).runOn journal = (.ok outcome, after)) :
    FileSystem.Keeps journal.now after.now := by
  obtain ⟨-, hcreated, hafter⟩ := runOn_link_of_leadsTo hdirectory h
  by_cases hnew : outcome = .created
  · -- Nothing gives way to a new link.
    refine FileSystem.keeps_of_at?_eq (placeIn directory) ?_ ?_ fun l hl => ?_
    · simp [hcreated.1 hnew]
    · simp [hcreated.1 hnew]
    · rw [hafter, if_neg (fun h => hl h.1)]
  · refine FileSystem.keeps_of_forall_at?_eq fun l => ?_
    rw [hafter, if_neg (fun h => hnew h.2)]

end CompileCommands.External
