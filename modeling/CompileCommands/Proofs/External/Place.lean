import CompileCommands.Proofs.External

/-!
# What is in the place of the link

The link of a workspace has its place in the directory to which the workspace leads, over all the
links on the way. What is in that place is not followed: a link that leads nowhere, or around to
itself, is as good as a directory, and it is left alone.

* `IsPlace`: the place of the link.
* `locates_externalLink_iff`: the path of the link names its place.
* `runOn_link_of_isTaken`, `runOn_link_of_isPlace`, `runOn_link_of_not_isFree`: the three ways in
  which making the link ends.
* `isTaken_of_runOn_link`: something is in the place afterwards.
* `isSettled_runOn_link`: how making the link ends, and what it leaves.
-/

namespace CompileCommands

namespace External

/-- The place of the link of a workspace: a name in the directory to which the workspace leads. -/
structure IsPlace (fs : FileSystem) (here : Location) (workspace : String) (place : Location) :
    Prop where
  /-- The path of the link is one that can lead somewhere. -/
  pathError?_eq : FileSystem.pathError? (Path.join workspace "external") = none
  /-- The workspace leads to the directory of the place, and all links on the way are followed. The
  empty workspace is the current directory. -/
  exists_directory : ∃ directory,
    (workspace = "" ∧ here = directory ∨ fs.resolve here workspace = .ok directory) ∧
      fs.isDirectory directory = true ∧ place = directory ++ ["external"]

variable {fs : FileSystem} {host : Host} {here directory place : Location}
  {workspace executionRoot : String} {journal after : Journal}

/-- The path of the link names the name of the link in a directory. -/
theorem slotIn_externalLink (workspace : String) (directory : Location) :
    FileSystem.slotIn (Path.join workspace "external") directory =
      .ok ⟨directory, .name "external", false⟩ := by
  have hname : Path.IsName "external" := Path.isName_externalName
  have hlong : FileSystem.isLongName "external" = false := by decide +kernel
  by_cases hworkspace : workspace = ""
  · have hlink : Path.join workspace "external" = "external" := by
      rw [hworkspace]
      decide +kernel
    have hslash : FileSystem.endsInSlash "external" = false := by decide +kernel
    rw [hlink, FileSystem.slotIn, Path.segments_of_isSegment hname.toIsSegment, hslash]
    dsimp only [List.getLast?_singleton]
    rw [hlong]
    rfl
  · rw [FileSystem.slotIn_join hworkspace hname, hlong]
    rfl

/-- Before the name of the link, its path leads where the workspace does. -/
theorem follow_dropLast_externalLink (hdirectory : fs.isDirectory directory = true)
    (herror : FileSystem.pathError? (Path.join workspace "external") = none) :
    fs.follow FileSystem.maxLinks (FileSystem.origin here (Path.join workspace "external"))
        (Path.segments (Path.join workspace "external")).dropLast = .ok directory ↔
      workspace = "" ∧ here = directory ∨ fs.resolve here workspace = .ok directory := by
  have hname : Path.IsSegment "external" := Path.isName_externalName.toIsSegment
  by_cases hworkspace : workspace = ""
  · subst hworkspace
    have hlink : Path.join "" "external" = "external" := by decide +kernel
    have hresolve : fs.resolve here "" = .error .noEntry := rfl
    have hfollow : fs.follow FileSystem.maxLinks here [] = .ok here :=
      FileSystem.follow_of_walk rfl
    have horigin : FileSystem.origin here "external" = here := rfl
    rw [hlink, Path.segments_of_isSegment hname, horigin, List.dropLast_singleton, hfollow,
      hresolve]
    simp
  · rw [Path.segments_join hworkspace hname, List.dropLast_concat,
      FileSystem.origin_join hworkspace hname]
    have hworkspaceError := Path.pathError?_of_join hworkspace hname herror
    constructor
    · intro hfollow
      have hleads : fs.LeadsTo here workspace directory :=
        .of_follow_segments hworkspaceError hfollow hdirectory
      exact .inr hleads.resolve
    · rintro (⟨hempty, -⟩ | hresolve)
      · exact absurd hempty hworkspace
      · exact FileSystem.LeadsTo.follow_segments ⟨hresolve, hdirectory⟩

/-- The path of the link names its place. -/
theorem locates_externalLink_iff :
    fs.Locates here (Path.join workspace "external") place ↔ IsPlace fs here workspace place := by
  rw [FileSystem.Locates]
  simp only [FileSystem.slot_eq_ok_iff, slotIn_externalLink, Except.ok.injEq,
    FileSystem.Slot.mk.injEq, FileSystem.Last.name.injEq]
  constructor
  · rintro ⟨_, _, ⟨herror, directory, hfollow, hdirectory, rfl, rfl, -⟩, rfl⟩
    exact ⟨herror, directory, (follow_dropLast_externalLink hdirectory herror).1 hfollow,
      hdirectory, rfl⟩
  · rintro ⟨herror, directory, hleads, hdirectory, rfl⟩
    have hfollow := (follow_dropLast_externalLink hdirectory herror).2 hleads
    exact ⟨directory, _, ⟨herror, directory, hfollow, hdirectory, rfl, rfl, trivial⟩, rfl⟩

/-- The path of the link never asks for what is behind a link in its place. -/
theorem linkStatus_eq_ok_iff {entry : Entry} :
    fs.linkStatus here (Path.join workspace "external") = .ok entry ↔
      ∃ place, IsPlace fs here workspace place ∧ fs.at? place = some entry := by
  simp only [← locates_externalLink_iff]
  constructor
  · intro h
    cases hslot : fs.slot here (Path.join workspace "external") with
    | error e => simp [FileSystem.linkStatus, hslot] at h
    | ok slot =>
      obtain ⟨-, directory, -, -, hlast⟩ := FileSystem.slot_eq_ok_iff.1 hslot
      rw [slotIn_externalLink] at hlast
      obtain rfl := Except.ok.inj hlast
      have hlocates : fs.Locates here (Path.join workspace "external")
          (directory ++ ["external"]) := ⟨directory, "external", hslot, rfl⟩
      exact ⟨_, hlocates, hlocates.linkStatus_eq_ok_iff.1 h⟩
  · rintro ⟨place, hlocates, hentry⟩
    exact hlocates.linkStatus_eq_ok_iff.2 hentry

/-! ## Making the link -/

/-- A link can be made where the path of the link has its place, if nothing is there. -/
theorem vacancy_externalLink_eq_ok_iff :
    fs.vacancy here false (Path.join workspace "external") = .ok place ↔
      IsPlace fs here workspace place ∧ fs.at? place = none := by
  rw [← locates_externalLink_iff]
  constructor
  · exact FileSystem.locates_of_vacancy
  · rintro ⟨⟨directory, name, hslot, rfl⟩, hnone⟩
    rw [FileSystem.vacancy, hslot]
    simp [hnone]

/-- Something is in the place of the link. -/
def IsTaken (fs : FileSystem) (here : Location) (workspace : String) : Prop :=
  ∃ place entry, IsPlace fs here workspace place ∧ fs.at? place = some entry

/-- The place of the link is free, and nothing keeps the host from making a link to the target. -/
def IsFree (host : Host) (fs : FileSystem) (workspace executionRoot : String) : Prop :=
  (∃ place, IsPlace fs host.directory workspace place ∧ fs.at? place = none) ∧
    FileSystem.pathError? (Path.join executionRoot "external") = none ∧
    host.refusal fs
      (.makeLink (Path.join executionRoot "external") (Path.join workspace "external")) = none

/-- Nothing is in a place that is free. -/
theorem IsFree.not_isTaken (h : IsFree host fs workspace executionRoot) :
    ¬ IsTaken fs host.directory workspace := by
  rintro ⟨other, entry, hother, hentry⟩
  obtain ⟨⟨place, hplace, hnone⟩, -⟩ := h
  have hsame := (locates_externalLink_iff.2 hplace).unique (locates_externalLink_iff.2 hother)
  rw [← hsame, hnone] at hentry
  cases hentry

/-- Whatever is in the place is left alone. -/
theorem runOn_link_of_isTaken (h : IsTaken journal.now host.directory workspace) :
    (link host workspace executionRoot).runOn journal = (.ok .alreadyPresent, journal) := by
  obtain ⟨place, entry, hplace, hentry⟩ := h
  exact runOn_link_of_locates (locates_externalLink_iff.2 hplace) hentry

/-- A place with nothing in it is asked for and then filled. -/
theorem runOn_link_of_not_isTaken (h : ¬ IsTaken journal.now host.directory workspace) :
    (link host workspace executionRoot).runOn journal =
      match (host.perform (.makeLink (Path.join executionRoot "external")
        (Path.join workspace "external"))).runOn journal with
      | (.ok _, after) => (.ok .created, after)
      | (.error cause, after) => (.error (.noLink (Path.join workspace "external")
          (Path.join executionRoot "external") cause), after) := by
  simp only [link, Path.externalLink, Path.externalTarget, Path.externalName, FileTask.runOn_bind,
    FileTask.runOn_look]
  cases hstatus : journal.now.linkStatus host.directory (Path.join workspace "external") with
  | ok entry =>
    obtain ⟨place, hplace, hentry⟩ := linkStatus_eq_ok_iff.1 hstatus
    exact absurd ⟨place, entry, hplace, hentry⟩ h
  | error e =>
    simp only [FileTask.runOn_bind, FileTask.runOn_failAs]
    rcases (host.perform (.makeLink (Path.join executionRoot "external")
      (Path.join workspace "external"))).runOn journal with ⟨cause | done, after⟩
    · rfl
    · rfl

/-- A free place is filled in one step. -/
theorem runOn_link_of_isPlace (hplace : IsPlace journal.now host.directory workspace place)
    (hnone : journal.now.at? place = none)
    (hfree : IsFree host journal.now workspace executionRoot) :
    (link host workspace executionRoot).runOn journal = (.ok .created,
      journal.record (journal.now.set place (.link (Path.join executionRoot "external")))) := by
  have hnot := hfree.not_isTaken
  obtain ⟨-, htarget, hrefusal⟩ := hfree
  rw [runOn_link_of_not_isTaken hnot, Host.runOn_perform, hrefusal, Operation.apply, htarget,
    vacancy_externalLink_eq_ok_iff.2 ⟨hplace, hnone⟩]

/-- Where nothing is and the place is not free, no link is made. -/
theorem runOn_link_of_not_isFree (hnot : ¬ IsTaken journal.now host.directory workspace)
    (hfree : ¬ IsFree host journal.now workspace executionRoot) :
    ∃ cause, (link host workspace executionRoot).runOn journal =
      (.error (.noLink (Path.join workspace "external") (Path.join executionRoot "external") cause),
        journal) := by
  rw [runOn_link_of_not_isTaken hnot, Host.runOn_perform]
  cases hrefusal : host.refusal journal.now
      (.makeLink (Path.join executionRoot "external") (Path.join workspace "external")) with
  | some e => exact ⟨e, rfl⟩
  | none =>
    rw [Operation.apply]
    cases htarget : FileSystem.pathError? (Path.join executionRoot "external") with
    | some e => exact ⟨e, rfl⟩
    | none =>
      cases hvacancy : journal.now.vacancy host.directory false
          (Path.join workspace "external") with
      | error e => exact ⟨e, rfl⟩
      | ok place =>
        have hplace := vacancy_externalLink_eq_ok_iff.1 hvacancy
        exact absurd ⟨⟨place, hplace⟩, htarget, hrefusal⟩ hfree

/-- Something is in the place once the link has been made or was there. -/
theorem isTaken_of_runOn_link {outcome : Outcome}
    (h : (link host workspace executionRoot).runOn journal = (.ok outcome, after)) :
    IsTaken after.now host.directory workspace := by
  by_cases htaken : IsTaken journal.now host.directory workspace
  · rw [runOn_link_of_isTaken htaken] at h
    cases h
    exact htaken
  by_cases hfree : IsFree host journal.now workspace executionRoot
  · obtain ⟨place, hplace, hnone⟩ := hfree.1
    rw [runOn_link_of_isPlace hplace hnone hfree] at h
    cases h
    -- Nothing gives way to the new link, so the workspace leads where it did.
    have hlocates := locates_externalLink_iff.2 hplace
    have hkeeps : journal.now.Keeps
        (journal.now.set place (.link (Path.join executionRoot "external"))) :=
      FileSystem.keeps_set hlocates.ne_nil hnone
    have hentry := FileSystem.at?_set journal.now place
      (.link (Path.join executionRoot "external")) hlocates.ne_nil
    rw [if_pos rfl] at hentry
    exact ⟨place, _, locates_externalLink_iff.1 (hlocates.of_keeps hkeeps), hentry⟩
  · obtain ⟨cause, hcause⟩ := runOn_link_of_not_isFree htaken hfree
    rw [hcause] at h
    cases h

/-- How making the link ends, and what it leaves. -/
structure IsSettled (host : Host) (workspace executionRoot : String) (journal : Journal)
    (result : Except Failure Outcome) (after : Journal) : Prop where
  /-- It counts as present exactly when something is in its place, whatever that is. -/
  alreadyPresent_iff : result = .ok .alreadyPresent ↔
    IsTaken journal.now host.directory workspace
  /-- It is new exactly when its place was free. -/
  created_iff : result = .ok .created ↔ IsFree host journal.now workspace executionRoot
  /-- Then it is in its place, where nothing was, with the target as its text, and all else is as
  it was. -/
  created : result = .ok .created → ∃ place,
    IsPlace journal.now host.directory workspace place ∧ journal.now.at? place = none ∧
      ∀ l, after.now.at? l =
        if l = place then some (.link (Path.join executionRoot "external")) else journal.now.at? l
  /-- Otherwise nothing is done. -/
  unchanged : result ≠ .ok .created → after = journal
  /-- A failure names the link and its target. -/
  failed : ∀ failure, result = .error failure → ∃ cause,
    failure = .noLink (Path.join workspace "external") (Path.join executionRoot "external") cause
  /-- Once there is something, the link counts as present, whatever its target should be, and
  nothing is done. -/
  again : ∀ outcome, result = .ok outcome → ∀ other,
    (link host workspace other).runOn after = (.ok .alreadyPresent, after)

/-- Making the link fills a free place and leaves all else alone: what is in the place already,
what is anywhere else, and everything when the link cannot be made. -/
theorem isSettled_runOn_link (host : Host) (workspace executionRoot : String) (journal : Journal) :
    IsSettled host workspace executionRoot journal
      ((link host workspace executionRoot).runOn journal).1
      ((link host workspace executionRoot).runOn journal).2 := by
  -- The three ways in which it ends exclude each other.
  by_cases htaken : IsTaken journal.now host.directory workspace
  · have hrun : (link host workspace executionRoot).runOn journal =
        (.ok .alreadyPresent, journal) := runOn_link_of_isTaken htaken
    have hfree : ¬ IsFree host journal.now workspace executionRoot := fun h => h.not_isTaken htaken
    rw [hrun]
    dsimp only
    exact {
      alreadyPresent_iff := iff_of_true rfl htaken
      created_iff := iff_of_false nofun hfree
      created := nofun
      unchanged := fun _ => rfl
      failed := fun _ h => nomatch h
      again := fun _ _ _ => runOn_link_of_isTaken htaken }
  by_cases hfree : IsFree host journal.now workspace executionRoot
  · obtain ⟨place, hplace, hnone⟩ := hfree.1
    have hrun := runOn_link_of_isPlace hplace hnone hfree
    have hagain := isTaken_of_runOn_link hrun
    rw [hrun]
    dsimp only
    exact {
      alreadyPresent_iff := iff_of_false nofun htaken
      created_iff := iff_of_true rfl hfree
      created := fun _ => ⟨place, hplace, hnone, fun l =>
        FileSystem.at?_set _ l _ (locates_externalLink_iff.2 hplace).ne_nil⟩
      unchanged := fun h => absurd rfl h
      failed := fun _ h => nomatch h
      again := fun _ _ _ => runOn_link_of_isTaken hagain }
  · obtain ⟨cause, hrun⟩ := runOn_link_of_not_isFree htaken hfree
    rw [hrun]
    dsimp only
    exact {
      alreadyPresent_iff := iff_of_false nofun htaken
      created_iff := iff_of_false nofun hfree
      created := nofun
      unchanged := fun _ => rfl
      failed := fun _ h => ⟨cause, (Except.error.inj h).symm⟩
      again := nofun }

end External

end CompileCommands
