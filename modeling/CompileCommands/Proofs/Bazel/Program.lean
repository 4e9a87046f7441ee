import CompileCommands.Proofs.Bazel
import CompileCommands.Proofs.Host.Program

/-!
# The program that the build tool is

The build tool is located from the current directory, and then called from there and from the
workspace. A name that is a path, or one that is found in an absolute directory of the search path,
is located by an absolute path, and what has been located is what runs. A relative directory of the
search path makes the path of the build tool relative: it runs from the current directory, and from
the workspace something else runs, or nothing.

* `runOn_locate_eq_ok_iff`: what locating answers.
* `isAbsolute_of_mem_candidates`: when the path of the build tool is absolute.
* `runOn_running_of_locate`: which program the questions to the build tool run.
* `runs_another_program_from_workspace`: a relative search path.
-/

namespace CompileCommands.Bazel

variable {host : Host} {launch launch' : Launch} {bazel : Bazel} {name path : String}
  {directory : Option String} {arguments : List String} {key : String} {journal after : Journal}

/-! ## Locating -/

/-- The first candidate that leads to a program is the build tool. -/
theorem runOn_locate_eq_ok_iff : (locate host name).runOn journal = (.ok bazel, after) ↔
    after = journal ∧ (candidates host name).find? (journal.now.leadsToProgram host.directory) =
      some bazel.program := by
  simp only [locate, FileTask.runOn_bind, FileTask.runOn_look]
  cases hfound : (candidates host name).find? (journal.now.leadsToProgram host.directory) with
  | none => simp
  | some program =>
    simp only [FileTask.runOn_pure, Prod.mk.injEq, Except.ok.injEq, Option.some.injEq]
    constructor
    · rintro ⟨rfl, rfl⟩
      exact ⟨rfl, rfl⟩
    · rintro ⟨rfl, rfl⟩
      exact ⟨rfl, rfl⟩

/-- A name that is a path stands for an absolute one, and so does any name when the search path has
absolute directories alone. -/
theorem isAbsolute_of_mem_candidates (hname : 1 < Path.depth name ∨
      ∀ directory ∈ Text.fields ':' host.searchPath, Path.isAbsolute directory = true)
    (h : path ∈ candidates host name) : Path.isAbsolute path = true := by
  rw [candidates] at h
  split at h
  · rw [List.mem_singleton] at h
    rw [h]
    exact Path.isAbsolute_join_of_isAbsolute (Path.isAbsolute_pathOf _) name
  · next hdepth =>
    obtain ⟨directory, hdirectory, rfl⟩ := List.mem_map.1 h
    have habsolute := hname.resolve_left hdepth directory hdirectory
    rw [expandHome, if_pos habsolute]
    exact Path.isAbsolute_join_of_isAbsolute habsolute name

/-! ## Asking -/

/-- What a call answers depends on what the one program that it calls does. -/
theorem runOn_call_congr
    (h : (launch ⟨directory, bazel.program, arguments⟩).runOn journal =
      (launch' ⟨directory, bazel.program, arguments⟩).runOn journal) :
    (bazel.call launch directory arguments).runOn journal =
      (bazel.call launch' directory arguments).runOn journal := by
  rw [call, call, FileTask.runOn_bind, FileTask.runOn_bind, FileTask.orFail, FileTask.orFail,
    FileTask.runOn_failAs, FileTask.runOn_failAs, h]

theorem runOn_info_congr
    (h : (launch ⟨directory, bazel.program, ["info", key]⟩).runOn journal =
      (launch' ⟨directory, bazel.program, ["info", key]⟩).runOn journal) :
    (bazel.info launch directory key).runOn journal =
      (bazel.info launch' directory key).runOn journal := by
  rw [info, info, FileTask.runOn_bind, FileTask.runOn_bind, runOn_call_congr h]

/-! ## What runs -/

/-- A call of the build tool from a directory runs the program at a location. -/
def RunsIn (bazel : Bazel) (host : Host) (fs : FileSystem) (here program : Location) : Prop :=
  ∃ path, Call.programIn { program := bazel.program, arguments := [] } host fs here =
    .ok (path, program)

/-- A build tool that has a path with a slash is what the path leads to. -/
theorem runsIn_iff_of_slash {fs : FileSystem} {here program : Location}
    (h : '/' ∈ bazel.program.toList) :
    bazel.RunsIn host fs here program ↔ fs.programAt here bazel.program = .ok program := by
  rw [RunsIn, Call.programIn_of_slash h]
  cases fs.programAt here bazel.program with
  | error e => simp [Except.map]
  | ok location => simp [Except.map]

/-- A call from the current directory runs what the build tool is there. -/
theorem runOn_running_of_runsIn {program : Location} {behaviour : Behaviour}
    (h : bazel.RunsIn host journal.now host.directory program) :
    (Launch.running host behaviour ⟨none, bazel.program, arguments⟩).runOn journal =
      (Launch.runningOnly host program behaviour ⟨none, bazel.program, arguments⟩).runOn
        journal := by
  refine Launch.runOn_running fun here hhere => ?_
  cases hhere
  exact h

/-- A call from a directory to which a path leads runs what the build tool is there. -/
theorem runOn_running_of_leadsTo {workspace : String} {here program : Location}
    {behaviour : Behaviour} (hworkspace : journal.now.LeadsTo host.directory workspace here)
    (h : bazel.RunsIn host journal.now here program) :
    (Launch.running host behaviour ⟨some workspace, bazel.program, arguments⟩).runOn journal =
      (Launch.runningOnly host program behaviour ⟨some workspace, bazel.program, arguments⟩).runOn
        journal := by
  refine Launch.runOn_running fun there hthere => ?_
  -- The path leads to one directory, so that every call runs in the same one.
  rw [← hworkspace.unique (Call.leadsTo_of_directoryOn rfl hthere)]
  exact h

/-- What has been located is a program. Every question runs what the build tool is in the directory
from which it is asked, which is what its path leads to from there, if the path has a slash. That is
the located program from everywhere if the name is a path, or if the search path has absolute
directories alone. -/
theorem runOn_running_of_locate (hlocate : (locate host name).runOn journal = (.ok bazel, after)) :
    ∃ program, journal.now.programAt host.directory bazel.program = .ok program ∧
      (∀ (behaviour : Behaviour) (found : Location),
        bazel.RunsIn host journal.now host.directory found →
          (bazel.workspace (.running host behaviour)).runOn journal =
            (bazel.workspace (.runningOnly host found behaviour)).runOn journal) ∧
      (∀ (behaviour : Behaviour) (workspace : String) (here found : Location),
        journal.now.LeadsTo host.directory workspace here →
          bazel.RunsIn host journal.now here found →
            (bazel.executionRoot (.running host behaviour) workspace).runOn journal =
              (bazel.executionRoot (.runningOnly host found behaviour) workspace).runOn journal ∧
            ∀ arguments, (bazel.query (.running host behaviour) workspace arguments).runOn journal =
              (bazel.query (.runningOnly host found behaviour) workspace arguments).runOn journal) ∧
      ('/' ∈ bazel.program.toList → ∀ here found, bazel.RunsIn host journal.now here found ↔
        journal.now.programAt here bazel.program = .ok found) ∧
      ((1 < Path.depth name ∨
          ∀ directory ∈ Text.fields ':' host.searchPath, Path.isAbsolute directory = true) →
        ∀ here, bazel.RunsIn host journal.now here program) := by
  obtain ⟨-, hfound⟩ := runOn_locate_eq_ok_iff.1 hlocate
  obtain ⟨program, hprogram⟩ := FileSystem.leadsToProgram_iff.1 (List.find?_some hfound)
  refine ⟨program, hprogram, fun behaviour found hruns => ?_,
    fun behaviour workspace here found hworkspace hruns => ⟨?_, fun arguments => ?_⟩,
    fun hslash here found => runsIn_iff_of_slash hslash, fun hname here => ?_⟩
  · exact runOn_info_congr (runOn_running_of_runsIn hruns)
  · exact runOn_info_congr (runOn_running_of_leadsTo hworkspace hruns)
  · exact runOn_call_congr (runOn_running_of_leadsTo hworkspace hruns)
  · have habsolute := isAbsolute_of_mem_candidates hname (List.mem_of_find?_eq_some hfound)
    rw [runsIn_iff_of_slash (Path.slash_mem_of_isAbsolute habsolute),
      FileSystem.programAt_of_isAbsolute habsolute, hprogram]

/-- A host on which programs are in some directories. -/
def hostWith (searchPath : String) : Host := { searchPath }

/-- Two programs with the same path, one from the root and one from the workspace. -/
def twoPrograms : FileSystem := ⟨[
  (["bin"], .directory), (["bin", "bazel"], .file [] true), (["ws"], .directory),
  (["ws", "bin"], .directory), (["ws", "bin", "bazel"], .file [] true)]⟩

/-- Every program says where it is. -/
def sayingWhere : Behaviour := fun _ program _ =>
  return { output := Text.Utf8.encode (FileSystem.pathOf program) }

/-- An absolute directory of the search path leads to a build tool that runs from the workspace
too. -/
theorem runOn_running_of_locate_absolute :
    (locate (hostWith "/bin") "bazel").runOn ⟨twoPrograms, []⟩ =
        (.ok ⟨"/bin/bazel"⟩, ⟨twoPrograms, []⟩) ∧
      ((executionRoot ⟨"/bin/bazel"⟩ (.running (hostWith "/bin") sayingWhere) "/ws").runOn
        ⟨twoPrograms, []⟩).1 = .ok "/bin/bazel" := by
  have hlocate : (locate (hostWith "/bin") "bazel").runOn ⟨twoPrograms, []⟩ =
      (.ok ⟨"/bin/bazel"⟩, ⟨twoPrograms, []⟩) :=
    runOn_locate_eq_ok_iff.2 ⟨rfl, by decide +kernel⟩
  have hworkspace : twoPrograms.LeadsTo (hostWith "/bin").directory "/ws" ["ws"] :=
    ⟨by decide +kernel, by decide +kernel⟩
  obtain ⟨program, hprogram, -, hruns, -, habsolute⟩ := runOn_running_of_locate hlocate
  obtain ⟨hroot, -⟩ := hruns sayingWhere "/ws" _ program hworkspace
    (habsolute (.inr (by decide +kernel)) _)
  have hlocated : twoPrograms.programAt (hostWith "/bin").directory "/bin/bazel" =
      .ok ["bin", "bazel"] := by decide +kernel
  obtain rfl : program = ["bin", "bazel"] := Except.ok.inj (hprogram.symm.trans hlocated)
  rw [hroot]
  exact ⟨hlocate, by decide +kernel⟩

/-- A relative directory of the search path leads to a build tool that runs from the current
directory. From the workspace another program runs in its place. -/
theorem runs_another_program_from_workspace :
    (locate (hostWith "bin") "bazel").runFrom twoPrograms = (.ok ⟨"bin/bazel"⟩, twoPrograms) ∧
      twoPrograms.programAt (hostWith "bin").directory "bin/bazel" = .ok ["bin", "bazel"] ∧
      (workspace ⟨"bin/bazel"⟩ (.running (hostWith "bin") sayingWhere)).runFrom twoPrograms =
        (.ok "/bin/bazel", twoPrograms) ∧
      (executionRoot ⟨"bin/bazel"⟩ (.running (hostWith "bin") sayingWhere) "/ws").runFrom
        twoPrograms = (.ok "/ws/bin/bazel", twoPrograms) ∧
      (query ⟨"bin/bazel"⟩ (.running (hostWith "bin") sayingWhere) "/ws" ["aquery"]).runFrom
        twoPrograms = (.ok (Text.Utf8.encode "/ws/bin/bazel"), twoPrograms) := by
  decide +kernel

end CompileCommands.Bazel
