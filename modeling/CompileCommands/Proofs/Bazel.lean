import CompileCommands.Bazel
import CompileCommands.Proofs.Host.Process

/-!
# Asking the build tool

The build tool is asked and nothing else is done, so what its calls spare is as before. An answer
from a directory says that the directory is there.

* `runOn_call_eq_ok_iff`, `runOn_info_eq_ok_iff`: what the answers are taken from.
* `call_spares`, `info_spares`: what asking leaves alone.
* `exists_leadsTo_of_call`, `exists_leadsTo_of_info`: the directory of an answer.
-/

namespace CompileCommands.Bazel

variable {host : Host} {launch : Launch} {spared : Location → Prop} {bazel : Bazel}
  {directory : Option String} {path : String} {arguments : List String} {key : String}
  {journal after : Journal}

/-- Locating the build tool changes nothing. -/
theorem runOn_locate (host : Host) (name : String) (journal : Journal) :
    ((locate host name).runOn journal).2 = journal := by
  simp only [locate, FileTask.runOn_bind, FileTask.runOn_look]
  split
  · rfl
  · rfl

/-- What a call that ends well writes is taken. -/
theorem runOn_call_eq_ok_iff {output : List UInt8} :
    (bazel.call launch directory arguments).runOn journal = (.ok output, after) ↔
      launch.Gives journal ⟨directory, bazel.program, arguments⟩ output after := by
  rw [call, FileTask.runOn_bind_eq_iff, Launch.Gives]
  simp only [FileTask.orFail, FileTask.runOn_failAs_eq_ok_iff, reduceCtorEq, and_false,
    exists_false, false_or]
  constructor
  · rintro ⟨reply, middle, hreply, hrest⟩
    split at hrest
    · next hsuccess =>
      cases hrest
      exact ⟨reply, hreply, by simpa [ExitStatus.isSuccess] using hsuccess, rfl⟩
    · cases hrest
  · rintro ⟨reply, hreply, hstatus, rfl⟩
    refine ⟨reply, after, hreply, ?_⟩
    rw [if_pos (by rw [hstatus]; rfl), FileTask.runOn_pure]

/-- What the build tool writes about itself is taken unless it is empty. -/
theorem runOn_info_eq_ok_iff {answer : String} :
    (bazel.info launch directory key).runOn journal = (.ok answer, after) ↔
      ∃ output, launch.Gives journal ⟨directory, bazel.program, ["info", key]⟩ output after ∧
        answer? output = some answer := by
  rw [info, FileTask.runOn_bind_eq_iff]
  simp only [runOn_call_eq_ok_iff, reduceCtorEq, and_false, exists_false, false_or]
  constructor
  · rintro ⟨output, middle, houtput, hrest⟩
    split at hrest
    · next found hanswer =>
      cases hrest
      exact ⟨output, houtput, hanswer⟩
    · cases hrest
  · rintro ⟨output, houtput, hanswer⟩
    refine ⟨output, after, houtput, ?_⟩
    rw [hanswer, FileTask.runOn_pure]

theorem locate_spares (host : Host) (name : String) : (locate host name).Spares spared :=
  FileTask.spares_of_runOn_eq (runOn_locate host name)

theorem call_spares (hlaunch : launch.Spares host spared) :
    (bazel.call launch directory arguments).Spares spared := by
  refine ((hlaunch.entries _).failAs _).bind fun reply => ?_
  split
  · exact FileTask.spares_pure _
  · exact FileTask.spares_throw _

theorem info_spares (hlaunch : launch.Spares host spared) :
    (bazel.info launch directory key).Spares spared := by
  refine (call_spares hlaunch).bind fun output => ?_
  split
  · exact FileTask.spares_pure _
  · exact FileTask.spares_throw _

/-- What a call in a directory writes says that the directory is there, before and after. -/
theorem exists_leadsTo_of_call (hlaunch : launch.Spares host spared) {output : List UInt8}
    (h : (bazel.call launch (some path) arguments).runOn journal = (.ok output, after)) :
    ∃ found, journal.now.LeadsTo host.directory path found ∧
      after.now.LeadsTo host.directory path found :=
  hlaunch.exists_leadsTo rfl (runOn_call_eq_ok_iff.1 h)

/-- So does what the build tool knows about itself there. -/
theorem exists_leadsTo_of_info (hlaunch : launch.Spares host spared) {answer : String}
    (h : (bazel.info launch (some path) key).runOn journal = (.ok answer, after)) :
    ∃ found, journal.now.LeadsTo host.directory path found ∧
      after.now.LeadsTo host.directory path found := by
  obtain ⟨output, houtput, -⟩ := runOn_info_eq_ok_iff.1 h
  exact hlaunch.exists_leadsTo rfl houtput

end CompileCommands.Bazel
