import CompileCommands.Host.Journal
import Mathlib.Data.List.Basic

/-!
# Runs of tasks

What a task leaves in the journal: how it ends, and every state that the file system has been in on
the way.

* `FileTask.runOn_bind_eq_iff`: the two ways in which one task after another ends.
* `Journal.Through`: a property of every state between two journals.
-/

namespace CompileCommands

/-! ## Ends -/

namespace FileTask

variable {ε ε' α β : Type} {journal after : Journal}

/-- Of two tasks one after the other, either the first one fails, or the second one goes on where
the first one ends. -/
theorem runOn_bind_eq_iff {task : FileTask ε α} {next : α → FileTask ε β} {result : Except ε β} :
    (task >>= next).runOn journal = (result, after) ↔
      (∃ e, task.runOn journal = (.error e, after) ∧ result = .error e) ∨
        ∃ a middle, task.runOn journal = (.ok a, middle) ∧
          (next a).runOn middle = (result, after) := by
  rw [runOn_bind]
  rcases task.runOn journal with ⟨first | a, middle⟩
  · simp only [Prod.mk.injEq, Except.error.injEq, reduceCtorEq, false_and, exists_false, or_false]
    constructor
    · rintro ⟨rfl, rfl⟩
      exact ⟨first, ⟨rfl, rfl⟩, rfl⟩
    · rintro ⟨e, ⟨rfl, rfl⟩, rfl⟩
      exact ⟨rfl, rfl⟩
  · simp only [Prod.mk.injEq, reduceCtorEq, false_and, exists_false, Except.ok.injEq, false_or]
    constructor
    · exact fun h => ⟨a, middle, ⟨rfl, rfl⟩, h⟩
    · rintro ⟨a, middle, ⟨rfl, rfl⟩, h⟩
      exact h

/-- A task with something to take away ends as it does, and if it fails, without that. -/
theorem runOn_orRemoving (location : Location) (task : FileTask ε α) :
    (orRemoving location task).runOn journal =
      match task.runOn journal with
      | (.ok a, after) => (.ok a, after)
      | (.error e, after) => (.error e, after.record (after.now.erase location)) := by
  rw [orRemoving, runOn_bind, runOn_outcome]
  rcases task.runOn journal with ⟨first | a, middle⟩
  · simp only [runOn_bind, runOn_look, runOn_record, runOn_throw]
  · rfl

end FileTask

/-! ## States on the way -/

namespace Journal

variable {P Q : FileSystem → Prop} {journal middle after : Journal} {fs : FileSystem}

/-- The second journal goes on from the first one, and every state that it adds has a property. -/
def Through (P : FileSystem → Prop) (journal after : Journal) : Prop :=
  ∃ added, after.now :: after.past = added ++ journal.now :: journal.past ∧ ∀ fs ∈ added, P fs

theorem Through.refl (P : FileSystem → Prop) (journal : Journal) : Through P journal journal :=
  ⟨[], rfl, by simp⟩

theorem Through.record (h : Through P journal after) (hfs : P fs) :
    Through P journal (after.record fs) := by
  obtain ⟨added, hadded, hall⟩ := h
  refine ⟨fs :: added, ?_, ?_⟩
  · rw [Journal.record, hadded, List.cons_append]
  · intro state hstate
    rcases List.mem_cons.1 hstate with rfl | hmem
    · exact hfs
    · exact hall state hmem

theorem Through.trans (h : Through P journal middle) (h' : Through P middle after) :
    Through P journal after := by
  obtain ⟨added, hadded, hall⟩ := h
  obtain ⟨added', hadded', hall'⟩ := h'
  refine ⟨added' ++ added, ?_, ?_⟩
  · rw [hadded', hadded, List.append_assoc]
  · intro state hstate
    rcases List.mem_append.1 hstate with hmem | hmem
    · exact hall' state hmem
    · exact hall state hmem

theorem Through.mono (h : Through P journal after) (hPQ : ∀ fs, P fs → Q fs) :
    Through Q journal after := by
  obtain ⟨added, hadded, hall⟩ := h
  exact ⟨added, hadded, fun fs hfs => hPQ fs (hall fs hfs)⟩

end Journal

end CompileCommands
