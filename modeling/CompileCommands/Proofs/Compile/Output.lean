import CompileCommands.Compile.Output
import Mathlib.Data.List.Basic

/-!
# The output that a command line names

An output flag fires at an index of a command line when its value stands after it or is attached
to it. At every argument at most one of the rules yields a value, so that the order of the rules
does not count, and the scan answers the value that fires at the least index.

* `OutputRule.pairwise_all`: no argument concerns two rules.
* `outputBy?_of_perm`: the order of the rules does not count.
* `OutputRule.first?_all_eq_some_iff`: what the rules yield at one argument.
* `OutputRule.scan?_all_eq_some_iff`: the scan answers what fires first.
* `output?_eq_some_iff`: the output is what fires first, unless it is empty.
-/

namespace CompileCommands

/-! ## Flags -/

/-- The flags whose value is the argument after them. -/
def separateFlags : List String := ["-o", "--output", "/Fo", "-Fo"]

/-- The flags that their value is attached to. -/
def attachedFlags : List String := ["-o", "--output=", "/Fo", "-Fo"]

/-- An argument is an output flag with a value, given the argument after it. -/
def Fires (argument : String) (next? : Option String) (value : String) : Prop :=
  argument ∈ separateFlags ∧ next? = some value ∨
    value ≠ "" ∧ ∃ flag ∈ attachedFlags, argument = flag ++ value

/-- An output flag fires with a value at an index of a command line. -/
def FiresAt (arguments : List String) (index : Nat) (value : String) : Prop :=
  ∃ argument, arguments[index]? = some argument ∧ Fires argument arguments[index + 1]? value

/-- The value fires at the least index at which an output flag fires. -/
def FiresFirst (arguments : List String) (value : String) : Prop :=
  ∃ index, FiresAt arguments index value ∧ ∀ earlier < index, ∀ other,
    ¬ FiresAt arguments earlier other

namespace OutputRule

variable {argument value : String} {next? : Option String}

/-! ## One rule -/

/-- What is attached to a flag is never empty. -/
theorem attachedTo_eq_some_iff {flag : String} :
    attachedTo flag argument = some value ↔ value ≠ "" ∧ argument = flag ++ value := by
  simp only [attachedTo, Option.filter_eq_some_iff, Text.after?_eq_some_iff, decide_not,
    Bool.not_eq_true', decide_eq_false_iff_not]
  exact and_comm

theorem separate_eq_some_iff :
    separate.value? argument next? = some value ↔
      (argument = "-o" ∨ argument = "--output") ∧ next? = some value := by
  simp only [separate, Option.ite_none_right_eq_some]

theorem objectFile_eq_some_iff :
    objectFile.value? argument next? = some value ↔
      (argument = "/Fo" ∨ argument = "-Fo") ∧ next? = some value ∨
        value ≠ "" ∧ (argument = "/Fo" ++ value ∨ argument = "-Fo" ++ value) := by
  -- no argument opens with both of the flags
  have hopening {rest : String} :
      (Text.after? "/Fo" argument).or (Text.after? "-Fo" argument) = some rest ↔
        argument = "/Fo" ++ rest ∨ argument = "-Fo" ++ rest := by
    rw [Option.or_eq_some_iff, Text.after?_eq_some_iff, Text.after?_eq_some_iff]
    refine or_congr_right ⟨And.right, fun h => ⟨?_, h⟩⟩
    rw [Option.eq_none_iff_forall_ne_some]
    intro other hother
    rw [Text.after?_eq_some_iff, h, ← String.toList_inj] at hother
    simp at hother
  have hempty := @hopening ""
  rw [String.append_empty, String.append_empty] at hempty
  rw [← hempty, ← hopening]
  unfold objectFile
  dsimp only
  split
  · next h => simp [h, eq_comm]
  · next rest hne h =>
    rw [h, Option.some.injEq, Option.some.injEq]
    constructor
    · rintro rfl
      exact .inr ⟨hne, rfl⟩
    · rintro (⟨hrest, -⟩ | ⟨-, hrest⟩)
      · exact absurd hrest hne
      · exact hrest
  · next h => simp [h]

/-! ## The rules together -/

/-- Where the one rule yields a value, the other one yields none. -/
def Excludes (one other : OutputRule) : Prop :=
  ∀ argument next? value another,
    one.value? argument next? = some value → other.value? argument next? ≠ some another

theorem Excludes.symm {one other : OutputRule} (h : one.Excludes other) : other.Excludes one := by
  intro argument next? value another hvalue hanother
  exact h argument next? another value hanother hvalue

/-- At every argument at most one of the rules yields a value. -/
theorem pairwise_all : all.Pairwise Excludes := by
  simp only [Excludes, all, List.pairwise_cons, List.mem_cons, List.not_mem_nil, or_false,
    forall_eq_or_imp, forall_eq, false_imp_iff, implies_true, List.Pairwise.nil, and_true, ne_eq,
    attached, longEquals, separate_eq_some_iff, objectFile_eq_some_iff, attachedTo_eq_some_iff]
  -- Two flags that open one argument would have to agree on its first characters.
  refine ⟨⟨?separate_attached, ?separate_longEquals, ?separate_objectFile⟩,
    ⟨?attached_longEquals, ?attached_objectFile⟩, ?longEquals_objectFile⟩
  case separate_attached =>
    rintro argument - - value ⟨rfl | rfl, -⟩ ⟨hne, h⟩
    · exact hne (String.append_eq_left_iff.1 h.symm)
    · simp [← String.toList_inj] at h
  case separate_longEquals =>
    rintro argument - - value ⟨rfl | rfl, -⟩ ⟨-, h⟩ <;> simp [← String.toList_inj] at h
  case separate_objectFile =>
    rintro argument - - value ⟨rfl | rfl, -⟩ (⟨h, -⟩ | ⟨-, h⟩) <;>
      simp [← String.toList_inj] at h
  case attached_longEquals =>
    rintro argument - value another ⟨-, rfl⟩ ⟨-, h⟩
    simp [← String.toList_inj] at h
  case attached_objectFile =>
    rintro argument - value another ⟨-, rfl⟩ (⟨h, -⟩ | ⟨-, h⟩) <;>
      simp [← String.toList_inj] at h
  case longEquals_objectFile =>
    rintro argument - value another ⟨-, rfl⟩ (⟨h, -⟩ | ⟨-, h⟩) <;>
      simp [← String.toList_inj] at h

/-- Of the rules that never yield at the same argument, `first?` answers what one yields. -/
theorem first?_eq_some_iff_of_pairwise {rules : List OutputRule}
    (hrules : rules.Pairwise Excludes) : first? rules argument next? = some value ↔
      ∃ rule ∈ rules, rule.value? argument next? = some value := by
  -- The first rule that yields something is the only one.
  induction rules with
  | nil => simp [first?]
  | cons rule rules ih =>
    obtain ⟨hrule, hrules⟩ := List.pairwise_cons.1 hrules
    rw [first?, List.findSome?_cons]
    simp only [List.mem_cons, exists_eq_or_imp]
    cases hvalue : rule.value? argument next? with
    | none =>
      simp only [← ih hrules, reduceCtorEq, false_or]
      rfl
    | some found =>
      refine (or_iff_left ?_).symm
      rintro ⟨other, hother, hanother⟩
      exact hrule other hother _ _ _ _ hvalue hanother

/-- The rules yield a value at an argument exactly when an output flag fires there with it. -/
theorem first?_all_eq_some_iff :
    first? all argument next? = some value ↔ Fires argument next? value := by
  rw [first?_eq_some_iff_of_pairwise pairwise_all]
  simp only [all, List.mem_cons, List.not_mem_nil, or_false, exists_eq_or_imp, exists_eq_left,
    attached, longEquals, separate_eq_some_iff, objectFile_eq_some_iff, attachedTo_eq_some_iff,
    Fires, separateFlags, attachedFlags]
  tauto

/-- The rules yield nothing at an argument exactly when no output flag fires there. -/
theorem first?_all_eq_none_iff :
    first? all argument next? = none ↔ ∀ value, ¬ Fires argument next? value := by
  rw [Option.eq_none_iff_forall_ne_some]
  simp only [ne_eq, first?_all_eq_some_iff]

end OutputRule

/-! ## The scan -/

variable {argument value : String} {arguments rest : List String}

/-- The empty argument is no output flag. -/
theorem not_fires_empty {next? : Option String} : ¬ Fires "" next? value := by
  rintro (⟨hflag, -⟩ | ⟨hne, flag, -, h⟩)
  · exact absurd hflag (by decide)
  · exact hne (String.append_eq_empty_iff.1 h.symm).2

/-- `--output=` with nothing attached to it does not fire. -/
theorem not_fires_longEquals {next? : Option String} : ¬ Fires "--output=" next? value := by
  -- No rule yields anything, whatever the next argument is.
  have hnone : OutputRule.first? OutputRule.all "--output=" next? = none := by
    rfl
  rw [← OutputRule.first?_all_eq_some_iff, hnone]
  exact (Option.some_ne_none value).symm

/-- A flag whose value would be the next argument does not fire where there is none. -/
theorem not_fires_none {flag : String} (hflag : flag ∈ separateFlags) :
    ¬ Fires flag none value := by
  have hnone : ∀ flag ∈ separateFlags, OutputRule.first? OutputRule.all flag none = none := by
    decide
  rw [← OutputRule.first?_all_eq_some_iff, hnone flag hflag]
  exact (Option.some_ne_none value).symm

theorem firesAt_zero_iff :
    FiresAt (argument :: rest) 0 value ↔ Fires argument rest.head? value := by
  simp [FiresAt, List.head?_eq_getElem?]

theorem firesAt_succ_iff {index : Nat} :
    FiresAt (argument :: rest) (index + 1) value ↔ FiresAt rest index value := by
  simp only [FiresAt, List.getElem?_cons_succ]

/-- What fires first fires at the first argument, or nothing fires there and it fires first in the
rest. -/
theorem firesFirst_cons_iff :
    FiresFirst (argument :: rest) value ↔ Fires argument rest.head? value ∨
      (∀ other, ¬ Fires argument rest.head? other) ∧ FiresFirst rest value := by
  -- The index in the rest is one less than that in the whole.
  constructor
  · rintro ⟨index, hfires, hearlier⟩
    cases index with
    | zero => exact .inl (firesAt_zero_iff.1 hfires)
    | succ index =>
      refine .inr ⟨fun other h => hearlier 0 (Nat.succ_pos _) other (firesAt_zero_iff.2 h),
        index, firesAt_succ_iff.1 hfires, fun earlier hlt other h => ?_⟩
      exact hearlier (earlier + 1) (Nat.succ_lt_succ hlt) other (firesAt_succ_iff.2 h)
  · rintro (hfires | ⟨hnone, index, hfires, hearlier⟩)
    · exact ⟨0, firesAt_zero_iff.2 hfires, fun earlier hlt => absurd hlt (Nat.not_lt_zero _)⟩
    · refine ⟨index + 1, firesAt_succ_iff.2 hfires, fun earlier hlt other h => ?_⟩
      cases earlier with
      | zero => exact hnone other (firesAt_zero_iff.1 h)
      | succ earlier =>
        exact hearlier earlier (Nat.lt_of_succ_lt_succ hlt) other (firesAt_succ_iff.1 h)

namespace OutputRule

/-- An empty argument need not be passed over, since no rule yields anything at it. -/
theorem scan?_all_cons :
    scan? all (argument :: rest) = (first? all argument rest.head?).or (scan? all rest) := by
  rw [scan?]
  split
  · next hempty =>
    have hnone : first? all argument rest.head? = none := by
      rw [hempty]
      exact first?_all_eq_none_iff.2 fun value => not_fires_empty
    rw [hnone, Option.none_or]
  · rfl

/-- The scan answers the value that fires first, whatever that value is. -/
theorem scan?_all_eq_some_iff : scan? all arguments = some value ↔ FiresFirst arguments value := by
  induction arguments with
  | nil => simp [scan?, FiresFirst, FiresAt]
  | cons argument rest ih =>
    rw [scan?_all_cons, firesFirst_cons_iff, Option.or_eq_some_iff, first?_all_eq_some_iff,
      first?_all_eq_none_iff, ih]

end OutputRule

/-- Only one value fires first. -/
theorem FiresFirst.unique {other : String} (hvalue : FiresFirst arguments value)
    (hother : FiresFirst arguments other) : value = other := by
  rw [← OutputRule.scan?_all_eq_some_iff] at hvalue hother
  exact Option.some.inj (hvalue.symm.trans hother)

/-- The output of a command line is the value that fires first, if that is not empty. -/
theorem output?_eq_some_iff :
    output? arguments = some value ↔ FiresFirst arguments value ∧ value ≠ "" := by
  simp only [output?, outputBy?, Option.filter_eq_some_iff, OutputRule.scan?_all_eq_some_iff,
    decide_not, Bool.not_eq_true', decide_eq_false_iff_not, ne_eq]

/-! ## The order of the rules -/

namespace OutputRule

variable {rules : List OutputRule}

/-- Of rules that exclude one another, at most one yields a value. -/
theorem countP_le_one_of_pairwise (hrules : rules.Pairwise Excludes) (argument : String)
    (next? : Option String) :
    rules.countP (fun rule => (rule.value? argument next?).isSome) ≤ 1 := by
  induction rules with
  | nil => exact Nat.zero_le 1
  | cons rule rules ih =>
    obtain ⟨hrule, hrules⟩ := List.pairwise_cons.1 hrules
    by_cases hyields : (rule.value? argument next?).isSome
    · -- No other rule yields anything then.
      obtain ⟨value, hvalue⟩ := Option.isSome_iff_exists.1 hyields
      have hothers : rules.countP (fun rule => (rule.value? argument next?).isSome) = 0 := by
        rw [List.countP_eq_zero]
        intro other hother hsome
        obtain ⟨another, hanother⟩ := Option.isSome_iff_exists.1 hsome
        exact hrule other hother argument next? value another hvalue hanother
      have hcount :
          (rule :: rules).countP (fun rule => (rule.value? argument next?).isSome) = 1 := by
        rw [List.countP_cons, hothers, if_pos hyields]
      exact Nat.le_of_eq hcount
    · rw [List.countP_cons, if_neg hyields]
      exact ih hrules

/-- The rules exclude one another in any order. -/
theorem pairwise_of_perm (hrules : rules.Perm all) : rules.Pairwise Excludes :=
  (hrules.pairwise_iff fun h => h.symm).2 pairwise_all

/-- At one argument, the rules yield the same in any order. -/
theorem first?_of_perm (hrules : rules.Perm all) (argument : String) (next? : Option String) :
    first? rules argument next? = first? all argument next? := by
  apply Option.ext
  intro value
  rw [first?_eq_some_iff_of_pairwise (pairwise_of_perm hrules),
    first?_eq_some_iff_of_pairwise pairwise_all]
  simp only [hrules.mem_iff]

/-- So the scan stops at the same argument, and with the same value. -/
theorem scan?_of_perm (hrules : rules.Perm all) (arguments : List String) :
    scan? rules arguments = scan? all arguments := by
  induction arguments with
  | nil => rfl
  | cons argument rest ih => rw [scan?, scan?, ih, first?_of_perm hrules]

end OutputRule

/-- At every index of a command line at most one of the rules yields a value, and in whatever order
the rules are tried, the output is the same. -/
theorem outputBy?_of_perm :
    (∀ (arguments : List String) (index : Nat) (h : index < arguments.length),
      OutputRule.all.countP
        (fun rule => (rule.value? arguments[index] arguments[index + 1]?).isSome) ≤ 1) ∧
    ∀ rules : List OutputRule, rules.Perm OutputRule.all → ∀ arguments,
      outputBy? rules arguments = output? arguments := by
  constructor
  · intro arguments index h
    exact OutputRule.countP_le_one_of_pairwise OutputRule.pairwise_all arguments[index] _
  · intro rules hrules arguments
    rw [output?, outputBy?, outputBy?, OutputRule.scan?_of_perm hrules]

/-- Tried from the last one to the first one, the rules find the same output. -/
theorem outputBy?_of_perm_reverse :
    1 < ["cc", "-o", "a.o"].length ∧
      OutputRule.all.countP (fun rule => (rule.value? "-o" (some "a.o")).isSome) ≤ 1 ∧
      OutputRule.all.reverse.Perm OutputRule.all ∧
        outputBy? OutputRule.all.reverse ["cc", "-o", "a.o"] = some "a.o" := by
  refine ⟨by decide, outputBy?_of_perm.1 ["cc", "-o", "a.o"] 1 (by decide), List.reverse_perm _, ?_⟩
  rw [outputBy?_of_perm.2 _ (List.reverse_perm _)]
  decide

end CompileCommands
