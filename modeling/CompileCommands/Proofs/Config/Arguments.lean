import CompileCommands.Config.Arguments
import CompileCommands.Proofs.Text.Fields
import CompileCommands.Proofs.Text.Whitespace

/-!
# Flags, targets and a query expression

The arguments for the build tool are flags and targets, mixed in any way, and after a separator a
query expression. Every list of arguments is made up so in exactly one way, and splitting finds it.

* `IsInterleaving`: a list that holds the items of two others, each in its order.
* `Mixture`: flags and targets that are mixed with one another.
* `IsExpression`: the query expression that the arguments after a separator make up, if any.
* `split_append_separated`: splitting finds the flags, the targets and the expression, and every
  list of arguments is made up of them in exactly one way.
-/

namespace CompileCommands.Arguments

/-! ## Two lists in one -/

/-- The items of `whole` are those of `left` and of `right`, each in their order. -/
inductive IsInterleaving {α : Type} : (left right whole : List α) → Prop
  /-- There is nothing. -/
  | nil : IsInterleaving [] [] []
  /-- The next item is one of `left`. -/
  | left {a : α} {left right whole : List α} :
      IsInterleaving left right whole → IsInterleaving (a :: left) right (a :: whole)
  /-- The next item is one of `right`. -/
  | right {a : α} {left right whole : List α} :
      IsInterleaving left right whole → IsInterleaving left (a :: right) (a :: whole)

namespace IsInterleaving

variable {α : Type} {left right whole : List α} {p : α → Bool}

/-- Nothing is lost and nothing is added. -/
theorem mem_iff (h : IsInterleaving left right whole) {a : α} :
    a ∈ whole ↔ a ∈ left ∨ a ∈ right := by
  induction h with
  | nil => simp
  | left _ ih => rw [List.mem_cons, List.mem_cons, ih, or_assoc]
  | right _ ih => rw [List.mem_cons, List.mem_cons, ih, or_left_comm]

/-- A list is made up of the items that have a property and of those that have not. -/
theorem filter (p : α → Bool) (whole : List α) :
    IsInterleaving (whole.filter p) (whole.filter (!p ·)) whole := by
  induction whole with
  | nil => exact .nil
  | cons a whole ih =>
    cases h : p a with
    | true => simpa [h] using ih.left
    | false => simpa [h] using ih.right

/-- A property that tells the two lists apart finds them both again. -/
theorem partition_eq (h : IsInterleaving left right whole) (hleft : ∀ a ∈ left, p a = true)
    (hright : ∀ a ∈ right, p a = false) : whole.partition p = (left, right) := by
  rw [List.partition_eq_filter_filter]
  induction h with
  | nil => rfl
  | left _ ih =>
    obtain ⟨ha, hleft⟩ := List.forall_mem_cons.1 hleft
    obtain ⟨h₁, h₂⟩ := Prod.mk.inj (ih hleft hright)
    rw [List.filter_cons_of_pos ha, List.filter_cons_of_neg (by simp [ha]), h₁, h₂]
  | right _ ih =>
    obtain ⟨ha, hright⟩ := List.forall_mem_cons.1 hright
    obtain ⟨h₁, h₂⟩ := Prod.mk.inj (ih hleft hright)
    rw [List.filter_cons_of_neg (by simp [ha]), List.filter_cons_of_pos (by simp [ha]), h₁, h₂]

end IsInterleaving

/-! ## What arguments are made up of -/

/-- Flags and targets that are mixed with one another. -/
@[ext]
structure Mixture where
  /-- The flags, in their order. -/
  flags : List String
  /-- The targets, in their order. -/
  targets : List String
  /-- Both of them, as they are given. -/
  mixed : List String
  /-- Flags start with a dash. -/
  dash_of_mem_flags : ∀ flag ∈ flags, flag.toList.head? = some '-'
  /-- The separator is no flag. -/
  separator_notMem_flags : "--" ∉ flags
  /-- Targets do not start with a dash. -/
  noDash_of_mem_targets : ∀ target ∈ targets, target.toList.head? ≠ some '-'
  /-- There is nothing but the flags and the targets. -/
  isInterleaving : IsInterleaving flags targets mixed

/-- Nothing, or a separator and what stands after it. -/
def separated : Option (List String) → List String
  | none => []
  | some rest => "--" :: rest

/-- The query expression that the arguments after a separator make up, if there is one: they are
joined with single spaces and trimmed, and blank ones say nothing. -/
inductive IsExpression : Option (List String) → (expression : List String) → Prop
  /-- There is no separator. -/
  | none : IsExpression none []
  /-- Only white space stands after the separator. -/
  | blank {rest : List String} :
      Text.IsTrimmed (" ".intercalate rest) "" → IsExpression (some rest) []
  /-- Something else stands after the separator. -/
  | some {rest : List String} {expression : String} :
      Text.IsTrimmed (" ".intercalate rest) expression → expression ≠ "" →
      IsExpression (some rest) [expression]

variable {before : List String} {rest? : Option (List String)}

theorem isFlag_iff_head? {argument : String} :
    isFlag argument = true ↔ argument.toList.head? = some '-' :=
  Text.startsWith_iff_head? rfl

namespace Mixture

/-- There is no separator in a mixture. -/
theorem separator_notMem_mixed (m : Mixture) : "--" ∉ m.mixed := by
  rw [m.isInterleaving.mem_iff, not_or]
  exact ⟨m.separator_notMem_flags, fun h => m.noDash_of_mem_targets _ h rfl⟩

/-- Flags and targets are told apart by the dash. -/
theorem partition_isFlag (m : Mixture) : m.mixed.partition isFlag = (m.flags, m.targets) := by
  apply m.isInterleaving.partition_eq
  · exact fun flag hflag => isFlag_iff_head?.2 (m.dash_of_mem_flags flag hflag)
  · intro target htarget
    rw [Bool.eq_false_iff, ne_eq, isFlag_iff_head?]
    exact m.noDash_of_mem_targets target htarget

/-- The flags and the targets among some arguments without a separator. -/
def ofArguments (before : List String) (h : "--" ∉ before) : Mixture where
  flags := before.filter isFlag
  targets := before.filter (!isFlag ·)
  mixed := before
  dash_of_mem_flags _ hflag := isFlag_iff_head?.1 (List.mem_filter.1 hflag).2
  separator_notMem_flags hmem := h (List.mem_filter.1 hmem).1
  noDash_of_mem_targets _ htarget hdash := by
    have hflag := (List.mem_filter.1 htarget).2
    rw [isFlag_iff_head?.2 hdash] at hflag
    cases hflag
  isInterleaving := .filter isFlag before

/-- A mixture is known once it is known how it is given. -/
theorem eq_of_mixed_eq {m m' : Mixture} (h : m.mixed = m'.mixed) : m = m' := by
  have hparts : (m.flags, m.targets) = (m'.flags, m'.targets) := by
    rw [← m.partition_isFlag, ← m'.partition_isFlag, h]
  obtain ⟨hflags, htargets⟩ := Prod.mk.inj hparts
  exact Mixture.ext hflags htargets h

end Mixture

/-! ## The first separator -/

/-- Arguments are split where the first separator is. -/
theorem splitAtSeparator_append (h : "--" ∉ before) (rest? : Option (List String)) :
    splitAtSeparator (before ++ separated rest?) = (before, rest?.getD []) := by
  induction before with
  | nil =>
    cases rest? with
    | none => rfl
    | some rest => exact splitAtSeparator_separator rest
  | cons argument before ih =>
    rw [List.mem_cons, not_or] at h
    rw [List.cons_append, splitAtSeparator, if_neg (Ne.symm h.1), ih h.2]

/-- There is a first separator, or none. -/
theorem exists_eq_append_separated (given : List String) :
    ∃ before rest?, "--" ∉ before ∧ given = before ++ separated rest? := by
  by_cases h : "--" ∈ given
  · obtain ⟨before, rest, hgiven, hbefore⟩ := List.eq_append_cons_of_mem h
    exact ⟨before, some rest, hbefore, hgiven⟩
  · exact ⟨given, none, h, (List.append_nil given).symm⟩

/-- There is only one first separator. -/
theorem append_separated_inj {before' : List String} {rest?' : Option (List String)}
    (h : "--" ∉ before) (h' : "--" ∉ before')
    (heq : before ++ separated rest? = before' ++ separated rest?') :
    before = before' ∧ rest? = rest?' := by
  have hbefore : before = before' := by
    have hsplit := congrArg (fun given => (splitAtSeparator given).1) heq
    simpa only [splitAtSeparator_append h, splitAtSeparator_append h'] using hsplit
  subst hbefore
  have hrest := List.append_cancel_left heq
  cases rest? <;> cases rest?' <;> simp_all [separated]

/-! ## Splitting -/

/-- What stands after a separator makes up an expression, or says nothing. -/
theorem isExpression_expression (rest? : Option (List String)) :
    IsExpression rest?
      (if expression (rest?.getD []) = "" then [] else [expression (rest?.getD [])]) := by
  cases rest? with
  | none =>
    have hblank : expression [] = "" := rfl
    rw [Option.getD_none, if_pos hblank]
    exact .none
  | some rest =>
    have htrimmed : Text.IsTrimmed (" ".intercalate rest) (expression rest) :=
      Text.isTrimmed_trim _
    rw [Option.getD_some]
    split
    · next hblank => exact .blank (hblank ▸ htrimmed)
    · next hne => exact .some htrimmed hne

/-- Splitting finds the flags and the targets, and the query expression is the last target. -/
theorem exists_split_append_separated (m : Mixture) (rest? : Option (List String)) :
    ∃ last, IsExpression rest? last ∧
      split (m.mixed ++ separated rest?) = (m.flags, m.targets ++ last) := by
  refine ⟨_, isExpression_expression rest?, ?_⟩
  rw [split, splitAtSeparator_append m.separator_notMem_mixed]
  simp only [m.partition_isFlag]
  split
  · rw [List.append_nil]
  · rfl

/-- Every list of arguments is made up in some way. -/
theorem exists_mixture (given : List String) :
    ∃ (m : Mixture) (rest? : Option (List String)), given = m.mixed ++ separated rest? := by
  obtain ⟨before, rest?, hbefore, hgiven⟩ := exists_eq_append_separated given
  exact ⟨.ofArguments before hbefore, rest?, hgiven⟩

/-- Flags and targets, however they are mixed, and a query expression after them are what splitting
finds; and every list of arguments is made up so in exactly one way. -/
theorem split_append_separated :
    (∀ (m : Mixture) (rest? : Option (List String)), ∃ last, IsExpression rest? last ∧
      split (m.mixed ++ separated rest?) = (m.flags, m.targets ++ last)) ∧
    ∀ given : List String, ∃! form : Mixture × Option (List String),
      given = form.1.mixed ++ separated form.2 := by
  refine ⟨exists_split_append_separated, fun given => ?_⟩
  obtain ⟨m, rest?, hgiven⟩ := exists_mixture given
  refine ⟨(m, rest?), hgiven, ?_⟩
  rintro ⟨m', rest?'⟩ hgiven'
  obtain ⟨hmixed, hrest⟩ := append_separated_inj m'.separator_notMem_mixed
    m.separator_notMem_mixed (hgiven'.symm.trans hgiven)
  exact Prod.ext (Mixture.eq_of_mixed_eq hmixed) hrest

/-- Only the first separator counts. -/
example : split ["-c", "//a", "--", " deps(//b)", "--", "-x "] =
    (["-c"], ["//a", "deps(//b) -- -x"]) := by
  decide +kernel

end CompileCommands.Arguments
