import CompileCommands.CommandLine.Options
import CompileCommands.Proofs.Config.Arguments
import CompileCommands.Proofs.Result

/-!
# What the options say

Options may come in any order, and the build tool may be named in two ways, the form of the summary
in two as well. What stands after the separator is taken as it is. What stands in front of it and is
neither an option nor the value of one is refused.

* `Group`: an option as it is written, with its value.
* `Options.IsMeant`: what options and what stands after them say, in whatever order they are.
* `Progress.Says`: what the options say that have been read so far.
* `Progress.Says.exists_foldlM_readNext`: what one more option adds.
* `readFrom_append`: how some arguments are read does not depend on what follows them.
* `StopsWithin`: the reading ends before it comes to the end of some arguments.
* `read_options`: the options are read as they are meant, and anything else is refused.
-/

namespace CompileCommands.CommandLine

open Arguments (separated)

/-! ## Single arguments -/

namespace Argument

variable {text name : String} {letters : List Char}

/-- Only the separator is read as one. -/
theorem eq_of_ofText_eq_separator (h : ofText text = .separator) : text = "--" := by
  unfold ofText at h
  split at h <;> simp_all [← String.toList_inj]

/-- What does not start with a dash is no option. -/
theorem ofText_of_head? (h : text.toList.head? ≠ some '-') : ofText text = .plain text := by
  unfold ofText
  split <;> simp_all

/-- An option without a value is two dashes and its name. -/
theorem eq_of_ofText_eq_long_none (h : ofText text = .long name none) : text = "--" ++ name := by
  unfold ofText at h
  split at h
  · cases h
  · next rest _ htext =>
    simp only [long.injEq, ite_eq_left_iff, reduceCtorEq, imp_false, not_not] at h
    obtain ⟨rfl, hlength⟩ := h
    -- The name is all that follows the dashes.
    have hname : rest.takeWhile (· ≠ '=') = rest :=
      (List.takeWhile_prefix _).eq_of_length hlength
    rw [← String.toList_inj, htext, hname, String.toList_append, String.toList_ofList,
      String.toList_ofList]
    rfl
  · cases h
  · cases h
  · cases h

theorem letters_ne_nil (h : ofText text = .short letters) : letters ≠ [] := by
  unfold ofText at h
  split at h <;> simp_all

theorem ofText_attached (value : String) :
    ofText ("--bazel=" ++ value) = .long "bazel" (some value) := by
  unfold ofText
  simp

end Argument

/-! ## Options as they are written -/

/-- An option as it is written, with its value. -/
inductive Group where
  /-- The build tool, as the next argument. -/
  | bazel (value : String) (noDash : value.toList.head? ≠ some '-')
  /-- The build tool, in the same argument. -/
  | bazelAttached (value : String)
  /-- The summary is written as JSON. -/
  | json
  /-- The same, with a letter. -/
  | jsonLetter

namespace Group

/-- The arguments that the option takes. -/
def arguments : Group → List String
  | bazel value _ => ["--bazel", value]
  | bazelAttached value => ["--bazel=" ++ value]
  | json => ["--json"]
  | jsonLetter => ["-j"]

/-- The build tool that the option names, if it names one. -/
def bazel? : Group → Option String
  | bazel value _ | bazelAttached value => some value
  | json | jsonLetter => none

/-- The option asks for JSON. -/
def isJson : Group → Bool
  | bazel _ _ | bazelAttached _ => false
  | json | jsonLetter => true

end Group

/-- Neither the build tool nor the form of the summary is given more than once. -/
structure IsOnce (groups : List Group) : Prop where
  /-- The build tool is named at most once. -/
  bazel : groups.countP (·.bazel?.isSome) ≤ 1
  /-- JSON is asked for at most once. -/
  json : groups.countP Group.isJson ≤ 1

/-- What some options say, in whatever order they are, and what stands after them. -/
structure Options.IsMeant (groups : List Group) (rest? : Option (List String))
    (options : Options) : Prop where
  /-- The build tool is the one that is named. -/
  bazel_iff : ∀ value, options.bazel = some value ↔ ∃ group ∈ groups, group.bazel? = some value
  /-- JSON is written if it is asked for. -/
  json_iff : options.json = true ↔ ∃ group ∈ groups, group.isJson = true
  /-- What stands after the separator is for the build tool. -/
  bazelArguments_eq : options.bazelArguments = rest?.getD []

variable {groups : List Group} {group : Group} {options : Options} {progress after : Progress}

/-- One option fewer is not given more often. -/
theorem IsOnce.of_append (h : IsOnce (groups ++ [group])) : IsOnce groups where
  bazel := ((List.sublist_append_left groups [group]).countP_le).trans h.bazel
  json := ((List.sublist_append_left groups [group]).countP_le).trans h.json

/-- What may be there once, and is there at the end, is not there before. -/
theorem not_of_countP_append_le_one {α : Type} {p : α → Bool} {items : List α} {last : α}
    (h : (items ++ [last]).countP p ≤ 1) (hlast : p last = true) : ∀ item ∈ items, ¬ p item := by
  rw [List.countP_append, List.countP_singleton, if_pos hlast] at h
  exact List.countP_eq_zero.1 (by omega)

namespace Options.IsMeant

/-- An option that names the build tool comes to those that do not. -/
theorem bazel_eq_none (h : options.IsMeant groups none) (honce : IsOnce (groups ++ [group]))
    (hgroup : group.bazel?.isSome = true) : options.bazel = none := by
  rw [Option.eq_none_iff_forall_ne_some]
  intro value hvalue
  obtain ⟨other, hother, hnames⟩ := (h.bazel_iff value).1 hvalue
  exact not_of_countP_append_le_one honce.bazel hgroup other hother (by rw [hnames]; rfl)

/-- An option that asks for JSON comes to those that do not. -/
theorem json_eq_false (h : options.IsMeant groups none) (honce : IsOnce (groups ++ [group]))
    (hgroup : group.isJson = true) : options.json = false := by
  rw [Bool.eq_false_iff, ne_eq, h.json_iff]
  rintro ⟨other, hother, hasks⟩
  exact not_of_countP_append_le_one honce.json hgroup other hother hasks

/-- An option that names the build tool says so, besides what the others say. -/
theorem append_bazel (h : options.IsMeant groups none) (hnone : options.bazel = none)
    {value : String} (hvalue : group.bazel? = some value) (hjson : group.isJson = false) :
    { options with bazel := some value }.IsMeant (groups ++ [group]) none where
  bazel_iff other := by
    -- None of the others names one.
    have hothers : ¬ ∃ group ∈ groups, group.bazel? = some other := by
      rw [← h.bazel_iff, hnone]
      exact (Option.some_ne_none other).symm
    simp only [List.mem_append, List.mem_singleton, or_and_right, exists_or, hothers, false_or,
      exists_eq_left, hvalue]
  json_iff := by
    simp only [List.mem_append, List.mem_singleton, or_and_right, exists_or, exists_eq_left, hjson,
      Bool.false_eq_true, or_false]
    exact h.json_iff
  bazelArguments_eq := h.bazelArguments_eq

/-- An option that asks for JSON does so, besides what the others say. -/
theorem append_json (h : options.IsMeant groups none) (hbazel : group.bazel? = none)
    (hjson : group.isJson = true) :
    { options with json := true }.IsMeant (groups ++ [group]) none where
  bazel_iff value := by
    simp only [List.mem_append, List.mem_singleton, or_and_right, exists_or, exists_eq_left, hbazel,
      reduceCtorEq, or_false]
    exact h.bazel_iff value
  json_iff := iff_of_true rfl ⟨group, by simp, hjson⟩
  bazelArguments_eq := h.bazelArguments_eq

end Options.IsMeant

/-! ## Reading arguments one by one -/

/-- Read an argument in front of the separator. The separator itself says nothing. -/
def Progress.readNext (progress : Progress) (text : String) : Except Stop Progress :=
  match Argument.ofText text with
  | .separator => .ok progress
  | .long name value => readLong progress name value
  | .short letters => readShort progress letters
  | .plain text => readPlain progress text

/-- An argument is read by itself, whatever follows it. -/
theorem readFrom_cons {text : String} (h : text ≠ "--") (rest : List String) :
    readFrom progress (text :: rest) =
      progress.readNext text >>= fun after => readFrom after rest := by
  rw [readFrom, Progress.readNext]
  cases htext : Argument.ofText text with
  | separator => exact absurd (Argument.eq_of_ofText_eq_separator htext) h
  | long name value => rfl
  | short letters => rfl
  | plain text => rfl

/-- So are several arguments without a separator. -/
theorem readFrom_append {before : List String} (h : "--" ∉ before) (rest : List String) :
    readFrom progress (before ++ rest) =
      before.foldlM Progress.readNext progress >>= fun after => readFrom after rest := by
  induction before generalizing progress with
  | nil => rfl
  | cons text before ih =>
    rw [List.mem_cons, not_or] at h
    rw [List.cons_append, readFrom_cons (Ne.symm h.1), List.foldlM_cons, bind_assoc]
    simp only [ih h.2]

/-! ## Reading options -/

namespace Progress

variable {settled : Progress} {value : String}

/-- The build tool is settled when it has not been before. -/
theorem settleBazel_eq_ok (h : progress.options.bazel = none) (value : String) :
    progress.settleBazel value = .ok ⟨{ progress.options with bazel := some value },
      progress.settled ++ [.bazel], none⟩ := by
  simp only [settleBazel, h]

/-- So is the form of the summary. -/
theorem settleJson_eq_ok (h : progress.options.json = false) :
    progress.settleJson = .ok ⟨{ progress.options with json := true },
      progress.settled ++ [.json], progress.pending⟩ := by
  simp only [settleJson, h, Bool.false_eq_true, if_false]

/-- The build tool is named; its value is the next argument. -/
theorem foldlM_readNext_bazel (h : progress.settle = .ok settled)
    (noDash : value.toList.head? ≠ some '-') :
    ["--bazel", value].foldlM readNext progress =
      .ok { settled with pending := some (some value) } := by
  have hname : progress.readNext "--bazel" =
      progress.settle >>= fun settled => .ok { settled with pending := some none } := rfl
  have hvalue : readNext { settled with pending := some none } value =
      .ok { settled with pending := some (some value) } := by
    rw [readNext, Argument.ofText_of_head? noDash]
    rfl
  simp only [List.foldlM_cons, hname, h, Except.bind_eq_ok_iff, Except.ok.injEq]
  exact ⟨_, ⟨_, rfl, rfl⟩, _, hvalue, rfl⟩

/-- The build tool is named with its value. -/
theorem readNext_bazelAttached (h : progress.settle = .ok settled) (value : String) :
    progress.readNext ("--bazel=" ++ value) = settled.settleBazel value := by
  have hread : readLong progress "bazel" (some value) =
      progress.settle >>= fun settled => settled.settleBazel value := rfl
  rw [readNext, Argument.ofText_attached]
  dsimp only
  rw [hread, h]
  rfl

/-- JSON is asked for. -/
theorem readNext_json (h : progress.settle = .ok settled) :
    progress.readNext "--json" = settled.settleJson := by
  have hread : progress.readNext "--json" = progress.settle >>= settleJson := rfl
  rw [hread, h]
  rfl

/-- JSON is asked for with a letter. -/
theorem readNext_jsonLetter (h : progress.settle = .ok settled) :
    progress.readNext "-j" = settled.settleJson := by
  have hread : progress.readNext "-j" =
      progress.settle >>= fun settled => settled.settleJson >>= .ok := rfl
  rw [hread, h]
  exact bind_pure settled.settleJson

end Progress

/-- Once what is pending is settled, the options are as some groups say. -/
def Progress.Says (progress : Progress) (groups : List Group) : Prop :=
  ∃ options settled, progress.settle = .ok ⟨options, settled, none⟩ ∧ options.IsMeant groups none

namespace Progress.Says

/-- When nothing is pending, it is the settled options that count. -/
theorem of_isMeant (h : options.IsMeant groups none) (settled : List Flag) :
    Says ⟨options, settled, none⟩ groups :=
  ⟨options, settled, rfl, h⟩

/-- Before anything is read, nothing is said. -/
theorem initial : Says {} [] := by
  refine of_isMeant ⟨fun value => ?_, ?_, rfl⟩ [] <;> simp

/-- One more option is read as it is meant. -/
theorem exists_foldlM_readNext (h : progress.Says groups) (honce : IsOnce (groups ++ [group])) :
    ∃ after : Progress, group.arguments.foldlM readNext progress = .ok after ∧
      after.Says (groups ++ [group]) := by
  obtain ⟨options, settled, hsettle, hmeant⟩ := h
  cases group with
  | bazel value noDash =>
    -- The value is pending now, and it will be settled as the only one.
    have hnone := hmeant.bazel_eq_none honce rfl
    exact ⟨_, foldlM_readNext_bazel hsettle noDash, _, _, settleBazel_eq_ok hnone value,
      hmeant.append_bazel hnone rfl rfl⟩
  | bazelAttached value =>
    have hnone := hmeant.bazel_eq_none honce rfl
    have hread := (readNext_bazelAttached hsettle value).trans (settleBazel_eq_ok hnone value)
    refine ⟨_, ?_, of_isMeant (hmeant.append_bazel hnone rfl rfl) (settled ++ [.bazel])⟩
    rw [Group.arguments, List.foldlM_cons, hread]
    rfl
  | json =>
    have hfalse := hmeant.json_eq_false honce rfl
    have hread := (readNext_json hsettle).trans (settleJson_eq_ok hfalse)
    refine ⟨_, ?_, of_isMeant (hmeant.append_json rfl rfl) (settled ++ [.json])⟩
    rw [Group.arguments, List.foldlM_cons, hread]
    rfl
  | jsonLetter =>
    have hfalse := hmeant.json_eq_false honce rfl
    have hread := (readNext_jsonLetter hsettle).trans (settleJson_eq_ok hfalse)
    refine ⟨_, ?_, of_isMeant (hmeant.append_json rfl rfl) (settled ++ [.json])⟩
    rw [Group.arguments, List.foldlM_cons, hread]
    rfl

/-- All options are read as they are meant. -/
theorem exists_of_isOnce (honce : IsOnce groups) :
    ∃ after : Progress, (groups.flatMap Group.arguments).foldlM readNext {} = .ok after ∧
      after.Says groups := by
  -- By induction from the last option: what stands in front of it has been read.
  induction groups using List.reverseRecOn with
  | nil => exact ⟨{}, rfl, initial⟩
  | append_singleton groups group ih =>
    obtain ⟨progress, hread, hsays⟩ := ih honce.of_append
    obtain ⟨after, hgroup, hafter⟩ := hsays.exists_foldlM_readNext honce
    refine ⟨after, ?_, hafter⟩
    rw [List.flatMap_append, List.flatMap_singleton, List.foldlM_append, hread]
    exact hgroup

/-- What is pending is settled at the end, or at the separator. -/
theorem exists_readFrom_separated (h : progress.Says groups) (rest? : Option (List String)) :
    ∃ options, readFrom progress (separated rest?) = .ok options ∧
      options.IsMeant groups rest? := by
  obtain ⟨options, settled, hsettle, hmeant⟩ := h
  cases rest? with
  | none =>
    refine ⟨options, ?_, hmeant⟩
    rw [separated, readFrom, hsettle]
    rfl
  | some rest =>
    refine ⟨{ options with bazelArguments := rest }, ?_, hmeant.bazel_iff, hmeant.json_iff, rfl⟩
    have hseparator : Argument.ofText "--" = .separator := rfl
    rw [separated, readFrom, hseparator]
    dsimp only
    rw [hsettle]
    rfl

end Progress.Says

/-- No option is the separator, and no value of one is. -/
theorem Group.separator_notMem_arguments (group : Group) : "--" ∉ group.arguments := by
  cases group with
  | bazel value noDash =>
    simp only [arguments, List.mem_cons, List.not_mem_nil, or_false, not_or]
    refine ⟨by decide, ?_⟩
    rintro rfl
    exact noDash rfl
  | bazelAttached value => simp [arguments, ← String.toList_inj]
  | json => decide
  | jsonLetter => decide

/-- Options, in whatever order they are, are read as they are meant. -/
theorem exists_read_of_isOnce (honce : IsOnce groups) (rest? : Option (List String)) :
    ∃ options, Options.read (groups.flatMap Group.arguments ++ separated rest?) = .ok options ∧
      options.IsMeant groups rest? := by
  obtain ⟨after, hread, hsays⟩ := Progress.Says.exists_of_isOnce honce
  obtain ⟨options, hrest, hmeant⟩ := hsays.exists_readFrom_separated rest?
  refine ⟨options, ?_, hmeant⟩
  have hseparator : "--" ∉ groups.flatMap Group.arguments := by
    intro hmem
    obtain ⟨group, -, hgroup⟩ := List.mem_flatMap.1 hmem
    exact group.separator_notMem_arguments hgroup
  rw [Options.read, readFrom_append hseparator, hread]
  exact hrest

/-! ## What is no option -/

namespace Progress

variable {text name value : String} {value? : Option String}

/-- Nothing is pending once it has been settled. -/
theorem pending_of_settleBazel (h : progress.settleBazel value = .ok after) :
    after.pending = none := by
  rw [settleBazel] at h
  split at h
  · cases h
  · cases h
    rfl

theorem pending_of_settle (h : progress.settle = .ok after) : after.pending = none := by
  rw [settle] at h
  split at h
  · next hpending =>
    cases h
    exact hpending
  · cases h
  · exact pending_of_settleBazel h

theorem pending_of_settleJson (h : progress.settleJson = .ok after) :
    after.pending = progress.pending := by
  rw [settleJson] at h
  split at h
  · cases h
  · cases h
    rfl

/-- Only the name of the option that takes a value leaves one to be awaited. -/
theorem pending_of_readLong (h : readLong progress name value? = .ok after) :
    after.pending = none ∨ name = "bazel" ∧ value? = none := by
  unfold readLong at h
  split at h
  · next hflag =>
    have hname := List.find?_some hflag
    exact .inr ⟨(beq_iff_eq.1 hname).symm, rfl⟩
  · obtain ⟨settled, -, h⟩ := Except.bind_eq_ok_iff.1 h
    exact .inl (pending_of_settleBazel h)
  · obtain ⟨settled, hsettle, h⟩ := Except.bind_eq_ok_iff.1 h
    exact .inl ((pending_of_settleJson h).trans (pending_of_settle hsettle))
  · obtain ⟨-, -, h⟩ := Except.bind_eq_ok_iff.1 h
    cases h
  · obtain ⟨-, -, h⟩ := Except.bind_eq_ok_iff.1 h
    cases h
  · cases h
  · cases h

/-- Letters leave nothing pending. -/
theorem pending_of_readShort {letters : List Char} (h : readShort progress letters = .ok after) :
    after.pending = none ∨ letters = [] := by
  induction letters generalizing progress with
  | nil => exact .inr rfl
  | cons letter letters ih =>
    unfold readShort at h
    split at h
    · obtain ⟨settled, hsettle, h⟩ := Except.bind_eq_ok_iff.1 h
      obtain ⟨next, hjson, h⟩ := Except.bind_eq_ok_iff.1 h
      rcases ih h with hpending | rfl
      · exact .inl hpending
      · -- That was the last letter.
        cases h
        exact .inl ((pending_of_settleJson hjson).trans (pending_of_settle hsettle))
    · obtain ⟨-, -, h⟩ := Except.bind_eq_ok_iff.1 h
      cases h
    · obtain ⟨-, -, h⟩ := Except.bind_eq_ok_iff.1 h
      cases h
    · cases h

/-- A plain argument is a value that is awaited. -/
theorem pending_of_readPlain (h : readPlain progress text = .ok after) :
    after.pending = some (some text) := by
  rw [readPlain] at h
  split at h
  · cases h
    rfl
  · cases h

/-- A value is awaited only right after the option that takes one. -/
theorem eq_bazel_of_pending (hseparator : text ≠ "--") (h : progress.readNext text = .ok after)
    (hpending : after.pending = some none) : text = "--bazel" := by
  rw [readNext] at h
  split at h
  · next htext => exact absurd (Argument.eq_of_ofText_eq_separator htext) hseparator
  · next htext =>
    rcases pending_of_readLong h with hnone | ⟨rfl, rfl⟩
    · rw [hnone] at hpending
      cases hpending
    · exact Argument.eq_of_ofText_eq_long_none htext
  · next htext =>
    rcases pending_of_readShort h with hnone | hletters
    · rw [hnone] at hpending
      cases hpending
    · exact absurd hletters (Argument.letters_ne_nil htext)
  · rw [pending_of_readPlain h] at hpending
    cases hpending

/-- No value is awaited after arguments of which the last one is not the option that takes one. -/
theorem pending_ne_of_getLast?_ne {before : List String} (hseparator : "--" ∉ before)
    (hlast : before.getLast? ≠ some "--bazel")
    (h : before.foldlM readNext {} = .ok after) : after.pending ≠ some none := by
  rcases List.eq_nil_or_concat' before with rfl | ⟨before, text, rfl⟩
  · cases h
    exact (Option.some_ne_none _).symm
  · intro hpending
    rw [List.foldlM_append, Except.bind_eq_ok_iff] at h
    obtain ⟨progress, -, h⟩ := h
    rw [List.foldlM_cons, Except.bind_eq_ok_iff] at h
    obtain ⟨_, hnext, h⟩ := h
    cases h
    have htext : text ≠ "--" := by
      rintro rfl
      exact hseparator (by simp)
    apply hlast
    rw [List.getLast?_concat, eq_bazel_of_pending htext hnext hpending]

end Progress

/-- The reading ends within some arguments, whatever follows them. -/
def StopsWithin (before : List String) : Prop :=
  ∃ stop, ∀ rest, Options.read (before ++ rest) = .error stop

/-- As long as the reading goes on, it matters what follows. -/
theorem exists_readFrom_ne_error (progress : Progress) (stop : Stop) :
    ∃ rest, readFrom progress rest ≠ .error stop := by
  by_contra! hstop
  have hend := hstop []
  have hplain := hstop ["x"]
  obtain ⟨⟨bazel, json, given⟩, settled, pending⟩ := progress
  -- An end and a plain argument are refused for different reasons, if they are refused.
  cases pending with
  | none => cases hend
  | some value? =>
    cases value? with
    | none =>
      cases hend
      cases bazel <;> cases hplain
    | some value =>
      cases bazel with
      | none => cases hend
      | some _ =>
        cases hend
        cases hplain

/-- The reading ends within arguments without a separator exactly if one of them ends it. -/
theorem stopsWithin_iff {before : List String} (h : "--" ∉ before) :
    StopsWithin before ↔ ∃ stop, before.foldlM Progress.readNext {} = .error stop := by
  simp only [StopsWithin, Options.read, readFrom_append h]
  cases before.foldlM Progress.readNext {} with
  | error stop => exact iff_of_true ⟨stop, fun _ => rfl⟩ ⟨stop, rfl⟩
  | ok progress =>
    refine iff_of_false ?_ (by simp)
    rintro ⟨stop, hstop⟩
    obtain ⟨rest, hrest⟩ := exists_readFrom_ne_error progress stop
    exact hrest (hstop rest)

/-- An argument that is no option and no value is refused, if the reading comes to it in front of
the separator. -/
theorem read_eq_error_of_plain {before : List String} {text : String}
    (hseparator : "--" ∉ before) (hlast : before.getLast? ≠ some "--bazel")
    (htext : text.toList.head? ≠ some '-') (hreach : ¬ StopsWithin before) (rest : List String) :
    Options.read (before ++ text :: rest) = .error (.wrong (.unexpected text none .general)) := by
  rw [stopsWithin_iff hseparator] at hreach
  rw [Options.read, readFrom_append hseparator]
  cases hbefore : before.foldlM Progress.readNext {} with
  | error stop => exact absurd ⟨stop, hbefore⟩ hreach
  | ok progress =>
    have hpending := Progress.pending_ne_of_getLast?_ne hseparator hlast hbefore
    have hnext : progress.readNext text = .error (.wrong (.unexpected text none .general)) := by
      rw [Progress.readNext, Argument.ofText_of_head? htext]
      dsimp only
      rw [readPlain]
      split
      · next hnone => exact absurd hnone hpending
      · rfl
    have hne : text ≠ "--" := by
      rintro rfl
      exact htext rfl
    change readFrom progress (text :: rest) = _
    rw [readFrom_cons hne, hnext]
    rfl

/-- Options are read as they are meant, in any order, and what stands after the separator is taken
as it is; an argument in front of it that is no option and no value is wrong. -/
theorem read_options :
    (∀ (groups : List Group) (rest? : Option (List String)), IsOnce groups →
      ∃ options, Options.read (groups.flatMap Group.arguments ++ separated rest?) = .ok options ∧
        options.IsMeant groups rest?) ∧
    ∀ (before : List String) (text : String), "--" ∉ before →
      before.getLast? ≠ some "--bazel" → text.toList.head? ≠ some '-' → ¬ StopsWithin before →
      ∀ rest, Options.read (before ++ text :: rest) =
        .error (.wrong (.unexpected text none .general)) :=
  ⟨fun _ rest? honce => exists_read_of_isOnce honce rest?,
    fun _ _ => read_eq_error_of_plain⟩

/-- An empty name in front of separators and what looks like options; and a target that is given too
early, where a name is still to be settled. -/
theorem read_options_early :
    let groups : List Group := [.jsonLetter, .bazel "" (by decide)]
    (IsOnce groups ∧ ∃ options,
      Options.read (groups.flatMap Group.arguments ++ separated (some ["--", "-h"])) = .ok options ∧
        options.IsMeant groups (some ["--", "-h"])) ∧
    ("--" ∉ ["--json", "--bazel", "bazelisk"] ∧
      ["--json", "--bazel", "bazelisk"].getLast? ≠ some "--bazel" ∧
      "//a".toList.head? ≠ some '-' ∧ ¬ StopsWithin ["--json", "--bazel", "bazelisk"] ∧
      Options.read (["--json", "--bazel", "bazelisk"] ++ "//a" :: ["--", "//b"]) =
        .error (.wrong (.unexpected "//a" none .general))) := by
  intro groups
  have honce : IsOnce groups := ⟨by decide, by decide⟩
  have hreach : ¬ StopsWithin ["--json", "--bazel", "bazelisk"] := by
    rintro ⟨stop, hstop⟩
    cases hstop []
  refine ⟨⟨honce, read_options.1 groups (some ["--", "-h"]) honce⟩, by decide, by decide, by decide,
    hreach, ?_⟩
  exact read_options.2 ["--json", "--bazel", "bazelisk"] "//a" (by decide) (by decide) (by decide)
    hreach ["--", "//b"]

end CompileCommands.CommandLine
