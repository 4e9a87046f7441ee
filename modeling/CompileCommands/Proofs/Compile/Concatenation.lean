import CompileCommands.Proofs.Database

/-!
# Command lines in two parts

A command line is scanned from its first argument to its last one, so that what the first part of
it decides is not changed by the second part. The source of two parts is found in the first one or
else in the second one. For the output there is one place more, the seam: a flag at the end of the
first part takes the first argument of the second part for its value. Where there is no such flag,
an argument that says nothing by itself may stand between the parts or not.

* `OutputRule.scan?_all_append`: the scan of two parts.
* `OutputRule.isSome_scan?_all_iff`: the scan finds something exactly where a rule yields a value.
* `classify?_append_singleton_append`: an argument that says nothing makes no difference.
* `decided_append`: what the first part decides is final, and what is left to the second part.
-/

namespace CompileCommands

variable {argument value : String} {next? : Option String} {arguments more : List String}

/-- The last argument is a flag whose value would be the argument after it. -/
def EndsInFlag (arguments : List String) : Prop :=
  ∃ flag ∈ separateFlags, arguments.getLast? = some flag

instance (arguments : List String) : Decidable (EndsInFlag arguments) :=
  inferInstanceAs (Decidable (∃ flag ∈ separateFlags, _))

/-- A rule yields a value at an index of a command line. -/
def OutputRule.YieldsAt (rule : OutputRule) (arguments : List String) (index : Nat)
    (value : String) : Prop :=
  ∃ argument, arguments[index]? = some argument ∧
    rule.value? argument arguments[index + 1]? = some value

/-! ## One argument -/

/-- Only a flag whose value stands after it depends on the argument after it. -/
theorem fires_congr {other? : Option String} (hflag : argument ∉ separateFlags) :
    Fires argument next? value ↔ Fires argument other? value := by
  simp only [Fires, hflag, false_and]

/-- What is attached to a flag is not empty, and nothing else fires without an argument after it. -/
theorem ne_empty_of_fires_none (h : Fires argument none value) : value ≠ "" := by
  rcases h with ⟨-, hnone⟩ | ⟨hne, -⟩
  · cases hnone
  · exact hne

theorem not_endsInFlag_nil : ¬ EndsInFlag [] := by
  rintro ⟨flag, -, hlast⟩
  cases hlast

theorem endsInFlag_singleton_iff : EndsInFlag [argument] ↔ argument ∈ separateFlags := by
  simp only [EndsInFlag, List.getLast?_singleton, Option.some.injEq, exists_eq_right']

theorem endsInFlag_cons_cons_iff {next : String} :
    EndsInFlag (argument :: next :: more) ↔ EndsInFlag (next :: more) := by
  simp only [EndsInFlag, List.getLast?_cons_cons]

namespace OutputRule

theorem first?_all_congr {other? : Option String} (hflag : argument ∉ separateFlags) :
    first? all argument next? = first? all argument other? := by
  apply Option.ext
  intro value
  rw [first?_all_eq_some_iff, first?_all_eq_some_iff]
  exact fires_congr hflag

/-- A flag whose value stands after it yields the argument after it, whatever that is. -/
theorem first?_all_of_mem (hflag : argument ∈ separateFlags) :
    first? all argument next? = next? := by
  cases next? with
  | none => exact first?_all_eq_none_iff.2 fun value => not_fires_none hflag
  | some next => exact first?_all_eq_some_iff.2 (.inl ⟨hflag, rfl⟩)

/-! ## The scan of two parts -/

/-- The scan of two parts ends in the first one, or at the seam, or in the second one. -/
theorem scan?_all_append :
    scan? all (arguments ++ more) =
      ((scan? all arguments).or (if EndsInFlag arguments then more.head? else none)).or
        (scan? all more) := by
  -- Only the last argument of the first part has another argument after it than it has alone.
  induction arguments with
  | nil => rw [if_neg not_endsInFlag_nil]; rfl
  | cons argument arguments ih =>
    rw [List.cons_append, scan?_all_cons, scan?_all_cons, ih]
    cases arguments with
    | cons next arguments =>
      simp only [endsInFlag_cons_cons_iff, List.cons_append, List.head?_cons, Option.or_assoc]
    | nil =>
      rw [if_neg not_endsInFlag_nil]
      simp only [endsInFlag_singleton_iff, List.nil_append, List.head?_nil, scan?,
        Option.none_or, Option.or_none]
      by_cases hflag : argument ∈ separateFlags
      · rw [if_pos hflag, first?_all_of_mem hflag, first?_all_of_mem hflag, Option.none_or]
      · rw [if_neg hflag, Option.or_none, first?_all_congr hflag]

/-- Without a flag at the end of the first part, the seam is not seen. -/
theorem scan?_all_append_of_not_endsInFlag (hflag : ¬ EndsInFlag arguments) :
    scan? all (arguments ++ more) = (scan? all arguments).or (scan? all more) := by
  rw [scan?_all_append, if_neg hflag, Option.or_none]

/-- An argument alone never yields the empty value, so where it names no output it yields none. -/
theorem scan?_all_singleton_of_output? (h : output? [argument] = none) :
    scan? all [argument] = none := by
  rw [Option.eq_none_iff_forall_ne_some]
  intro value hvalue
  have hfires : Fires argument none value := by
    rw [scan?_all_cons, List.head?_nil, scan?, Option.or_none] at hvalue
    exact first?_all_eq_some_iff.1 hvalue
  have houtput : output? [argument] = some value :=
    output?_eq_some_iff.2 ⟨scan?_all_eq_some_iff.1 hvalue, ne_empty_of_fires_none hfires⟩
  rw [h] at houtput
  cases houtput

/-! ## Where rules yield values -/

/-- The rules yield a value at an index exactly when an output flag fires there with it. -/
theorem exists_yieldsAt_iff {index : Nat} :
    (∃ rule ∈ all, rule.YieldsAt arguments index value) ↔ FiresAt arguments index value := by
  simp only [YieldsAt, FiresAt, ← first?_all_eq_some_iff,
    first?_eq_some_iff_of_pairwise pairwise_all]
  constructor
  · rintro ⟨rule, hrule, argument, hargument, hvalue⟩
    exact ⟨argument, hargument, rule, hrule, hvalue⟩
  · rintro ⟨argument, hargument, rule, hrule, hvalue⟩
    exact ⟨rule, hrule, argument, hargument, hvalue⟩

/-- The scan finds nothing exactly where no output flag fires. -/
theorem scan?_all_eq_none_iff :
    scan? all arguments = none ↔ ∀ index value, ¬ FiresAt arguments index value := by
  induction arguments with
  | nil => simp [scan?, FiresAt]
  | cons argument rest ih =>
    rw [scan?_all_cons, Option.or_eq_none_iff, first?_all_eq_none_iff, ih]
    constructor
    · rintro ⟨hfirst, hrest⟩ index value h
      cases index with
      | zero => exact hfirst value (firesAt_zero_iff.1 h)
      | succ index => exact hrest index value (firesAt_succ_iff.1 h)
    · intro h
      exact ⟨fun value hvalue => h 0 value (firesAt_zero_iff.2 hvalue),
        fun index value hvalue => h (index + 1) value (firesAt_succ_iff.2 hvalue)⟩

/-- The scan finds something exactly where some rule yields a value. -/
theorem isSome_scan?_all_iff : (scan? all arguments).isSome = true ↔
    ∃ rule ∈ all, ∃ index value, rule.YieldsAt arguments index value := by
  rw [← not_iff_not, Bool.not_eq_true, Option.isSome_eq_false_iff, Option.isNone_iff_eq_none,
    scan?_all_eq_none_iff]
  simp only [← exists_yieldsAt_iff]
  constructor
  · rintro h ⟨rule, hrule, index, value, hvalue⟩
    exact h index value ⟨rule, hrule, hvalue⟩
  · rintro h index value ⟨rule, hrule, hvalue⟩
    exact h ⟨rule, hrule, index, value, hvalue⟩

end OutputRule

/-! ## Classifications -/

/-- The output depends on what the scan finds alone. -/
theorem output?_congr {other : List String}
    (h : OutputRule.scan? OutputRule.all arguments = OutputRule.scan? OutputRule.all other) :
    output? arguments = output? other :=
  congrArg (Option.filter (· ≠ "")) h

/-- Command lines with the same source and the same output are classified alike. -/
theorem classify?_congr {mnemonic : String} {kind : Kind} {other : List String}
    (hkind : Kind.ofMnemonic? mnemonic = some kind)
    (hsource : kind.source? arguments = kind.source? other)
    (houtput : output? arguments = output? other) :
    classify? mnemonic arguments = classify? mnemonic other := by
  simp only [classify?, hkind, Option.bind_eq_bind, Option.bind_some, hsource, houtput]

/-- An argument that names neither a source nor an output, and is no flag for the argument after
it, makes no difference to a compile action, unless it comes between a flag and its value. -/
theorem classify?_append_singleton_append {mnemonic argument : String} {kind : Kind}
    {before after : List String} (hkind : Kind.ofMnemonic? mnemonic = some kind)
    (hbefore : ∀ last ∈ before.getLast?, last ∉ separateFlags)
    (hflag : argument ∉ separateFlags) (hsource : kind.source? [argument] = none)
    (houtput : output? [argument] = none) :
    classify? mnemonic (before ++ [argument] ++ after) = classify? mnemonic (before ++ after) := by
  have hends : ¬ EndsInFlag before := by
    rintro ⟨flag, hmem, hlast⟩
    exact hbefore flag hlast hmem
  rw [List.append_assoc]
  refine classify?_congr hkind ?_ (output?_congr ?_)
  · rw [Kind.source?_append, Kind.source?_append, Kind.source?_append, hsource, Option.none_or]
  · -- There is no flag on either side of the argument, so it is scanned as if it stood alone.
    rw [OutputRule.scan?_all_append_of_not_endsInFlag hends,
      OutputRule.scan?_all_append_of_not_endsInFlag (mt endsInFlag_singleton_iff.1 hflag),
      OutputRule.scan?_all_singleton_of_output? houtput, Option.none_or,
      OutputRule.scan?_all_append_of_not_endsInFlag hends]

/-- A search path between the source and the output makes no difference, though it ends like a
source. -/
theorem classify?_append_searchPath_append :
    Kind.ofMnemonic? "CppCompile" = some .cpp ∧
      (∀ last ∈ ["cc", "a.cc"].getLast?, last ∉ separateFlags) ∧ "-Ifoo.cpp" ∉ separateFlags ∧
      Kind.source? .cpp ["-Ifoo.cpp"] = none ∧ output? ["-Ifoo.cpp"] = none ∧
        classify? "CppCompile" (["cc", "a.cc"] ++ ["-Ifoo.cpp"] ++ ["-o", "a.o"]) =
          some ⟨.cpp, "a.cc", "a.o"⟩ := by
  have hkind : Kind.ofMnemonic? "CppCompile" = some .cpp := by decide
  have hbefore : ∀ last ∈ ["cc", "a.cc"].getLast?, last ∉ separateFlags := by decide
  have hflag : "-Ifoo.cpp" ∉ separateFlags := by decide
  have hsource : Kind.source? .cpp ["-Ifoo.cpp"] = none := by decide
  have houtput : output? ["-Ifoo.cpp"] = none := by decide
  refine ⟨hkind, hbefore, hflag, hsource, houtput, ?_⟩
  rw [classify?_append_singleton_append hkind hbefore hflag hsource houtput]
  decide

/-! ## What is decided -/

/-- What the rules have found in the first part stays the output, an empty value included. -/
theorem output?_append_of_yieldsAt
    (h : ∃ rule ∈ OutputRule.all, ∃ index value, rule.YieldsAt arguments index value) :
    output? (arguments ++ more) = output? arguments := by
  obtain ⟨value, hvalue⟩ := Option.isSome_iff_exists.1 (OutputRule.isSome_scan?_all_iff.2 h)
  apply output?_congr
  rw [OutputRule.scan?_all_append, hvalue, Option.some_or, Option.some_or]

/-- Where the rules have found nothing in the first part, the output is that of the second part,
unless a flag at the end of the first part takes the first argument of the second part. -/
theorem output?_append_of_not_yieldsAt
    (h : ¬ ∃ rule ∈ OutputRule.all, ∃ index value, rule.YieldsAt arguments index value) :
    output? (arguments ++ more) = if EndsInFlag arguments ∧ more ≠ [] then
      more.head?.filter (· ≠ "") else output? more := by
  have hnone : OutputRule.scan? OutputRule.all arguments = none := by
    rw [← OutputRule.isSome_scan?_all_iff, Option.not_isSome_iff_eq_none] at h
    exact h
  rw [output?, outputBy?, OutputRule.scan?_all_append, hnone, Option.none_or]
  cases more with
  | nil => simp [OutputRule.scan?, output?, outputBy?]
  | cons next more =>
    by_cases hflag : EndsInFlag arguments
    · rw [if_pos hflag, if_pos ⟨hflag, List.cons_ne_nil _ _⟩, List.head?_cons, Option.some_or]
    · rw [if_neg hflag, if_neg fun hboth => hflag hboth.1, Option.none_or, output?, outputBy?]

/-- The classification of a command line stays the same when arguments follow. -/
theorem classify?_append_of_eq_some {mnemonic : String} {found : Classification}
    (h : classify? mnemonic arguments = some found) :
    classify? mnemonic (arguments ++ more) = some found := by
  obtain ⟨hkind, hsource, houtput⟩ := classify?_eq_some_iff.1 h
  have hscan : (OutputRule.scan? OutputRule.all arguments).isSome = true := by
    obtain ⟨hfirst, -⟩ := output?_eq_some_iff.1 houtput
    rw [OutputRule.scan?_all_eq_some_iff.2 hfirst]
    rfl
  refine classify?_eq_some_iff.2 ⟨hkind, Kind.source?_append_of_eq_some hsource, ?_⟩
  rw [output?_append_of_yieldsAt (OutputRule.isSome_scan?_all_iff.1 hscan), houtput]

/-- A source, a value that a rule yields, be it empty, and a classification that some arguments
decide are final, whatever arguments follow. Where the rules yield nothing, the output is that of
the arguments that follow, unless a flag at the end takes the first of them for its value. -/
theorem decided_append :
    (∀ (kind : Kind) (arguments more : List String) (source : String),
      kind.source? arguments = some source → kind.source? (arguments ++ more) = some source) ∧
    (∀ arguments more : List String,
      (∃ rule ∈ OutputRule.all, ∃ index value, rule.YieldsAt arguments index value) →
        output? (arguments ++ more) = output? arguments) ∧
    (∀ (mnemonic : String) (arguments more : List String) (found : Classification),
      classify? mnemonic arguments = some found →
        classify? mnemonic (arguments ++ more) = some found) ∧
    ∀ arguments more : List String,
      (¬ ∃ rule ∈ OutputRule.all, ∃ index value, rule.YieldsAt arguments index value) →
        output? (arguments ++ more) = if EndsInFlag arguments ∧ more ≠ [] then
          more.head?.filter (· ≠ "") else output? more :=
  ⟨fun _ _ _ _ => Kind.source?_append_of_eq_some, fun _ _ => output?_append_of_yieldsAt,
    fun _ _ _ _ => classify?_append_of_eq_some, fun _ _ => output?_append_of_not_yieldsAt⟩

/-- The first source stays the source, an empty output stays none, and a flag at the end waits for
its value. -/
theorem decided_append_samples :
    (Kind.source? .cpp ["cc", "a.cc"] = some "a.cc" ∧
      Kind.source? .cpp (["cc", "a.cc"] ++ ["b.cc"]) = some "a.cc") ∧
    ((∃ rule ∈ OutputRule.all, ∃ index value, rule.YieldsAt ["--output", ""] index value) ∧
      output? (["--output", ""] ++ ["-o", "later.o"]) = none) ∧
    (classify? "CppCompile" ["a.cc", "-oa.o"] = some ⟨.cpp, "a.cc", "a.o"⟩ ∧
      classify? "CppCompile" (["a.cc", "-oa.o"] ++ ["-o", "b.o"]) =
        some ⟨.cpp, "a.cc", "a.o"⟩) ∧
    (¬ ∃ rule ∈ OutputRule.all, ∃ index value, rule.YieldsAt ["cc", "-o"] index value) ∧
      output? (["cc", "-o"] ++ ["a.o"]) = some "a.o" := by
  have hsource : Kind.source? .cpp ["cc", "a.cc"] = some "a.cc" := by decide
  have hyields : ∃ rule ∈ OutputRule.all, ∃ index value,
      rule.YieldsAt ["--output", ""] index value :=
    ⟨.separate, List.mem_cons_self, 0, "", "--output", rfl, rfl⟩
  have hfound : classify? "CppCompile" ["a.cc", "-oa.o"] = some ⟨.cpp, "a.cc", "a.o"⟩ := by decide
  have hnothing : ¬ ∃ rule ∈ OutputRule.all, ∃ index value,
      rule.YieldsAt ["cc", "-o"] index value :=
    mt OutputRule.isSome_scan?_all_iff.2 (by decide)
  obtain ⟨source, output, classification, seam⟩ := decided_append
  refine ⟨⟨hsource, source _ _ _ _ hsource⟩, ⟨hyields, ?_⟩,
    ⟨hfound, classification _ _ _ _ hfound⟩, hnothing, ?_⟩
  · rw [output _ _ hyields]
    decide
  · rw [seam _ _ hnothing]
    decide

end CompileCommands
