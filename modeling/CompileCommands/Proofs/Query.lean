import CompileCommands.Proofs.Config.Arguments
import CompileCommands.Query

/-!
# What the build tool is asked

The call that is made for some arguments: the command, the flags among the arguments, the format of
the answer, and a query for each of their targets. Nothing that follows the format can be taken for
an option, and there is no separator anywhere.

* `IsCall`: the call with some flags and for some targets.
* `ofTargets_resolve`: it does not matter whether the default target is filled in before the query
  is made up or by it.
* `isCall_arguments`: the arguments make up such a call, whatever they are.
-/

namespace CompileCommands.Query

open Config (Layer)

/-- A call with some flags, and with queries that ask for some targets. -/
structure IsCall (flags targets queries call : List String) : Prop where
  /-- The flags stand in front of the format of the answer, and the queries behind it. -/
  call_eq : call = "aquery" :: flags ++ "--output=proto" :: queries
  /-- There is one query for each target, or one for everything if there are no targets. -/
  queries_eq : queries = (if targets = [] then ["//..."] else targets).map fun target =>
    "mnemonic(\"(Cpp|Objc|Cuda)Compile\", " ++ target ++ ")"
  /-- There is a query. -/
  queries_ne_nil : queries ≠ []
  /-- No query can be taken for an option. -/
  noDash_of_mem_queries : ∀ query ∈ queries, query.toList.head? ≠ some '-'
  /-- Nothing can be taken for the end of the options. -/
  separator_notMem : "--" ∉ call

variable {flags targets : List String}

theorem wrap_eq (target : String) :
    wrap target = "mnemonic(\"(Cpp|Objc|Cuda)Compile\", " ++ target ++ ")" := rfl

/-- Behind the filter, no target starts with a dash. -/
theorem head?_wrap (target : String) : (wrap target).toList.head? = some 'm' := by
  rw [wrap_eq, String.toList_append, String.toList_append]
  rfl

/-- No targets stand for the default target. -/
theorem ofTargets_eq_map (targets : List String) :
    ofTargets targets = (if targets = [] then [Config.defaultTarget] else targets).map wrap := by
  rw [ofTargets]
  split
  · rfl
  · rfl

theorem ofTargets_ne_nil (targets : List String) : ofTargets targets ≠ [] := by
  rw [ofTargets_eq_map, ne_eq, List.map_eq_nil_iff]
  split
  · exact List.cons_ne_nil _ _
  · assumption

theorem noDash_of_mem_ofTargets {query : String} (h : query ∈ ofTargets targets) :
    query.toList.head? ≠ some '-' := by
  rw [ofTargets_eq_map] at h
  obtain ⟨target, -, rfl⟩ := List.mem_map.1 h
  rw [head?_wrap]
  decide

/-- The default target is the same, whether the settings or the query fill it in. -/
theorem ofTargets_resolve (layer : Layer) :
    ofTargets layer.resolve.targets = ofTargets (layer.targets.getD []) := by
  rw [ofTargets_eq_map (layer.targets.getD []), Layer.resolve]
  split
  · rfl
  · next h => rw [ofTargets_eq_map, if_neg h]

/-- With flags of which none is the separator, there is no separator in the arguments. -/
theorem separator_notMem_arguments {config : Config} (h : "--" ∉ config.bazelFlags) :
    "--" ∉ arguments config := by
  simp only [arguments, List.cons_append, List.mem_cons, List.mem_append, not_or]
  exact ⟨by decide, h, by decide, fun hmem => noDash_of_mem_ofTargets hmem rfl⟩

/-- The settings that say some flags and some targets make up a call with them. -/
theorem isCall_arguments_resolve {layer : Layer} (hflags : layer.bazelFlags.getD [] = flags)
    (htargets : layer.targets.getD [] = targets) (h : "--" ∉ flags) :
    IsCall flags targets (ofTargets targets) (arguments layer.resolve) where
  call_eq := by
    rw [arguments, ofTargets_resolve, htargets, ← hflags]
    rfl
  queries_eq := ofTargets_eq_map targets
  queries_ne_nil := ofTargets_ne_nil targets
  noDash_of_mem_queries _ := noDash_of_mem_ofTargets
  separator_notMem := by
    have hresolve : layer.resolve.bazelFlags = flags := hflags
    apply separator_notMem_arguments
    rwa [hresolve]

/-- An empty list is what remains of one that says nothing. -/
theorem getD_unlessEmpty (items : List String) : (Layer.unlessEmpty items).getD [] = items := by
  rw [Layer.unlessEmpty]
  split
  · next h => exact h.symm
  · rfl

/-- Whatever the arguments are, the build tool is called with their flags and for their targets; and
the default target does not depend on where it is filled in. -/
theorem isCall_arguments :
    (∀ given : List String, ∃ (m : Arguments.Mixture) (rest? : Option (List String))
      (last queries : List String), given = m.mixed ++ Arguments.separated rest? ∧
        Arguments.IsExpression rest? last ∧
        IsCall m.flags (m.targets ++ last) queries (arguments (Layer.ofArguments given).resolve)) ∧
    ∀ layer : Layer, ofTargets (layer.targets.getD []) = ofTargets layer.resolve.targets := by
  refine ⟨fun given => ?_, fun layer => (ofTargets_resolve layer).symm⟩
  obtain ⟨m, rest?, hgiven⟩ := Arguments.exists_mixture given
  obtain ⟨last, hlast, hsplit⟩ := Arguments.exists_split_append_separated m rest?
  rw [← hgiven] at hsplit
  have hflags : (Layer.ofArguments given).bazelFlags.getD [] = m.flags := by
    rw [Layer.ofArguments, getD_unlessEmpty, hsplit]
  have htargets : (Layer.ofArguments given).targets.getD [] = m.targets ++ last := by
    rw [Layer.ofArguments, getD_unlessEmpty, hsplit]
  exact ⟨m, rest?, last, ofTargets (m.targets ++ last), hgiven, hlast,
    isCall_arguments_resolve hflags htargets m.separator_notMem_flags⟩

/-- An output format among the flags does no harm. -/
example : arguments (Layer.ofArguments ["--output=text", "//a", "--", "--"]).resolve =
    ["aquery", "--output=text", "--output=proto", "mnemonic(\"(Cpp|Objc|Cuda)Compile\", //a)",
      "mnemonic(\"(Cpp|Objc|Cuda)Compile\", --)"] := by
  decide +kernel

end CompileCommands.Query
