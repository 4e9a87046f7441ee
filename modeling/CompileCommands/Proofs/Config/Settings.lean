import CompileCommands.Proofs.CommandLine.Settings
import CompileCommands.Proofs.Config.Reading
import CompileCommands.Proofs.Yaml.Blank

/-!
# What settings files say

A settings file is a mapping. What counts of it are the values of three keys, each of which may come
once. The pairs with other keys, however deep their values are nested, do not matter, and neither
does the order of the pairs.

* `Says`: what the values of a key say about a setting.
* `IsLayer`: the layer that the pairs of a mapping say.
* `IsAcceptable`: the pairs say some layer, told by the forms of the values.
* `runOn_load?_of_isMapping`: a file that is a mapping is loaded as what its pairs say.
-/

namespace CompileCommands.Config

open Yaml hiding Value

/-! ## The rules -/

/-- What the values of a key say about a setting of which `read?` reads a value. Nothing and null
leave the setting open; several values do not say anything. -/
inductive Says {α : Type} (read? : Node → Option α) : List Node → Option α → Prop
  /-- The key is absent. -/
  | absent : Says read? [] none
  /-- The value is null. -/
  | null {node : Node} : node.isNull = true → Says read? [node] none
  /-- There is one value. -/
  | value {node : Node} {value : α} :
      node.isNull = false → read? node = some value → Says read? [node] (some value)

/-- The layer that the pairs of a mapping say. -/
structure IsLayer (pairs : List Pair) (layer : Layer) : Prop where
  /-- The build tool is a text. -/
  bazel : Says Node.text? (Pair.valuesOf "bazel" pairs) layer.bazel
  /-- The flags are a list of texts. -/
  bazelFlags : Says Node.texts? (Pair.valuesOf "bazel_flags" pairs) layer.bazelFlags
  /-- The targets are a list of texts. -/
  targets : Says Node.texts? (Pair.valuesOf "targets" pairs) layer.targets

/-- The node is a scalar. -/
def IsScalar (node : Node) : Prop :=
  ∃ text style, node = .scalar text style

/-- The pairs of a mapping say a layer. -/
structure IsAcceptable (pairs : List Pair) : Prop where
  /-- No key of a setting comes twice. -/
  once : ∀ key ∈ ["bazel", "bazel_flags", "targets"], (Pair.valuesOf key pairs).length ≤ 1
  /-- The build tool is a scalar. -/
  bazel : ∀ node ∈ Pair.valuesOf "bazel" pairs, IsScalar node
  /-- Flags and targets are null or sequences of scalars. -/
  lists : ∀ key ∈ ["bazel_flags", "targets"], ∀ node ∈ Pair.valuesOf key pairs,
    node.isNull = true ∨ ∃ items, node = .sequence items ∧ ∀ item ∈ items, IsScalar item

/-- The keys of settings with their values, in their order. -/
def settingsOf (pairs : List Pair) : List (String × Node) :=
  (pairs.filter (·.key ∈ ["bazel", "bazel_flags", "targets"])).map fun pair =>
    (pair.key, pair.value)

/-- The layer is what the mapping says of each of the settings. -/
theorem isLayer_iff {pairs : List Pair} {layer : Layer} :
    IsLayer pairs layer ↔
      ∀ setting : Setting,
        Says setting.read? (Pair.valuesOf setting.key pairs) (layer.get setting) :=
  ⟨fun h setting => match setting with
    | .bazel => h.bazel
    | .bazelFlags => h.bazelFlags
    | .targets => h.targets, fun h => ⟨h .bazel, h .bazelFlags, h .targets⟩⟩

/-! ## What one key says -/

section Says

variable {α : Type} {read? : Node → Option α} {node : Node} {nodes nodes' : List Node}
  {value? : Option α}

theorem says_nil_iff : Says read? [] value? ↔ value? = none := by
  constructor
  · intro h
    cases h
    rfl
  · rintro rfl
    exact .absent

theorem says_cons_iff :
    Says read? (node :: nodes) value? ↔
      nodes = [] ∧ Settings.optional? read? node = some value? := by
  rw [Settings.optional?]
  constructor
  · intro h
    cases h with
    | null hnull => exact ⟨rfl, by rw [if_pos hnull]⟩
    | value hnull hvalue => exact ⟨rfl, by rw [hnull, hvalue]; rfl⟩
  · rintro ⟨rfl, h⟩
    cases hnull : node.isNull with
    | true =>
      rw [hnull] at h
      cases h
      exact .null hnull
    | false =>
      rw [hnull] at h
      obtain ⟨value, hvalue, rfl⟩ := Option.map_eq_some_iff.1 h
      exact .value hnull hvalue

/-- A key says something exactly if it comes once at most and its value is null or can be read. -/
theorem exists_says_iff :
    (∃ value?, Says read? nodes value?) ↔
      nodes.length ≤ 1 ∧ ∀ node ∈ nodes, node.isNull = true ∨ (read? node).isSome = true := by
  rcases nodes with _ | ⟨node, _ | ⟨other, nodes⟩⟩
  · simp [says_nil_iff]
  · simp only [says_cons_iff, Settings.optional?, true_and, List.length_singleton, Nat.le_refl,
      List.forall_mem_singleton]
    cases node.isNull with
    | true => simp
    | false => simp [Option.isSome_iff_exists]
  · simp [says_cons_iff]

/-- The order of the values does not matter. -/
theorem Says.of_perm (h : Says read? nodes value?) (hperm : nodes.Perm nodes') :
    Says read? nodes' value? := by
  cases h with
  | absent => exact hperm.nil_eq ▸ .absent
  | null hnull => exact hperm.singleton_eq ▸ .null hnull
  | value hnull hvalue => exact hperm.singleton_eq ▸ .value hnull hvalue

end Says

/-! ## What a mapping says -/

variable {text : String} {pairs pairs' : List Pair} {layer : Layer}

/-- A text that is a mapping is read as a layer exactly if its pairs say this layer. -/
theorem ofText_eq_ok_iff (h : IsMapping text pairs) :
    Settings.ofText text = .ok layer ↔ IsLayer pairs layer := by
  rw [Settings.ofText, if_neg h.trim_ne, Settings.ofDocument_eq_ok_iff h.holds, isLayer_iff]
  refine forall_congr' fun setting => ?_
  cases Pair.valuesOf setting.key pairs with
  | nil =>
    rw [Settings.saysNext_nil_iff, says_nil_iff]
    cases setting with
    | bazel => rfl
    | bazelFlags => rfl
    | targets => rfl
  | cons node nodes => simp [Settings.saysNext_cons_iff, says_cons_iff]

theorem isSome_text?_iff {node : Node} : node.text?.isSome = true ↔ IsScalar node := by
  cases node <;> simp [Node.text?, IsScalar]

/-- Null is a scalar. -/
theorem isNull_or_isSome_text?_iff {node : Node} :
    node.isNull = true ∨ node.text?.isSome = true ↔ IsScalar node := by
  rw [isSome_text?_iff, or_iff_right_of_imp]
  intro h
  cases node with
  | scalar text style => exact ⟨text, style, rfl⟩
  | sequence nodes => cases h
  | mapping pairs => cases h

theorem isSome_mapM_text?_iff {nodes : List Node} :
    (nodes.mapM Node.text?).isSome = true ↔ ∀ node ∈ nodes, IsScalar node := by
  induction nodes with
  | nil => simp
  | cons node nodes ih =>
    rw [List.forall_mem_cons, ← ih, ← isSome_text?_iff, List.mapM_cons]
    cases node.text? with
    | none => simp
    | some text => cases nodes.mapM Node.text? <;> simp

theorem isSome_texts?_iff {node : Node} :
    node.texts?.isSome = true ↔
      ∃ items, node = .sequence items ∧ ∀ item ∈ items, IsScalar item := by
  cases node <;> simp [Node.texts?, isSome_mapM_text?_iff]

/-- The pairs say a layer exactly if they are acceptable. -/
theorem exists_isLayer_iff : (∃ layer, IsLayer pairs layer) ↔ IsAcceptable pairs := by
  have hkeys : (∃ layer, IsLayer pairs layer) ↔
      (∃ bazel, Says Node.text? (Pair.valuesOf "bazel" pairs) bazel) ∧
        (∃ flags, Says Node.texts? (Pair.valuesOf "bazel_flags" pairs) flags) ∧
          ∃ targets, Says Node.texts? (Pair.valuesOf "targets" pairs) targets :=
    ⟨fun ⟨_, h⟩ => ⟨⟨_, h.bazel⟩, ⟨_, h.bazelFlags⟩, ⟨_, h.targets⟩⟩,
      fun ⟨⟨_, hbazel⟩, ⟨_, hflags⟩, ⟨_, htargets⟩⟩ => ⟨⟨_, _, _⟩, hbazel, hflags, htargets⟩⟩
  simp only [hkeys, exists_says_iff, isNull_or_isSome_text?_iff, isSome_texts?_iff]
  constructor
  · rintro ⟨⟨hbazel, hscalar⟩, ⟨hflags, hflagList⟩, ⟨htargets, htargetList⟩⟩
    exact ⟨by simp [hbazel, hflags, htargets], hscalar, by simpa using ⟨hflagList, htargetList⟩⟩
  · intro h
    exact ⟨⟨h.once _ (by simp), h.bazel⟩, ⟨h.once _ (by simp), h.lists _ (by simp)⟩,
      h.once _ (by simp), h.lists _ (by simp)⟩

/-- The values of the key of a setting are all among the settings. -/
theorem valuesOf_eq_settingsOf {key : String} (h : key ∈ ["bazel", "bazel_flags", "targets"]) :
    Pair.valuesOf key pairs = ((settingsOf pairs).filter (·.1 = key)).map (·.2) := by
  rw [Pair.valuesOf, settingsOf, List.filter_map, List.map_map, List.filter_filter]
  refine congrArg (List.map Pair.value) (List.filter_congr fun pair _ => ?_)
  by_cases heq : pair.key = key
  · simp only [heq, h, Function.comp, decide_true, Bool.and_self]
  · simp [heq]

/-- Neither the order of the pairs nor a pair with another key matters. -/
theorem IsLayer.of_perm (h : IsLayer pairs layer)
    (hperm : (settingsOf pairs).Perm (settingsOf pairs')) : IsLayer pairs' layer := by
  have hvalues {key : String} (hkey : key ∈ ["bazel", "bazel_flags", "targets"]) :
      (Pair.valuesOf key pairs).Perm (Pair.valuesOf key pairs') := by
    rw [valuesOf_eq_settingsOf hkey, valuesOf_eq_settingsOf hkey]
    exact (hperm.filter _).map _
  exact ⟨h.bazel.of_perm (hvalues (by simp)), h.bazelFlags.of_perm (hvalues (by simp)),
    h.targets.of_perm (hvalues (by simp))⟩

/-! ## Loading a file -/

section Load

variable {host : Host} {journal : Journal} {path : String}

/-- A file that is a mapping is loaded as a layer exactly if its pairs say this layer. -/
theorem runOn_load?_eq_ok_iff
    (hfile : journal.now.readText? host.directory path = some text) (h : IsMapping text pairs) :
    (Layer.load? host path).runOn journal = (.ok (some layer), journal) ↔ IsLayer pairs layer := by
  rw [runOn_load?, Finding.ofFile, hfile, ← ofText_eq_ok_iff h]
  dsimp only
  cases Settings.ofText text with
  | ok layer => simp
  | error cause => simp

/-- A file that is a mapping and says no layer is refused by its path. -/
theorem exists_runOn_load?_eq_error
    (hfile : journal.now.readText? host.directory path = some text) (h : IsMapping text pairs)
    (hnone : ¬ ∃ layer, IsLayer pairs layer) :
    ∃ cause,
      (Layer.load? host path).runOn journal = (.error (.badSettings path cause), journal) := by
  rw [runOn_load?, Finding.ofFile, hfile]
  dsimp only
  cases htext : Settings.ofText text with
  | ok layer => exact absurd ⟨layer, (ofText_eq_ok_iff h).1 htext⟩ hnone
  | error cause => exact ⟨cause, rfl⟩

/-- A file that is a mapping is loaded as the layer that its pairs say. They say one exactly if no
key of a setting comes twice, the build tool is a scalar, and each of the lists is null or a sequence
of scalars; else the file is refused by its path. Neither does the order of the pairs matter, nor
what other keys there are and what their values hold. -/
theorem runOn_load?_of_isMapping
    (hfile : journal.now.readText? host.directory path = some text) (h : IsMapping text pairs) :
    (∀ layer, (Layer.load? host path).runOn journal = (.ok (some layer), journal) ↔
      IsLayer pairs layer) ∧
    ((∃ layer, (Layer.load? host path).runOn journal = (.ok (some layer), journal)) ↔
      IsAcceptable pairs) ∧
    (¬ IsAcceptable pairs → ∃ cause,
      (Layer.load? host path).runOn journal = (.error (.badSettings path cause), journal)) ∧
    ∀ (host' : Host) (journal' : Journal) (path' text' : String) (pairs' : List Pair),
      journal'.now.readText? host'.directory path' = some text' → IsMapping text' pairs' →
      (settingsOf pairs).Perm (settingsOf pairs') →
      ∀ layer, (Layer.load? host' path').runOn journal' = (.ok (some layer), journal') ↔
        (Layer.load? host path).runOn journal = (.ok (some layer), journal) := by
  refine ⟨fun layer => runOn_load?_eq_ok_iff hfile h, ?_, fun hnot => ?_, ?_⟩
  · simp only [runOn_load?_eq_ok_iff hfile h, exists_isLayer_iff]
  · exact exists_runOn_load?_eq_error hfile h (mt exists_isLayer_iff.1 hnot)
  · intro host' journal' path' text' pairs' hfile' h' hperm layer
    rw [runOn_load?_eq_ok_iff hfile' h', runOn_load?_eq_ok_iff hfile h]
    exact ⟨fun hlayer => hlayer.of_perm hperm.symm, fun hlayer => hlayer.of_perm hperm⟩

/-- A list with a null and a number in it, a build tool that is left open, and a key that is none of
a setting; and the same settings the other way round. -/
theorem runOn_load?_of_isMapping_reversed :
    let host : Host := { directory := ["home"], home := "/home" }
    let first := "\"targets\": [~, 12]\nother: [\x7b\x7d]\nbazel:\n"
    let second := "bazel:\ntargets: [~, 12]\n"
    let journal : Journal := ⟨⟨[(["home"], .directory),
      (["home", "first"], .file (Text.Utf8.encode first) false),
      (["home", "second"], .file (Text.Utf8.encode second) false)]⟩, []⟩
    let targets : Node := .sequence [.scalar "~" .plain, .scalar "12" .plain]
    let pairs : List Pair := [⟨"targets", .doubleQuoted, targets⟩,
      ⟨"other", .plain, .sequence [.mapping []]⟩, ⟨"bazel", .plain, .scalar "" .plain⟩]
    let reversed : List Pair :=
      [⟨"bazel", .plain, .scalar "" .plain⟩, ⟨"targets", .plain, targets⟩]
    let layer : Layer := { targets := some ["~", "12"] }
    (journal.now.readText? host.directory "first" = some first ∧ IsMapping first pairs) ∧
      (journal.now.readText? host.directory "second" = some second ∧ IsMapping second reversed) ∧
      (settingsOf pairs).Perm (settingsOf reversed) ∧
      (Layer.load? host "first").runOn journal = (.ok (some layer), journal) ∧
      (Layer.load? host "second").runOn journal = (.ok (some layer), journal) := by
  intro host first second journal targets pairs reversed layer
  have hfirst : journal.now.readText? host.directory "first" = some first := by decide +kernel
  have hsecond : journal.now.readText? host.directory "second" = some second := by decide +kernel
  have hpairs : IsMapping first pairs := ⟨by decide +kernel, by decide +kernel⟩
  have hreversed : IsMapping second reversed := ⟨by decide +kernel, by decide +kernel⟩
  have hperm : (settingsOf pairs).Perm (settingsOf reversed) := .swap ..
  have hlayer : IsLayer pairs layer := ⟨.null rfl, .absent, .value rfl rfl⟩
  have hload := runOn_load?_of_isMapping hfirst hpairs
  have hrun := (hload.1 layer).2 hlayer
  exact ⟨⟨hfirst, hpairs⟩, ⟨hsecond, hreversed⟩, hperm, hrun,
    (hload.2.2.2 host journal "second" second reversed hsecond hreversed hperm layer).2 hrun⟩

end Load

end CompileCommands.Config
