import CompileCommands.Proofs.CommandLine.Settings

/-!
# Merging layers

Merging layers one over the other does not depend on how they are bracketed, and a layer that is
merged twice in a row counts once. The empty layer says nothing from above; from below it may take
away an empty program name, which makes no difference once the layers are resolved.

* `merge_assoc`, `merge_self`, `merge_default`, `resolve_default_merge`: the laws.
* `Bracketing`: layers that are merged two by two.
* `Bracketing.merge_eq_foldl`: how they are bracketed does not count.
* `runOn_loadOver_same`: a file that is loaded twice in a row.
* `lastSaid?`: what the last layer says that says something.
* `resolve_foldl_merge`: the settings that many layers come to.
-/

namespace CompileCommands.Config.Layer

/-! ## Laws -/

/-- Of two names, the one that is not empty is found before or after the choice. -/
theorem filter_or_filter (p : String → Bool) (upper lower : Option String) :
    ((upper.filter p).or lower).filter p = (upper.filter p).or (lower.filter p) := by
  cases upper with
  | none => rfl
  | some name =>
    by_cases h : p name
    · rw [Option.filter_some_pos h, Option.some_or, Option.filter_some_pos h, Option.some_or]
    · rw [Option.filter_some_neg (Bool.eq_false_iff.2 h), Option.none_or, Option.none_or]

theorem merge_assoc (a b c : Layer) : (a.merge b).merge c = a.merge (b.merge c) := by
  simp only [merge, filter_or_filter, Option.or_assoc]

/-- An empty name stays if the same layer says it again. -/
theorem merge_self (layer : Layer) : layer.merge layer = layer := by
  have hbazel : (layer.bazel.filter (· ≠ "")).or layer.bazel = layer.bazel := by
    cases layer.bazel with
    | none => rfl
    | some name =>
      by_cases h : name = ""
      · rw [Option.filter_some_neg (by simp [h]), Option.none_or]
      · rw [Option.filter_some_pos (by simp [h]), Option.some_or]
  simp only [merge, hbazel, Option.or_self]

theorem merge_default (layer : Layer) : layer.merge {} = layer := rfl

/-- From below, the empty layer takes away no more than an empty name. -/
theorem resolve_default_merge (layer : Layer) :
    (({} : Layer).merge layer).resolve = layer.resolve := by
  simp only [merge, resolve, Option.or_none, Option.filter_filter, Bool.and_self]

/-! ## Brackets -/

/-- Layers that are merged two by two. -/
inductive Bracketing where
  /-- One layer. -/
  | layer (layer : Layer)
  /-- The layers of `upper` over those of `lower`. -/
  | stack (lower upper : Bracketing)

namespace Bracketing

/-- The layers, the lowest one first. -/
def layers : Bracketing → List Layer
  | layer l => [l]
  | stack lower upper => lower.layers ++ upper.layers

/-- What the layers come to when they are merged as the brackets say. -/
def merge : Bracketing → Layer
  | layer l => l
  | stack lower upper => lower.merge.merge upper.merge

/-- Over another layer, they may as well be merged one by one. -/
theorem merge_merge_eq_foldl (start : Layer) (b : Bracketing) :
    start.merge b.merge = b.layers.foldl Layer.merge start := by
  induction b generalizing start with
  | layer l => rfl
  | stack lower upper ihLower ihUpper =>
    rw [merge, layers, List.foldl_append, ← ihLower, ← ihUpper, merge_assoc]

/-- However they are bracketed, they come to what they come to one by one. -/
theorem merge_eq_foldl (b : Bracketing) :
    ∃ first rest, b.layers = first :: rest ∧ b.merge = rest.foldl Layer.merge first := by
  induction b with
  | layer l => exact ⟨l, [], rfl, rfl⟩
  | stack lower upper ihLower _ =>
    -- The first layer is that of the lower brackets; the upper ones go over all of these.
    obtain ⟨first, rest, hlayers, hmerge⟩ := ihLower
    refine ⟨first, rest ++ upper.layers, by rw [layers, hlayers, List.cons_append], ?_⟩
    rw [merge, merge_merge_eq_foldl, hmerge, List.foldl_append]

/-- How layers are bracketed does not count. -/
theorem merge_eq_of_layers_eq {b b' : Bracketing} (h : b.layers = b'.layers) :
    b.merge = b'.merge := by
  obtain ⟨first, rest, hlayers, hmerge⟩ := b.merge_eq_foldl
  obtain ⟨first', rest', hlayers', hmerge'⟩ := b'.merge_eq_foldl
  obtain ⟨rfl, rfl⟩ := List.cons.inj (hlayers.symm.trans (h.trans hlayers'))
  rw [hmerge, hmerge']

end Bracketing

/-! ## The same file twice -/

section Files

variable {host : Host} {journal : Journal} {path other : String}

/-- What a file says counts once when the next file says the same. -/
theorem runOn_loadOver_same (layer : Layer) (rest : List String)
    (h : journal.now.readText? host.directory other = journal.now.readText? host.directory path) :
    (loadOver host layer (path :: other :: rest)).runOn journal =
      (loadOver host layer (path :: rest)).runOn journal := by
  have hfinding : Finding.ofFile host journal.now other = Finding.ofFile host journal.now path := by
    rw [Finding.ofFile, Finding.ofFile, h]
  rcases (Finding.ofFile host journal.now path).malformed_or_said with
    ⟨cause, hcause⟩ | ⟨found, hsaid⟩
  · rw [runOn_loadOver_of_malformed hcause, runOn_loadOver_of_malformed hcause]
  · have hother : (Finding.ofFile host journal.now other).said? = some found := by
      rw [hfinding, hsaid]
    rw [runOn_loadOver_of_said hsaid, runOn_loadOver_of_said hsaid, runOn_loadOver_of_said hother,
      merge_assoc, merge_self]

/-- Where the settings of the home directory and of the current directory are one file, it is as if
there were only the home directory. -/
theorem runOn_discover_same {directory : String}
    (h : journal.now.readText? host.directory (Path.settings directory) =
      journal.now.readText? host.directory (homeFile host)) :
    (discover host directory).runOn journal =
      (loadOver host {} [homeFile host]).runOn journal :=
  runOn_loadOver_same {} [] h

end Files

/-! ## Many layers -/

variable {α : Type} (said : Layer → Option α)

/-- What the last layer says that says something. -/
def lastSaid? (layers : List Layer) : Option α :=
  (layers.filterMap said).getLast?

theorem lastSaid?_cons (layer : Layer) (layers : List Layer) :
    lastSaid? said (layer :: layers) = (lastSaid? said layers).or (said layer) := by
  have hone : ([layer].filterMap said).getLast? = said layer := by
    cases h : said layer <;> simp [h]
  rw [lastSaid?, ← List.singleton_append, List.filterMap_append, List.getLast?_append, hone]
  rfl

/-- A setting that is taken from above, if it is said there, is the last one that is said. -/
theorem foldl_or_eq_lastSaid? (layers : List Layer) (start : Option α) :
    layers.foldl (fun found layer => (said layer).or found) start =
      (lastSaid? said layers).or start := by
  induction layers generalizing start with
  | nil => rfl
  | cons layer layers ih => rw [List.foldl_cons, ih, lastSaid?_cons, Option.or_assoc]

variable (layers : List Layer) (start : Layer)

theorem bazel_foldl_merge : (layers.foldl merge start).bazel =
    (lastSaid? (·.bazel.filter (· ≠ "")) layers).or start.bazel := by
  rw [← foldl_or_eq_lastSaid?]
  exact (List.foldl_hom Layer.bazel fun _ _ => rfl).symm

theorem bazelFlags_foldl_merge : (layers.foldl merge start).bazelFlags =
    (lastSaid? (·.bazelFlags) layers).or start.bazelFlags := by
  rw [← foldl_or_eq_lastSaid?]
  exact (List.foldl_hom Layer.bazelFlags fun _ _ => rfl).symm

theorem targets_foldl_merge : (layers.foldl merge start).targets =
    (lastSaid? (·.targets) layers).or start.targets := by
  rw [← foldl_or_eq_lastSaid?]
  exact (List.foldl_hom Layer.targets fun _ _ => rfl).symm

/-- The last name that is not empty is not empty. -/
theorem filter_lastSaid? : (lastSaid? (·.bazel.filter (· ≠ "")) layers).filter (· ≠ "") =
    lastSaid? (·.bazel.filter (· ≠ "")) layers := by
  cases h : lastSaid? (·.bazel.filter (· ≠ "")) layers with
  | none => rfl
  | some name =>
    obtain ⟨layer, -, hname⟩ := List.mem_filterMap.1 (List.mem_of_getLast? h)
    exact Option.filter_some_pos (Option.filter_eq_some_iff.1 hname).2

/-- The settings that many layers come to. -/
theorem resolve_foldl_merge : (layers.foldl merge {}).resolve = {
    bazel := (lastSaid? (·.bazel.filter (· ≠ "")) layers).getD "bazel"
    bazelFlags := (lastSaid? (·.bazelFlags) layers).getD []
    targets :=
      match lastSaid? (·.targets) layers with
      | some (target :: targets) => target :: targets
      | _ => ["//..."] } := by
  simp only [resolve, bazel_foldl_merge, bazelFlags_foldl_merge, targets_foldl_merge,
    Option.or_none, filter_lastSaid?]
  rcases lastSaid? (·.targets) layers with _ | _ | ⟨target, targets⟩
  · rfl
  · rfl
  · rfl

/-! ## All laws together -/

/-- Merging puts layers one over the other: it is associative, a layer over itself changes nothing,
and neither does the empty layer, from above or, once the layers are resolved, from below. So it
does not count how layers are bracketed; settings that are found twice count once; and of many
layers, the last one that says a setting counts for it. -/
theorem layering_laws :
    (∀ a b c : Layer, (a.merge b).merge c = a.merge (b.merge c)) ∧
    (∀ a : Layer, a.merge a = a) ∧
    (∀ a : Layer, a.merge {} = a) ∧
    (∀ a : Layer, (({} : Layer).merge a).resolve = a.resolve) ∧
    (∀ b b' : Bracketing, b.layers = b'.layers → b.merge = b'.merge) ∧
    (∀ (host : Host) (directory : String) (journal : Journal),
      journal.now.readText? host.directory (Path.settings directory) =
        journal.now.readText? host.directory (homeFile host) →
      (discover host directory).runOn journal =
        (loadOver host {} [homeFile host]).runOn journal) ∧
    ∀ layers : List Layer, (layers.foldl merge {}).resolve = {
      bazel := (lastSaid? (·.bazel.filter (· ≠ "")) layers).getD "bazel"
      bazelFlags := (lastSaid? (·.bazelFlags) layers).getD []
      targets :=
        match lastSaid? (·.targets) layers with
        | some (target :: targets) => target :: targets
        | _ => ["//..."] } :=
  ⟨merge_assoc, merge_self, merge_default, resolve_default_merge,
    fun _ _ => Bracketing.merge_eq_of_layers_eq, fun _ _ _ => runOn_discover_same,
    resolve_foldl_merge⟩

/-- Two bracketings of an empty name, an empty list and another name; and a home directory that is
the current directory, by another path. -/
theorem layering_laws_at_home :
    let name : Layer := { bazel := some "" }
    let list : Layer := { targets := some [] }
    let other : Layer := { bazel := some "bazelisk" }
    let host : Host := { directory := ["home"], home := "/home/." }
    let journal : Journal :=
      ⟨⟨[(["home"], .directory),
        (["home", ".bazel-compdb"], .file (Text.Utf8.encode "bazel: bazelisk") false)]⟩, []⟩
    let inner : Bracketing := .stack (.layer name) (.stack (.layer list) (.layer other))
    let outer : Bracketing := .stack (.stack (.layer name) (.layer list)) (.layer other)
    inner.layers = outer.layers ∧ inner.merge = outer.merge ∧
      journal.now.readText? host.directory (Path.settings "/home") =
        journal.now.readText? host.directory (homeFile host) ∧
      (discover host "/home").runOn journal =
        (loadOver host {} [homeFile host]).runOn journal := by
  intro name list other host journal inner outer
  have hlayers : inner.layers = outer.layers := rfl
  have hsame : journal.now.readText? host.directory (Path.settings "/home") =
      journal.now.readText? host.directory (homeFile host) := by decide +kernel
  exact ⟨hlayers, layering_laws.2.2.2.2.1 inner outer hlayers, hsame,
    layering_laws.2.2.2.2.2.1 host "/home" journal hsame⟩

end CompileCommands.Config.Layer
