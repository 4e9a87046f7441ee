import CompileCommands.Config.Settings
import CompileCommands.Proofs.Yaml.Node

/-!
# Reading settings from the items of a document

Settings are read item by item. Where the items are those of a node, what is read of them is a
matter of the node alone, and the items after the node are left. So the items of a mapping are read
as a layer exactly if its pairs, one after the other, say this layer.

* `Reads`: a reading gives what can be read of a node and leaves the items after it.
* `exists_skipNode_node`: a node is passed over with all that it holds.
* `SaysNext`: what the values of a key still say when some settings have been read.
* `readEntries_eq_ok_iff`: the layer that is read is what the pairs say of each of the settings.
-/

namespace CompileCommands

namespace Yaml

/-! ## Values of nodes -/

/-- The text of a scalar, however it is written. -/
def Node.text? : Node → Option String
  | scalar text _ => some text
  | _ => none

/-- The texts of a sequence of scalars. -/
def Node.texts? : Node → Option (List String)
  | sequence items => items.mapM text?
  | _ => none

/-- The node is null: a scalar without quotes that is empty or one of the words for null. -/
def Node.isNull : Node → Bool
  | scalar text style => style == .plain && ["", "~", "null", "Null", "NULL"].contains text
  | _ => false

/-- The values of a key, in their order. -/
def Pair.valuesOf (key : String) (pairs : List Pair) : List Node :=
  (pairs.filter (·.key = key)).map value

theorem Pair.valuesOf_cons_of_eq {key : String} {pair : Pair} {pairs : List Pair}
    (h : pair.key = key) : valuesOf key (pair :: pairs) = pair.value :: valuesOf key pairs := by
  rw [valuesOf, List.filter_cons_of_pos (by simpa using h), List.map_cons, valuesOf]

theorem Pair.valuesOf_cons_of_ne {key : String} {pair : Pair} {pairs : List Pair}
    (h : pair.key ≠ key) : valuesOf key (pair :: pairs) = valuesOf key pairs := by
  rw [valuesOf, List.filter_cons_of_neg (by simpa using h), valuesOf]

end Yaml

namespace Config

open Yaml hiding Value

/-! ## Reading nodes -/

namespace Settings

/-- What a node says about a setting of which `read?` reads a value. -/
def optional? {α : Type} (read? : Yaml.Node → Option α) (node : Yaml.Node) : Option (Option α) :=
  if node.isNull then some none else (read? node).map some

/-- Reading gives a value and leaves the items `tail`, or it fails if there is no value. -/
inductive Reads {α : Type} (tail : List Item) : Result (α × Items) → Option α → Prop
  /-- There is a value. -/
  | ok {value : α} {rest : Items} :
      rest.map Prod.fst = tail → Reads tail (.ok (value, rest)) (some value)
  /-- There is none. -/
  | error {e : SettingsError} : Reads tail (.error e) none

variable {α : Type} {d : Document} {node : Yaml.Node} {tail : List Item} {items : Items}
  {top position : Position} {place : Place} {expected : Expected} {key? : Option String}

/-- What is no value is refused. -/
theorem exists_refuse_eq (place : Place) (expected : Expected) (item : Item) (position : Position) :
    ∃ e, (refuse place expected item position : Result α) = .error e := by
  cases item with
  | scalar s =>
    simp only [refuse]
    cases Yaml.Value.ofScalar s with
    | ok v => exact ⟨_, rfl⟩
    | error m => exact ⟨_, rfl⟩
  | reference number => exact ⟨_, rfl⟩
  | sequenceStart => exact ⟨_, rfl⟩
  | sequenceEnd => exact ⟨_, rfl⟩
  | mappingStart => exact ⟨_, rfl⟩
  | mappingEnd => exact ⟨_, rfl⟩
  | void => exact ⟨_, rfl⟩

theorem Reads.exists_ok {result : Result (α × Items)} {value : α}
    (h : Reads tail result (some value)) :
    ∃ rest, result = .ok (value, rest) ∧ rest.map Prod.fst = tail := by
  cases h with
  | ok hrest => exact ⟨_, rfl, hrest⟩

theorem Reads.exists_error {result : Result (α × Items)} (h : Reads tail result none) :
    ∃ e, result = .error e := by
  cases h with
  | error => exact ⟨_, rfl⟩

/-- One reading after the other. -/
theorem Reads.bind {β : Type} {first : Result (α × Items)} {value? : Option α} {middle : List Item}
    {next : α × Items → Result (β × Items)} {next? : α → Option β} (h : Reads middle first value?)
    (hnext : ∀ value rest, rest.map Prod.fst = middle →
      Reads tail (next (value, rest)) (next? value)) :
    Reads tail (first >>= next) (value?.bind next?) := by
  cases h with
  | ok hrest => exact hnext _ _ hrest
  | error => exact .error

/-- A reading whose value is changed. -/
theorem Reads.map {β : Type} {result : Result (α × Items)} {value? : Option α}
    (h : Reads tail result value?) (f : α → β) :
    Reads tail (result >>= fun (value, rest) => pure (f value, rest)) (value?.map f) := by
  cases h with
  | ok hrest => exact .ok hrest
  | error => exact .error

/-- Items that start with some others are no fewer than these. -/
theorem length_lt_of_map_eq_append {front : List Item} {count : Nat}
    (h : items.map Prod.fst = front ++ tail) (hcount : count ≤ front.length) :
    count < items.length + 1 := by
  have hlength := congrArg List.length h
  rw [List.length_map, List.length_append] at hlength
  omega

/-- Where a node stands, its first item comes first. -/
theorem exists_eq_cons_of_node (h : items.map Prod.fst = node.items ++ tail) :
    ∃ position inside, items = (node.opening, position) :: inside ∧
      inside.map Prod.fst = node.inner ++ tail := by
  rw [Node.items_eq_cons, List.cons_append] at h
  obtain ⟨⟨_, position⟩, inside, rfl, rfl, hinside⟩ := List.map_eq_cons_iff.1 h
  exact ⟨position, inside, rfl, hinside⟩

/-- No node is an alias, so a node starts at its first item. -/
theorem nextNode_opening (node : Yaml.Node) (position : Position) (inside : Items) :
    nextNode d ((node.opening, position) :: inside) =
      .ok ⟨node.opening, position, inside, none⟩ := by
  cases node with
  | scalar text style => rfl
  | sequence nodes => rfl
  | mapping pairs => rfl

/-- The text of a node is read. -/
theorem reads_readText (h : items.map Prod.fst = node.items ++ tail) :
    Reads tail (readText d place expected items) node.text? := by
  obtain ⟨position, inside, rfl, hinside⟩ := exists_eq_cons_of_node h
  cases node with
  | scalar text style => exact .ok hinside
  | sequence nodes => exact .error
  | mapping pairs => exact .error

/-- A node does not start with the end of a sequence. -/
theorem readTexts_of_node (h : items.map Prod.fst = node.items ++ tail) (fuel index : Nat) :
    readTexts d key? (fuel + 1) index items =
      readText d (.item key? index) .text items >>= fun (text, items) =>
        readTexts d key? fuel (index + 1) items >>= fun (texts, items) =>
          pure (text :: texts, items) := by
  obtain ⟨position, inside, rfl, -⟩ := exists_eq_cons_of_node h
  cases node with
  | scalar text style => rfl
  | sequence nodes => rfl
  | mapping pairs => rfl

/-- The texts of a sequence of scalars are read. -/
theorem reads_readTexts {nodes : List Yaml.Node} {fuel : Nat} (index : Nat)
    (h : items.map Prod.fst = Node.listItems nodes ++ .sequenceEnd :: tail)
    (hfuel : nodes.length < fuel) :
    Reads tail (readTexts d key? fuel index items) (nodes.mapM Node.text?) := by
  induction nodes generalizing items fuel index with
  | nil =>
    obtain ⟨fuel, rfl⟩ := Nat.exists_eq_add_one.2 hfuel
    obtain ⟨⟨_, position⟩, rest, rfl, rfl, hrest⟩ := List.map_eq_cons_iff.1 h
    exact .ok hrest
  | cons node nodes ih =>
    obtain ⟨fuel, rfl⟩ := Nat.exists_eq_add_one.2 (Nat.zero_lt_of_lt hfuel)
    rw [Node.listItems_cons, List.append_assoc] at h
    rw [readTexts_of_node h, List.mapM_cons]
    refine (reads_readText h).bind fun text rest hrest => ?_
    refine (ih (index + 1) hrest (Nat.lt_of_succ_lt_succ hfuel)).bind fun texts rest hrest => ?_
    exact .ok hrest

/-- A value that is not null and no sequence is refused where a sequence should be. -/
theorem isEmptyPlain_opening (h : node.isNull = false) : isEmptyPlain node.opening = false := by
  cases node with
  | scalar text style =>
    rw [Bool.eq_false_iff] at h ⊢
    intro hempty
    refine h ?_
    obtain ⟨rfl, hplain⟩ : text = "" ∧ style = .plain := by
      simpa [isEmptyPlain, Node.opening] using hempty
    rw [hplain]
    rfl
  | sequence nodes => rfl
  | mapping pairs => rfl

/-- The texts of a node are read, unless it is null. -/
theorem reads_readSequence (h : items.map Prod.fst = node.items ++ tail)
    (hnull : node.isNull = false) : Reads tail (readSequence d key? items) node.texts? := by
  obtain ⟨position, inside, rfl, hinside⟩ := exists_eq_cons_of_node h
  have hplain := isEmptyPlain_opening hnull
  cases node with
  | scalar text style =>
    have hread : readSequence d key? (((Node.scalar text style).opening, position) :: inside) =
        refuse (.at key?) .sequence (Node.scalar text style).opening position := by
      rw [readSequence, nextNode_opening]
      change (if isEmptyPlain (Node.scalar text style).opening then _ else _) = _
      rw [hplain]
      rfl
    obtain ⟨e, he⟩ : ∃ e, _ = Except.error e := exists_refuse_eq (.at key?) .sequence _ position
    rw [hread, he]
    exact .error
  | sequence nodes =>
    rw [Node.inner, List.append_assoc] at hinside
    have hfuel := length_lt_of_map_eq_append hinside (Node.length_le_length_listItems nodes)
    have htexts : Reads tail (readTexts d key? (inside.length + 1) 0 inside)
        (nodes.mapM Node.text?) := reads_readTexts 0 hinside hfuel
    have hread := htexts.map id
    rwa [Option.map_id_apply] at hread
  | mapping pairs => exact .error

/-- A node leaves a setting open exactly if it is null. -/
theorem leavesOpen_opening (top : Position) (node : Yaml.Node) :
    leavesOpen top node.opening = .ok node.isNull := by
  cases node with
  | scalar text style =>
    cases hplain : style == .plain with
    | false => simp [leavesOpen, Node.opening, Node.isNull, hplain]
    | true =>
      simp only [leavesOpen, Node.opening, Node.isNull, hplain]
      rfl
  | sequence nodes => rfl
  | mapping pairs => rfl

/-- What a node says about a setting is read. -/
theorem reads_readOptional (read : Items → Result (α × Items)) {read? : Yaml.Node → Option α}
    (h : items.map Prod.fst = node.items ++ tail)
    (hread : node.isNull = false → Reads tail (read items) (read? node)) :
    Reads tail (readOptional d top read items) (optional? read? node) := by
  obtain ⟨position, inside, rfl, hinside⟩ := exists_eq_cons_of_node h
  have hopen : readOptional d top read ((node.opening, position) :: inside) =
      if node.isNull then .ok (none, inside)
      else read ((node.opening, position) :: inside) >>= fun (value, rest) =>
        pure (some value, rest) := by
    rw [readOptional, nextNode_opening]
    change (leavesOpen top node.opening >>= _) = _
    rw [leavesOpen_opening]
    cases node.isNull with
    | false => rfl
    | true => rfl
  rw [hopen, optional?]
  cases hnull : node.isNull with
  | false => exact (hread hnull).map some
  | true =>
    cases node with
    | scalar text style => exact .ok hinside
    | sequence nodes => cases hnull
    | mapping pairs => cases hnull

mutual

/-- A node is passed over with all that it holds. -/
theorem exists_skipNode_node (depth : Nat) :
    (node : Yaml.Node) → {items : Items} → {tail : List Item} →
      items.map Prod.fst = node.items ++ tail →
      ∃ rest, rest.map Prod.fst = tail ∧
        skipNode d depth items = if depth = 0 then .ok rest else skipNode d depth rest
  | .scalar text style, items, tail, h => by
    obtain ⟨position, inside, rfl, hinside⟩ := exists_eq_cons_of_node h
    exact ⟨inside, hinside, rfl⟩
  | .sequence nodes, items, tail, h => by
    obtain ⟨position, inside, rfl, hinside⟩ := exists_eq_cons_of_node h
    rw [Node.inner, List.append_assoc] at hinside
    obtain ⟨closing, hclosing, hskip⟩ := exists_skipNode_list depth nodes hinside
    obtain ⟨⟨_, position⟩, rest, rfl, rfl, hrest⟩ := List.map_eq_cons_iff.1 hclosing
    refine ⟨rest, hrest, ?_⟩
    simpa [skipNode, Node.opening] using hskip
  | .mapping pairs, items, tail, h => by
    obtain ⟨position, inside, rfl, hinside⟩ := exists_eq_cons_of_node h
    rw [Node.inner, List.append_assoc] at hinside
    obtain ⟨closing, hclosing, hskip⟩ := exists_skipNode_pairs depth pairs hinside
    obtain ⟨⟨_, position⟩, rest, rfl, rfl, hrest⟩ := List.map_eq_cons_iff.1 hclosing
    refine ⟨rest, hrest, ?_⟩
    simpa [skipNode, Node.opening] using hskip

/-- Inside of a collection, nodes that follow one another are passed over. -/
theorem exists_skipNode_list (depth : Nat) :
    (nodes : List Yaml.Node) → {items : Items} → {tail : List Item} →
      items.map Prod.fst = Node.listItems nodes ++ tail →
      ∃ rest, rest.map Prod.fst = tail ∧
        skipNode d (depth + 1) items = skipNode d (depth + 1) rest
  | [], items, tail, h => ⟨items, by rwa [Node.listItems_nil] at h, rfl⟩
  | node :: nodes, items, tail, h => by
    rw [Node.listItems_cons, List.append_assoc] at h
    obtain ⟨others, hothers, hskip⟩ := exists_skipNode_node (depth + 1) node h
    obtain ⟨rest, hrest, hskips⟩ := exists_skipNode_list depth nodes hothers
    exact ⟨rest, hrest, hskip.trans hskips⟩

/-- Inside of a collection, keys and values are passed over. -/
theorem exists_skipNode_pairs (depth : Nat) :
    (pairs : List (Yaml.Node × Yaml.Node)) → {items : Items} → {tail : List Item} →
      items.map Prod.fst = Node.pairItems pairs ++ tail →
      ∃ rest, rest.map Prod.fst = tail ∧
        skipNode d (depth + 1) items = skipNode d (depth + 1) rest
  | [], items, tail, h => ⟨items, by rwa [Node.pairItems_nil] at h, rfl⟩
  | (key, value) :: pairs, items, tail, h => by
    rw [Node.pairItems_cons, List.append_assoc, List.append_assoc] at h
    obtain ⟨values, hvalues, hkey⟩ := exists_skipNode_node (depth + 1) key h
    obtain ⟨others, hothers, hvalue⟩ := exists_skipNode_node (depth + 1) value hvalues
    obtain ⟨rest, hrest, hskips⟩ := exists_skipNode_pairs depth pairs hothers
    exact ⟨rest, hrest, hkey.trans (hvalue.trans hskips)⟩

end

end Settings

/-! ## Reading settings -/

/-- What a setting may be. -/
@[reducible] def Setting.Content : Setting → Type
  | bazel => String
  | bazelFlags => List String
  | targets => List String

/-- How the value of a setting is read. -/
def Setting.read? : (setting : Setting) → Node → Option setting.Content
  | bazel => Node.text?
  | bazelFlags => Node.texts?
  | targets => Node.texts?

namespace Layer

/-- What a layer says of a setting. -/
def get (layer : Layer) : (setting : Setting) → Option setting.Content
  | .bazel => layer.bazel
  | .bazelFlags => layer.bazelFlags
  | .targets => layer.targets

/-- The layer with a setting changed. -/
def set (layer : Layer) : (setting : Setting) → Option setting.Content → Layer
  | .bazel, content? => { layer with bazel := content? }
  | .bazelFlags, content? => { layer with bazelFlags := content? }
  | .targets, content? => { layer with targets := content? }

variable {layer layer' : Layer} {setting other : Setting}

@[simp] theorem get_set (content? : Option setting.Content) :
    (layer.set setting content?).get setting = content? := by
  cases setting with
  | bazel => rfl
  | bazelFlags => rfl
  | targets => rfl

/-- The other settings stay as they are. -/
theorem get_set_of_ne (h : other ≠ setting) (content? : Option setting.Content) :
    (layer.set setting content?).get other = layer.get other := by
  cases setting <;> cases other <;> first | rfl | exact absurd rfl h

/-- A layer is what it says of its settings. -/
theorem eq_of_get (h : ∀ setting, layer.get setting = layer'.get setting) : layer = layer' := by
  cases layer
  cases layer'
  rw [Layer.mk.injEq]
  exact ⟨h .bazel, h .bazelFlags, h .targets⟩

end Layer

namespace Settings

variable {d : Document} {node : Yaml.Node} {tail : List Item} {items : Items} {top : Position}
  {key? : Option String}

/-- The value of a setting is read into the layer. -/
theorem reads_readSetting (setting : Setting) (layer : Layer)
    (h : items.map Prod.fst = node.items ++ tail) :
    Reads tail (readSetting d top key? setting layer items)
      ((optional? setting.read? node).map (layer.set setting)) := by
  cases setting with
  | bazel =>
    exact (reads_readOptional (readText d (.at key?) .text) h
      fun _ => reads_readText h).map (layer.set .bazel)
  | bazelFlags =>
    exact (reads_readOptional (readSequence d key?) h
      fun hnull => reads_readSequence h hnull).map (layer.set .bazelFlags)
  | targets =>
    exact (reads_readOptional (readSequence d key?) h
      fun hnull => reads_readSequence h hnull).map (layer.set .targets)

/-- What the values of the key of a setting still say when some settings have been read. -/
inductive SaysNext (r : Reading) (setting : Setting) :
    List Yaml.Node → Option setting.Content → Prop
  /-- The key does not come any more. -/
  | absent : SaysNext r setting [] (r.layer.get setting)
  /-- The key comes once, and has not come before. -/
  | value {node : Yaml.Node} {content? : Option setting.Content} :
      setting ∉ r.said → optional? setting.read? node = some content? →
      SaysNext r setting [node] content?

variable {r : Reading} {setting : Setting}

theorem saysNext_nil_iff {content? : Option setting.Content} :
    SaysNext r setting [] content? ↔ content? = r.layer.get setting := by
  constructor
  · intro h
    cases h
    rfl
  · rintro rfl
    exact .absent

theorem saysNext_cons_iff {nodes : List Yaml.Node} {content? : Option setting.Content} :
    SaysNext r setting (node :: nodes) content? ↔
      nodes = [] ∧ setting ∉ r.said ∧ optional? setting.read? node = some content? := by
  constructor
  · intro h
    cases h with
    | value hsaid hnode => exact ⟨rfl, hsaid, hnode⟩
  · rintro ⟨rfl, hsaid, hnode⟩
    exact .value hsaid hnode

/-- Settings are told apart by their keys. -/
theorem ofKey?_eq_some_iff {key : String} :
    Setting.ofKey? key = some setting ↔ setting.key = key := by
  constructor
  · intro h
    have hfound := List.find?_some h
    exact beq_iff_eq.1 hfound
  · rintro rfl
    cases setting with
    | bazel => rfl
    | bazelFlags => rfl
    | targets => rfl

/-- A setting that has just been read must not come again. -/
theorem saysNext_set_self_iff {nodes : List Yaml.Node} {content? new? : Option setting.Content} :
    SaysNext ⟨r.layer.set setting content?, setting :: r.said⟩ setting nodes new? ↔
      nodes = [] ∧ new? = content? := by
  cases nodes with
  | nil => simp [saysNext_nil_iff]
  | cons node nodes => simp [saysNext_cons_iff]

/-- Reading a setting does not concern the others. -/
theorem saysNext_set_of_ne_iff {other : Setting} (h : other ≠ setting) {nodes : List Yaml.Node}
    {content? : Option setting.Content} {new? : Option other.Content} :
    SaysNext ⟨r.layer.set setting content?, setting :: r.said⟩ other nodes new? ↔
      SaysNext r other nodes new? := by
  cases nodes with
  | nil => rw [saysNext_nil_iff, saysNext_nil_iff, Layer.get_set_of_ne h]
  | cons node nodes => simp [saysNext_cons_iff, h]

/-- What an entry and the ones after it say: the entry says its setting for the first time, and the
others say the rest. -/
theorem forall_saysNext_iff {pair : Pair} {pairs : List Pair} {layer : Layer}
    (hkey : pair.key = setting.key) :
    (∀ other : Setting, SaysNext r other (Pair.valuesOf other.key (pair :: pairs))
        (layer.get other)) ↔
      setting ∉ r.said ∧ ∃ content?, optional? setting.read? pair.value = some content? ∧
        ∀ other : Setting, SaysNext ⟨r.layer.set setting content?, setting :: r.said⟩ other
          (Pair.valuesOf other.key pairs) (layer.get other) := by
  have hother {other : Setting} (h : other ≠ setting) :
      Pair.valuesOf other.key (pair :: pairs) = Pair.valuesOf other.key pairs := by
    refine Pair.valuesOf_cons_of_ne fun heq => h ?_
    rw [← Option.some.injEq, ← ofKey?_eq_some_iff.2 rfl, ← heq, hkey, ofKey?_eq_some_iff]
  constructor
  · intro h
    have hself := h setting
    rw [Pair.valuesOf_cons_of_eq hkey, saysNext_cons_iff] at hself
    obtain ⟨hnil, hsaid, hnode⟩ := hself
    refine ⟨hsaid, _, hnode, fun other => ?_⟩
    by_cases heq : other = setting
    · subst heq
      exact saysNext_set_self_iff.2 ⟨hnil, rfl⟩
    · rw [saysNext_set_of_ne_iff heq, ← hother heq]
      exact h other
  · rintro ⟨hsaid, content?, hnode, h⟩ other
    by_cases heq : other = setting
    · subst heq
      obtain ⟨hnil, hcontent⟩ := saysNext_set_self_iff.1 (h other)
      rw [Pair.valuesOf_cons_of_eq hkey, saysNext_cons_iff, hcontent]
      exact ⟨hnil, hsaid, hnode⟩
    · rw [hother heq, ← saysNext_set_of_ne_iff heq]
      exact h other

/-- The entry with which a mapping goes on. -/
theorem readEntries_pair (pair : Pair) (fuel : Nat) (r : Reading) (position : Position)
    (items : Items) :
    readEntries d top (fuel + 1) r
        (((Node.scalar pair.key pair.style).opening, position) :: items) =
      match Setting.ofKey? pair.key with
      | none => skipNode d 0 items >>= readEntries d top fuel r
      | some setting =>
        if setting ∈ r.said then .error (.complaint .top (.duplicate setting) top)
        else readSetting d top (some pair.key) setting r.layer items >>= fun (layer, items) =>
          readEntries d top fuel ⟨layer, setting :: r.said⟩ items :=
  rfl

/-- The entries are read as a layer exactly if this is what they say of each of the settings. -/
theorem readEntries_eq_ok_iff {pairs : List Pair} {layer : Layer} {fuel : Nat}
    (h : items.map Prod.fst =
      Node.pairItems (pairs.map fun pair => (.scalar pair.key pair.style, pair.value)) ++
        [.mappingEnd])
    (hfuel : pairs.length < fuel) :
    readEntries d top fuel r items = .ok layer ↔
      ∀ setting : Setting,
        SaysNext r setting (Pair.valuesOf setting.key pairs) (layer.get setting) := by
  induction pairs generalizing items r fuel with
  | nil =>
    obtain ⟨fuel, rfl⟩ := Nat.exists_eq_add_one.2 hfuel
    obtain ⟨⟨_, position⟩, rest, rfl, rfl, -⟩ := List.map_eq_cons_iff.1 h
    change Except.ok r.layer = .ok layer ↔ ∀ setting, SaysNext r setting [] (layer.get setting)
    simp only [saysNext_nil_iff, Except.ok.injEq]
    exact ⟨fun h setting => h ▸ rfl, fun h => Layer.eq_of_get fun setting => (h setting).symm⟩
  | cons pair pairs ih =>
    obtain ⟨fuel, rfl⟩ := Nat.exists_eq_add_one.2 (Nat.zero_lt_of_lt hfuel)
    have hfuel := Nat.lt_of_succ_lt_succ hfuel
    rw [List.map_cons, Node.pairItems_cons, List.append_assoc, List.append_assoc] at h
    obtain ⟨position, after, rfl, hafter⟩ := exists_eq_cons_of_node h
    rw [readEntries_pair]
    cases hkey : Setting.ofKey? pair.key with
    | none =>
      -- The value is passed over, and it belongs to no setting.
      obtain ⟨rest, hrest, hskip⟩ : ∃ rest, _ ∧ skipNode d 0 after = _ :=
        exists_skipNode_node 0 pair.value hafter
      have hvalues (setting : Setting) : Pair.valuesOf setting.key (pair :: pairs) =
          Pair.valuesOf setting.key pairs := by
        refine Pair.valuesOf_cons_of_ne fun heq => ?_
        rw [ofKey?_eq_some_iff.2 heq.symm] at hkey
        cases hkey
      simp only [hvalues, hskip]
      exact ih hrest hfuel
    | some setting =>
      rw [forall_saysNext_iff (ofKey?_eq_some_iff.1 hkey).symm]
      dsimp only
      -- A key that has come before is refused, whatever its value is.
      by_cases hsaid : setting ∈ r.said
      · simp [hsaid]
      have hread : Reads _ (readSetting d top (some pair.key) setting r.layer after) _ :=
        reads_readSetting setting r.layer hafter
      cases hnode : optional? setting.read? pair.value with
      | none =>
        rw [hnode] at hread
        obtain ⟨e, he⟩ := hread.exists_error
        simp [hsaid, he, bind, Except.bind]
      | some content? =>
        rw [hnode] at hread
        obtain ⟨rest, hok, hrest⟩ := hread.exists_ok
        simp only [hsaid, hok, if_false, not_false_iff, true_and, Option.some.injEq,
          exists_eq_left']
        exact ih hrest hfuel

/-- A document that starts a mapping is read through its entries; then nothing may be left. -/
theorem ofDocument_of_mapping {items : Items} {position : Position}
    (h : d.items = (.mappingStart, position) :: items) :
    ofDocument d = readEntries d position (items.length + 1) {} items >>= fun layer =>
      match d.failure? with
      | some f => .error (.failure f)
      | none => if d.isFollowed then .error .severalDocuments else .ok layer := by
  rw [ofDocument, h]
  rfl

/-- A document that is a mapping is read as a layer exactly if this is what the pairs say. -/
theorem ofDocument_eq_ok_iff {pairs : List Pair} {layer : Layer}
    (h : d.Holds (Node.ofPairs pairs).items) :
    ofDocument d = .ok layer ↔
      ∀ setting : Setting, SaysNext {} setting (Pair.valuesOf setting.key pairs)
        (layer.get setting) := by
  have hitems := h.items
  rw [← List.append_nil (Node.items _)] at hitems
  obtain ⟨position, inside, hitems, hinside⟩ := exists_eq_cons_of_node hitems
  rw [Node.ofPairs, Node.inner, List.append_nil] at hinside
  have hfuel := length_lt_of_map_eq_append hinside (Node.length_le_length_pairItems _)
  rw [List.length_map] at hfuel
  rw [ofDocument_of_mapping hitems, h.failure?, h.isFollowed,
    ← readEntries_eq_ok_iff hinside hfuel]
  change readEntries d position (inside.length + 1) {} inside >>= pure = _ ↔ _
  rw [bind_pure]

end Settings

end Config

end CompileCommands
