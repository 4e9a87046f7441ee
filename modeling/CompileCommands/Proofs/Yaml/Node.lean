import CompileCommands.Yaml.Document

/-!
# Nodes of a YAML text

The tree of nodes that the events of a text spell out, for texts without names and tags. A document
that is such a tree has the items of the tree and nothing else.

* `Node`: a scalar, or a collection of nodes.
* `Node.events`: the events from the start of a node to its end.
* `IsMapping`: a text is one document, and that is a mapping from scalars to nodes.
* `IsMapping.holds`: the document of such a text holds the items of the mapping.
-/

namespace CompileCommands.Yaml

/-- A node without a name and without a tag. -/
inductive Node where
  /-- A scalar. -/
  | scalar (text : String) (style : Style)
  /-- A sequence. -/
  | sequence (items : List Node)
  /-- A mapping. Its keys may be any nodes. -/
  | mapping (pairs : List (Node × Node))

mutual

/-- The events from the start of a node to its end. -/
def Node.events : Node → List Event
  | scalar text style => [.scalar none none text style]
  | sequence items => .sequenceStart none :: (listEvents items ++ [.sequenceEnd])
  | mapping pairs => .mappingStart none :: (pairEvents pairs ++ [.mappingEnd])

/-- The events of nodes that follow one another. -/
def Node.listEvents : List Node → List Event
  | [] => []
  | item :: items => item.events ++ listEvents items

/-- The events of pairs of a key and a value. -/
def Node.pairEvents : List (Node × Node) → List Event
  | [] => []
  | (key, value) :: pairs => key.events ++ (value.events ++ pairEvents pairs)

end

/-- A pair of a mapping, with a scalar for its key. -/
structure Pair where
  /-- The text of the key. -/
  key : String
  /-- How the key is written. -/
  style : Style
  /-- The value. -/
  value : Node

/-- The mapping of some pairs. -/
def Node.ofPairs (pairs : List Pair) : Node :=
  .mapping (pairs.map fun pair => (.scalar pair.key pair.style, pair.value))

/-- The text is read to its end as one document, and that is the mapping of some pairs. -/
structure IsMapping (text : String) (pairs : List Pair) : Prop where
  /-- The events are those of the mapping between the start and the end of a document. -/
  events : (Event.scan text).events.map Prod.fst =
    .documentStart :: ((Node.ofPairs pairs).events ++ [.documentEnd])
  /-- No error comes after them. -/
  error? : (Event.scan text).error? = none

/-! ## Items -/

/-- The item that an event adds to a document, if neither a name nor an alias is involved. -/
def Event.item? : Event → Option Item
  | .scalar none tag? text style => some (.scalar ⟨tag?, text, style == .plain⟩)
  | .sequenceStart none => some .sequenceStart
  | .sequenceEnd => some .sequenceEnd
  | .mappingStart none => some .mappingStart
  | .mappingEnd => some .mappingEnd
  | _ => none

/-- The items of a node. -/
def Node.items (node : Node) : List Item :=
  node.events.filterMap Event.item?

/-- The items of nodes that follow one another. -/
def Node.listItems (nodes : List Node) : List Item :=
  (listEvents nodes).filterMap Event.item?

/-- The items of pairs of a key and a value. -/
def Node.pairItems (pairs : List (Node × Node)) : List Item :=
  (pairEvents pairs).filterMap Event.item?

namespace Node

/-- The item with which a node starts. -/
def opening : Node → Item
  | scalar text style => .scalar ⟨none, text, style == .plain⟩
  | sequence _ => .sequenceStart
  | mapping _ => .mappingStart

/-- The items of a node after the first. -/
def inner : Node → List Item
  | scalar _ _ => []
  | sequence nodes => listItems nodes ++ [.sequenceEnd]
  | mapping pairs => pairItems pairs ++ [.mappingEnd]

/-- A node has an item at least. -/
theorem items_eq_cons (node : Node) : node.items = node.opening :: node.inner := by
  cases node with
  | scalar text style => simp [items, opening, inner, events, Event.item?]
  | sequence nodes => simp [items, opening, inner, listItems, events, Event.item?]
  | mapping pairs => simp [items, opening, inner, pairItems, events, Event.item?]

@[simp] theorem listItems_nil : listItems [] = [] := by
  simp [listItems, listEvents]

@[simp] theorem listItems_cons (node : Node) (nodes : List Node) :
    listItems (node :: nodes) = node.items ++ listItems nodes := by
  simp [listItems, items, listEvents]

@[simp] theorem pairItems_nil : pairItems [] = [] := by
  simp [pairItems, pairEvents]

@[simp] theorem pairItems_cons (key value : Node) (pairs : List (Node × Node)) :
    pairItems ((key, value) :: pairs) = key.items ++ (value.items ++ pairItems pairs) := by
  simp [pairItems, items, pairEvents]

/-- Every node that stands in a list has an item at least. -/
theorem length_le_length_listItems (nodes : List Node) :
    nodes.length ≤ (listItems nodes).length := by
  induction nodes with
  | nil => exact Nat.zero_le _
  | cons node nodes ih =>
    rw [listItems_cons, items_eq_cons, List.length_append, List.length_cons, List.length_cons]
    omega

/-- Every pair has an item at least. -/
theorem length_le_length_pairItems (pairs : List (Node × Node)) :
    pairs.length ≤ (pairItems pairs).length := by
  induction pairs with
  | nil => exact Nat.zero_le _
  | cons pair pairs ih =>
    rw [pairItems_cons, items_eq_cons, List.length_append, List.length_append, List.length_cons,
      List.length_cons]
    omega

mutual

/-- Every event of a node adds an item. -/
theorem isSome_item?_of_mem_events {event : Event} :
    (node : Node) → event ∈ node.events → event.item?.isSome = true
  | scalar text style, h => by
    rw [events, List.mem_singleton] at h
    rw [h]
    rfl
  | sequence nodes, h => by
    rw [events, List.mem_cons, List.mem_append, List.mem_singleton] at h
    obtain rfl | h | rfl := h
    · rfl
    · exact isSome_item?_of_mem_listEvents nodes h
    · rfl
  | mapping pairs, h => by
    rw [events, List.mem_cons, List.mem_append, List.mem_singleton] at h
    obtain rfl | h | rfl := h
    · rfl
    · exact isSome_item?_of_mem_pairEvents pairs h
    · rfl

/-- Every event of nodes that follow one another adds an item. -/
theorem isSome_item?_of_mem_listEvents {event : Event} :
    (nodes : List Node) → event ∈ listEvents nodes → event.item?.isSome = true
  | [], h => by
    rw [listEvents] at h
    exact absurd h List.not_mem_nil
  | node :: nodes, h => by
    rw [listEvents, List.mem_append] at h
    obtain h | h := h
    · exact isSome_item?_of_mem_events node h
    · exact isSome_item?_of_mem_listEvents nodes h

/-- Every event of pairs adds an item. -/
theorem isSome_item?_of_mem_pairEvents {event : Event} :
    (pairs : List (Node × Node)) → event ∈ pairEvents pairs → event.item?.isSome = true
  | [], h => by
    rw [pairEvents] at h
    exact absurd h List.not_mem_nil
  | (key, value) :: pairs, h => by
    rw [pairEvents, List.mem_append, List.mem_append] at h
    obtain h | h | h := h
    · exact isSome_item?_of_mem_events key h
    · exact isSome_item?_of_mem_events value h
    · exact isSome_item?_of_mem_pairEvents pairs h

end

end Node

/-! ## Documents -/

/-- The document consists of some items. It is read without a failure, and nothing follows it. -/
structure Document.Holds (d : Document) (items : List Item) : Prop where
  /-- The items, wherever they stand. -/
  items : d.items.map Prod.fst = items
  /-- The text is read to its end. -/
  failure? : d.failure? = none
  /-- There is no second document. -/
  isFollowed : d.isFollowed = false

/-- One more item in front. -/
theorem Document.Holds.prepend {d : Document} {items : List Item} (h : d.Holds items)
    (item : Item × Position) : (Document.prepend item d).Holds (item.1 :: items) where
  items := congrArg (item.1 :: ·) h.items
  failure? := h.failure?
  isFollowed := h.isFollowed

/-- An event that adds an item puts it in front of what the later events make up. -/
theorem Document.exists_ofEvents_cons {event : Event} {item : Item} (h : event.item? = some item)
    (r : Reading) (place : Position) (events : List (Event × Position)) :
    ∃ r', ofEvents none r ((event, place) :: events) =
      Document.prepend (item, place) (ofEvents none r' events) := by
  unfold Event.item? at h
  split at h
  case h_6 => cases h
  all_goals
    cases h
    exact ⟨_, rfl⟩

/-- Events that all add items, and then the end of the document, are read as these items. -/
theorem Document.holds_ofEvents {body : List Event}
    (hbody : ∀ event ∈ body, event.item?.isSome = true) {r : Reading}
    {events : List (Event × Position)} (h : events.map Prod.fst = body ++ [.documentEnd]) :
    (ofEvents none r events).Holds (body.filterMap Event.item?) := by
  induction body generalizing r events with
  | nil =>
    obtain ⟨place, rfl⟩ : ∃ place, events = [(.documentEnd, place)] := by
      simpa [List.map_eq_cons_iff] using h
    exact ⟨rfl, rfl, rfl⟩
  | cons event body ih =>
    obtain ⟨⟨event, place⟩, events, rfl, rfl, hrest⟩ := List.map_eq_cons_iff.1 h
    obtain ⟨item, hitem⟩ := Option.isSome_iff_exists.1 (hbody event List.mem_cons_self)
    -- What has been read before does not matter, since no item is an alias.
    obtain ⟨r', hr'⟩ := exists_ofEvents_cons hitem r place events
    rw [hr', List.filterMap_cons_some hitem]
    exact (ih (fun event hevent => hbody event (List.mem_cons_of_mem _ hevent)) hrest).prepend _

/-- The document of a text that is a mapping holds the items of the mapping. -/
theorem IsMapping.holds {text : String} {pairs : List Pair} (h : IsMapping text pairs) :
    (Document.ofText text).Holds (Node.ofPairs pairs).items := by
  obtain ⟨⟨event, place⟩, events, hevents, hstart, hrest⟩ := List.map_eq_cons_iff.1 h.events
  obtain rfl : event = .documentStart := hstart
  have hread : Document.ofText text = Document.ofEvents none {} events := by
    rw [Document.ofText, hevents, h.error?]
    rfl
  rw [hread]
  exact Document.holds_ofEvents
    (fun _ hevent => Node.isSome_item?_of_mem_events (Node.ofPairs pairs) hevent) hrest

end CompileCommands.Yaml
