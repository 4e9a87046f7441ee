import CompileCommands.Config.Layer
import CompileCommands.Yaml.Scalar.Value

/-!
# Settings files

A settings file holds a layer as a YAML mapping. A known key may come once. The build tool is
the text of a scalar, however it is spelled; the two lists hold such texts. A null, or nothing
at all, leaves a setting open. Unknown keys are passed over with all that they hold.

A document is read event by event, so what is wrong before a syntax error is reported first.
-/

namespace CompileCommands.Config

open Yaml

/-- A setting. -/
inductive Setting where
  /-- The build tool. -/
  | bazel
  /-- The flags for its query. -/
  | bazelFlags
  /-- What to ask for. -/
  | targets
  deriving DecidableEq, Repr

/-- The key of a setting. -/
def Setting.key : Setting → String
  | bazel => "bazel"
  | bazelFlags => "bazel_flags"
  | targets => "targets"

/-- The setting with a key. -/
def Setting.ofKey? (key : String) : Option Setting :=
  [bazel, bazelFlags, targets].find? (·.key == key)

/-- What a node should be. -/
inductive Expected where
  /-- The mapping of a settings file. -/
  | layer
  /-- A key. -/
  | key
  /-- A text. -/
  | text
  /-- A list. -/
  | sequence
  deriving DecidableEq, Repr

/-- What a node should be, in words. -/
def Expected.describe : Expected → String
  | layer => "struct ConfigLayer"
  | key => "field identifier"
  | text => "a string"
  | sequence => "a sequence"

/-- What a node is instead. -/
inductive Found where
  /-- A scalar that stands for a value. -/
  | value (value : Value)
  /-- A sequence. -/
  | sequence
  /-- A mapping. -/
  | mapping
  deriving DecidableEq, Repr

/-- What a node is, in words. -/
def Found.describe : Found → String
  | value v => v.describe
  | sequence => "sequence"
  | mapping => "map"

/-- Where in the settings something is wrong. -/
inductive Place where
  /-- At the mapping itself. -/
  | top
  /-- At the value of a key. Keys that are aliases have no name. -/
  | at (key? : Option String)
  /-- At an item of the list under a key. -/
  | item (key? : Option String) (index : Nat)
  deriving DecidableEq, Repr

/-- The start of a message that names a place. -/
def Place.describe : Place → String
  | top => ""
  | .at key? => key?.getD "?" ++ ": "
  | item key? index => key?.getD "?" ++ "[" ++ toString index ++ "]: "

/-- What is wrong with settings. -/
inductive Complaint where
  /-- A node is not what it should be. -/
  | wrongType (found : Found) (expected : Expected)
  /-- A scalar is not what its tag asks for. -/
  | wrongValue (mismatch : Value.Mismatch)
  /-- A setting is said twice. -/
  | duplicate (setting : Setting)
  deriving DecidableEq, Repr

/-- The text of a complaint. -/
def Complaint.message : Complaint → String
  | wrongType found expected =>
    "invalid type: " ++ found.describe ++ ", expected " ++ expected.describe
  | wrongValue m => "invalid value: string " ++ Text.quoted m.text ++ ", expected " ++ m.expected
  | duplicate setting => "duplicate field `" ++ setting.key ++ "`"

/-- Why a text is no settings file. -/
inductive SettingsError where
  /-- The document goes no further. -/
  | failure (failure : Failure)
  /-- Something is wrong at a place. -/
  | complaint (place : Place) (complaint : Complaint) (position : Position)
  /-- The text holds a second document. -/
  | severalDocuments
  /-- The document ends too early. -/
  | endOfText
  deriving DecidableEq, Repr

/-- The text of an error. -/
def SettingsError.message : SettingsError → String
  | failure f => f.message
  | complaint place what position => place.describe ++ what.message ++ position.placeText
  | severalDocuments =>
    "deserializing from YAML containing more than one document is not supported"
  | endOfText => "EOF while parsing a value"

namespace Settings

/-- The events of a document that are left. -/
abbrev Items := List (Item × Position)

/-- The result of reading from a document. -/
abbrev Result := Except SettingsError

/-- The next event, its place and the events after it. -/
def next (d : Document) : Items → Result (Item × Position × Items)
  | (item, position) :: rest => .ok (item, position, rest)
  | [] =>
    match d.failure? with
    | some f => .error (.failure f)
    | none => .error .endOfText

/-- The start of a node, with aliases followed. -/
structure Node where
  /-- The event at which the node starts. -/
  item : Item
  /-- Where it starts. -/
  position : Position
  /-- The events after that event. -/
  inside : Items
  /-- For an alias, the events after the alias. -/
  afterAlias? : Option Items

/-- The node that starts at the next event. -/
def nextNode (d : Document) (items : Items) : Result Node := do
  let (item, position, rest) ← next d items
  match item with
  | .reference number =>
    let (item, position, inside) ← next d (d.target number)
    return ⟨item, position, inside, some rest⟩
  | _ => return ⟨item, position, rest, none⟩

/-- The events after a node whose own events end before `rest`. -/
def Node.after (n : Node) (rest : Items) : Items :=
  n.afterAlias?.getD rest

/-- The error of a node that is not what it should be. -/
def refuse {α : Type} (place : Place) (expected : Expected) (item : Item)
    (position : Position) : Result α :=
  match item with
  | .scalar s =>
    match Value.ofScalar s with
    | .ok v => .error (.complaint place (.wrongType (.value v) expected) position)
    | .error m => .error (.complaint place (.wrongValue m) position)
  | .sequenceStart | .sequenceEnd =>
    .error (.complaint place (.wrongType .sequence expected) position)
  | .mappingStart | .mappingEnd =>
    .error (.complaint place (.wrongType .mapping expected) position)
  | .reference _ | .void => .error .endOfText

/-- The text of a scalar, and the events after it. -/
def readText (d : Document) (place : Place) (expected : Expected) (items : Items) :
    Result (String × Items) := do
  let n ← nextNode d items
  match n.item with
  | .scalar s => return (s.text, n.after n.inside)
  | _ => refuse place expected n.item n.position

/-- The texts up to the end of a sequence, and the events after it. Every text takes an event,
so `fuel` does not run out before the events do. -/
def readTexts (d : Document) (key? : Option String) : (fuel : Nat) → (index : Nat) → Items →
    Result (List String × Items)
  | 0, _, _ => .error .endOfText
  | fuel + 1, index, items => do
    match (← next d items).1 with
    | .sequenceEnd => return ([], items.tail)
    | _ =>
      let (text, items) ← readText d (.item key? index) .text items
      let (texts, items) ← readTexts d key? fuel (index + 1) items
      return (text :: texts, items)

/-- An empty scalar without quotes, which stands for an empty collection too. -/
def isEmptyPlain : Item → Bool
  | .scalar s => s.text == "" && s.isPlain
  | .void => true
  | _ => false

/-- The texts of a sequence, and the events after it. -/
def readSequence (d : Document) (key? : Option String) (items : Items) :
    Result (List String × Items) := do
  let n ← nextNode d items
  match n.item with
  | .sequenceStart =>
    let (texts, rest) ← readTexts d key? (n.inside.length + 1) 0 n.inside
    return (texts, n.after rest)
  | _ =>
    if isEmptyPlain n.item then return ([], n.after n.inside)
    else refuse (.at key?) .sequence n.item n.position

/-- A scalar leaves a setting open if it is null. `top` is where the settings start, the place
of the complaint about a scalar that should be null and is not. -/
def leavesOpen (top : Position) : Item → Result Bool
  | .scalar s =>
    if !s.isPlain then .ok false
    else
      match s.tag? with
      | none => .ok (s.text == "" || Value.spellsNull s.text)
      | some tag =>
        -- A tag for null demands one of its spellings; any other tag keeps the text.
        if tag ≠ Value.coreTag "null" then .ok false
        else if Value.spellsNull s.text then .ok true
        else .error (.complaint .top (.wrongValue ⟨s.text, "null"⟩) top)
  | .void => .ok true
  | _ => .ok false

/-- What `read` reads of a node, unless the node leaves the setting open. -/
def readOptional {α : Type} (d : Document) (top : Position)
    (read : Items → Result (α × Items)) (items : Items) : Result (Option α × Items) := do
  let n ← nextNode d items
  if ← leavesOpen top n.item then return (none, n.after n.inside)
  let (value, rest) ← read items
  return (some value, rest)

/-- The events after a node. `depth` says how many collections are open. -/
def skipNode (d : Document) : (depth : Nat) → Items → Result Items
  | _, [] => (next d []).map fun _ => []
  | depth, (item, _) :: rest =>
    let depth := match item with
      | .sequenceStart | .mappingStart => depth + 1
      | .sequenceEnd | .mappingEnd => depth - 1
      | _ => depth
    if depth = 0 then .ok rest else skipNode d depth rest

/-- A layer while it is read. A setting that has been said may still be open. -/
structure Reading where
  /-- The settings so far. -/
  layer : Layer := {}
  /-- The settings that have been said. -/
  said : List Setting := []

/-- Read the value of a setting into the layer. -/
def readSetting (d : Document) (top : Position) (key? : Option String) (setting : Setting)
    (layer : Layer) (items : Items) : Result (Layer × Items) := do
  match setting with
  | .bazel =>
    let (value, rest) ← readOptional d top (readText d (.at key?) .text) items
    return ({ layer with bazel := value }, rest)
  | .bazelFlags =>
    let (value, rest) ← readOptional d top (readSequence d key?) items
    return ({ layer with bazelFlags := value }, rest)
  | .targets =>
    let (value, rest) ← readOptional d top (readSequence d key?) items
    return ({ layer with targets := value }, rest)

/-- The entries up to the end of the mapping that starts at `top`. Every entry takes an event,
so `fuel` does not run out before the events do. -/
def readEntries (d : Document) (top : Position) : (fuel : Nat) → Reading → Items → Result Layer
  | 0, _, _ => .error .endOfText
  | fuel + 1, r, items => do
    let (item, _, _) ← next d items
    match item with
    | .mappingEnd => return r.layer
    | _ =>
      let (key, items) ← readText d .top .key items
      let key? := match item with
        | .scalar s => some s.text
        | _ => none
      match Setting.ofKey? key with
      -- The value of an unknown key may be anything, but it has to be there.
      | none => readEntries d top fuel r (← skipNode d 0 items)
      | some setting =>
        -- A key is refused when it comes a second time, before its value is looked at.
        if setting ∈ r.said then throw (.complaint .top (.duplicate setting) top)
        let (layer, items) ← readSetting d top key? setting r.layer items
        readEntries d top fuel ⟨layer, setting :: r.said⟩ items

/-- The layer of a document. -/
def ofDocument (d : Document) : Result Layer := do
  let n ← nextNode d d.items
  let layer ← match n.item with
    | .mappingStart => readEntries d n.position (n.inside.length + 1) {} n.inside
    | _ => if isEmptyPlain n.item then pure {} else refuse .top .layer n.item n.position
  match d.failure? with
  | some f => throw (.failure f)
  -- A second document is noticed only once the first has been read without a fault.
  | none => if d.isFollowed then throw .severalDocuments else return layer

/-- The layer of a text. A blank text is the empty layer. -/
def ofText (text : String) : Result Layer :=
  if Text.trim text = "" then .ok {} else ofDocument (Document.ofText text)

end Settings

end CompileCommands.Config
