import CompileCommands.Yaml.Event

/-!
# YAML documents

A document is the list of its nodes' events, with every alias resolved to the event at which
the named node starts. A name is numbered by how many different names came before it, and an
alias leads to the last node with its number; giving one name to two nodes can therefore make
it share a number with a later name.
-/

namespace CompileCommands.Yaml

/-- A scalar of a document. -/
structure Scalar where
  /-- The tag, if there is one. -/
  tag? : Option TagOctets
  /-- The text. -/
  text : String
  /-- The scalar is written without quotes and not as a block. -/
  isPlain : Bool
  deriving DecidableEq, Repr

/-- One event of a document. -/
inductive Item where
  /-- The node whose name has a number. -/
  | reference (number : Nat)
  /-- A scalar. -/
  | scalar (scalar : Scalar)
  /-- A sequence begins. -/
  | sequenceStart
  /-- A sequence is over. -/
  | sequenceEnd
  /-- A mapping begins. -/
  | mappingStart
  /-- A mapping is over. -/
  | mappingEnd
  /-- The text has no document. -/
  | void
  deriving DecidableEq, Repr

/-- Why a document goes no further. -/
inductive Failure where
  /-- The text is no YAML. -/
  | syntaxError (error : SyntaxError)
  /-- An alias names no node. -/
  | unknownAnchor (position : Position)
  deriving DecidableEq, Repr

/-- The text of a failure. -/
def Failure.message : Failure → String
  | syntaxError e => e.message
  | unknownAnchor position => "unknown anchor" ++ position.placeText

/-- The first document of a text. -/
structure Document where
  /-- The events and their places, up to the first failure. -/
  items : List (Item × Position)
  /-- The indices of the events at which the numbered nodes start. -/
  anchors : List (Nat × Nat) := []
  /-- Why the document goes no further. -/
  failure? : Option Failure := none
  /-- More follows after the document. -/
  isFollowed : Bool := false
  deriving Repr

namespace Document

/-- What is known while a document is read. -/
structure Reading where
  /-- How many events have been read. -/
  count : Nat := 0
  /-- The names and their numbers. -/
  names : List (String × Nat) := []
  /-- The indices of the events at which the numbered nodes start. -/
  anchors : List (Nat × Nat) := []

/-- The reading after an event at which a node with a name may start. -/
def Reading.nodeStart (r : Reading) : Option String → Reading
  | none => { r with count := r.count + 1 }
  | some name =>
    let number := r.names.length
    { count := r.count + 1
      names := (name, number) :: r.names.filter (·.1 ≠ name)
      anchors := (number, r.count) :: r.anchors }

/-- The document in front of which some items stand. -/
def prepend (item : Item × Position) (d : Document) : Document :=
  { d with items := item :: d.items }

/-- The document that the events make up, with what stands before known as `r`. -/
def ofEvents (error? : Option SyntaxError) (r : Reading) : List (Event × Position) → Document
  | [] =>
    { items := [], anchors := r.anchors, failure? := error?.map .syntaxError }
  | (event, place) :: rest =>
    match event with
    | .documentStart => ofEvents error? r rest
    | .documentEnd =>
      { items := [], anchors := r.anchors, isFollowed := !rest.isEmpty || error?.isSome }
    | .reference name =>
      match r.names.lookup name with
      | some number => prepend (.reference number, place) (ofEvents error? (r.nodeStart none) rest)
      | none => { items := [], anchors := r.anchors, failure? := some (.unknownAnchor place) }
    | .scalar anchor? tag? text style =>
      prepend (.scalar ⟨tag?, text, style == .plain⟩, place)
        (ofEvents error? (r.nodeStart anchor?) rest)
    | .sequenceStart anchor? =>
      prepend (.sequenceStart, place) (ofEvents error? (r.nodeStart anchor?) rest)
    | .sequenceEnd => prepend (.sequenceEnd, place) (ofEvents error? (r.nodeStart none) rest)
    | .mappingStart anchor? =>
      prepend (.mappingStart, place) (ofEvents error? (r.nodeStart anchor?) rest)
    | .mappingEnd => prepend (.mappingEnd, place) (ofEvents error? (r.nodeStart none) rest)

/-- The first document of a text. A text without any holds nothing. -/
def ofText (text : String) : Document :=
  let stream := Event.scan text
  if stream.events.isEmpty && stream.error?.isNone then { items := [(.void, {})] }
  else ofEvents stream.error? {} stream.events

/-- The items from the start of the node with a number on. -/
def target (d : Document) (number : Nat) : List (Item × Position) :=
  match d.anchors.lookup number with
  | some index => d.items.drop index
  | none => []

end Document

end CompileCommands.Yaml
