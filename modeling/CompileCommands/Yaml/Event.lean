import CompileCommands.Yaml.Token.Lexer

/-!
# Events of a YAML text

Events say what nodes a text holds: scalars, aliases, and where collections begin and end.
The grammar makes them of the tokens one at a time, so the events before a syntax error are
known. It keeps a stack of the constructs that are still open.
-/

namespace CompileCommands.Yaml

/-- What a text holds next. -/
inductive Event where
  /-- A document begins. -/
  | documentStart
  /-- A document is over. -/
  | documentEnd
  /-- The node with a name. -/
  | reference (name : String)
  /-- A scalar. -/
  | scalar (anchor? : Option String) (tag? : Option TagOctets) (text : String) (style : Style)
  /-- A sequence begins. -/
  | sequenceStart (anchor? : Option String)
  /-- A sequence is over. -/
  | sequenceEnd
  /-- A mapping begins. -/
  | mappingStart (anchor? : Option String)
  /-- A mapping is over. -/
  | mappingEnd
  deriving DecidableEq, Repr

namespace Event

/-- What may come next in the text. -/
inductive Expectation where
  /-- A document, with or without a mark at its start. -/
  | firstDocument
  /-- A document with a mark at its start, or the end of the text. -/
  | document
  /-- The content of a document whose mark has been read. -/
  | documentContent
  /-- The end of a document. -/
  | documentEnd
  /-- A node in block context. -/
  | blockNode
  /-- The opening of a block sequence. -/
  | blockSequenceStart
  /-- An entry of a block sequence. -/
  | blockSequenceEntry
  /-- An entry of a sequence that is indented like the mapping around it. -/
  | flatSequenceEntry
  /-- The opening of a block mapping. -/
  | blockMappingStart
  /-- A key of a block mapping. -/
  | blockMappingKey
  /-- A value of a block mapping. -/
  | blockMappingValue
  /-- The opening of a flow sequence. -/
  | flowSequenceStart
  /-- An entry of a flow sequence. -/
  | flowSequenceEntry
  /-- The key of a mapping of one pair in a flow sequence. -/
  | pairKey
  /-- The value of a mapping of one pair. -/
  | pairValue
  /-- The end of a mapping of one pair. -/
  | pairEnd
  /-- The opening of a flow mapping. -/
  | flowMappingStart
  /-- A key of a flow mapping. -/
  | flowMappingKey
  /-- A value of a flow mapping. -/
  | flowMappingValue
  /-- The missing value of a flow mapping. -/
  | flowMappingNoValue
  /-- Nothing: the text is over. -/
  | nothing
  deriving DecidableEq, Repr

/-- What the grammar knows between two events. -/
structure Grammar where
  /-- The tokens that are left. -/
  tokens : Token.Stream
  /-- What comes next. -/
  expected : Expectation := .firstDocument
  /-- What comes after that, innermost first. -/
  pending : List Expectation := []
  /-- Where the open collections with brackets or indentation start, innermost first. -/
  starts : List Position := []
  /-- What tag handles stand for in the document. -/
  tagDirectives : List (TagOctets × TagOctets) := []
  deriving Repr

namespace Grammar

/-- An event with its place, and the grammar after it. -/
abbrev Step := Except SyntaxError ((Event × Position) × Grammar)

/-- The next token with its place, if the text is not over; then its end. -/
structure Peek where
  /-- The token, or nothing at the end of the text. -/
  token? : Option Token
  /-- Where the token starts. -/
  start : Position
  /-- Where the token ends. -/
  stop : Position

/-- The next token. -/
def peek (g : Grammar) : Except SyntaxError Peek :=
  match g.tokens with
  | .next t _ => .ok ⟨some t.token, t.start, t.stop⟩
  | .finish position => .ok ⟨none, position, position⟩
  | .failed e => .error e

/-- The grammar after the next token. -/
def drop (g : Grammar) : Grammar :=
  match g.tokens with
  | .next _ rest => { g with tokens := rest }
  | _ => g

/-- The grammar that goes on with what is pending. -/
def resume (g : Grammar) : Grammar :=
  match g.pending with
  | e :: rest => { g with expected := e, pending := rest }
  | [] => { g with expected := .nothing }

/-- The grammar that comes back to `later` after what comes next. -/
def later (g : Grammar) (later : Expectation) : Grammar :=
  { g with pending := later :: g.pending }

/-- The grammar that expects `next`. -/
def expect (g : Grammar) (next : Expectation) : Grammar :=
  { g with expected := next }

/-- The next token is `token`. -/
def Peek.is (p : Peek) (token : Token) : Bool := p.token? == some token

/-- The next token is one of some tokens. -/
def Peek.isAnyOf (p : Peek) (tokens : List Token) : Bool := tokens.any p.is

/-- An empty scalar at a place. -/
def emptyScalar (g : Grammar) (place : Position) : Step :=
  .ok ((.scalar none none "" .plain, place), g)

/-- An error while reading a collection. -/
def refuse {α : Type} (g : Grammar) (during : Activity) (what : Fault) (place : Position) :
    Except SyntaxError α :=
  .error (.fault what place (some (during, g.starts.headD place)))

/-- The innermost collection is over. -/
def close (g : Grammar) (event : Event) (place : Position) : Step :=
  .ok ((event, place), { g.drop.resume with starts := g.starts.tail })

/-- The grammar after the opening token of a collection. -/
def opened (g : Grammar) : Except SyntaxError Grammar := do
  return { g.drop with starts := (← g.peek).start :: g.starts }

/-! ## Documents -/

/-- What tag handles stand for without directives. -/
def defaultTagDirectives : List (TagOctets × TagOctets) :=
  [([0x21], [0x21]), ([0x21, 0x21], Text.Utf8.encode "tag:yaml.org,2002:")]

/-- The directives, with the default ones for the handles that have none. -/
def withDefaults (directives : List (TagOctets × TagOctets)) : List (TagOctets × TagOctets) :=
  directives ++ defaultTagDirectives.filter fun d => !directives.any (·.1 == d.1)

/-- Read directives. `versioned` says that a version directive has been read. -/
def readDirectives (versioned : Bool) (directives : List (TagOctets × TagOctets)) :
    Token.Stream → Except SyntaxError (List (TagOctets × TagOctets) × Token.Stream)
  | .next t rest =>
    match t.token with
    | .versionDirective major minor =>
      if versioned then .error (.fault .duplicateVersion t.start none)
      else if major ≠ 1 ∨ (minor ≠ 1 ∧ minor ≠ 2) then
        .error (.fault .incompatibleVersion t.start none)
      else readDirectives true directives rest
    | .tagDirective handle stem =>
      if directives.any (·.1 == handle) then
        .error (.fault .duplicateTagDirective t.start none)
      else readDirectives versioned (directives ++ [(handle, stem)]) rest
    | _ => .ok (withDefaults directives, .next t rest)
  | .finish position => .ok (withDefaults directives, .finish position)
  | .failed e => .error e

/-- The tokens without marks for the end of a document in front. -/
def skipDocumentEnds : Token.Stream → Token.Stream
  | .next t rest =>
    match t.token with
    | .documentEnd => skipDocumentEnds rest
    | _ => .next t rest
  | other => other

/-- The token opens a document with a mark at its start. -/
def opensDocument : Token → Bool
  | .versionDirective .. | .tagDirective .. | .documentStart => true
  | _ => false

/-- A document, or the end of the text. -/
def readDocument (g : Grammar) (isFirst : Bool) : Except SyntaxError
    (Option (Event × Position) × Grammar) := do
  -- Only a later document may have marks for the end of the one before in front of it.
  let g := if isFirst then g else { g with tokens := skipDocumentEnds g.tokens }
  let p ← g.peek
  match p.token? with
  | none => return (none, g.expect .nothing)
  | some token =>
    if isFirst && !opensDocument token then
      return (some (.documentStart, p.start),
        { g with tagDirectives := withDefaults [] }.later .documentEnd |>.expect .blockNode)
    let (tagDirectives, tokens) ← readDirectives false [] g.tokens
    let g := { g with tagDirectives, tokens }
    let next ← g.peek
    if !next.is .documentStart then .error (.fault .noDocumentStart next.start none)
    return (some (.documentStart, p.start), (g.drop.later .documentEnd).expect .documentContent)

/-- The end of a document. -/
def readDocumentEnd (g : Grammar) : Step := do
  let p ← g.peek
  let g := if p.is .documentEnd then g.drop else g
  return ((.documentEnd, p.start), { g with tagDirectives := [] }.expect .document)

/-! ## Nodes -/

/-- The properties of a node. -/
structure Properties where
  /-- The name of the node. -/
  anchor? : Option String := none
  /-- The handle and the suffix of its tag, and where the tag starts. -/
  tag? : Option (TagOctets × TagOctets × Position) := none

/-- The properties in front of a node, at most one of each, in either order. -/
def takeProperties (g : Grammar) : Except SyntaxError (Properties × Grammar) := do
  let p ← g.peek
  match p.token? with
  | some (.anchor name) =>
    let g := g.drop
    let q ← g.peek
    match q.token? with
    | some (.tag handle suffix) => return (⟨some name, some (handle, suffix, q.start)⟩, g.drop)
    | _ => return (⟨some name, none⟩, g)
  | some (.tag handle suffix) =>
    let g := g.drop
    let q ← g.peek
    match q.token? with
    | some (.anchor name) => return (⟨some name, some (handle, suffix, p.start)⟩, g.drop)
    | _ => return (⟨none, some (handle, suffix, p.start)⟩, g)
  | _ => return ({}, g)

/-- The tag of a node with some properties. -/
def tagOf (g : Grammar) (start : Position) (properties : Properties) :
    Except SyntaxError (Option TagOctets) :=
  match properties.tag? with
  | none => .ok none
  | some ([], suffix, _) => .ok (some suffix)
  | some (handle, suffix, place) =>
    match g.tagDirectives.find? (·.1 == handle) with
    | some (_, stem) => .ok (some (stem ++ suffix))
    | none => .error (.fault .undefinedTagHandle place (some (.node, start)))

/-- A node. `inBlock` says that block collections may come, and `flat` that the entries of a
sequence may come without indentation. -/
def readNode (g : Grammar) (inBlock flat : Bool) : Step := do
  let start := (← g.peek).start
  match (← g.peek).token? with
  | some (.reference name) => return ((.reference name, start), g.drop.resume)
  | _ =>
    let (properties, g) ← g.takeProperties
    let p ← g.peek
    let tag? ← g.tagOf start properties
    let anchor? := properties.anchor?
    match p.token? with
    | some .blockEntry =>
      if flat then
        return ((.sequenceStart anchor?, start), g.expect .flatSequenceEntry)
    | some (.scalar text style) =>
      return ((.scalar anchor? tag? text style, start), g.drop.resume)
    | some .flowSequenceStart =>
      return ((.sequenceStart anchor?, start), g.expect .flowSequenceStart)
    | some .flowMappingStart =>
      return ((.mappingStart anchor?, start), g.expect .flowMappingStart)
    | some .blockSequenceStart =>
      if inBlock then
        return ((.sequenceStart anchor?, start), g.expect .blockSequenceStart)
    | some .blockMappingStart =>
      if inBlock then
        return ((.mappingStart anchor?, start), g.expect .blockMappingStart)
    | _ => pure ()
    -- Properties alone make an empty node.
    if anchor?.isSome ∨ tag?.isSome then
      return ((.scalar anchor? tag? "" .plain, start), g.resume)
    .error (.fault .noNodeContent p.start
      (some (if inBlock then .blockNode else .flowNode, start)))

/-- The content of a document. -/
def readDocumentContent (g : Grammar) : Step := do
  let p ← g.peek
  match p.token? with
  | none | some .documentEnd => g.resume.emptyScalar p.start
  | some token =>
    if opensDocument token then g.resume.emptyScalar p.start else g.readNode true false

/-! ## Block collections -/

/-- An entry of a block sequence. -/
def readBlockSequenceEntry (g : Grammar) : Step := do
  let p ← g.peek
  if p.is .blockEntry then
    let g := g.drop
    if (← g.peek).isAnyOf [.blockEntry, .blockEnd] then
      (g.expect .blockSequenceEntry).emptyScalar p.stop
    else (g.later .blockSequenceEntry).readNode true false
  else if p.is .blockEnd then g.close .sequenceEnd p.start
  else g.refuse .blockSequence .noEntryIndicator p.start

/-- An entry of a sequence that is indented like the mapping around it. -/
def readFlatSequenceEntry (g : Grammar) : Step := do
  let p ← g.peek
  if p.is .blockEntry then
    let g := g.drop
    if (← g.peek).isAnyOf [.blockEntry, .key, .value, .blockEnd] then
      (g.expect .flatSequenceEntry).emptyScalar p.stop
    else (g.later .flatSequenceEntry).readNode true false
  else return ((.sequenceEnd, p.start), g.resume)

/-- A key of a block mapping. -/
def readBlockMappingKey (g : Grammar) : Step := do
  let p ← g.peek
  if p.is .key then
    let g := g.drop
    if (← g.peek).isAnyOf [.key, .value, .blockEnd] then
      (g.expect .blockMappingValue).emptyScalar p.stop
    else (g.later .blockMappingValue).readNode true true
  else if p.is .blockEnd then g.close .mappingEnd p.start
  else g.refuse .blockMapping .noMappingKey p.start

/-- A value of a block mapping. -/
def readBlockMappingValue (g : Grammar) : Step := do
  let p ← g.peek
  if p.is .value then
    let g := g.drop
    if (← g.peek).isAnyOf [.key, .value, .blockEnd] then
      (g.expect .blockMappingKey).emptyScalar p.stop
    else (g.later .blockMappingKey).readNode true true
  else (g.expect .blockMappingKey).emptyScalar p.start

/-! ## Flow collections -/

/-- The grammar after the comma that every entry but the first needs. -/
def takeComma (g : Grammar) (isFirst : Bool) (during : Activity) (what : Fault) :
    Except SyntaxError Grammar := do
  if isFirst then return g
  let p ← g.peek
  if p.is .flowEntry then return g.drop
  g.refuse during what p.start

/-- An entry of a flow sequence. -/
def readFlowSequenceEntry (g : Grammar) (isFirst : Bool) : Step := do
  let p ← g.peek
  if p.is .flowSequenceEnd then return ← g.close .sequenceEnd p.start
  let g ← g.takeComma isFirst .flowSequence .noSequenceComma
  let p ← g.peek
  if p.is .key then return ((.mappingStart none, p.start), g.drop.expect .pairKey)
  else if p.is .flowSequenceEnd then g.close .sequenceEnd p.start
  else (g.later .flowSequenceEntry).readNode false false

/-- The key of a mapping of one pair. Where there is none, the token in its place is passed
over. -/
def readPairKey (g : Grammar) : Step := do
  let p ← g.peek
  if p.isAnyOf [.value, .flowEntry, .flowSequenceEnd] then
    (g.drop.expect .pairValue).emptyScalar p.stop
  else (g.later .pairValue).readNode false false

/-- The value of a mapping of one pair. -/
def readPairValue (g : Grammar) : Step := do
  let p ← g.peek
  if p.is .value then
    let g := g.drop
    let q ← g.peek
    if q.isAnyOf [.flowEntry, .flowSequenceEnd] then (g.expect .pairEnd).emptyScalar q.start
    else (g.later .pairEnd).readNode false false
  else (g.expect .pairEnd).emptyScalar p.start

/-- The end of a mapping of one pair. -/
def readPairEnd (g : Grammar) : Step := do
  return ((.mappingEnd, (← g.peek).start), g.expect .flowSequenceEntry)

/-- A key of a flow mapping. -/
def readFlowMappingKey (g : Grammar) (isFirst : Bool) : Step := do
  let p ← g.peek
  if p.is .flowMappingEnd then return ← g.close .mappingEnd p.start
  let g ← g.takeComma isFirst .flowMapping .noMappingComma
  let p ← g.peek
  if p.is .key then
    let g := g.drop
    let q ← g.peek
    if q.isAnyOf [.value, .flowEntry, .flowMappingEnd] then
      (g.expect .flowMappingValue).emptyScalar q.start
    else (g.later .flowMappingValue).readNode false false
  else if p.is .flowMappingEnd then g.close .mappingEnd p.start
  else (g.later .flowMappingNoValue).readNode false false

/-- A value of a flow mapping. -/
def readFlowMappingValue (g : Grammar) : Step := do
  let p ← g.peek
  if p.is .value then
    let g := g.drop
    let q ← g.peek
    if q.isAnyOf [.flowEntry, .flowMappingEnd] then
      (g.expect .flowMappingKey).emptyScalar q.start
    else (g.later .flowMappingKey).readNode false false
  else (g.expect .flowMappingKey).emptyScalar p.start

/-! ## Events -/

/-- The next event, if the text is not over. -/
def read (g : Grammar) : Except SyntaxError (Option (Event × Position) × Grammar) :=
  let some_ (step : Step) := step.map fun (e, g) => (some e, g)
  match g.expected with
  | .firstDocument => g.readDocument true
  | .document => g.readDocument false
  | .documentContent => some_ g.readDocumentContent
  | .documentEnd => some_ g.readDocumentEnd
  | .blockNode => some_ (g.readNode true false)
  | .blockSequenceStart => some_ (g.opened.bind readBlockSequenceEntry)
  | .blockSequenceEntry => some_ g.readBlockSequenceEntry
  | .flatSequenceEntry => some_ g.readFlatSequenceEntry
  | .blockMappingStart => some_ (g.opened.bind readBlockMappingKey)
  | .blockMappingKey => some_ g.readBlockMappingKey
  | .blockMappingValue => some_ g.readBlockMappingValue
  | .flowSequenceStart => some_ (g.opened.bind (readFlowSequenceEntry · true))
  | .flowSequenceEntry => some_ (g.readFlowSequenceEntry false)
  | .pairKey => some_ g.readPairKey
  | .pairValue => some_ g.readPairValue
  | .pairEnd => some_ g.readPairEnd
  | .flowMappingStart => some_ (g.opened.bind (readFlowMappingKey · true))
  | .flowMappingKey => some_ (g.readFlowMappingKey false)
  | .flowMappingValue => some_ g.readFlowMappingValue
  | .flowMappingNoValue => do
    some_ ((g.expect .flowMappingKey).emptyScalar (← g.peek).start)
  | .nothing => .ok (none, g)

end Grammar

/-- Events up to the end of the text, or up to the first error. -/
structure Stream where
  /-- The events and their places. -/
  events : List (Event × Position)
  /-- The error after the last event. -/
  error? : Option SyntaxError
  deriving Repr

/-- The next events, at most `fuel` of them. -/
def streamOf : (fuel : Nat) → Grammar → Stream
  | 0, _ => ⟨[], none⟩
  | fuel + 1, g =>
    match g.read with
    | .error e => ⟨[], some e⟩
    | .ok (none, _) => ⟨[], none⟩
    | .ok (some e, g) =>
      let rest := streamOf fuel g
      ⟨e :: rest.events, rest.error?⟩

end Event

/-- How many tokens a stream has. -/
def Token.Stream.length : Token.Stream → Nat
  | .next _ rest => rest.length + 1
  | _ => 0

/-- The events of a text. A token gives rise to five events at most: the start and the end of a
mapping or a sequence, a key, a value and the end of a document. -/
def Event.scan (text : String) : Event.Stream :=
  let tokens := Token.scan text
  Event.streamOf (5 * (tokens.length + 1)) { tokens }

end CompileCommands.Yaml
