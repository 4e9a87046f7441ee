import CompileCommands.Yaml.Scalar.Block
import CompileCommands.Yaml.Scalar.Plain
import CompileCommands.Yaml.Scalar.Quoted
import CompileCommands.Yaml.Token.Tag

/-!
# Tokens of a text

The lexer reads a text token by token. Block collections have no brackets; their start and
end follow from the indentation. That a scalar is a key is known only when its colon comes,
and then the tokens for the key and for the mapping that it may start are put in before it. So
a token is handed on only when no key can begin at it any more.
-/

namespace CompileCommands.Yaml

/-- A token at which a key may begin. -/
structure Candidate where
  /-- The number of the token. -/
  number : Nat
  /-- The text is wrong if no key begins there. -/
  required : Bool
  /-- Where the token starts. -/
  position : Position
  deriving DecidableEq, Repr

/-- A character that no text may hold. Texts are read in blocks, and the character comes to light
with the block in which it stands. -/
structure Flaw where
  /-- How many octets come before the character. -/
  offset : Nat
  /-- How many octets come before the block. -/
  block : Nat
  deriving DecidableEq, Repr

/-- What the lexer knows between two tokens. -/
structure Lexer where
  /-- What is left of the text. -/
  cursor : Cursor
  /-- The indentation of the innermost block collection; negative outside of all. -/
  indent : Int := -1
  /-- The indentations of the collections around it, innermost first. -/
  outer : List Int := []
  /-- A key may begin at the next token. -/
  keyAllowed : Bool := true
  /-- The candidate of each flow collection, innermost first, and of the block around them
  last. -/
  candidates : List (Option Candidate) := [none]
  /-- The tokens that wait to be handed on. -/
  queue : List Token.Located := []
  /-- How many tokens have been handed on. -/
  handedOn : Nat := 0
  /-- The first character that no text may hold. -/
  flaw? : Option Flaw := none
  deriving Repr

namespace Lexer

/-- The result of a step. -/
abbrev Step := Except SyntaxError

/-- A flow collection is open. -/
def inFlow (s : Lexer) : Bool :=
  1 < s.candidates.length

/-- Where the lexer stands. -/
def position (s : Lexer) : Position := s.cursor.position

/-- Append a token. -/
def push (s : Lexer) (token : Token) (start stop : Position) : Lexer :=
  { s with queue := s.queue ++ [⟨token, start, stop⟩] }

/-- Put a token in before the token with a number, or at the end. -/
def insert (s : Lexer) (number? : Option Nat) (token : Token) (place : Position) : Lexer :=
  let index := match number? with
    | some number => number - s.handedOn
    | none => s.queue.length
  { s with queue := s.queue.take index ++ ⟨token, place, place⟩ :: s.queue.drop index }

/-- Some characters from the cursor on are read, which brings the blocks to light in which they
stand. -/
def reach (s : Lexer) (count : Nat) : Step Unit :=
  match s.flaw? with
  | some flaw =>
    if flaw.block < s.position.index + count then .error (.controlCharacter flaw.offset)
    else .ok ()
  | none => .ok ()

/-- The error of a required key without a colon. -/
def missingColon {α : Type} (s : Lexer) (c : Candidate) : Step α :=
  .error (.fault .noColonAfterKey s.position (some (.simpleKey, c.position)))

/-- Drop the innermost candidate. -/
def dropCandidate (s : Lexer) : Step Lexer :=
  match s.candidates with
  | some c :: rest =>
    if c.required then s.missingColon c else .ok { s with candidates := none :: rest }
  | _ => .ok s

/-- Make the next token the innermost candidate, if a key may begin there. A key is required
where a line of a block collection begins. -/
def saveCandidate (s : Lexer) : Step Lexer := do
  if !s.keyAllowed then return s
  -- What starts a line of a block mapping can be nothing but a key.
  let required := !s.inFlow && s.indent == (s.position.column : Int)
  let number := s.handedOn + s.queue.length
  let s ← s.dropCandidate
  return { s with candidates := some ⟨number, required, s.position⟩ :: s.candidates.tail }

/-- A key ends on the line on which it begins, within 1024 octets. -/
def isStale (s : Lexer) (c : Candidate) : Bool :=
  c.position.line < s.position.line || c.position.index + 1024 < s.position.index

/-- Drop the candidates that no colon can complete, the outermost first. -/
def dropStale (s : Lexer) : Step Lexer := do
  let candidates ← s.candidates.reverse.mapM fun candidate? =>
    match candidate? with
    | some c =>
      if s.isStale c then if c.required then s.missingColon c else .ok none else .ok (some c)
    | none => .ok none
  return { s with candidates := candidates.reverse }

/-- Close the block collections that are indented deeper than `column`. -/
def closeBlocks (column : Int) (place : Position) :
    (indent : Int) → (outer : List Int) → (closed : List Token.Located) →
      Int × List Int × List Token.Located
  | indent, [], closed => (indent, [], closed)
  | indent, next :: outer, closed =>
    if column < indent then
      closeBlocks column place next outer (closed ++ [⟨.blockEnd, place, place⟩])
    else (indent, next :: outer, closed)

/-- Close the block collections that are indented deeper than `column`. In flow context
indentation does not count. -/
def unindent (s : Lexer) (column : Int) : Lexer :=
  if s.inFlow then s
  else
    let (indent, outer, closed) := closeBlocks column s.position s.indent s.outer []
    { s with indent, outer, queue := s.queue ++ closed }

/-- Open a block collection if `place` is indented deeper than the innermost one. -/
def indentTo (s : Lexer) (number? : Option Nat) (token : Token) (place : Position) : Lexer :=
  if !s.inFlow && s.indent < (place.column : Int) then
    { s.insert number? token place with indent := place.column, outer := s.indent :: s.outer }
  else s

/-- Read on to the next token: past blanks, comments and line ends. In block context tabs are
blanks only where no key may begin, and a key may begin on every new line. -/
def readToToken (inFlow keyAllowed inComment : Bool) (position : Position) :
    List Char → Bool × Cursor
  | [] => (keyAllowed, ⟨[], position⟩)
  | '\r' :: '\n' :: rest =>
    readToToken inFlow (keyAllowed || !inFlow) false (position.nextLine ['\r', '\n']) rest
  | c :: rest =>
    if isBreak c then
      readToToken inFlow (keyAllowed || !inFlow) false (position.nextLine [c]) rest
    else if inComment || c == ' ' || (c == '\t' && (inFlow || !keyAllowed)) ||
        (c == '\uFEFF' && position.column == 0) then
      readToToken inFlow keyAllowed inComment (position.next c) rest
    else if c == '#' then readToToken inFlow keyAllowed true (position.next c) rest
    else (keyAllowed, ⟨c :: rest, position⟩)

/-- The lexer before the next token. -/
def toToken (s : Lexer) : Lexer :=
  let (keyAllowed, cursor) :=
    readToToken s.inFlow s.keyAllowed false s.position s.cursor.rest
  { s with keyAllowed, cursor }

/-- The lexer after a token of `width` characters. -/
def takeToken (s : Lexer) (token : Token) (width : Nat) : Lexer :=
  let after := s.cursor.skip width
  { s.push token s.position after.position with cursor := after }

/-- The lexer after a token that has been read. -/
def took (s : Lexer) (found : Token.Located × Cursor) : Lexer :=
  { s with queue := s.queue ++ [found.1], cursor := found.2 }

/-- The error of a token that stands where it may not. -/
def misplaced {α : Type} (s : Lexer) (what : Fault) : Step α :=
  .error (.fault what s.position none)

/-- The end of the text closes everything, on a line of its own. -/
def readEnd (s : Lexer) : Step Lexer := do
  let place := s.position
  let place :=
    -- The text ends on a line of its own, whether or not its last line does.
    if place.column = 0 then place else { place with line := place.line + 1, column := 0 }
  let s := { s with cursor := ⟨[], place⟩ }.unindent (-1)
  let s ← s.dropCandidate
  return { s with keyAllowed := false }

/-- A directive. -/
def readDirective (s : Lexer) : Step Lexer := do
  let s ← (s.unindent (-1)).dropCandidate
  let found ← Tag.scanDirective s.cursor
  return { s with keyAllowed := false }.took found

/-- The mark for the start or the end of a document. -/
def readDocumentMark (s : Lexer) (token : Token) : Step Lexer := do
  let s ← (s.unindent (-1)).dropCandidate
  return { s with keyAllowed := false }.takeToken token 3

/-- The opening bracket of a flow collection. -/
def readFlowStart (s : Lexer) (token : Token) : Step Lexer := do
  let s ← s.saveCandidate
  return { s with candidates := none :: s.candidates, keyAllowed := true }.takeToken token 1

/-- The closing bracket of a flow collection. -/
def readFlowEnd (s : Lexer) (token : Token) : Step Lexer := do
  let s ← s.dropCandidate
  -- A bracket that closes nothing is a token all the same; the grammar refuses it.
  let candidates := if s.inFlow then s.candidates.tail else s.candidates
  return { s with candidates, keyAllowed := false }.takeToken token 1

/-- A comma. -/
def readFlowEntry (s : Lexer) : Step Lexer := do
  let s ← s.dropCandidate
  return { s with keyAllowed := true }.takeToken .flowEntry 1

/-- The dash of a block sequence. -/
def readBlockEntry (s : Lexer) : Step Lexer := do
  if !s.inFlow && !s.keyAllowed then s.misplaced .misplacedBlockEntry
  let s ← (s.indentTo none .blockSequenceStart s.position).dropCandidate
  return { s with keyAllowed := true }.takeToken .blockEntry 1

/-- The question mark of a key. -/
def readKey (s : Lexer) : Step Lexer := do
  if !s.inFlow && !s.keyAllowed then s.misplaced .misplacedKey
  let s ← (s.indentTo none .blockMappingStart s.position).dropCandidate
  return { s with keyAllowed := !s.inFlow }.takeToken .key 1

/-- The colon of a value. -/
def readValue (s : Lexer) : Step Lexer := do
  match s.candidates with
  | some c :: rest =>
    -- The candidate turns out to be a key: its tokens go in before what has been read since.
    let s := s.insert (some c.number) .key c.position
    let s := s.indentTo (some c.number) .blockMappingStart c.position
    return { s with candidates := none :: rest, keyAllowed := false }.takeToken .value 1
  | _ =>
    -- A colon of its own is the value of an empty key.
    if !s.inFlow && !s.keyAllowed then s.misplaced .misplacedValue
    let s := s.indentTo none .blockMappingStart s.position
    return { s with keyAllowed := !s.inFlow }.takeToken .value 1

/-- An anchor or an alias. -/
def readAnchor (s : Lexer) (isAlias : Bool) : Step Lexer := do
  let s ← s.saveCandidate
  let found ← Tag.scanAnchor isAlias s.cursor
  return { s with keyAllowed := false }.took found

/-- A tag. -/
def readTag (s : Lexer) : Step Lexer := do
  let s ← s.saveCandidate
  let found ← Tag.scan s.inFlow s.cursor
  return { s with keyAllowed := false }.took found

/-- A block scalar. -/
def readBlockScalar (s : Lexer) (style : Style) : Step Lexer := do
  let s ← s.dropCandidate
  let (text, stop, after) ← Block.scan (style == .literal) s.indent s.cursor
  return { s with keyAllowed := true }.took
    (⟨.scalar (String.ofList text) style, s.position, stop⟩, after)

/-- A quoted scalar. -/
def readQuoted (s : Lexer) (style : Style) : Step Lexer := do
  let s ← s.saveCandidate
  let (text, after) ← Quoted.scan s.cursor
  return { s with keyAllowed := false }.took
    (⟨.scalar (String.ofList text) style, s.position, after.position⟩, after)

/-- A plain scalar. -/
def readPlain (s : Lexer) : Step Lexer := do
  let s ← s.saveCandidate
  let found ← Plain.scan s.inFlow s.indent s.cursor
  return { s with keyAllowed := found.endsInBreak }.took
    (⟨.scalar (String.ofList found.text) .plain, s.position, found.stop⟩, found.cursor)

/-- The characters that start tokens of their own. -/
def isIndicator (c : Char) : Bool :=
  "-?:,[]\x7b\x7d#&*!|>'\"%@`".toList.contains c

/-- A plain scalar starts at the cursor. -/
def atPlain (s : Lexer) (c : Char) : Bool :=
  !(isBlank c || isBreak c || isIndicator c) ||
    (c == '-' && !(s.cursor.ahead? 1).any isBlank) ||
    (!s.inFlow && (c == '?' || c == ':') && !s.cursor.spaceAhead 1)

/-- Read the token that starts with `c` at the cursor. -/
def readToken (s : Lexer) (c : Char) : Step Lexer :=
  let atLineStart := s.position.column == 0
  let spaceNext := s.cursor.spaceAhead 1
  if atLineStart && c == '%' then s.readDirective
  else if atLineStart && startsWithMark '-' s.cursor.rest then s.readDocumentMark .documentStart
  else if atLineStart && startsWithMark '.' s.cursor.rest then s.readDocumentMark .documentEnd
  else if c == '[' then s.readFlowStart .flowSequenceStart
  else if c == '\x7b' then s.readFlowStart .flowMappingStart
  else if c == ']' then s.readFlowEnd .flowSequenceEnd
  else if c == '\x7d' then s.readFlowEnd .flowMappingEnd
  else if c == ',' then s.readFlowEntry
  else if c == '-' && spaceNext then s.readBlockEntry
  else if c == '?' && (s.inFlow || spaceNext) then s.readKey
  else if c == ':' && (s.inFlow || spaceNext) then s.readValue
  else if c == '*' then s.readAnchor true
  else if c == '&' then s.readAnchor false
  else if c == '!' then s.readTag
  else if c == '|' && !s.inFlow then s.readBlockScalar .literal
  else if c == '>' && !s.inFlow then s.readBlockScalar .folded
  else if c == '\'' then s.readQuoted .singleQuoted
  else if c == '"' then s.readQuoted .doubleQuoted
  else if s.atPlain c then s.readPlain
  else .error (.fault .noTokenStart s.position (some (.nextToken, s.position)))

/-- Read the next token, with what it closes and opens. -/
def read (s : Lexer) : Step Lexer := do
  let s := s.toToken
  s.reach 1
  let s := (← s.dropStale).unindent s.position.column
  s.reach 4
  match s.cursor.rest with
  | [] => s.readEnd
  | c :: _ =>
    let s ← s.readToken c
    s.reach 1
    return s

/-- A key may begin at the first token that waits. -/
def isHeld (s : Lexer) : Bool :=
  s.candidates.any fun candidate? => candidate?.any (·.number == s.handedOn)

/-- Hand tokens of the queue on, as long as no key may begin at them. -/
def release (s : Lexer) : List Token.Located → List Token.Located × Lexer
  | [] => ([], { s with queue := [] })
  | t :: queue =>
    if s.isHeld then ([], { s with queue := t :: queue })
    else
      let (out, s) := release { s with handedOn := s.handedOn + 1 } queue
      (t :: out, s)

/-- The tokens that follow. Every token but the last takes a character, so `fuel` does not run
out. -/
def stream : (fuel : Nat) → Lexer → Token.Stream
  | 0, s => .finish s.position
  | fuel + 1, s =>
    -- The token at the end of the text is the last one.
    let isOver := s.toToken.cursor.rest.isEmpty
    match s.read.bind dropStale with
    | .error e => .failed e
    | .ok s =>
      let (out, next) := s.release s.queue
      let rest := if isOver then .finish next.position else stream fuel next
      out.foldr Token.Stream.next rest

end Lexer

/-- No text may hold the character. -/
def isControl (c : Char) : Bool :=
  let n := c.toNat
  !(n == 0x09 || n == 0x0A || n == 0x0D || (0x20 ≤ n && n ≤ 0x7E) || n == 0x85 ||
    (0xA0 ≤ n && n ≤ 0xD7FF) || (0xE000 ≤ n && n ≤ 0xFFFD) || (0x10000 ≤ n && n ≤ 0x10FFFF))

/-- How many octets of a text are read at once. -/
def blockSize : Nat := 16384

/-- The first character that no text may hold, in a block that starts after `block` octets and
of which the characters after `offset` octets are left. No character is in two blocks. -/
def firstFlaw? (block offset : Nat) : List Char → Option Flaw
  | [] => none
  | c :: rest =>
    let block := if block + blockSize < offset + c.utf8Size then offset else block
    if isControl c then some ⟨offset, block⟩ else firstFlaw? block (offset + c.utf8Size) rest

/-- The tokens of a text. -/
def Token.scan (text : String) : Token.Stream :=
  Lexer.stream (text.toList.length + 2)
    { cursor := .ofText text, flaw? := firstFlaw? 0 0 text.toList }

end CompileCommands.Yaml
