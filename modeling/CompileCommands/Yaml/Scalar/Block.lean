import CompileCommands.Yaml.SyntaxError

/-!
# Block scalars

A scalar that takes up indented lines of its own: a literal one keeps its line ends, a folded
one joins neighbouring lines with a space. A header says how the line ends at the end are
treated and how far the lines are indented; without that the first line with text decides.
-/

namespace CompileCommands.Yaml.Block

/-- What happens to the line ends at the end of a scalar. -/
inductive Chomping where
  /-- All of them are dropped. -/
  | strip
  /-- The first is kept. -/
  | clip
  /-- All of them are kept. -/
  | keep
  deriving DecidableEq, Repr

/-- The header of a block scalar. -/
structure Header where
  /-- What happens to the line ends at the end. -/
  chomping : Chomping
  /-- How much deeper than the surrounding block the lines are indented, if that is said. -/
  increment? : Option Nat
  deriving Repr

/-- An error in a scalar that starts at `start`. -/
def refuse {α : Type} (start : Position) (what : Fault) (position : Position) :
    Except SyntaxError α :=
  .error (.fault what position (some (.blockScalar, start)))

/-- The sign for chomping at a cursor, if there is one, and the cursor after it. -/
def takeChomping (c : Cursor) : Option Chomping × Cursor :=
  if c.isAt '+' then (some .keep, c.skip 1)
  else if c.isAt '-' then (some .strip, c.skip 1)
  else (none, c)

/-- The digit for indentation at a cursor, if there is one, and the cursor after it. -/
def takeIncrement (start : Position) (c : Cursor) :
    Except SyntaxError (Option Nat × Cursor) :=
  match c.ahead? 0 with
  | some d =>
    if d = '0' then refuse start .zeroIndentation c.position
    else if d.isDigit then .ok (some (d.toNat - 0x30), c.skip 1)
    else .ok (none, c)
  | none => .ok (none, c)

/-- The header after the indicator, and the cursor at the start of the next line. The two
signs may come in either order. -/
def takeHeader (start : Position) (c : Cursor) : Except SyntaxError (Header × Cursor) := do
  let (early?, c) := takeChomping c
  let (increment?, c) ← takeIncrement start c
  let (late?, c) := if early?.isNone && increment?.isSome then takeChomping c else (none, c)
  let c := c.skipWhile isBlank
  let c := if c.isAt '#' then c.skipWhile (!isBreak ·) else c
  if !c.atLineEnd then refuse start .noLineEnd c.position
  return (⟨(early?.or late?).getD .clip, increment?⟩, c.skipBreak)

/-- Empty lines, and the cursor before the text of the line after them. -/
structure Leading where
  /-- What the line ends stand for. -/
  breaks : List Char
  /-- The place after the last of the line ends. -/
  stop : Position
  /-- How far the deepest of the lines is indented. -/
  deepest : Nat
  /-- The cursor before the first character that is neither indentation nor a line end. -/
  cursor : Cursor
  deriving Repr

/-- Read empty lines on, in a scalar that is indented by `indent`, or by an unknown amount if
that is zero. -/
def readLeading (start : Position) (indent : Nat) (breaks : List Char) (stop : Position)
    (deepest : Nat) (position : Position) : List Char → Except SyntaxError Leading
  | [] => .ok ⟨breaks, stop, max deepest position.column, ⟨[], position⟩⟩
  | '\r' :: '\n' :: rest =>
    let after := position.nextLine ['\r', '\n']
    readLeading start indent (breaks ++ ['\n']) after (max deepest position.column) after rest
  | c :: rest =>
    let shallow := indent = 0 ∨ position.column < indent
    if shallow ∧ c = ' ' then readLeading start indent breaks stop deepest (position.next c) rest
    else if shallow ∧ c = '\t' then refuse start .tabInIndentation position
    else if isBreak c then
      let after := position.nextLine [c]
      readLeading start indent (breaks ++ breakText c) after (max deepest position.column)
        after rest
    else .ok ⟨breaks, stop, max deepest position.column, ⟨c :: rest, position⟩⟩

/-- The empty lines at a cursor. -/
def takeLeading (start : Position) (indent : Nat) (c : Cursor) : Except SyntaxError Leading :=
  readLeading start indent [] c.position 0 c.position c.rest

/-- What of a scalar has been read. -/
structure Progress where
  /-- The text so far, last character first. -/
  text : List Char
  /-- What the end of the last line stands for. -/
  lineEnd : List Char
  /-- What the ends of the empty lines after it stand for. -/
  breaks : List Char
  /-- The last line starts with a blank. -/
  afterBlank : Bool
  /-- The place after the last line end. -/
  stop : Position
  deriving Repr

/-- What stands between the text so far and a line that starts with a blank or does not. A
folded scalar joins two lines that start with text. -/
def Progress.gap (literal : Bool) (p : Progress) (startsBlank : Bool) : List Char :=
  if !literal && p.lineEnd == ['\n'] && !p.afterBlank && !startsBlank then
    if p.breaks = [] then [' '] else p.breaks
  else p.lineEnd ++ p.breaks

/-- The text so far with one more line, last character first. -/
def Progress.add (literal : Bool) (p : Progress) (startsBlank : Bool) (line : List Char) :
    List Char :=
  line.reverse ++ (p.gap literal startsBlank).reverse ++ p.text

/-- Read lines on that are indented by `indent`. Every line takes a character, so `fuel` does
not run out. -/
def readLines (literal : Bool) (start : Position) (indent : Nat) :
    (fuel : Nat) → Progress → Cursor → Except SyntaxError (Progress × Cursor)
  | 0, p, c => .ok (p, c)
  | fuel + 1, p, c => do
    if c.position.column ≠ indent ∨ c.rest = [] then return (p, c)
    let startsBlank := (c.ahead? 0).any isBlank
    let (line, atEnd) := c.span (!isBreak ·)
    let (lineEnd, next) := atEnd.takeBreak
    let leading ← takeLeading start indent next
    readLines literal start indent fuel
      { text := p.add literal startsBlank line, lineEnd, breaks := leading.breaks
        afterBlank := startsBlank, stop := leading.stop }
      leading.cursor

/-- The text of a scalar whose last line has been read. -/
def Progress.chomp (chomping : Chomping) (p : Progress) : List Char :=
  p.text.reverse ++
    match chomping with
    | .strip => []
    | .clip => p.lineEnd
    | .keep => p.lineEnd ++ p.breaks

/-- The indentation of a scalar inside a block that is indented by `parent`. -/
def indentation (parent : Int) (header : Header) (deepest : Nat) : Nat :=
  match header.increment? with
  | some increment => (max parent 0).toNat + increment
  | none => max deepest (max (parent + 1).toNat 1)

/-- The text of the block scalar at a cursor that stands before its indicator, the place after
it, and the cursor after it. -/
def scan (literal : Bool) (parent : Int) (cursor : Cursor) :
    Except SyntaxError (List Char × Position × Cursor) := do
  let start := cursor.position
  let (header, c) ← takeHeader start (cursor.skip 1)
  -- Without a digit the deepest of the empty lines in front has a say in the indentation.
  let known := if header.increment?.isSome then indentation parent header 0 else 0
  let leading ← takeLeading start known c
  let indent := indentation parent header leading.deepest
  let (p, c) ← readLines literal start indent (leading.cursor.rest.length + 1)
    { text := [], lineEnd := [], breaks := leading.breaks, afterBlank := false
      stop := leading.stop }
    leading.cursor
  return (p.chomp header.chomping, p.stop, c)

end CompileCommands.Yaml.Block
