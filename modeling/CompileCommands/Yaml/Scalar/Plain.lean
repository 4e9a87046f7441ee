import CompileCommands.Yaml.Scalar.Gap

/-!
# Plain scalars

A scalar without quotes. It ends before a colon that a space follows, before a comment, before
a document mark and, in block context, before a line that is indented too little; in flow
context it also ends before a flow indicator.
-/

namespace CompileCommands.Yaml.Plain

/-- Where a plain scalar is read. -/
structure Setting where
  /-- A flow collection is open. -/
  inFlow : Bool
  /-- How far the lines of the scalar are indented at least. -/
  indentation : Int
  /-- Where the scalar starts. -/
  start : Position
  deriving Repr

/-- A plain scalar, and what follows it. -/
structure Result where
  /-- The text of the scalar. -/
  text : List Char
  /-- The place after its last word. -/
  stop : Position
  /-- The cursor before what follows. -/
  cursor : Cursor
  /-- A line end stands between the last word and what follows. -/
  endsInBreak : Bool
  deriving Repr

/-- The character separates the parts of flow collections. -/
def isFlowIndicator (c : Char) : Bool :=
  c == ',' || c == '[' || c == ']' || c == '\x7b' || c == '\x7d'

/-- No word starts or continues with `c`, which `rest` follows. -/
def endsScalar (inFlow : Bool) (c : Char) (rest : List Char) : Bool :=
  (c == ':' &&
    match rest with
    | d :: _ => isBlank d || isBreak d
    | [] => true) ||
  (inFlow && isFlowIndicator c)

/-- In flow context, a colon must not stand right before a flow indicator. -/
def isBadColon (inFlow : Bool) (c : Char) (rest : List Char) : Bool :=
  inFlow && c == ':' &&
    match rest with
    | d :: _ => isFlowIndicator d || d == '?'
    | [] => false

/-- A scalar stops at the first character after a gap. -/
def stopsAfterGap (s : Setting) (position : Position) (cs : List Char) : Bool :=
  (!s.inFlow && (position.column : Int) < s.indentation) ||
    (position.column == 0 && startsWithDocumentMark cs) || cs.head? == some '#'

/-- The scalar of some words, kept last character first, the last of which ends at `stop`. -/
def ended (words : List Char) (gap : Gap) (stop : Position) (cursor : Cursor) : Result :=
  ⟨words.reverse, stop, cursor, gap.hasBreak⟩

/-- Read on with the words `words`, the last of which ends at `stop`, and the gap after it.
The words are kept last character first. -/
def read (s : Setting) (words : List Char) (gap : Gap) (stop position : Position) :
    List Char → Except SyntaxError Result
  | [] => .ok (ended words gap stop ⟨[], position⟩)
  | '\r' :: '\n' :: rest =>
    read s words (gap.addBreak ['\n']) stop (position.nextLine ['\r', '\n']) rest
  | c :: rest =>
    if isBlank c then
      -- A tab may separate words on a line, but may not indent one.
      if gap.hasBreak && c == '\t' && (position.column : Int) < s.indentation then
        .error (.fault .tabBeforePlain position (some (.plainScalar, s.start)))
      else read s words (gap.addBlank c) stop (position.next c) rest
    else if isBreak c then
      read s words (gap.addBreak (breakText c)) stop (position.nextLine [c]) rest
    else if gap ≠ .none ∧ stopsAfterGap s position (c :: rest) then
      .ok (ended words gap stop ⟨c :: rest, position⟩)
    else if isBadColon s.inFlow c rest then
      .error (.fault .unexpectedColon position (some (.plainScalar, s.start)))
    else if endsScalar s.inFlow c rest then .ok (ended words gap stop ⟨c :: rest, position⟩)
    else read s (c :: (gap.fold.reverse ++ words)) .none (position.next c) (position.next c) rest

/-- The plain scalar at a cursor inside a block that is indented by `indent`. -/
def scan (inFlow : Bool) (indent : Int) (cursor : Cursor) : Except SyntaxError Result :=
  read ⟨inFlow, indent + 1, cursor.position⟩ [] .none cursor.position cursor.position cursor.rest

end CompileCommands.Yaml.Plain
