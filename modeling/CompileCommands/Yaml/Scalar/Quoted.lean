import CompileCommands.Yaml.Scalar.Gap

/-!
# Quoted scalars

Between single quotes a quote is written twice and nothing else is special. Between double
quotes a backslash starts an escape: one letter, a code of two, four or eight hexadecimal
digits, or a line end that disappears.
-/

namespace CompileCommands.Yaml.Quoted

/-- What a one-letter escape stands for. -/
def escapeLetter? : Char → Option Char
  | '0' => some '\x00'
  | 'a' => some '\x07'
  | 'b' => some '\x08'
  | 't' => some '\t'
  | '\t' => some '\t'
  | 'n' => some '\n'
  | 'v' => some '\x0B'
  | 'f' => some '\x0C'
  | 'r' => some '\r'
  | 'e' => some '\x1B'
  | ' ' => some ' '
  | '"' => some '"'
  | '/' => some '/'
  | '\\' => some '\\'
  | 'N' => some '\u0085'
  | '_' => some '\u00A0'
  | 'L' => some '\u2028'
  | 'P' => some '\u2029'
  | _ => none

/-- How many digits follow the letter of a code. -/
def codeLength? : Char → Option Nat
  | 'x' => some 2
  | 'u' => some 4
  | 'U' => some 8
  | _ => none

/-- The character with a code. -/
def ofCode? (code : Nat) : Option Char :=
  if code.isValidChar then some (Char.ofNat code) else none

/-- What is being read inside the quotes. -/
inductive Phase where
  /-- Words, with a gap after the last one. -/
  | words (gap : Gap)
  /-- The digits of a code that starts at `start`: `left` of them are to come, and those so far
  make up `value`. -/
  | code (start : Position) (left value : Nat)
  deriving Repr

/-- An error in a scalar that starts at `start`. -/
def refuse {α : Type} (start : Position) (during : Activity) (what : Fault)
    (position : Position) : Except SyntaxError α :=
  .error (.fault what position (some (during, start)))

/-- Read on between the quotes `quote`, with the words `words`, last character first. -/
def read (quote : Char) (start : Position) (words : List Char) (phase : Phase)
    (position : Position) : List Char → Except SyntaxError (List Char × Cursor)
  | [] =>
    match phase with
    | .words _ => refuse start .quotedScalar .unclosedQuotes position
    | .code begin .. => refuse start .quotedEscape .noHexDigit begin
  | c :: rest =>
    match phase with
    | .code begin left value =>
      match hexValue? c with
      | none => refuse start .quotedEscape .noHexDigit begin
      | some digit =>
        let value := 16 * value + digit
        if 1 < left then
          read quote start words (.code begin (left - 1) value) (position.next c) rest
        else
          match ofCode? value with
          | some char => read quote start (char :: words) (.words .none) (position.next c) rest
          | none => refuse start .quotedEscape .badEscapeCode begin
    | .words gap =>
      if isBlank c then read quote start words (.words (gap.addBlank c)) (position.next c) rest
      else if isBreak c then
        match c, rest with
        | '\r', '\n' :: rest =>
          read quote start words (.words (gap.addBreak ['\n']))
            (position.nextLine ['\r', '\n']) rest
        | _, rest =>
          read quote start words (.words (gap.addBreak (breakText c)))
            (position.nextLine [c]) rest
      else if position.column = 0 ∧ startsWithDocumentMark (c :: rest) then
        refuse start .quotedScalar .documentMarkInQuotes position
      else
        let words := gap.fold.reverse ++ words
        if c = quote then
          match rest with
          | d :: more =>
            if c = '\'' ∧ d = '\'' then
              read quote start ('\'' :: words) (.words .none) (position.advance [c, d]) more
            else .ok (words.reverse, ⟨rest, position.next c⟩)
          | [] => .ok (words.reverse, ⟨[], position.next c⟩)
        else if c = '\\' ∧ quote = '"' then
          match rest with
          | [] => refuse start .quotedEscape .unknownEscape position
          -- A line end after a backslash disappears, with the blanks that follow it.
          | '\r' :: '\n' :: more =>
            read quote start words (.words (.breaks [] []))
              (position.nextLine [c, '\r', '\n']) more
          | d :: more =>
            if isBreak d then
              read quote start words (.words (.breaks [] [])) (position.nextLine [c, d]) more
            else
              match escapeLetter? d, codeLength? d with
              | some char, _ =>
                read quote start (char :: words) (.words .none) (position.advance [c, d]) more
              | none, some digits =>
                read quote start words (.code (position.advance [c, d]) digits 0)
                  (position.advance [c, d]) more
              | none, none => refuse start .quotedEscape .unknownEscape position
        else read quote start (c :: words) (.words .none) (position.next c) rest

/-- The text of the quoted scalar at a cursor that stands before its opening quote, and the
cursor after it. -/
def scan (cursor : Cursor) : Except SyntaxError (List Char × Cursor) :=
  match cursor.rest with
  | quote :: rest => read quote cursor.position [] (.words .none) (cursor.position.next quote) rest
  | [] => refuse cursor.position .quotedScalar .unclosedQuotes cursor.position

end CompileCommands.Yaml.Quoted
