import CompileCommands.Shell.Source

/-!
# Reading words

A word goes up to a blank, a line end or an operator. Inside it quotes keep text as it is, and
a dollar sign or a backquote stands for a value. The commands inside a word are read by a
reader that is handed in.
-/

namespace CompileCommands.Shell

open Reader

/-- Where parts of words stand. -/
inductive Context where
  /-- In a word. -/
  | bare
  /-- Between double quotes. -/
  | quotes
  /-- Between the braces of a parameter. -/
  | braces (quoted : Bool)
  /-- In an arithmetic expression, between as many parentheses. -/
  | sum (depth : Nat)
  /-- In a here-document. -/
  | document
  deriving DecidableEq, Repr

namespace Context

/-- Text there is quoted. -/
def isQuoted : Context → Bool
  | bare => false
  | braces quoted => quoted
  | _ => true

/-- The complaint about an end that does not come. -/
def unclosed? : Context → Option String
  | bare | document => none
  | quotes => some "Unterminated quoted string"
  | braces _ => some "Missing '\x7d'"
  | sum _ => some "Missing '))'"

/-- The characters that a backslash takes the meaning from. -/
def escapable : Context → List Char
  | quotes => "$`\"\\".toList
  | braces _ => "$`\"\\\x7d".toList
  | _ => "$`\\".toList

/-- The character means more than itself there. -/
def isActive (context : Context) (c : Char) : Bool :=
  "$`\\".toList.contains c ||
    match context with
    | bare => " \t\n;&|<>()'\"".toList.contains c
    | quotes => c = '"'
    | braces quoted => c = '\x7d' || c = '"' || (c = '\'' && !quoted)
    | sum _ => c = '(' || c = ')' || c = '"'
    | document => false

end Context

/-- The character ends a word. -/
def endsWord (c : Char) : Bool :=
  " \t\n;&|<>()".toList.contains c

/-- The text between backquotes, with the backslashes taken that keep it from ending, and the
rest after it. -/
def untilBackquote (quoted : Bool) : List Char → Option (List Char × List Char)
  | [] => none
  | '`' :: rest => some ([], rest)
  | '\\' :: c :: rest =>
    let kept := if "$`\\".toList.contains c ∨ (quoted ∧ c = '"') then [c] else ['\\', c]
    (untilBackquote quoted rest).map fun (text, after) => (kept ++ text, after)
  | c :: rest => (untilBackquote quoted rest).map fun (text, after) => (c :: text, after)

/-- The use of a parameter that an operator asks for. -/
def useOf? (operator : Char) (emptyToo : Bool) (word : Word) : Option Use :=
  match operator with
  | '-' => some (.orElse emptyToo word)
  | '=' => some (.orAssign emptyToo word)
  | '?' => some (.orFail emptyToo word)
  | '+' => some (.ifSet emptyToo word)
  | _ => none

section Readers

variable (commands : (closed : Bool) → Reader Command) (parts : Context → Reader Word)

/-- Read the use of a parameter up to the closing brace. -/
def readUse (name : String) (quoted : Bool) : Reader Part := do
  let malformed : Reader Part := do
    discard (parts (.braces quoted))
    return .malformed
  match ← ahead? 0, ← ahead? 1 with
  | some '\x7d', _ =>
    skip 1
    return .parameter name .value quoted
  | some ':', some operator =>
    if "-=?+".toList.contains operator then
      skip 2
      let word ← parts (.braces quoted)
      return .parameter name ((useOf? operator true word).getD .value) quoted
    else malformed
  | some c, next =>
    if "-=?+".toList.contains c then
      skip 1
      let word ← parts (.braces quoted)
      return .parameter name ((useOf? c false word).getD .value) quoted
    else if c = '%' ∨ c = '#' then
      let longest := next = some c
      skip (if longest then 2 else 1)
      return .parameter name (.without (c = '%') longest (← parts (.braces false))) quoted
    else malformed
  | none, _ => malformed

/-- Read a parameter after its opening brace. -/
def readBraces (quoted : Bool) : Reader Part := do
  match (← get).rest with
  | [] => complain "Missing '\x7d'"
  | c :: rest =>
    if isNameChar c then
      let name ← span (if c.isDigit then Char.isDigit else isNameChar)
      readUse parts name quoted
    else if c = '#' ∧ rest.head?.any isNameChar then
      skip 1
      let name ← span isNameChar
      if (← ahead? 0) = some '\x7d' then
        skip 1
        return .parameter name .length quoted
      discard (parts (.braces quoted))
      return .malformed
    else if c = '#' ∧ rest.head? ≠ some '\x7d' ∧ rest[1]? = some '\x7d' then
      skip 3
      if rest.head?.any isSpecialParameter then
        return .parameter (String.ofList (rest.take 1)) .length quoted
      else return .malformed
    else if isSpecialParameter c then
      skip 1
      readUse parts (String.singleton c) quoted
    else
      discard (parts (.braces quoted))
      return .malformed

/-- Read what follows a dollar sign. -/
def readDollar (quoted : Bool) : Reader Part := do
  match (← get).rest with
  | '(' :: '(' :: _ =>
    skip 2
    return .sum (← parts (.sum 0)) quoted
  | '(' :: _ =>
    skip 1
    let awaited := (← get).awaited
    modify ({ · with awaited := [] })
    let command ← commands true
    modify ({ · with awaited })
    return .output command quoted
  | '\x7b' :: _ =>
    skip 1
    readBraces parts quoted
  | c :: _ =>
    if isSpecialParameter c || c.isDigit then
      skip 1
      return .parameter (String.singleton c) .value quoted
    else if isNameChar c then return .parameter (← span isNameChar) .value quoted
    else return .text "$" quoted
  | [] => return .text "$" quoted

/-- Read what follows a backquote. -/
def readBackquote (quoted : Bool) : Reader Part := do
  let source ← get
  match untilBackquote quoted source.rest with
  | none => complain "EOF in backquote substitution"
  | some (text, after) =>
    skip (source.rest.length - after.length)
    return .output (← within text 1 (commands false)) quoted

end Readers

/-- Read parts up to the end of their context, which is taken too unless it ends a word. Every
step takes a character, so `fuel` does not run out. -/
def readParts (commands : (closed : Bool) → Reader Command) :
    (fuel : Nat) → Context → Reader Word
  | 0, _ => complain "Input too long"
  | fuel + 1, context => do
    let more (context : Context) : Reader Word := readParts commands fuel context
    let quoted := context.isQuoted
    match (← get).rest with
    | [] =>
      match context.unclosed? with
      | some complaint => complain complaint
      | none => return []
    | c :: rest =>
      if !context.isActive c then
        let text ← span (!context.isActive ·)
        return (← more context).prepend text quoted
      else if c = '$' then
        skip 1
        match ← readDollar commands more quoted with
        | .text text _ => return (← more context).prepend text quoted
        | part => return part :: (← more context)
      else if c = '`' then
        skip 1
        let part ← readBackquote commands quoted
        return part :: (← more context)
      else if c = '\\' then
        match rest with
        | [] =>
          skip 1
          return (← more context).prepend "\\" quoted
        | '\n' :: _ =>
          skip 2
          more context
        | d :: _ =>
          skip 2
          if quoted ∧ !context.escapable.contains d then
            return (← more context).prepend (String.ofList ['\\', d]) true
          else return (← more context).prepend (String.singleton d) true
      else if c = '\'' then
        skip 1
        let text ← span (· ≠ '\'')
        if (← ahead? 0).isNone then complain "Unterminated quoted string"
        skip 1
        return (← more context).prepend text true
      else if c = '"' then
        skip 1
        if context = .quotes then return []
        let inside ← more .quotes
        let after ← more context
        if inside.isEmpty then return after.prepend "" true else return inside ++ after
      else
        match context with
        | .sum depth =>
          if c = '(' then
            skip 1
            return (← more (.sum (depth + 1))).prepend "(" true
          else if depth = 0 ∧ rest.head? = some ')' then
            skip 2
            return []
          else
            skip 1
            return (← more (.sum (depth - 1))).prepend ")" true
        | .bare => return []
        | _ =>
          skip 1
          return []

end CompileCommands.Shell
