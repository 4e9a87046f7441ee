import CompileCommands.Shell.Word

/-!
# Reading scripts

A script is read one line of commands at a time, each of which is run before the next is read.
Lists, choices and loops are read by descent, with at most one token put back.
-/

namespace CompileCommands.Shell

open Reader

/-! ## Tokens -/

/-- The operators, longer ones first. -/
def operators : List String :=
  ["&&", "||", ";;", ";", "&", "|", "(", ")"]

/-- The operators of redirections, longer ones first. -/
def redirectionOperators : List String :=
  ["<<-", "<<", "<&", "<>", "<", ">>", ">&", ">|", ">"]

/-- The first of some texts that the characters start with. -/
def opening? (texts : List String) (cs : List Char) : Option String :=
  texts.find? fun text => text.toList.isPrefixOf cs

/-- The lines of a here-document, and the text after the line that ends it. -/
def documentLines (awaited : AwaitedDocument) : (count : Nat) → List Char →
    List Char × List Char
  | 0, cs => ([], cs)
  | _ + 1, [] => ([], [])
  | n + 1, cs =>
    -- Tabs in front go before the line is compared with the delimiter.
    let cs := if awaited.indented then cs.dropWhile (· = '\t') else cs
    let line := cs.takeWhile (· ≠ '\n')
    let after := (cs.drop line.length)
    if String.ofList line = awaited.delimiter then ([], after.drop 1)
    else
      let (lines, rest) := documentLines awaited n (after.drop 1)
      (line ++ after.take 1 ++ lines, rest)

section Readers

variable (commands : (closed : Bool) → Reader Command)

/-- Read parts up to the end of their context. -/
def readContext (context : Context) : Reader Word := do
  readParts commands ((← get).rest.length + 2) context

/-- Read the text of a here-document. -/
def readDocument (awaited : AwaitedDocument) : Reader Unit := do
  let source ← get
  let (text, rest) := documentLines awaited (source.rest.length + 1) source.rest
  let word ←
    if awaited.expands then within text source.line (readContext commands .document)
    else pure [.text (String.ofList text) true]
  skip (source.rest.length - rest.length)
  modify fun source => { source with documents := (awaited.number, word) :: source.documents }

/-- Read the here-documents whose texts follow. -/
def readDocuments : Reader Unit := do
  let awaited := (← get).awaited
  modify ({ · with awaited := [] })
  awaited.forM (readDocument commands)

/-- Skip blanks, comments and line ends that a backslash takes back. -/
def skipBlanks : (count : Nat) → Reader Unit
  | 0 => return
  | n + 1 => do
    match (← get).rest with
    | '\\' :: '\n' :: _ =>
      skip 2
      skipBlanks n
    | '#' :: _ => discard (span (· ≠ '\n'))
    | c :: _ =>
      if isBlank c then
        skip 1
        skipBlanks n
    | [] => return

/-- Read the next token, whatever it means. -/
def readToken : Reader Token := do
  let source ← get
  match source.pushed with
  | some token =>
    set { source with pushed := none }
    return token
  | none =>
    skipBlanks (source.rest.length + 1)
    match (← get).rest with
    | [] => return .finish
    | '\n' :: _ =>
      skip 1
      readDocuments commands
      return .lineEnd
    | c :: rest =>
      -- A digit right before an operator is a descriptor, and a word of its own otherwise.
      let (descriptor?, cs) :=
        if c.isDigit then (some (c.toNat - 0x30), rest) else (none, c :: rest)
      match opening? redirectionOperators cs, opening? operators (c :: rest) with
      | some operator, _ =>
        skip ((if descriptor?.isSome then 1 else 0) + operator.length)
        let usual := if operator.startsWith "<" then 0 else 1
        return .redirection (descriptor?.getD usual) operator
      | none, some operator =>
        skip operator.length
        return .operator operator
      | none, none => return .word (← readContext commands .bare)

/-- The next token where commands may start: a word may be a reserved one. -/
def readReserved : Reader Token := do
  match ← readToken commands with
  | .word word =>
    match Word.plain? word with
    | some text => return if reservedWords.contains text then .reserved text else .word word
    | none => return .word word
  | token => return token

/-- The next token after any line ends. -/
def readPastLines : (count : Nat) → Reader Token
  | 0 => readReserved commands
  | n + 1 => do
    match ← readReserved commands with
    | .lineEnd => readPastLines n
    | token => return token

/-- The next token after any line ends, where commands may start. -/
def readStart : Reader Token := do
  readPastLines commands ((← get).rest.length + 1)

/-- Read a certain token. -/
def expect (isIt : Token → Bool) (expecting : String) (token : Token) : Reader Unit := do
  if !isIt token then refuse token (some expecting)

/-- Read a certain reserved word. -/
def expectReserved (text : String) : Reader Unit := do
  expect (·.isReserved text) ("\"" ++ text ++ "\"") (← readStart commands)

/-- Read what a redirection leads to. -/
def readRedirection (descriptor : Nat) (operator : String) : Reader Redirection := do
  match ← readToken commands with
  | .word word =>
    match operator with
    | "<" => return .file descriptor .read word
    | ">>" => return .file descriptor .append word
    | ">|" => return .file descriptor .overwrite word
    | "<>" => return .file descriptor .both word
    | "<&" | ">&" => return .copy descriptor word
    | "<<" | "<<-" =>
      -- The text of the document follows after the end of the line, so the command only names it.
      let number := (← get).count
      let awaited : AwaitedDocument :=
        { number, delimiter := Word.unquoted word, expands := !Word.isQuoted word
          indented := operator = "<<-" }
      modify fun source =>
        { source with count := number + 1, awaited := source.awaited ++ [awaited] }
      return .document descriptor number
    | _ => return .file descriptor .write word
  | token => refuse token none

/-- Read the redirections that follow a command. -/
def readRedirections : (count : Nat) → Reader (List Redirection)
  | 0 => return []
  | n + 1 => do
    match ← readReserved commands with
    | .redirection descriptor operator =>
      let redirection ← readRedirection commands descriptor operator
      return redirection :: (← readRedirections n)
    | token =>
      push token
      return []

/-- The assignment that a word is, if it is one. -/
def assignment? : Word → Option (String × Word)
  | .text text false :: parts =>
    let name := text.toList.takeWhile isNameChar
    match text.toList.drop name.length with
    | '=' :: value =>
      if !isName (String.ofList name) then none
      else some (String.ofList name,
        if value = [] then parts else .text (String.ofList value) false :: parts)
    | _ => none
  | _ => none

/-- What of a simple command has been read, everything with the last one first. -/
structure SimpleReading where
  /-- The assignments. -/
  assignments : List (String × Word) := []
  /-- The words. -/
  words : List Word := []
  /-- The redirections. -/
  redirections : List Redirection := []

/-- The commands of the shell that no function may be named after. -/
def specialBuiltins : List String :=
  [".", ":", "break", "continue", "eval", "exec", "exit", "export", "readonly", "return", "set",
    "shift", "times", "trap", "unset"]

/-- The name of the function that is being defined. -/
def functionName (word : Word) : Reader String := do
  match Word.plain? word with
  | some name =>
    if !isName name || specialBuiltins.contains name then complain "Bad function name"
    return name
  | none => complain "Bad function name"

/-- Read a simple command, or the definition of a function, whose body `body` reads. -/
def readSimple (body : Reader Command) (line : Nat) : (count : Nat) → SimpleReading →
    Reader Command
  | 0, _ => complain "Input too long"
  | n + 1, reading => do
    match ← readToken commands, reading with
    | .word word, _ =>
      match assignment? word, reading.words with
      | some assignment, [] =>
        readSimple body line n
          { reading with assignments := assignment :: reading.assignments }
      | _, _ => readSimple body line n { reading with words := word :: reading.words }
    | .redirection descriptor operator, _ =>
      let redirection ← readRedirection commands descriptor operator
      readSimple body line n { reading with redirections := redirection :: reading.redirections }
    -- One word and an opening parenthesis define a function.
    | .operator "(", ⟨[], [word], []⟩ =>
      expect (·.isOperator ")") "\")\"" (← readToken commands)
      let name ← functionName word
      return .function name (← body)
    | token, _ =>
      push token
      return .simple line reading.assignments.reverse reading.words.reverse
        reading.redirections.reverse

/-- Read the words of a loop. -/
def readWords : (count : Nat) → Reader (List Word)
  | 0 => return []
  | n + 1 => do
    match ← readToken commands with
    | .word word => return word :: (← readWords n)
    | .lineEnd => return []
    | .operator ";" => return []
    | token => refuse token none

/-- Read the patterns of a clause up to the parenthesis after them. -/
def readPatterns : (count : Nat) → Token → Reader (List Word)
  | 0, _ => return []
  | n + 1, token => do
    let pattern : Word := match token with
      | .word word => word
      | .reserved text => [.text text false]
      | _ => []
    match ← readToken commands with
    | .operator "|" => return pattern :: (← readPatterns n (← readToken commands))
    | token =>
      expect (·.isOperator ")") "\")\"" token
      return [pattern]

end Readers

/-! ## Commands -/

/-- How a list of commands ends. -/
inductive ListKind where
  /-- At the end of the line. -/
  | line
  /-- At a token that ends a list, but not before the first command. -/
  | required
  /-- At a token that ends a list. -/
  | optional
  deriving DecidableEq, Repr

/-- A command after some others. -/
def Command.after (first : Option Command) (second : Command) : Command :=
  match first with
  | some first => .sequence first second
  | none => second

mutual

/-- Read a list of commands inside a word. -/
def readNested : (fuel : Nat) → (closed : Bool) → Reader Command
  | 0, _ => complain "Input too long"
  | fuel + 1, closed => do
    let command ← readList fuel .optional none
    let token ← readToken (readNested fuel)
    if closed then expect (·.isOperator ")") "\")\"" token
    else
      match token with
      | .finish => pure ()
      | token => refuse token none
    return command.getD .nothing

/-- Read commands, after those that have been read. The result is nothing if there are none
at all. -/
def readList : (fuel : Nat) → ListKind → Option Command → Reader (Option Command)
  | 0, _, _ => complain "Input too long"
  | fuel + 1, kind, found => do
    let commands := readNested fuel
    -- Only inside a command may a list go on over the end of a line.
    match ← (if kind = .line then readReserved commands else readStart commands) with
    | .lineEnd => return some (found.getD .nothing)
    | .finish =>
      push .finish
      return found
    | token =>
      push token
      if kind = .optional ∧ token.endsList then return some (found.getD .nothing)
      let command ← readJoined fuel
      let kind := if kind = .required then .optional else kind
      match ← readToken commands with
      | .operator "&" => readList fuel kind (some (.after found (.background command)))
      | .operator ";" => readList fuel kind (some (.after found command))
      | .lineEnd =>
        push .lineEnd
        readList fuel kind (some (.after found command))
      | .finish =>
        push .finish
        return some (.after found command)
      | token =>
        if kind = .line then refuse token none
        push token
        return some (.after found command)

/-- Read commands joined by `&&` and `||`. -/
def readJoined : (fuel : Nat) → Reader Command
  | 0 => complain "Input too long"
  | fuel + 1 => do readRest fuel (← readPipeline fuel)

/-- Read what is joined to a command. -/
def readRest : (fuel : Nat) → Command → Reader Command
  | 0, _ => complain "Input too long"
  | fuel + 1, first => do
    let commands := readNested fuel
    match ← readToken commands with
    | .operator "&&" =>
      push (← readStart commands)
      readRest fuel (.both first (← readPipeline fuel))
    | .operator "||" =>
      push (← readStart commands)
      readRest fuel (.either first (← readPipeline fuel))
    | token =>
      push token
      return first

/-- Read commands joined by pipes, or the negation of that. -/
def readPipeline : (fuel : Nat) → Reader Command
  | 0 => complain "Input too long"
  | fuel + 1 => do
    let commands := readNested fuel
    let token ← readReserved commands
    let negated := token.isReserved "!"
    push (← if negated then readReserved commands else pure token)
    let stages ← readStages fuel
    let command := match stages with
      | [command] => command
      | stages => .pipeline stages
    return if negated then .negated command else command

/-- Read commands with pipes between them. -/
def readStages : (fuel : Nat) → Reader (List Command)
  | 0 => complain "Input too long"
  | fuel + 1 => do
    let commands := readNested fuel
    let command ← readCommand fuel
    match ← readToken commands with
    | .operator "|" =>
      push (← readStart commands)
      return command :: (← readStages fuel)
    | token =>
      push token
      return [command]

/-- Read one command. -/
def readCommand : (fuel : Nat) → Reader Command
  | 0 => complain "Input too long"
  | fuel + 1 => do
    let commands := readNested fuel
    let list : Reader Command := return (← readList fuel .required none).getD .nothing
    let token ← readReserved commands
    let line := (← get).line
    let under (command : Command) : Reader Command := do
      let redirections ← readRedirections commands ((← get).rest.length + 1)
      return if redirections.isEmpty then command else .redirected line redirections command
    match token with
    | .reserved "if" =>
      let command ← readChoice fuel
      under command
    | .reserved "while" | .reserved "until" =>
      let condition ← list
      expectReserved commands "do"
      let body ← list
      expectReserved commands "done"
      under (.loop (token.isReserved "until") condition body)
    | .reserved "for" =>
      match ← readToken commands with
      | .word word =>
        let name := (Word.plain? word).getD ""
        if !isName name then complain "Bad for loop variable"
        let words ←
          match ← readStart commands with
          | .reserved "in" => some <$> readWords commands ((← get).rest.length + 1)
          | .operator ";" => pure none
          | token =>
            push token
            pure none
        expectReserved commands "do"
        let body ← list
        expectReserved commands "done"
        under (.each line name words body)
      | _ => complain "Bad for loop variable"
    | .reserved "case" =>
      match ← readToken commands with
      | .word subject =>
        expectReserved commands "in"
        let clauses ← readClauses fuel
        under (.cases line subject clauses)
      | token => refuse token (some "word")
    | .operator "(" =>
      let command ← list
      expect (·.isOperator ")") "\")\"" (← readStart commands)
      under (.apart line command)
    | .reserved "\x7b" =>
      let command ← list
      expectReserved commands "\x7d"
      under command
    | .word _ | .redirection .. =>
      push token
      readSimple commands (do push (← readStart commands); readCommand fuel) line
        ((← get).rest.length + 2) {}
    | token => refuse token none

/-- Read what stands between `if` and `fi`, and `fi`. -/
def readChoice : (fuel : Nat) → Reader Command
  | 0 => complain "Input too long"
  | fuel + 1 => do
    let commands := readNested fuel
    let list : Reader Command := return (← readList fuel .required none).getD .nothing
    let condition ← list
    expectReserved commands "then"
    let yes ← list
    match ← readStart commands with
    | .reserved "elif" => return .choice condition yes (← readChoice fuel)
    | .reserved "else" =>
      let no ← list
      expectReserved commands "fi"
      return .choice condition yes no
    | token =>
      expect (·.isReserved "fi") "\"fi\"" token
      return .choice condition yes .nothing

/-- Read the clauses up to `esac`. -/
def readClauses : (fuel : Nat) → Reader (List (List Word × Command))
  | 0 => complain "Input too long"
  | fuel + 1 => do
    let commands := readNested fuel
    match ← readStart commands with
    | .reserved "esac" => return []
    | token =>
      -- The parenthesis before the patterns may be left out.
      let token ← if token.isOperator "(" then readToken commands else pure token
      let patterns ← readPatterns commands ((← get).rest.length + 1) token
      let body := (← readList fuel .optional none).getD .nothing
      match ← readStart commands with
      | .reserved "esac" => return [(patterns, body)]
      | token =>
        expect (·.isOperator ";;") "\";;\"" token
        return (patterns, body) :: (← readClauses fuel)

end

/-- Read the next line of commands. The result is nothing at the end of the script. -/
def readLine : Reader (Option Command) := do
  readList (16 * ((← get).rest.length + 4)) .line none

end CompileCommands.Shell
