import CompileCommands.Shell.Command

/-!
# The text of a script while it is read

A reader takes characters and tokens from the front of the text and counts its lines. One token
may be put back. Where the text makes up no command, reading ends with a complaint.
-/

namespace CompileCommands.Shell

/-- A token. -/
inductive Token where
  /-- The end of the script. -/
  | finish
  /-- The end of a line. -/
  | lineEnd
  /-- The start of a redirection. -/
  | redirection (descriptor : Nat) (operator : String)
  /-- A word. -/
  | word (word : Word)
  /-- An operator. -/
  | operator (text : String)
  /-- A reserved word. -/
  | reserved (text : String)

namespace Token

/-- The name of a token in a complaint. -/
def name : Token → String
  | finish => "end of file"
  | lineEnd => "newline"
  | redirection .. => "redirection"
  | word _ => "word"
  | operator text => "\"" ++ text ++ "\""
  | reserved text => "\"" ++ text ++ "\""

/-- The token is a certain operator. -/
def isOperator (text : String) : Token → Bool
  | operator other => other == text
  | _ => false

/-- The token is a certain reserved word. -/
def isReserved (text : String) : Token → Bool
  | reserved other => other == text
  | _ => false

/-- The token ends a list of commands. -/
def endsList : Token → Bool
  | finish => true
  | operator text => [")", ";;"].contains text
  | reserved text => ["do", "done", "elif", "else", "esac", "fi", "then", "\x7d"].contains text
  | _ => false

end Token

/-- The words that mean more than themselves at the start of a command. -/
def reservedWords : List String :=
  ["!", "case", "do", "done", "elif", "else", "esac", "fi", "for", "if", "in", "then", "until",
    "while", "\x7b", "\x7d"]

/-- A here-document whose text follows after the end of the line. -/
structure AwaitedDocument where
  /-- Its number. -/
  number : Nat
  /-- The line that ends it. -/
  delimiter : String
  /-- Parameters in it have their values. -/
  expands : Bool
  /-- Tabs at the start of its lines do not count. -/
  indented : Bool

/-- What is known of a script while it is read. -/
structure Source where
  /-- The text that is left. -/
  rest : List Char
  /-- The number of the line where it starts. -/
  line : Nat := 1
  /-- The token that has been put back. -/
  pushed : Option Token := none
  /-- The here-documents whose text is still to come. -/
  awaited : List AwaitedDocument := []
  /-- How many here-documents there are. -/
  count : Nat := 0
  /-- The texts of the here-documents, the latest first. -/
  documents : List (Nat × Word) := []

/-- Why a script cannot be read. -/
structure Complaint where
  /-- The number of the line. -/
  line : Nat
  /-- What is wrong. -/
  text : String

/-- A task that takes something from a script. -/
abbrev Reader := StateT Source (Except Complaint)

namespace Reader

/-- End with a complaint. -/
def complain {α : Type} (text : String) : Reader α := do
  throw ⟨(← get).line, "Syntax error: " ++ text⟩

/-- End with a complaint about a token. -/
def refuse {α : Type} (token : Token) (expecting : Option String) : Reader α :=
  complain (token.name ++ " unexpected" ++
    match expecting with
    | some name => " (expecting " ++ name ++ ")"
    | none => "")

/-- Take some characters, as many as stand at the front for sure. -/
def skip (count : Nat) : Reader Unit :=
  modify fun source =>
    { source with
      rest := source.rest.drop count
      line := source.line + (source.rest.take count).count '\n' }

/-- Take the longest run of characters that satisfy `p`. -/
def span (p : Char → Bool) : Reader String := do
  let run := (← get).rest.takeWhile p
  skip run.length
  return String.ofList run

/-- The character `offset` places ahead. -/
def ahead? (offset : Nat) : Reader (Option Char) := do
  return (← get).rest[offset]?

/-- Put a token back. -/
def push (token : Token) : Reader Unit :=
  modify ({ · with pushed := some token })

/-- Read a text of its own, and come back to where the script is. -/
def within {α : Type} (text : List Char) (line : Nat) (reader : Reader α) : Reader α := do
  let outside ← get
  set { outside with rest := text, line, pushed := none, awaited := [] }
  let found ← reader
  modify fun inside =>
    { outside with count := inside.count, documents := inside.documents }
  return found

end Reader

end CompileCommands.Shell
