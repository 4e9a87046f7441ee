/-!
# Commands of a script

What a script says: simple commands with their words and redirections, and the ways in which
commands are put together. All text is held as octets. The text of a here-document is kept
apart from the command, under a number.
-/

namespace CompileCommands.Shell

/-- How a redirection opens a file. -/
inductive Opening where
  /-- To read from it. -/
  | read
  /-- To write it anew, unless files are protected and it is there already. -/
  | write
  /-- To write it anew. -/
  | overwrite
  /-- To write at its end. -/
  | append
  /-- To read from it, made if it is missing. -/
  | both
  deriving DecidableEq, Repr

mutual

/-- A part of a word. -/
inductive Part where
  /-- Text as it stands. -/
  | text (text : String) (quoted : Bool)
  /-- What becomes of a parameter. -/
  | parameter (name : String) (use : Use) (quoted : Bool)
  /-- What a command writes. -/
  | output (command : Command) (quoted : Bool)
  /-- The value of an arithmetic expression. -/
  | sum (expression : List Part) (quoted : Bool)
  /-- Braces that hold no parameter. -/
  | malformed

/-- What becomes of a parameter. A parameter that is not set, and under `emptyToo` also one
that is empty, has no value. -/
inductive Use where
  /-- Its value. -/
  | value
  /-- The length of its value. -/
  | length
  /-- Its value, or else a word. -/
  | orElse (emptyToo : Bool) (word : List Part)
  /-- Its value, or else a word that it is set to. -/
  | orAssign (emptyToo : Bool) (word : List Part)
  /-- Its value, or else an error that a word describes. -/
  | orFail (emptyToo : Bool) (word : List Part)
  /-- A word if it has a value. -/
  | ifSet (emptyToo : Bool) (word : List Part)
  /-- Its value without what a pattern matches at one end. -/
  | without (atEnd longest : Bool) (pattern : List Part)

/-- A redirection of a descriptor. -/
inductive Redirection where
  /-- To a file. -/
  | file (descriptor : Nat) (opening : Opening) (path : List Part)
  /-- To where another descriptor leads. -/
  | copy (descriptor : Nat) (source : List Part)
  /-- From a here-document. -/
  | document (descriptor : Nat) (number : Nat)

/-- A command. -/
inductive Command where
  /-- Nothing. -/
  | nothing
  /-- Assignments, or a named command with its arguments. -/
  | simple (line : Nat) (assignments : List (String × List Part)) (words : List (List Part))
      (redirections : List Redirection)
  /-- A command with some of its descriptors redirected. -/
  | redirected (line : Nat) (redirections : List Redirection) (command : Command)
  /-- Commands each of which reads what the one before it writes. -/
  | pipeline (commands : List Command)
  /-- Success if the command fails. -/
  | negated (command : Command)
  /-- One command after another. -/
  | sequence (first second : Command)
  /-- The second command only if the first succeeds. -/
  | both (first second : Command)
  /-- The second command only if the first fails. -/
  | either (first second : Command)
  /-- A command that is not waited for. -/
  | background (command : Command)
  /-- A command whose directory and variables are its own. -/
  | apart (line : Nat) (command : Command)
  /-- One of two commands. -/
  | choice (condition yes no : Command)
  /-- A command again and again, while the condition succeeds or until it does. -/
  | loop (untilSuccess : Bool) (condition body : Command)
  /-- A command for each of some words, or of the arguments. -/
  | each (line : Nat) (name : String) (words : Option (List (List Part))) (body : Command)
  /-- The command of the first pattern that a word matches. -/
  | cases (line : Nat) (subject : List Part) (clauses : List (List (List Part) × Command))
  /-- The definition of a function. -/
  | function (name : String) (body : Command)
  /-- The commands in a text, each line of which is read when those before it are done. -/
  | script (text : String)
  /-- The program at a path, which is run in place of the shell and is told a title. -/
  | program (path title : String) (arguments : List String)

end

/-- A word. -/
abbrev Word := List Part

instance : Inhabited Command := ⟨.nothing⟩

/-- A word with some text in front. -/
def Word.prepend (text : String) (quoted : Bool) : Word → Word
  | .text more isQuoted :: parts =>
    if isQuoted = quoted then .text (text ++ more) quoted :: parts
    else .text text quoted :: .text more isQuoted :: parts
  | parts => .text text quoted :: parts

/-- The text that a word is, if nothing in it is quoted or has a value. -/
def Word.plain? : Word → Option String
  | [.text text false] => some text
  | _ => none

/-- The text of a word without the quotes, whatever its values are. -/
def Word.unquoted (word : Word) : String :=
  String.join (word.map fun
    | .text text _ => text
    | _ => "")

/-- Some of a word is quoted. -/
def Word.isQuoted (word : Word) : Bool :=
  word.any fun
    | .text _ quoted => quoted
    | _ => false

/-- The character may stand in a name. -/
def isNameChar (c : Char) : Bool :=
  c.isAlphanum || c = '_'

/-- The text is a name. -/
def isName (text : String) : Bool :=
  text.toList.all isNameChar && text.toList.head?.any (!·.isDigit)

/-- The character is a parameter by itself. -/
def isSpecialParameter (c : Char) : Bool :=
  "@*#?$!-".toList.contains c

/-- The character separates words. -/
def isBlank (c : Char) : Bool :=
  c = ' ' || c = '\t'

end CompileCommands.Shell
