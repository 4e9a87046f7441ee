import CompileCommands.Shell.State

/-!
# Conditions

What the arguments of `test` state: properties of texts, numbers and files, joined by `-a`, `-o`,
`!` and parentheses. A word is an operator only if there are operands for it.
-/

namespace CompileCommands.Shell.Condition

/-- What an operator takes. -/
inductive Kind where
  /-- An operand after it. -/
  | unary
  /-- Operands on both sides. -/
  | binary
  /-- A condition after it. -/
  | negation
  /-- Conditions on both sides. -/
  | joining
  /-- A parenthesis takes nothing. -/
  | parenthesis
  deriving DecidableEq, Repr

/-- The operators with one operand. -/
def unaryOperators : List String :=
  ["-r", "-w", "-x", "-e", "-f", "-d", "-c", "-b", "-p", "-u", "-g", "-k", "-s", "-t", "-z",
    "-n", "-h", "-O", "-G", "-L", "-S"]

/-- The operators with two operands. -/
def binaryOperators : List String :=
  ["=", "!=", "<", ">", "-eq", "-ne", "-ge", "-gt", "-le", "-lt", "-nt", "-ot", "-ef"]

/-- What a word takes if it is an operator. -/
def kind? (word : String) : Option Kind :=
  if unaryOperators.contains word then some .unary
  else if binaryOperators.contains word then some .binary
  else if word = "!" then some .negation
  else if word = "-a" ∨ word = "-o" then some .joining
  else if word = "(" ∨ word = ")" then some .parenthesis
  else none

/-- The operator at the front of some words, if it can be one there. -/
def operator? : List String → Option String
  | [] => none
  | word :: rest =>
    match kind? word with
    | none => none
    | some .unary =>
      match rest with
      | [] => none
      | next :: more => if more ≠ [] ∧ kind? next = some .binary then none else some word
    | some _ => if word = "(" ∧ rest = [] then none else some word

/-- The number that a word is, with white space around it. -/
def number (word : String) : Except String Int :=
  let isSpace (c : Char) : Bool := " \t\n\r\x0b\x0c".toList.contains c
  let cs := word.toList.dropWhile isSpace
  let (negative, digits) := match cs with
    | '-' :: rest => (true, rest)
    | '+' :: rest => (false, rest)
    | _ => (false, cs)
  let (n, after) := Arithmetic.digits 10 digits
  if digits.head?.any Char.isDigit ∧ after.all isSpace then
    .ok (if negative then -(n : Int) else n)
  else .error ("Illegal number: " ++ word)

/-- A property of a file holds. -/
def ofFile (fs : FileSystem) (here : Location) (operator path : String) : Bool :=
  let path := Text.Octets.toText path
  let status := (fs.status here path).toOption
  match operator with
  | "-f" => match status with
    | some (.file ..) => (fs.resolve here path).toOption != some sinkhole
    | _ => false
  | "-d" => status == some .directory
  | "-s" => match status with
    | some (.file content _) => !content.isEmpty
    | found => found.isSome
  | "-x" => match status with
    | some (.file _ isProgram) => isProgram
    | found => found.isSome
  | "-h" | "-L" => match (fs.linkStatus here path).toOption with
    | some (.link _) => true
    | _ => false
  | "-e" | "-r" | "-w" | "-O" | "-G" => status.isSome
  | "-c" => (fs.resolve here path).toOption == some sinkhole
  | _ => false

/-- The words that are left, and whether the condition before them holds. -/
abbrev Reading := Except String (Bool × List String)

/-- A condition with two operands. -/
def ofPair (fs : FileSystem) (here : Location) (left operator right : String) :
    Except String Bool := do
  let path (word : String) : String := Text.Octets.toText word
  match operator with
  | "=" => return left == right
  | "!=" => return left != right
  | "<" => return decide (left < right)
  | ">" => return decide (right < left)
  | "-eq" => return (← number left) == (← number right)
  | "-ne" => return (← number left) != (← number right)
  | "-ge" => return decide ((← number left) ≥ (← number right))
  | "-gt" => return decide ((← number left) > (← number right))
  | "-le" => return decide ((← number left) ≤ (← number right))
  | "-lt" => return decide ((← number left) < (← number right))
  | "-ef" =>
    return match fs.resolve here (path left), fs.resolve here (path right) with
      | .ok a, .ok b => a == b
      | _, _ => false
  | _ =>
    return false

section Reading

variable (fs : FileSystem) (here : Location)

mutual

/-- Conditions with `-o` between them. The words that are left start with the last one that has
been used. -/
def either : (fuel : Nat) → Option String → List String → Reading
  | 0, _, _ => .error "too long"
  | fuel + 1, operator, words => do
    let (first, words) ← both fuel operator words
    if operator? words.tail = some "-o" then
      let rest := words.drop 2
      let (second, words) ← either fuel (operator? rest) rest
      return (first || second, words)
    else return (first, words)

/-- Conditions with `-a` between them. -/
def both : (fuel : Nat) → Option String → List String → Reading
  | 0, _, _ => .error "too long"
  | fuel + 1, operator, words => do
    let (first, words) ← negated fuel operator words
    if operator? words.tail = some "-a" then
      let rest := words.drop 2
      let (second, words) ← both fuel (operator? rest) rest
      return (first && second, words)
    else return (first, words)

/-- A condition with marks of negation before it. -/
def negated : (fuel : Nat) → Option String → List String → Reading
  | 0, _, _ => .error "too long"
  | fuel + 1, operator, words =>
    if operator = some "!" then do
      let rest := words.tail
      let (holds, left) ← negated fuel (operator? rest) (if rest = [] then words else rest)
      return (!holds, left)
    else primary fuel operator words

/-- One condition. -/
def primary : (fuel : Nat) → Option String → List String → Reading
  | 0, _, _ => .error "too long"
  | fuel + 1, operator, words => do
    match words with
    | [] => return (false, [])
    | word :: rest =>
      if operator = some "(" then
        if operator? rest = some ")" then return (false, rest)
        let (holds, words) ← either fuel (operator? rest) rest
        if operator? words.tail ≠ some ")" then throw "closing paren expected"
        return (holds, words.tail)
      else if operator.any unaryOperators.contains then
        match rest with
        | [] => throw (word ++ ": argument expected")
        | operand :: _ =>
          let holds ← match word with
            | "-z" => pure (operand == "")
            | "-n" => pure (operand != "")
            | "-t" => do
              discard (number operand)
              pure false
            | _ => pure (ofFile fs here word operand)
          return (holds, rest)
      else
        match operator? rest with
        | some operator =>
          if binaryOperators.contains operator then
            match rest with
            | _ :: right :: _ =>
              return (← ofPair fs here word operator right, rest.tail)
            | _ => throw (operator ++ ": argument expected")
          else return (word != "", words)
        | none => return (word != "", words)

end

/-- The condition that some words state. -/
def ofWords : (count : Nat) → List String → Except String Bool
  | 0, _ => .error "too long"
  | count + 1, words => do
    if words = [] then return false
    let evaluate (operator : Option String) (words : List String) : Except String Bool := do
      let (holds, left) ← either fs here (4 * (words.length + 2)) operator words
      match left with
      | word :: _ :: _ => throw (word ++ ": unexpected operator")
      | _ => return holds
    let closed := words.head? = some "(" ∧ words.getLast? = some ")"
    let plain : Except String Bool :=
      if words.length ≠ 3 ∧ words.length ≠ 4 then evaluate (operator? words) words
      else if closed then
        let inside := words.tail.dropLast
        evaluate (operator? inside) inside
      else if words.head? = some "!" then do return !(← ofWords count words.tail)
      else evaluate (operator? words) words
    match words with
    | [_, operator, _] => if binaryOperators.contains operator then evaluate none words else plain
    | _ => plain

end Reading

end CompileCommands.Shell.Condition
