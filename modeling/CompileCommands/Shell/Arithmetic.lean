import CompileCommands.Shell.Command

/-!
# Arithmetic

Expressions over integers of 64 bits, in which a name is the value of a variable and may be
assigned to.
-/

namespace CompileCommands.Shell.Arithmetic

/-- An operator with two operands. -/
inductive Operator where
  | times | divide | rest | plus | minus | left | right | less | lessEqual | greater
  | greaterEqual | equal | different | bitAnd | bitXor | bitOr
  deriving DecidableEq, Repr

/-- How an operator is written. -/
def Operator.text : Operator → String
  | times => "*"
  | divide => "/"
  | rest => "%"
  | plus => "+"
  | minus => "-"
  | left => "<<"
  | right => ">>"
  | less => "<"
  | lessEqual => "<="
  | greater => ">"
  | greaterEqual => ">="
  | equal => "=="
  | different => "!="
  | bitAnd => "&"
  | bitXor => "^"
  | bitOr => "|"

/-- The operators by how closely they bind, the closest last. -/
def Operator.levels : List (List Operator) :=
  [[bitOr], [bitXor], [bitAnd], [equal, different], [lessEqual, greaterEqual, less, greater],
    [left, right], [plus, minus], [times, divide, rest]]

/-- What is wrong with an expression. -/
inductive Fault where
  /-- An operand is missing. -/
  | noPrimary
  /-- Something follows the expression. -/
  | notOver
  /-- A parenthesis is not closed. -/
  | noParenthesis
  /-- A choice has one alternative only. -/
  | noColon
  /-- Something is divided by zero. -/
  | zeroDivision
  /-- The value of a variable is no number. -/
  | badNumber (text : String)
  deriving DecidableEq, Repr

/-- A token. -/
inductive Lexeme where
  /-- A number. -/
  | number (n : Int)
  /-- A name. -/
  | name (text : String)
  /-- An operator or a parenthesis. -/
  | mark (text : String)
  deriving DecidableEq, Repr

/-- The operators and parentheses, longer ones first. -/
def marks : List String :=
  ["<<=", ">>=", "&&", "||", "<<", ">>", "<=", ">=", "==", "!=", "+=", "-=", "*=", "/=", "%=",
    "&=", "|=", "^=", "+", "-", "*", "/", "%", "<", ">", "=", "!", "~", "&", "|", "^", "?", ":",
    "(", ")"]

/-- The number with 64 bits that is equal to another one up to a multiple of their count. -/
def wrap (n : Int) : Int :=
  (n + 0x8000000000000000) % 0x10000000000000000 - 0x8000000000000000

/-- The greatest number. -/
def greatest : Int := 0x7FFFFFFFFFFFFFFF

/-- The value of a digit in a base. -/
def digit? (base : Nat) (c : Char) : Option Nat :=
  let value? :=
    if c.isDigit then some (c.toNat - 0x30)
    else if 'a' ≤ c ∧ c ≤ 'z' then some (c.toNat - 0x57)
    else if 'A' ≤ c ∧ c ≤ 'Z' then some (c.toNat - 0x37)
    else none
  value?.filter (· < base)

/-- The natural number at the front of a text in a base, and the rest. -/
def digits (base : Nat) (cs : List Char) : Nat × List Char :=
  let run := cs.takeWhile fun c => (digit? base c).isSome
  (run.foldl (fun n c => base * n + (digit? base c).getD 0) 0, cs.drop run.length)

/-- The natural number at the front of a text, with the base that its spelling shows, and the
rest. -/
def natural (cs : List Char) : Nat × List Char :=
  match cs with
  | '0' :: x :: c :: rest =>
    if (x = 'x' ∨ x = 'X') ∧ (digit? 16 c).isSome then digits 16 (c :: rest) else digits 8 cs
  | '0' :: _ => digits 8 cs
  | _ => digits 10 cs

/-- The number that a text spells, with the base that its spelling shows, and the rest after
it. -/
def integer (cs : List Char) : Int × List Char :=
  let cs := cs.dropWhile fun c => " \t\n\r\x0b\x0c".toList.contains c
  match cs with
  | '-' :: rest =>
    let (n, after) := natural rest
    (max (-(n : Int)) (-greatest - 1), after)
  | '+' :: rest =>
    let (n, after) := natural rest
    (min n greatest, after)
  | _ =>
    let (n, after) := natural cs
    (min n greatest, after)

/-- The first `count` tokens of a text. A character that is part of no token is a mark that means
nothing. -/
def lexemes : (count : Nat) → List Char → List Lexeme
  | 0, _ => []
  | _ + 1, [] => []
  | n + 1, c :: rest =>
    if " \t\n".toList.contains c then lexemes n rest
    else if c.isDigit then
      let (value, after) := natural (c :: rest)
      .number (min value greatest) :: lexemes n after
    else if isNameChar c then
      let name := (c :: rest).takeWhile isNameChar
      .name (String.ofList name) :: lexemes n ((c :: rest).drop name.length)
    else
      let mark := (marks.find? fun mark => mark.toList.isPrefixOf (c :: rest)).getD
        (String.singleton c)
      .mark mark :: lexemes n ((c :: rest).drop mark.length)

/-- The operator of an assignment. -/
def assignment? (mark : String) : Option (Option Operator) :=
  if mark = "=" then some none
  else (Operator.levels.flatten.find? fun operator =>
    operator.text ++ "=" = mark ∧ mark ∉ ["<=", ">=", "==", "!="]).map some

/-- One for true, zero for false. -/
def ofBool (b : Bool) : Int := if b then 1 else 0

/-- A number as its 64 bits. -/
def bits (n : Int) : Nat := (n % 0x10000000000000000).toNat

/-- The value of an operator at two numbers. -/
def Operator.apply (operator : Operator) (a b : Int) : Except Fault Int :=
  match operator with
  | times => .ok (wrap (a * b))
  | divide => if b = 0 then .error .zeroDivision else .ok (wrap (a.tdiv b))
  | rest => if b = 0 then .error .zeroDivision else .ok (wrap (a.tmod b))
  | plus => .ok (wrap (a + b))
  | minus => .ok (wrap (a - b))
  | left => .ok (wrap ((bits a * Nat.pow 2 (bits b % 64) : Nat) : Int))
  | right => .ok (a.fdiv ((Nat.pow 2 (bits b % 64) : Nat) : Int))
  | less => .ok (ofBool (a < b))
  | lessEqual => .ok (ofBool (a ≤ b))
  | greater => .ok (ofBool (b < a))
  | greaterEqual => .ok (ofBool (b ≤ a))
  | equal => .ok (ofBool (a = b))
  | different => .ok (ofBool (a ≠ b))
  | bitAnd => .ok (wrap ((bits a &&& bits b : Nat) : Int))
  | bitXor => .ok (wrap ((bits a ^^^ bits b : Nat) : Int))
  | bitOr => .ok (wrap ((bits a ||| bits b : Nat) : Int))

/-- What is known while an expression is read: the tokens that are left, and the variables that
have been set, the latest first. -/
structure Reading where
  /-- The tokens. -/
  rest : List Lexeme
  /-- The variables with their values. -/
  assigned : List (String × String) := []

/-- A task that reads an expression. -/
abbrev Evaluation := StateT Reading (Except Fault)

/-- The next token, if it is a certain mark, is taken. -/
def takeMark (mark : String) : Evaluation Bool := do
  let reading ← get
  match reading.rest with
  | .mark other :: rest =>
    if other = mark then
      set { reading with rest }
      return true
    else return false
  | _ => return false

section Values

variable (lookup : String → Option String)

/-- The value of a variable, which is zero if it is not set. -/
def variableValue (name : String) : Evaluation Int := do
  let text := (((← get).assigned.lookup name).or (lookup name)).getD ""
  let (n, rest) := integer text.toList
  let rest := rest.dropWhile fun c => c = ' ' || c = '\t' || c = '\n'
  if rest ≠ [] then throw (.badNumber text)
  return n

/-! An expression has its value as soon as it is read. What is passed over is read too, but has
no effect: the first parameter of each function is the fuel, the second says that it counts. -/

mutual

/-- The value of an expression. -/
def value : (fuel : Nat) → (counts : Bool) → Evaluation Int
  | 0, _ => throw .noPrimary
  | fuel + 1, counts => do
    let reading ← get
    match reading.rest with
    | .name name :: .mark mark :: rest =>
      match assignment? mark with
      | some operator? =>
        set { reading with rest }
        let operand ← value fuel counts
        if !counts then return operand
        let result ← match operator? with
          | some operator => do operator.apply (← variableValue lookup name) operand
          | none => pure operand
        modify fun reading =>
          { reading with assigned := (name, toString result) :: reading.assigned }
        return result
      | none => choiceValue fuel counts
    | _ => choiceValue fuel counts

/-- The value of an expression with a question mark. -/
def choiceValue : (fuel : Nat) → (counts : Bool) → Evaluation Int
  | 0, _ => throw .noPrimary
  | fuel + 1, counts => do
    let condition ← eitherValue fuel counts
    if !(← takeMark "?") then return condition
    let yes ← value fuel (counts && condition ≠ 0)
    if !(← takeMark ":") then throw .noColon
    let no ← choiceValue fuel (counts && condition = 0)
    return if condition ≠ 0 then yes else no

/-- The value of expressions with `||` between them. -/
def eitherValue : (fuel : Nat) → (counts : Bool) → Evaluation Int
  | 0, _ => throw .noPrimary
  | fuel + 1, counts => do
    let first ← bothValue fuel counts
    if !(← takeMark "||") then return first
    let second ← eitherValue fuel (counts && first = 0)
    return ofBool (first ≠ 0 || second ≠ 0)

/-- The value of expressions with `&&` between them. -/
def bothValue : (fuel : Nat) → (counts : Bool) → Evaluation Int
  | 0, _ => throw .noPrimary
  | fuel + 1, counts => do
    let first ← levelValue fuel counts Operator.levels
    if !(← takeMark "&&") then return first
    let second ← bothValue fuel (counts && first ≠ 0)
    return ofBool (first ≠ 0 && second ≠ 0)

/-- The value of expressions with operators of some levels between them. -/
def levelValue : (fuel : Nat) → (counts : Bool) → List (List Operator) → Evaluation Int
  | 0, _, _ => throw .noPrimary
  | fuel + 1, counts, [] => operandValue fuel counts
  | fuel + 1, counts, level :: closer => do
    joinedValue fuel counts level closer (← levelValue fuel counts closer)

/-- The value of what operators of a level join to a first value. -/
def joinedValue : (fuel : Nat) → (counts : Bool) → List Operator → List (List Operator) →
    Int → Evaluation Int
  | 0, _, _, _, _ => throw .noPrimary
  | fuel + 1, counts, level, closer, first => do
    let reading ← get
    match reading.rest with
    | .mark mark :: rest =>
      match level.find? (·.text == mark) with
      | some operator =>
        set { reading with rest }
        let second ← levelValue fuel counts closer
        let result ← if counts then operator.apply first second else pure second
        joinedValue fuel counts level closer result
      | none => return first
    | _ => return first

/-- The value of an operand with the operators before it. -/
def operandValue : (fuel : Nat) → (counts : Bool) → Evaluation Int
  | 0, _ => throw .noPrimary
  | fuel + 1, counts => do
    let reading ← get
    match reading.rest with
    | [] => throw .noPrimary
    | token :: rest =>
      set { reading with rest }
      match token with
      | .number n => return n
      | .name name => if counts then variableValue lookup name else return 0
      | .mark "(" =>
        let inside ← value fuel counts
        if !(← takeMark ")") then throw .noParenthesis
        return inside
      | .mark "+" => operandValue fuel counts
      | .mark "-" => return wrap (-(← operandValue fuel counts))
      | .mark "!" => return ofBool ((← operandValue fuel counts) = 0)
      | .mark "~" => return -(← operandValue fuel counts) - 1
      | .mark _ => throw .noPrimary

end

/-- The value of the expression that a text is, and the variables that it sets, the latest
first. -/
def evaluate (text : String) : Except Fault (Int × List (String × String)) := do
  let rest := lexemes text.length text.toList
  let (result, reading) ← (value lookup (32 * (rest.length + 2)) true).run { rest }
  if reading.rest ≠ [] then throw .notOver
  return (result, reading.assigned)

end Values

/-- The text of a fault in an expression. -/
def Fault.message (text : String) : Fault → String
  | noPrimary => "arithmetic expression: expecting primary: \"" ++ text ++ "\""
  | notOver => "arithmetic expression: expecting EOF: \"" ++ text ++ "\""
  | noParenthesis => "arithmetic expression: expecting ')': \"" ++ text ++ "\""
  | noColon => "arithmetic expression: expecting ':': \"" ++ text ++ "\""
  | zeroDivision => "arithmetic expression: division by zero: \"" ++ text ++ "\""
  | badNumber value => "Illegal number: " ++ value

end CompileCommands.Shell.Arithmetic
