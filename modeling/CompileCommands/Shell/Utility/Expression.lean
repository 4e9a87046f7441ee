import CompileCommands.Shell.Regular
import CompileCommands.Shell.Utility.Values

/-!
# Expressions

The values of expressions whose operands and operators are arguments. Operators that bind alike
are taken from left to right.
-/

namespace CompileCommands.Shell.Utility

/-- Why an expression has no value. -/
abbrev Valued := Except String

/-- The value counts as false. -/
def isNull (text : String) : Bool :=
  text = "" || (integer? text = some 0 && text ≠ "-")

/-- An operation on two values. -/
def combine (operator left right : String) : Valued String := do
  let compare (onNumbers : Int → Int → Bool) (onTexts : String → String → Bool) : String :=
    match integer? left, integer? right with
    | some a, some b => if onNumbers a b then "1" else "0"
    | _, _ => if onTexts left right then "1" else "0"
  let numbers : Valued (Int × Int) :=
    match integer? left, integer? right with
    | some a, some b => .ok (a, b)
    | _, _ => .error "non-integer argument"
  match operator with
  | "|" => return if !isNull left then left else if !isNull right then right else "0"
  | "&" => return if isNull left || isNull right then "0" else left
  | "<" => return compare (· < ·) (· < ·)
  | "<=" => return compare (· ≤ ·) (· ≤ ·)
  | "=" | "==" => return compare (· == ·) (· == ·)
  | "!=" => return compare (· != ·) (· != ·)
  | ">=" => return compare (· ≥ ·) fun a b => b ≤ a
  | ">" => return compare (· > ·) fun a b => b < a
  | "+" => return toString ((← numbers).1 + (← numbers).2)
  | "-" => return toString ((← numbers).1 - (← numbers).2)
  | "*" => return toString ((← numbers).1 * (← numbers).2)
  | "/" | "%" =>
    let (a, b) ← numbers
    if b = 0 then throw "division by zero"
    return toString (if operator = "/" then Int.tdiv a b else Int.tmod a b)
  | _ =>
    let hasGroup := right.splitOn "\\(" ≠ [right]
    match Regular.ofText? false right with
    | none => throw "Unmatched [, [^, [:, [., or [="
    | some regular =>
      match regular.longest? true left.toList with
      | none => return if hasGroup then "" else "0"
      | some place =>
        return if hasGroup then String.ofList ((place.groups.lookup 1).getD [])
          else toString (left.length - place.rest.length)

/-- The operators, those that bind least first. -/
def operatorLevels : List (List String) :=
  [["|"], ["&"], ["<", "<=", "=", "==", "!=", ">=", ">"], ["+", "-"], ["*", "/", "%"], [":"]]

mutual

/-- The value of what is joined by the operators of some levels, and the words after it. -/
def valueAt : (fuel : Nat) → (levels : List (List String)) → List String →
    Valued (String × List String)
  | 0, _, _ => .error "syntax error"
  | fuel + 1, operators :: levels, words => do
    let (value, rest) ← valueAt fuel levels words
    valueAfter fuel operators levels value rest
  | fuel + 1, [], words =>
    match words with
    | [] => .error "syntax error: missing argument"
    | "(" :: rest => do
      let (value, rest) ← valueAt fuel operatorLevels rest
      match rest with
      | ")" :: rest => return (value, rest)
      | [] => throw ("syntax error: expecting ')' after " ++ named (words.getLastD ""))
      | found :: _ => throw ("syntax error: expecting ')' instead of " ++ named found)
    | "length" :: word :: rest => .ok (toString word.length, rest)
    | "match" :: text :: pattern :: rest => do return (← combine ":" text pattern, rest)
    | "substr" :: text :: start :: size :: rest =>
      let start := ((integer? start).getD 0)
      let size := ((integer? size).getD 0).toNat
      .ok (if start < 1 then "" else
        String.ofList ((text.toList.drop (start.toNat - 1)).take size), rest)
    | "index" :: text :: set :: rest =>
      .ok (match text.toList.findIdx? (set.toList.contains ·) with
        | some i => toString (i + 1)
        | none => "0", rest)
    | word :: rest => .ok (word, rest)

/-- The value of what is joined to a value by some operators. -/
def valueAfter : (fuel : Nat) → (operators : List String) → (levels : List (List String)) →
    (value : String) → List String → Valued (String × List String)
  | 0, _, _, _, _ => .error "syntax error"
  | fuel + 1, operators, levels, value, words =>
    match words with
    | operator :: rest =>
      if operators.contains operator then do
        if rest.isEmpty then
          throw ("syntax error: missing argument after " ++ named operator)
        let (right, rest) ← valueAt fuel levels rest
        valueAfter fuel operators levels (← combine operator value right) rest
      else .ok (value, words)
    | [] => .ok (value, [])

end

/-- Write the value of an expression. -/
def evaluate (title : String) (arguments : List String) : ShellTask Unit := do
  let words := if arguments.head? = some "--" then arguments.tail else arguments
  if words.isEmpty then
    complainAs title "missing operand"
    report ("Try '" ++ title ++ " --help' for more information.")
    leave 2
  match valueAt (16 * (words.length + 2)) operatorLevels words with
  | .ok (value, []) =>
    print (value ++ "\n")
    finish (if isNull value then 1 else 0)
  | .ok (_, extra :: _) =>
    complainAs title ("syntax error: unexpected argument " ++ named extra)
    leave 2
  | .error text =>
    complainAs title text
    leave 2

end CompileCommands.Shell.Utility
