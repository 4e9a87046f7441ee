import CompileCommands.Shell.Pattern

/-!
# Regular expressions

Expressions that lines are searched for, in the basic notation, where braces, parentheses and
bars need a backslash, and in the extended one, where they do not. Of the places where an
expression matches the first counts, and there the longest match.
-/

namespace CompileCommands.Shell

/-- A regular expression. -/
inductive Regular where
  /-- The empty text. -/
  | empty
  /-- One of some characters, or none of them. -/
  | oneOf (negated : Bool) (classes : List CharClass)
  /-- The start of the line. -/
  | start
  /-- The end of the line. -/
  | finish
  /-- A match that can be used again under a number. -/
  | group (number : Nat) (inside : Regular)
  /-- What a group has matched. -/
  | again (number : Nat)
  /-- One match after another. -/
  | sequence (first second : Regular)
  /-- One match or another. -/
  | either (first second : Regular)
  /-- Matches one after another, at least and at most as many. -/
  | repeated (least : Nat) (most : Option Nat) (inside : Regular)
  deriving Repr

namespace Regular

/-- A character by itself. -/
def char (c : Char) : Regular :=
  .oneOf false [.range c c]

/-- A character of a kind, or of any other. -/
def letter? : Char → Option Regular
  | 'w' => some (.oneOf false [.kind "alnum", .range '_' '_'])
  | 'W' => some (.oneOf true [.kind "alnum", .range '_' '_'])
  | 's' => some (.oneOf false [.kind "space"])
  | 'S' => some (.oneOf true [.kind "space"])
  | _ => none

/-! ## Reading -/

/-- What of an expression is left to read, and how many groups have been met. -/
structure Reading where
  /-- The characters. -/
  rest : List Char
  /-- The number of groups. -/
  groups : Nat := 0
  /-- The number of groups that are open. -/
  depth : Nat := 0

/-- A mark that takes a backslash in the basic notation and none in the extended one. -/
def mark? (extended : Bool) (c : Char) (cs : List Char) : Option (List Char) :=
  match extended, cs with
  | true, d :: rest => if c = d then some rest else none
  | false, '\\' :: d :: rest => if c = d then some rest else none
  | _, _ => none

/-- The classes in brackets. -/
def brackets? (cs : List Char) : Option (Regular × List Char) :=
  let (negated, cs) := match cs with
    | '^' :: rest => (true, rest)
    | all => (false, all)
  (bracketClasses (cs.length + 1) true (cs.map (⟨·, false⟩))).map fun (classes, after) =>
    (.oneOf negated classes, after.map (·.char))

/-- The bounds of a repetition after an opening brace. -/
def bounds? (extended : Bool) (cs : List Char) : Option (Nat × Option Nat × List Char) :=
  let (least, cs) := (cs.takeWhile Char.isDigit, cs.dropWhile Char.isDigit)
  let number (digits : List Char) : Nat := (String.ofList digits).toNat?.getD 0
  let (most, cs) := match cs with
    | ',' :: more =>
      let digits := more.takeWhile Char.isDigit
      (if digits = [] then none else some (number digits), more.drop digits.length)
    | more => (some (number least), more)
  (mark? extended '\x7d' cs).map fun rest => (number least, most, rest)

/-- An expression under the repetitions that follow it. -/
def repeatedBy (extended : Bool) : (count : Nat) → Regular → List Char → Regular × List Char
  | 0, inside, cs => (inside, cs)
  | n + 1, inside, cs =>
    match cs with
    | '*' :: rest => repeatedBy extended n (.repeated 0 none inside) rest
    | _ =>
      match mark? extended '+' cs, mark? extended '?' cs,
          (mark? extended '\x7b' cs).bind (bounds? extended) with
      | some rest, _, _ => repeatedBy extended n (.repeated 1 none inside) rest
      | none, some rest, _ => repeatedBy extended n (.repeated 0 (some 1) inside) rest
      | none, none, some (least, most, rest) =>
        repeatedBy extended n (.repeated least most inside) rest
      | none, none, none => (inside, cs)

/-- One match after another; a bar further on separates all that is on its sides. -/
def before (first : Regular) : Regular → Regular
  | .either left right => .either (.sequence first left) right
  | second => .sequence first second

/-- Read an expression up to its end or a closing parenthesis. -/
def read (extended : Bool) : (fuel : Nat) → (atStart : Bool) → Reading →
    Option (Regular × Reading)
  | 0, _, _ => none
  | fuel + 1, atStart, reading => do
    let isEnd (cs : List Char) : Bool :=
      cs.isEmpty || (mark? extended ')' cs).isSome || (mark? extended '|' cs).isSome
    let goOn (atom : Regular) (reading : Reading) : Option (Regular × Reading) := do
      let (atom, rest) := repeatedBy extended reading.rest.length atom reading.rest
      let (more, reading) ← read extended fuel false { reading with rest }
      return (atom.before more, reading)
    match mark? extended '|' reading.rest, mark? extended ')' reading.rest,
        mark? extended '(' reading.rest with
    | some rest, _, _ =>
      let (second, reading) ← read extended fuel true { reading with rest }
      return (.either .empty second, reading)
    | none, some rest, _ =>
      if reading.depth = 0 then
        if extended then goOn (.char ')') { reading with rest } else none
      else return (.empty, reading)
    | none, none, some rest =>
      let number := reading.groups + 1
      let (inside, after) ←
        read extended fuel true { rest, groups := number, depth := reading.depth + 1 }
      let rest ← mark? extended ')' after.rest
      goOn (.group number inside) { after with rest, depth := reading.depth }
    | none, none, none =>
      match reading.rest with
      | [] => if reading.depth = 0 then return (.empty, reading) else none
      | c :: rest =>
        let next := { reading with rest }
        if c = '^' ∧ (extended ∨ atStart) then
          let (more, reading) ← read extended fuel true next
          return (before .start more, reading)
        else if c = '$' ∧ (extended ∨ isEnd rest) then goOn .finish next
        else if c = '*' ∧ atStart then goOn (.char '*') next
        else if c = '.' then goOn (.oneOf true []) next
        else if c = '[' then
          let (atom, rest) ← brackets? rest
          goOn atom { reading with rest }
        else if c = '\\' then
          match rest with
          | [] => none
          | d :: rest =>
            let next := { reading with rest }
            if d.isDigit ∧ d ≠ '0' then goOn (.again (d.toNat - 0x30)) next
            else
              match letter? d with
              | some atom => goOn atom next
              | none => goOn (.char (if d = 'n' then '\n' else if d = 't' then '\t' else d)) next
        else goOn (.char c) next

/-- The expression that a text is. -/
def ofText? (extended : Bool) (text : String) : Option Regular := do
  let (found, reading) ← read extended (2 * text.length + 4) true { rest := text.toList }
  if reading.rest = [] then return found else none

/-! ## Matching -/

/-- Where a match has come to. -/
structure Progress where
  /-- Nothing of the line is before it. -/
  isStart : Bool
  /-- The characters after it. -/
  rest : List Char
  /-- What the groups have matched, the latest first. -/
  groups : List (Nat × List Char) := []

/-- The places to which a match can come. Repetitions take a turn for each character at most. -/
def steps : (fuel : Nat) → Regular → Progress → List Progress
  | 0, _, _ => []
  | fuel + 1, regular, progress =>
    match regular with
    | .empty => [progress]
    | .oneOf negated classes =>
      match progress.rest with
      | c :: rest =>
        if (classes.any (·.holds c)) != negated then
          [{ progress with isStart := false, rest }]
        else []
      | [] => []
    | .start => if progress.isStart then [progress] else []
    | .finish => if progress.rest = [] then [progress] else []
    | .group number inside =>
      (steps fuel inside progress).map fun after =>
        let matched := progress.rest.take (progress.rest.length - after.rest.length)
        { after with groups := (number, matched) :: after.groups }
    | .again number =>
      let matched := (progress.groups.lookup number).getD []
      if matched.isPrefixOf progress.rest then
        [{ progress with
            isStart := progress.isStart && matched.isEmpty
            rest := progress.rest.drop matched.length }]
      else []
    | .sequence first second => (steps fuel first progress).flatMap (steps fuel second)
    | .either first second => steps fuel first progress ++ steps fuel second progress
    | .repeated least most inside =>
      let more :=
        if most = some 0 then []
        else
          ((steps fuel inside progress).filter fun after =>
            after.rest.length < progress.rest.length || 0 < least).flatMap
            (steps fuel (.repeated (least - 1) (most.map (· - 1)) inside))
      if least = 0 then more ++ [progress] else more

/-- A match. -/
structure Match where
  /-- The characters before it. -/
  before : List Char
  /-- The characters that are matched. -/
  text : List Char
  /-- The characters after it. -/
  after : List Char
  /-- What the groups have matched. -/
  groups : List (Nat × List Char)

/-- The size of an expression. -/
def size : Regular → Nat
  | .group _ inside => inside.size + 1
  | .sequence first second => first.size + second.size + 1
  | .either first second => first.size + second.size + 1
  | .repeated least most inside => inside.size + least + most.getD 0 + 1
  | _ => 1

/-- The longest match at the start of some characters. -/
def longest? (regular : Regular) (isStart : Bool) (cs : List Char) : Option Progress :=
  let places := steps (2 * (regular.size + cs.length + 2)) regular { isStart, rest := cs }
  places.foldl (fun found place =>
    match found with
    | some best => if place.rest.length < best.rest.length then some place else some best
    | none => some place) none

/-- The first match in some characters that follow others, the last of which comes first. -/
def firstMatch? (regular : Regular) : (before : List Char) → List Char → (isStart : Bool) →
    Option Match
  | before, cs, isStart =>
    match regular.longest? isStart cs with
    | some place =>
      some {
        before := before.reverse
        text := cs.take (cs.length - place.rest.length)
        after := place.rest
        groups := place.groups }
    | none =>
      match cs with
      | [] => none
      | c :: rest => firstMatch? regular (c :: before) rest false

/-- The expression matches somewhere in a line. -/
def occursIn (regular : Regular) (line : String) : Bool :=
  (regular.firstMatch? [] line.toList true).isSome

end Regular

end CompileCommands.Shell
