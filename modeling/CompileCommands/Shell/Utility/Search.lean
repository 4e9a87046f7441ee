import CompileCommands.Shell.Regular
import CompileCommands.Shell.Utility.Lines

/-!
# Programs that search lines

`grep` writes the lines in which an expression matches; `sed` changes lines as a script says.
-/

namespace CompileCommands.Shell.Utility

/-! ## Lines that match -/

/-- The expression that matches a text as it stands. -/
def plainly (text : String) : Regular :=
  text.toList.foldr (fun c more => .sequence (.char c) more) .empty

/-- A text in which letters are small. -/
def lowered (folds : Bool) (text : String) : String :=
  if folds then text.toLower else text

/-- The first match in some characters that follow others. With `asWord` it is no part of a
longer word. -/
def matchFrom? (asWord : Bool) (regular : Regular) : (count : Nat) → (before : List Char) →
    List Char → Option Regular.Match
  | 0, _, _ => none
  | n + 1, before, cs => do
    let found ← regular.firstMatch? before cs before.isEmpty
    if !asWord ∨ (!found.before.getLast?.any isNameChar ∧ !found.after.head?.any isNameChar) then
      return found
    else
      let c ← (found.text ++ found.after).head?
      matchFrom? asWord regular n (c :: found.before.reverse)
        ((found.text ++ found.after).drop 1)

/-- The first match in some characters that follow others, if the line is wanted. With `whole`
it is all of the line. -/
def find? (whole asWord : Bool) (before cs : List Char) (regular : Regular) :
    Option Regular.Match :=
  if whole then
    if before = [] ∧ ((regular.before .finish).longest? true cs).isSome then
      some { before := [], text := cs, after := [], groups := [] }
    else none
  else matchFrom? asWord regular (cs.length + 2) before cs

/-- The parts of a line that match, one after another. -/
def matchesIn (first? : (before cs : List Char) → Option Regular.Match) : (count : Nat) →
    (before cs : List Char) → List String
  | 0, _, _ => []
  | n + 1, before, cs =>
    match first? before cs with
    | none => []
    | some found =>
      let here := found.text.reverse ++ found.before.reverse
      if found.text = [] then
        match found.after with
        | [] => []
        | c :: rest => matchesIn first? n (c :: here) rest
      else String.ofList found.text :: matchesIn first? n here found.after

/-- The expressions that `grep` is told to search for. -/
def wantedBy (title : String) (orders : Orders) (patterns : List String) :
    ShellTask (List Regular) :=
  (patterns.flatMap (Text.fields '\n')).mapM fun pattern => do
    let pattern := lowered (orders.has 'i') pattern
    if orders.has 'F' then return plainly pattern
    else
      match Regular.ofText? (orders.has 'E') pattern with
      | some regular => return regular
      | none =>
        complainAs title "Unmatched [, [^, [:, [., or [="
        leave 2

/-- Write the lines in which an expression matches. -/
def grep (title : String) (arguments : List String) : ShellTask Unit := do
  let orders ← ordersOf title [⟨'q', "quiet", false⟩, ⟨'s', "no-messages", false⟩,
    ⟨'v', "invert-match", false⟩, ⟨'i', "ignore-case", false⟩, ⟨'c', "count", false⟩,
    ⟨'n', "line-number", false⟩, ⟨'E', "extended-regexp", false⟩, ⟨'F', "fixed-strings", false⟩,
    ⟨'G', "basic-regexp", false⟩, ⟨'x', "line-regexp", false⟩, ⟨'w', "word-regexp", false⟩,
    ⟨'l', "files-with-matches", false⟩, ⟨'h', "no-filename", false⟩, ⟨'H', "", false⟩,
    ⟨'o', "only-matching", false⟩, ⟨'e', "regexp", true⟩, ⟨'a', "text", false⟩,
    ⟨'m', "max-count", true⟩] arguments
  let given := (orders.switches.filter (·.1 = 'e')).map (·.2)
  let (patterns, operands) := match given, orders.operands with
    | [], pattern :: rest => ([pattern], rest)
    | patterns, operands => (patterns, operands)
  if patterns.isEmpty then
    report ("Usage: " ++ title ++ " [OPTION]... PATTERNS [FILE]...")
    report ("Try '" ++ title ++ " --help' for more information.")
    leave 2
  let wanted ← wantedBy title orders patterns
  let first? (before cs : List Char) : Option Regular.Match :=
    wanted.findSome? (find? (orders.has 'x') (orders.has 'w') before cs)
  let results ← (sources operands).mapM fun path => do
    match ← content path with
    | .error e =>
      if !orders.has 's' then complainAs title (path ++ ": " ++ e.reason)
      return (none : Option Bool)
    | .ok text =>
      let lines := (linesOf text).1.mapIdx fun i line => (i + 1, line)
      let found := lines.filter fun (_, line) =>
        (first? [] (lowered (orders.has 'i') line).toList).isSome != orders.has 'v'
      let found := match (orders.value? 'm').bind String.toNat? with
        | some most => found.take most
        | none => found
      let name :=
        if (1 < operands.length ∨ orders.has 'H') ∧ !orders.has 'h' then path ++ ":" else ""
      if !orders.has 'q' then
        if orders.has 'l' then
          if found ≠ [] then
            print ((if path = "-" then "(standard input)" else path) ++ "\n")
        else if orders.has 'c' then print (name ++ toString found.length ++ "\n")
        else
          found.forM fun (number, line) => do
            let lead := name ++ if orders.has 'n' then toString number ++ ":" else ""
            if orders.has 'o' then
              (matchesIn first? (line.length + 1) [] line.toList).forM fun part =>
                print (lead ++ part ++ "\n")
            else print (lead ++ line ++ "\n")
      return some (found ≠ [])
  let anyFound := results.any (· = some true)
  finish
    (if anyFound ∧ orders.has 'q' then 0
      else if results.any Option.isNone then 2
      else if anyFound then 0
      else 1)

/-! ## Scripts that change lines -/

/-- A line that is meant. -/
inductive Address where
  /-- The line with a number. -/
  | number (number : Nat)
  /-- The last line. -/
  | last
  /-- A line in which an expression matches. -/
  | regular (regular : Regular)

/-- What is done to a line. -/
inductive Edit where
  /-- Put a text in place of matches: of the one with a number, and of those after it if `all`. -/
  | replace (regular : Regular) (text : List Char) (number : Nat) (all prints : Bool)
  /-- Write the line. -/
  | print
  /-- Drop the line. -/
  | delete
  /-- Write the line and end. -/
  | quit
  /-- Write the number of the line. -/
  | number
  /-- Put characters in place of others. -/
  | translate (old new : List Char)
  /-- Write a text before the line, after it, or in its place. -/
  | insert (text : String)
  /-- Write a text after the line. -/
  | append (text : String)
  /-- Write a text in place of the line. -/
  | change (text : String)

/-- An edit of the lines that are meant. -/
structure Instruction where
  /-- The line, or the first line. -/
  first : Option Address
  /-- The last line. -/
  second : Option Address
  /-- All other lines are meant. -/
  negated : Bool
  /-- What is done to them. -/
  edit : Edit

/-- The text up to a delimiter, and the rest after it. A backslash keeps a delimiter from
counting. -/
def untilDelimiter (delimiter : Char) : List Char → Option (List Char × List Char)
  | [] => none
  | '\\' :: c :: rest =>
    (untilDelimiter delimiter rest).map fun (text, after) =>
      (if c = delimiter then c :: text else '\\' :: c :: text, after)
  | c :: rest =>
    if c = delimiter then some ([], rest)
    else (untilDelimiter delimiter rest).map fun (text, after) => (c :: text, after)

/-- Read the address at the front of an instruction. -/
def address? (extended : Bool) (cs : List Char) : Option (Option Address × List Char) :=
  match cs with
  | '$' :: rest => some (some .last, rest)
  | '/' :: rest => do
    let (text, after) ← untilDelimiter '/' rest
    let regular ← Regular.ofText? extended (String.ofList text)
    return (some (.regular regular), after)
  | _ =>
    let digits := cs.takeWhile Char.isDigit
    if digits = [] then some (none, cs)
    else some (some (.number ((String.ofList digits).toNat?.getD 0)), cs.drop digits.length)

/-- Read an edit that replaces matches. -/
def replacement? (extended : Bool) (cs : List Char) : Option (Edit × List Char) := do
  let delimiter ← cs.head?
  let (pattern, rest) ← untilDelimiter delimiter cs.tail
  let (text, rest) ← untilDelimiter delimiter rest
  let flags := rest.takeWhile fun c => c.isDigit || "gpiI".toList.contains c
  let folds := flags.contains 'i' || flags.contains 'I'
  let regular ← Regular.ofText? extended (String.ofList pattern)
  if folds then none
  let number := (String.ofList (flags.filter Char.isDigit)).toNat?.getD 1
  return (.replace regular text number (flags.contains 'g') (flags.contains 'p'),
    rest.drop flags.length)

/-- Read an edit. -/
def edit? (extended : Bool) (cs : List Char) : Option (Edit × List Char) :=
  match cs with
  | 's' :: rest => replacement? extended rest
  | 'p' :: rest => some (.print, rest)
  | 'd' :: rest => some (.delete, rest)
  | 'q' :: rest => some (.quit, rest)
  | '=' :: rest => some (.number, rest)
  | 'y' :: delimiter :: rest => do
    let (old, rest) ← untilDelimiter delimiter rest
    let (new, rest) ← untilDelimiter delimiter rest
    return (.translate old new, rest)
  | c :: rest =>
    let body := rest.dropWhile isBlank
    let body := match body with
      | '\\' :: '\n' :: more => more
      | '\\' :: more => more.dropWhile isBlank
      | more => more
    let text := body.takeWhile (· ≠ '\n')
    let line := String.ofList text ++ "\n"
    match c with
    | 'i' => some (.insert line, body.drop text.length)
    | 'a' => some (.append line, body.drop text.length)
    | 'c' => some (.change line, body.drop text.length)
    | _ => none
  | [] => none

/-- The instructions of a script. -/
def instructions? (extended : Bool) : (count : Nat) → List Char → Option (List Instruction)
  | 0, _ => none
  | n + 1, cs => do
    let cs := cs.dropWhile fun c => isBlank c || c = ';' || c = '\n'
    if cs.isEmpty then return []
    let (first, cs) ← address? extended cs
    let (second, cs) ← match cs with
      | ',' :: rest => address? extended rest
      | cs => some (none, cs)
    let cs := cs.dropWhile isBlank
    let (negated, cs) := match cs with
      | '!' :: rest => (true, rest.dropWhile isBlank)
      | cs => (false, cs)
    let (edit, cs) ← edit? extended cs
    return { first, second, negated, edit } :: (← instructions? extended n cs)

/-- The text that stands for a match: an ampersand is the match, a digit after a backslash what
a group has matched. -/
def substitute (found : Regular.Match) : List Char → List Char
  | [] => []
  | '&' :: rest => found.text ++ substitute found rest
  | '\\' :: c :: rest =>
    (if c = '0' then found.text
      else if c.isDigit then (found.groups.lookup (c.toNat - 0x30)).getD []
      else if c = 'n' then ['\n']
      else if c = 't' then ['\t']
      else [c]) ++ substitute found rest
  | c :: rest => c :: substitute found rest

/-- A line with a text in place of matches, and whether there is one. `number` is how many
matches have to come up to the first that counts. -/
def replaced (regular : Regular) (text : List Char) (all : Bool) :
    (count : Nat) → (number : Nat) → (isStart : Bool) → List Char → List Char × Bool
  | 0, _, _, cs => (cs, false)
  | n + 1, number, isStart, cs =>
    match regular.firstMatch? [] cs isStart with
    | none => (cs, false)
    | some found =>
      let counts := number ≤ 1
      let here := found.before ++ if counts then substitute found text else found.text
      if counts ∧ !all then (here ++ found.after, true)
      else
        let (skipped, rest) := match found.text, found.after with
          | [], c :: rest => ([c], rest)
          | _, rest => ([], rest)
        if found.text = [] ∧ found.after = [] then (here, counts)
        else
          let (more, changed) := replaced regular text all n (number - 1) false rest
          (here ++ skipped ++ more, counts || changed)

/-- A line while it is edited. -/
structure Line where
  /-- Its number. -/
  number : Nat
  /-- It is the last one. -/
  isLast : Bool
  /-- Its text. -/
  text : String

/-- The address means the line. -/
def Address.means (line : Line) : Address → Bool
  | .number n => line.number = n
  | .last => line.isLast
  | .regular wanted => wanted.occursIn line.text

/-- The instruction is meant for a line; `open?` says that the line is in the range of lines that
it is meant for. The second result says that for the next line. -/
def Instruction.isFor (instruction : Instruction) (inRange : Bool) (line : Line) :
    Bool × Bool :=
  let (meant, stays) :=
    match instruction.first, instruction.second with
    | none, _ => (true, false)
    | some first, none => (first.means line, false)
    | some first, some second =>
      if inRange then
        match second with
        | .number n => (true, line.number < n)
        | second => (true, !second.means line)
      else if first.means line then
        (true, match second with
          | .number n => line.number < n
          | .last => !line.isLast
          | .regular _ => true)
      else (false, false)
  (meant != instruction.negated, stays)

/-- What has become of a line. -/
structure Edited where
  /-- Its text. -/
  text : String
  /-- What has been written before it. -/
  before : String := ""
  /-- What is written after it. -/
  after : String := ""
  /-- It is dropped. -/
  isGone : Bool := false
  /-- It is the last one. -/
  ends : Bool := false

/-- Do to a line what the instructions say that are meant for it. -/
def editLine (line : Line) : List (Instruction × Bool) → Edited →
    Edited × List (Instruction × Bool)
  | [], edited => (edited, [])
  | (instruction, inRange) :: rest, edited =>
    let (meant, stays) := instruction.isFor inRange { line with text := edited.text }
    let goOn (edited : Edited) : Edited × List (Instruction × Bool) :=
      let (edited, others) := editLine line rest edited
      (edited, (instruction, stays) :: others)
    let stop (edited : Edited) : Edited × List (Instruction × Bool) :=
      (edited, (instruction, stays) :: rest)
    if !meant then goOn edited
    else
      match instruction.edit with
      | .replace regular text number all prints =>
        let cs := edited.text.toList
        let (new, changed) := replaced regular text all (cs.length + 2) number true cs
        let edited := { edited with text := String.ofList new }
        goOn (if changed ∧ prints then
            { edited with before := edited.before ++ edited.text ++ "\n" }
          else edited)
      | .print => goOn { edited with before := edited.before ++ edited.text ++ "\n" }
      | .delete => stop { edited with isGone := true }
      | .quit => stop { edited with ends := true }
      | .number => goOn { edited with before := edited.before ++ toString line.number ++ "\n" }
      | .translate old new =>
        goOn { edited with
          text := String.ofList (edited.text.toList.map fun c =>
            ((old.idxOf? c).bind (new[·]?)).getD c) }
      | .insert text => goOn { edited with before := edited.before ++ text }
      | .append text => goOn { edited with after := edited.after ++ text }
      | .change text =>
        stop { edited with before := edited.before ++ (if stays then "" else text), isGone := true }

/-- Edit lines, from the line with a number on. -/
def editLines (quiet complete : Bool) : (number : Nat) → List (Instruction × Bool) →
    List String → String
  | _, _, [] => ""
  | number, instructions, text :: rest =>
    let line : Line := { number, isLast := rest.isEmpty, text }
    let (edited, instructions) := editLine line instructions { text }
    let written :=
      edited.before ++
        (if edited.isGone ∨ quiet then ""
          else edited.text ++ if rest.isEmpty ∧ !complete then "" else "\n") ++
        edited.after
    if edited.ends then written
    else written ++ editLines quiet complete (number + 1) instructions rest

/-- Change lines as a script says. -/
def sed (title : String) (arguments : List String) : ShellTask Unit := do
  let orders ← ordersOf title [⟨'n', "quiet", false⟩, ⟨'e', "expression", true⟩,
    ⟨'E', "regexp-extended", false⟩, ⟨'r', "", false⟩, ⟨'i', "in-place", false⟩,
    ⟨'u', "", false⟩, ⟨'s', "", false⟩] arguments
  let given := (orders.switches.filter (·.1 = 'e')).map (·.2)
  let (scripts, operands) := match given, orders.operands with
    | [], script :: rest => ([script], rest)
    | scripts, operands => (scripts, operands)
  if scripts.isEmpty then
    report ("Usage: " ++ title ++
      " [OPTION]... \x7bscript-only-if-no-other-script\x7d [input-file]...")
    leave 1
  let script := "\n".intercalate scripts
  let extended := orders.has 'E' || orders.has 'r'
  match instructions? extended (script.length + 2) script.toList with
  | none =>
    let letter := (script.toList.find? fun c => !(c.isDigit || "$,! ".toList.contains c)).getD ' '
    complainAs title ("-e expression #1, char " ++ toString script.length ++ ": " ++
      if letter = 's' then "unterminated `s' command"
      else "unknown command: `" ++ String.singleton letter ++ "'")
    leave 1
  | some instructions =>
    let edit (text : String) : String :=
      let (lines, complete) := linesOf text
      editLines (orders.has 'n') complete 1 (instructions.map (·, false)) lines
    let texts ← (sources operands).mapM fun path => do
      match ← content path with
      | .ok text => return some (path, text)
      | .error e =>
        complainAs title
          (if e = .isDirectory then "couldn't edit " ++ path ++ ": not a regular file"
            else "can't read " ++ path ++ ": " ++ e.reason)
        return none
    if orders.has 'i' then
      (texts.filterMap id).forM fun (path, text) => do
        if let .ok channel ← openOutput false path then writeTo (some channel) (edit text)
    else print (edit (String.join ((texts.filterMap id).map (·.2))))
    finish (if texts.all Option.isSome then 0 else 2)

end CompileCommands.Shell.Utility
