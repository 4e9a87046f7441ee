import CompileCommands.Shell.Utility.Files

/-!
# Programs that pass on text

Programs that read files or the standard input and write the text, or the part of it that is
asked for, line by line or octet by octet.
-/

namespace CompileCommands.Shell.Utility

/-- The operands, or the standard input if there are none. -/
def sources (operands : List String) : List String :=
  if operands.isEmpty then ["-"] else operands

/-- How programs complain about what they cannot read. -/
inductive Complaining where
  /-- With the name of the file. -/
  | plain
  /-- With what they tried. -/
  | opening
  deriving DecidableEq, Repr

/-- The texts of some sources with their names, without those that cannot be read, and whether
all can be read. -/
def contents (title : String) (complaining : Complaining) (operands : List String) :
    ShellTask (List (String × String) × Bool) := do
  let found ← (sources operands).mapM fun path => do
    match ← content path with
    | .ok text => return some (path, text)
    | .error e =>
      complainAs title
        (match complaining with
          | .plain => shown path ++ ": " ++ e.reason
          | .opening =>
            if e = .isDirectory then "error reading " ++ named path ++ ": " ++ e.reason
            else "cannot open " ++ named path ++ " for reading: " ++ e.reason)
      return none
  return (found.filterMap id, found.all Option.isSome)

/-- Write what a function makes of the texts of some sources put together. -/
def transform (title : String) (operands : List String) (change : String → String) :
    ShellTask Unit := do
  let (texts, all) ← contents title .plain operands
  print (change (String.join (texts.map (·.2))))
  finish (if all then 0 else 1)

/-- A number at the right end of a field of some width. -/
def atRight (width n : Nat) : String :=
  let digits := toString n
  String.ofList (List.replicate (width - digits.length) ' ') ++ digits

/-- The lines of some text with their ends. -/
def fullLines (text : String) : List String :=
  let (lines, complete) := linesOf text
  lines.mapIdx fun i line => if i + 1 = lines.length ∧ !complete then line else line ++ "\n"

/-- Write files one after another. -/
def concatenate (title : String) (arguments : List String) : ShellTask Unit := do
  let orders ← ordersOf title [⟨'n', "number", false⟩, ⟨'u', "", false⟩] arguments
  let done ← (sources orders.operands).mapM fun path => do
    match ← content path with
    | .ok text =>
      if orders.has 'n' then
        print (String.join ((fullLines text).mapIdx fun i line =>
          atRight 6 (i + 1) ++ "\t" ++ line))
      else print text
      return true
    | .error e =>
      complainAs title (shown path ++ ": " ++ e.reason)
      return false
  let shell ← get
  if shell.lost then
    set { shell with lost := false }
    refuse title ("standard output: " ++ badDescriptor)
  if (sources orders.operands).contains "-" ∧ shell.channel? 0 = none then
    complainAs title ("closing standard input: " ++ badDescriptor)
  finish (if done.all id then 0 else 1)

/-- Write the standard input, to files as well. -/
def tee (title : String) (arguments : List String) : ShellTask Unit := do
  let orders ← ordersOf title [⟨'a', "append", false⟩, ⟨'i', "", false⟩] arguments
  let text := (← readChannel 0).toOption.getD ""
  let channels ← orders.operands.mapM fun path => do
    match ← openOutput (orders.has 'a') path with
    | .ok channel => return some channel
    | .error e =>
      complainAs title (shown path ++ ": " ++ e.reason)
      return none
  print text
  channels.forM fun channel? => channel?.forM fun channel => writeTo (some channel) text
  finish (if channels.all Option.isSome then 0 else 1)

/-! ## Parts of a text -/

/-- How much of a text is wanted, from one end. -/
structure Portion where
  /-- The number of lines or octets. -/
  count : Nat
  /-- They are octets. -/
  inOctets : Bool
  /-- The number is counted from the other end. -/
  fromOther : Bool

/-- The first units of a text. -/
def Portion.front (portion : Portion) (units : List String) : List String :=
  if portion.fromOther then units.take (units.length - portion.count)
  else units.take portion.count

/-- The last units of a text. -/
def Portion.back (portion : Portion) (units : List String) : List String :=
  if portion.fromOther then units.drop (portion.count - 1)
  else units.drop (units.length - portion.count)

/-- The part of a text that a choice among its lines or octets leaves. -/
def Portion.ofText (portion : Portion) (choose : List String → List String) (text : String) :
    String :=
  String.join
    (choose (if portion.inOctets then text.toList.map String.singleton else fullLines text))

/-- The portion that is asked for; a mark in front of the number says that it is counted from
the other end. -/
def portionOf (title : String) (mark : Char) (orders : Orders) : ShellTask Portion := do
  let octets? := orders.value? 'c'
  let text := (octets?.orElse fun _ => orders.value? 'n').getD "10"
  let digits := match text.toList with
    | '-' :: rest => rest
    | '+' :: rest => rest
    | all => all
  match (String.ofList digits).toNat? with
  | some count =>
    return { count, inOctets := octets?.isSome, fromOther := text.toList.head? = some mark }
  | none =>
    refuse title ("invalid number of " ++ (if octets?.isSome then "bytes" else "lines") ++
      ": " ++ named text)

/-- Arguments in which a number after a dash is the number of lines. -/
def withLineCount : List String → List String
  | argument :: rest =>
    match argument.toList with
    | '-' :: c :: more =>
      if (c :: more).all Char.isDigit then "-n" :: String.ofList (c :: more) :: rest
      else argument :: rest
    | _ => argument :: rest
  | [] => []

/-- The file with zeros that has no end. -/
def zeros : Location := ["dev", "zero"]

/-- Write portions of files, under headings if there are several. -/
def printPortions (title : String) (mark : Char)
    (choose : Portion → List String → List String) (arguments : List String) :
    ShellTask Unit := do
  let orders ← ordersOf title [⟨'n', "lines", true⟩, ⟨'c', "bytes", true⟩,
    ⟨'q', "quiet", false⟩, ⟨'v', "verbose", false⟩, ⟨'f', "", false⟩] (withLineCount arguments)
  let portion ← portionOf title mark orders
  let shell ← get
  let fs ← files
  let leadsToZeros (path : String) : Bool :=
    (fs.resolve shell.host.directory (Text.Octets.toText path)).toOption == some zeros
  if orders.operands.any leadsToZeros ∧ portion.inOctets then
    print (String.ofList (List.replicate portion.count '\x00'))
    finish 0
  else
    let (texts, all) ← contents title .opening orders.operands
    let several := 1 < orders.operands.length && !orders.has 'q' || orders.has 'v'
    let parts := texts.map fun (path, text) =>
      let name := if path = "-" then "standard input" else path
      (if several then "==> " ++ name ++ " <==\n" else "") ++ portion.ofText (choose portion) text
    print ((if several then "\n" else "").intercalate parts)
    finish (if all then 0 else 1)

/-- Write the first lines of files. -/
def head (title : String) : List String → ShellTask Unit :=
  printPortions title '-' Portion.front

/-- Write the last lines of files. -/
def tail (title : String) : List String → ShellTask Unit :=
  printPortions title '+' Portion.back

/-! ## Counting and ordering -/

/-- The number of words in a text. -/
def wordCount (text : String) : Nat :=
  let isSpace (c : Char) : Bool := " \t\n\r\x0b\x0c".toList.contains c
  (text.toList.foldl (fun (count, inside) c =>
    if isSpace c then (count, false) else (if inside then count else count + 1, true))
    (0, false)).1

/-- Count lines, words and octets. -/
def count (title : String) (arguments : List String) : ShellTask Unit := do
  let orders ← ordersOf title [⟨'l', "lines", false⟩, ⟨'w', "words", false⟩,
    ⟨'c', "bytes", false⟩, ⟨'m', "chars", false⟩] arguments
  let plain := orders.switches.isEmpty
  let (texts, all) ← contents title .plain orders.operands
  let counts (text : String) : List Nat :=
    (if plain ∨ orders.has 'l' then [text.toList.count '\n'] else []) ++
      (if plain ∨ orders.has 'w' then [wordCount text] else []) ++
      (if plain ∨ orders.has 'c' ∨ orders.has 'm' then [text.length] else [])
  let size := texts.foldl (fun size text => size + text.2.length) 0
  let width :=
    if orders.operands.length ≤ 1 ∧ (counts "").length = 1 then 1
    else if orders.operands.contains "-" ∨ orders.operands.isEmpty then 7
    else (toString size).length
  let line (counts : List Nat) (name : String) : String :=
    " ".intercalate (counts.map (atRight width)) ++ name ++ "\n"
  texts.forM fun (path, text) =>
    print (line (counts text) (if orders.operands.isEmpty then "" else " " ++ path))
  if 1 < orders.operands.length then
    let sums := (texts.map fun text => counts text.2).foldl (fun sums counts =>
      (sums.zip counts).map fun (a, b) => a + b) (List.replicate (counts "").length 0)
    print (line sums " total")
  finish (if all then 0 else 1)

/-- The number at the front of a line, in thousandths. -/
def leadingNumber (line : String) : Int :=
  let cs := line.toList.dropWhile isBlank
  let (negative, cs) := match cs with
    | '-' :: rest => (true, rest)
    | all => (false, all)
  let (whole, rest) := Arithmetic.digits 10 cs
  let part := match rest with
    | '.' :: more => (Arithmetic.digits 10
        ((more.takeWhile Char.isDigit ++ List.replicate 3 '0').take 3)).1
    | _ => 0
  if negative then -((1000 * whole + part : Nat) : Int) else (1000 * whole + part : Nat)

/-- Write the lines of files in order. -/
def sort (title : String) (arguments : List String) : ShellTask Unit := do
  let orders ← ordersOf title [⟨'r', "reverse", false⟩, ⟨'n', "numeric-sort", false⟩,
    ⟨'u', "unique", false⟩, ⟨'f', "ignore-case", false⟩, ⟨'s', "stable", false⟩,
    ⟨'b', "", false⟩, ⟨'o', "output", true⟩] arguments
  let (texts, all) ← contents title .opening orders.operands
  let lines := texts.flatMap fun (_, text) => (linesOf text).1
  let folded (line : String) : String := if orders.has 'f' then line.toUpper else line
  let least (a b : String) : Bool :=
    if orders.has 'n' ∧ leadingNumber a ≠ leadingNumber b then
      leadingNumber a < leadingNumber b
    else if (orders.has 'n' ∧ orders.has 'u') then true
    else if folded a ≠ folded b then folded a ≤ folded b
    else orders.has 'u' || orders.has 's' || a ≤ b
  let alike (a b : String) : Bool := least a b && least b a
  let ordered := lines.mergeSort fun a b => if orders.has 'r' then least b a else least a b
  let kept :=
    if orders.has 'u' then
      ordered.foldr (fun line kept =>
        if kept.head?.any (alike line) then line :: kept.tail else line :: kept) []
    else ordered
  match orders.value? 'o' with
  | none => print (ofLines kept)
  | some path =>
    if let .ok channel ← openOutput false path then writeTo (some channel) (ofLines kept)
  finish (if all then 0 else 2)

/-- Lines that follow one another and are alike, counted. -/
def runsOf : List String → List (Nat × String)
  | [] => []
  | line :: rest =>
    match runsOf rest with
    | (count, next) :: more =>
      if next = line then (count + 1, line) :: more else (1, line) :: (count, next) :: more
    | [] => [(1, line)]

/-- Write lines that follow one another and are alike once. -/
def unique (title : String) (arguments : List String) : ShellTask Unit := do
  let orders ← ordersOf title [⟨'c', "count", false⟩, ⟨'d', "repeated", false⟩,
    ⟨'u', "unique", false⟩] arguments
  transform title orders.operands fun text =>
    let kept := (runsOf (linesOf text).1).filter fun (count, _) =>
      (!orders.has 'd' || 1 < count) && (!orders.has 'u' || count = 1)
    ofLines (kept.map fun (count, line) =>
      if orders.has 'c' then atRight 7 count ++ " " ++ line else line)

/-! ## Characters and fields -/

/-- The characters of a set, written with ranges, escapes and classes. -/
def setUpTo : (count : Nat) → List Char → List Char
  | 0, _ => []
  | _ + 1, [] => []
  | n + 1, '[' :: ':' :: rest =>
    let name := rest.takeWhile Char.isAlpha
    match rest.drop name.length with
    | ':' :: ']' :: after =>
      ((List.range 256).map Char.ofNat).filter (isOfKind (String.ofList name)) ++ setUpTo n after
    | _ => '[' :: setUpTo n (':' :: rest)
  | n + 1, c :: rest =>
    let single (cs : List Char) : Char × List Char :=
      match cs with
      | '\\' :: more =>
        match escape more with
        | ([d], after) => (d, after)
        | (_, after) => (more.headD '\\', after)
      | d :: more => (d, more)
      | [] => ('\x00', [])
    let (first, rest) := single (c :: rest)
    match rest with
    | '-' :: d :: more =>
      let (last, after) := single (d :: more)
      (List.range' first.toNat (last.toNat + 1 - first.toNat)).map Char.ofNat ++ setUpTo n after
    | _ => first :: setUpTo n rest

/-- The characters of a set. -/
def setOf (text : String) : List Char :=
  setUpTo (text.length + 1) text.toList

/-- Without the repetitions of some characters. -/
def squeezed (set : List Char) : List Char → List Char
  | c :: d :: rest =>
    if c = d ∧ set.contains c then squeezed set (d :: rest) else c :: squeezed set (d :: rest)
  | rest => rest

/-- Replace or drop characters of the standard input. -/
def translate (title : String) (arguments : List String) : ShellTask Unit := do
  let orders ← ordersOf title [⟨'d', "delete", false⟩, ⟨'s', "squeeze-repeats", false⟩,
    ⟨'c', "complement", false⟩, ⟨'C', "", false⟩] arguments
  let complement := orders.has 'c' || orders.has 'C'
  match orders.operands with
  | [] => refuseUsage title "missing operand"
  | first :: others =>
    let written := setOf first
    let set :=
      if complement then ((List.range 256).map Char.ofNat).filter (!written.contains ·)
      else written
    let second := setOf (others.headD "")
    if others.isEmpty ∧ !orders.has 'd' ∧ !orders.has 's' then
      complainAs title ("missing operand after " ++ named first)
      report "Two strings must be given when translating."
      report ("Try '" ++ title ++ " --help' for more information.")
      leave 1
    let change (c : Char) : Char :=
      match set.reverse.idxOf? c with
      | some i =>
        second[set.length - 1 - i]?.getD (second.getLast?.getD c)
      | none => c
    transform title [] fun text =>
      let cs := text.toList
      let cs :=
        if orders.has 'd' then cs.filter (!set.contains ·)
        else if others.isEmpty then cs
        else cs.map change
      String.ofList
        (if orders.has 's' then squeezed (if others.isEmpty then set else second) cs else cs)

/-- The ranges of a list of numbers. -/
def rangesOf (text : String) : List (Nat × Option Nat) :=
  (Text.fields ',' text).map fun range =>
    match Text.fields '-' range with
    | [one] => let n := one.toNat?.getD 0; (n, some n)
    | first :: last :: _ => (first.toNat?.getD 1, last.toNat?)
    | [] => (0, some 0)

/-- The number is in one of the ranges. -/
def inRanges (ranges : List (Nat × Option Nat)) (n : Nat) : Bool :=
  ranges.any fun (first, last) => first ≤ n && last.all (n ≤ ·)

/-- Write some of the characters or fields of each line. -/
def cut (title : String) (arguments : List String) : ShellTask Unit := do
  let orders ← ordersOf title [⟨'d', "delimiter", true⟩, ⟨'f', "fields", true⟩,
    ⟨'c', "characters", true⟩, ⟨'b', "bytes", true⟩, ⟨'s', "only-delimited", false⟩] arguments
  let byCharacter? := (orders.value? 'c').orElse fun _ => orders.value? 'b'
  let chosen {α : Type} (ranges : List (Nat × Option Nat)) (items : List α) : List α :=
    ((items.mapIdx fun i item => (i + 1, item)).filter fun (i, _) =>
      inRanges ranges i).map (·.2)
  match byCharacter?, orders.value? 'f' with
  | some list, _ =>
    transform title orders.operands fun text =>
      ofLines ((linesOf text).1.map fun line =>
        String.ofList (chosen (rangesOf list) line.toList))
  | none, some list =>
    let delimiter := (orders.value? 'd').bind (·.toList.head?) |>.getD '\t'
    transform title orders.operands fun text =>
      ofLines ((linesOf text).1.filterMap fun line =>
        if line.toList.contains delimiter then
          some ((String.singleton delimiter).intercalate
            (chosen (rangesOf list) (Text.fields delimiter line)))
        else if orders.has 's' then none
        else some line)
  | none, none => refuseUsage title "you must specify a list of bytes, characters, or fields"

/-- Write the lines of files in the opposite order. -/
def reverseLines (title : String) (arguments : List String) : ShellTask Unit :=
  transform title arguments fun text => String.join (fullLines text).reverse

/-- Write the characters of each line in the opposite order. -/
def reverseCharacters (title : String) (arguments : List String) : ShellTask Unit :=
  transform title arguments fun text =>
    let (lines, complete) := linesOf text
    let turned := lines.map fun line => String.ofList line.toList.reverse
    if complete then ofLines turned else "\n".intercalate turned

end CompileCommands.Shell.Utility
