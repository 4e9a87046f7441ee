import CompileCommands.Shell.Floating

/-!
# Formatted text

The escapes and the formats of the printing commands.
-/

namespace CompileCommands.Shell

/-- The digit is octal. -/
def isOctal (c : Char) : Bool :=
  '0' ≤ c && c ≤ '7'

/-- The octet with a number written in octal digits. -/
def octalChar (digits : List Char) : Char :=
  Char.ofNat ((digits.foldl (fun n c => 8 * n + (c.toNat - '0'.toNat)) 0) % 256)

/-- The character that an escape with a letter stands for. -/
def escapedChar? : Char → Option Char
  | 'a' => some '\x07'
  | 'b' => some '\x08'
  | 'e' => some '\x1b'
  | 'f' => some '\x0c'
  | 'n' => some '\n'
  | 'r' => some '\r'
  | 't' => some '\t'
  | 'v' => some '\x0b'
  | '\\' => some '\\'
  | _ => none

/-- What an escape stands for, after its backslash, and the rest. -/
def escape (cs : List Char) : List Char × List Char :=
  match cs with
  | [] => (['\\'], [])
  | c :: rest =>
    match escapedChar? c with
    | some d => ([d], rest)
    | none =>
      let digits := (cs.take 3).takeWhile isOctal
      if digits = [] then (['\\', c], rest) else ([octalChar digits], cs.drop digits.length)

/-- Text with its escapes replaced, and whether it goes on after that: `\c` ends all. Octal
escapes may start with a zero that does not count. -/
def unescapeUpTo : (count : Nat) → List Char → List Char × Bool
  | 0, _ => ([], true)
  | _ + 1, [] => ([], true)
  | n + 1, c :: rest =>
    let (found, rest) :=
      if c ≠ '\\' then (some [c], rest)
      else if rest.head? = some 'c' then (none, [])
      else
        let (found, rest) :=
          escape (if rest.head? = some '0' ∧ rest.tail.head?.any isOctal then rest.tail else rest)
        (some found, rest)
    match found with
    | none => ([], false)
    | some found =>
      let (more, goesOn) := unescapeUpTo n rest
      (found ++ more, goesOn)

/-- Text with its escapes replaced, and whether it goes on after that. -/
def unescape (text : String) : List Char × Bool :=
  unescapeUpTo (text.length + 1) text.toList

/-- What `echo` writes. -/
def echo (arguments : List String) : String :=
  let (arguments, lineEnd) :=
    match arguments with
    | "-n" :: rest => (rest, [])
    | all => (all, ['\n'])
  let (text, goesOn) := unescape (" ".intercalate arguments)
  String.ofList (text ++ if goesOn then lineEnd else [])

/-! ## Formats -/

/-- How a value is laid out. -/
structure Layout where
  /-- The flags. -/
  flags : List Char := []
  /-- The least width. -/
  width : Nat := 0
  /-- How many digits or characters there are at least or at most. -/
  precision : Option Nat := none
  deriving Repr

/-- A text in a field of some width. -/
def Layout.pad (layout : Layout) (text : List Char) : List Char :=
  let blanks := List.replicate (layout.width - text.length) ' '
  if layout.flags.contains '-' then text ++ blanks else blanks ++ text

/-- Digits with a sign or a mark in front, filled with zeros where the layout says so. -/
def Layout.padDigits (layout : Layout) (lead digits : List Char) : List Char :=
  let digits := match layout.precision with
    | some least => List.replicate (least - digits.length) '0' ++ digits
    | none =>
      if layout.flags.contains '0' ∧ ¬layout.flags.contains '-' then
        List.replicate (layout.width - lead.length - digits.length) '0' ++ digits
      else digits
  layout.pad (lead ++ digits)

/-- The sign in front of a number. -/
def Layout.sign (layout : Layout) (negative : Bool) : List Char :=
  if negative then ['-']
  else if layout.flags.contains '+' then ['+']
  else if layout.flags.contains ' ' then [' ']
  else []

/-- A number with a sign. -/
def Layout.signed (layout : Layout) (n : Int) : List Char :=
  layout.padDigits (layout.sign (n < 0)) (Nat.toDigits 10 n.natAbs)

/-- A number with a fraction, in the form that a letter stands for. The names of those that have
no digits are not filled with zeros. -/
def Layout.floating (layout : Layout) (letter : Char) (number : Floating.Reading) : List Char :=
  let (lead, body) :=
    number.value.text letter layout.precision (layout.flags.contains '#')
  let flags := match number.value with
    | .finite _ => layout.flags
    | _ => layout.flags.filter (· ≠ '0')
  { layout with flags, precision := none }.padDigits (layout.sign number.negative ++ lead) body

/-- A number of 64 bits without a sign, in the base that a letter stands for. -/
def Layout.unsigned (layout : Layout) (letter : Char) (n : Nat) : List Char :=
  let base := if letter = 'o' then 8 else if letter = 'u' then 10 else 16
  let digits := Nat.toDigits base n
  let digits := if letter = 'X' then digits.map Char.toUpper else digits
  let lead :=
    if layout.flags.contains '#' ∧ n ≠ 0 then
      if letter = 'o' then ['0'] else if letter = 'u' then [] else ['0', letter]
    else []
  layout.padDigits lead digits

/-- What a formatting command has done. -/
structure Printed where
  /-- The text that is written, the last part first. -/
  parts : List (List Char) := []
  /-- The complaints, the last one first. -/
  complaints : List String := []
  /-- The status. -/
  status : Nat := 0
  /-- Nothing comes after it. -/
  isOver : Bool := false

/-- What has been done, with more text. -/
def Printed.write (printed : Printed) (text : List Char) : Printed :=
  { printed with parts := text :: printed.parts }

/-- What has been done, with a complaint about an argument. -/
def Printed.complain (printed : Printed) (text : String) : Printed :=
  { printed with complaints := text :: printed.complaints, status := 1 }

/-- What has been done up to a fault that ends it. -/
def Printed.fail (printed : Printed) (text : String) : Printed :=
  { printed with complaints := text :: printed.complaints, status := 2, isOver := true }

/-- The first argument and the others. -/
def nextArgument : List String → String × List String
  | [] => ("", [])
  | argument :: rest => (argument, rest)

/-- The number that an argument is: a character after a quote, or an integer. -/
def numberArgument (printed : Printed) (argument : String) : Int × Printed :=
  match argument.toList with
  | [] => (0, printed)
  | c :: rest =>
    if c = '"' ∨ c = '\'' then (((rest.head?.map Char.toNat).getD 0 : Nat), printed)
    else
      let (n, after) := Arithmetic.integer argument.toList
      let used := argument.toList.take (argument.length - after.length)
      if !used.any Char.isDigit then (0, printed.complain (argument ++ ": expected numeric value"))
      else if after ≠ [] then (n, printed.complain (argument ++ ": not completely converted"))
      else
        let digits := used.filter Char.isDigit
        let wide := (Arithmetic.digits 10 digits).1
        if Arithmetic.greatest < n ∨ (n = Arithmetic.greatest ∧ 19 < digits.length ∧
            Arithmetic.greatest < wide) then
          (n, printed.complain (argument ++ ": Numerical result out of range"))
        else (n, printed)

/-- The number with a fraction that an argument is: a character after a quote, or what is
spelled. -/
def floatingArgument (printed : Printed) (argument : String) : Floating.Reading × Printed :=
  match argument.toList with
  | [] => ({ rest := [] }, printed)
  | c :: rest =>
    if c = '"' ∨ c = '\'' then
      let (value, _) := Floating.ofDigits 10 ((rest.head?.map Char.toNat).getD 0) 0
      ({ value, rest := [] }, printed)
    else
      let number := Floating.read argument.toList
      let printed :=
        if number.rest = argument.toList then
          printed.complain (argument ++ ": expected numeric value")
        else if number.rest ≠ [] then printed.complain (argument ++ ": not completely converted")
        else if number.outOfRange then
          printed.complain (argument ++ ": Numerical result out of range")
        else printed
      (number, printed)

/-- The number or the star at the front of a format, with the arguments after it. -/
def takeSize (cs : List Char) (arguments : List String) (printed : Printed) :
    Option Nat × List Char × List String × Printed :=
  match cs with
  | '*' :: rest =>
    let (argument, others) := nextArgument arguments
    let (value, printed) := numberArgument printed argument
    (some value.toNat, rest, others, printed)
  | _ =>
    let run := cs.takeWhile Char.isDigit
    (if run = [] then none else some (Arithmetic.digits 10 run).1, cs.drop run.length, arguments,
      printed)

/-- What a format stands for with some arguments, and the arguments that are left. -/
def formatUpTo : (count : Nat) → List Char → List String → Printed → List String × Printed
  | 0, _, arguments, printed => (arguments, printed)
  | _ + 1, [], arguments, printed => (arguments, printed)
  | n + 1, c :: rest, arguments, printed =>
    if c = '\\' then
      let (found, rest) := escape rest
      formatUpTo n rest arguments (printed.write found)
    else if c ≠ '%' then formatUpTo n rest arguments (printed.write [c])
    else if rest.head? = some '%' then formatUpTo n rest.tail arguments (printed.write ['%'])
    else
      let flags := rest.takeWhile ("#-+ 0".toList.contains ·)
      let (width, rest', arguments, printed) :=
        takeSize (rest.drop flags.length) arguments printed
      let (precision, rest', arguments, printed) :=
        match rest' with
        | '.' :: more =>
          let (size, more, arguments, printed) := takeSize more arguments printed
          (some (size.getD 0), more, arguments, printed)
        | more => (none, more, arguments, printed)
      let layout : Layout := { flags, width := width.getD 0, precision }
      match rest' with
      | [] => (arguments, printed.fail "missing format character")
      | letter :: rest' =>
        let (argument, others) := nextArgument arguments
        if letter = 's' then
          let text := argument.toList.take (precision.getD argument.length)
          formatUpTo n rest' others (printed.write (layout.pad text))
        else if letter = 'b' then
          let (text, goesOn) := unescape argument
          let text := layout.pad (text.take (precision.getD text.length))
          if goesOn then formatUpTo n rest' others (printed.write text)
          else (others, { printed.write text with isOver := true })
        else if letter = 'c' then
          formatUpTo n rest' others (printed.write (layout.pad [argument.toList.headD '\x00']))
        else if letter = 'd' ∨ letter = 'i' then
          let (value, printed) := numberArgument printed argument
          formatUpTo n rest' others (printed.write (layout.signed value))
        else if "ouxX".toList.contains letter then
          let (value, printed) := numberArgument printed argument
          formatUpTo n rest' others
            (printed.write (layout.unsigned letter (Arithmetic.bits value)))
        else if "aAeEfFgG".toList.contains letter then
          let (number, printed) := floatingArgument printed argument
          formatUpTo n rest' others (printed.write (layout.floating letter number))
        else
          let directive := rest.take (rest.length - rest'.length)
          (arguments, printed.fail ("%" ++ String.ofList directive ++ ": invalid directive"))

/-- What a format is printed as. It is used again as long as it takes arguments. -/
def printfUpTo : (count : Nat) → (format : List Char) → List String → Printed → Printed
  | 0, _, _, printed => printed
  | n + 1, format, arguments, printed =>
    let (left, printed) := formatUpTo (format.length + 1) format arguments printed
    if !printed.isOver ∧ left ≠ [] ∧ left.length < arguments.length then
      printfUpTo n format left printed
    else printed

/-- What `printf` does. -/
def printf (format : String) (arguments : List String) : Printed :=
  printfUpTo (arguments.length + 1) format.toList arguments {}

/-- The text that has been written. -/
def Printed.text (printed : Printed) : String :=
  String.ofList printed.parts.reverse.flatten

end CompileCommands.Shell
