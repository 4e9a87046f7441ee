import CompileCommands.Shell.Rounded
import CompileCommands.Shell.Arithmetic

/-!
# Numbers with a fraction

Reading and writing of binary numbers as the printing commands do it. A number is spelled in
decimal or hexadecimal digits with an exponent, or by name if it is infinite or no number.
-/

namespace CompileCommands.Shell

/-- The absolute value of a number. -/
inductive Floating where
  /-- A finite number. -/
  | finite (x : Binary64)
  /-- An infinite number. -/
  | infinite
  /-- No number. -/
  | notANumber
  deriving DecidableEq, Repr

namespace Floating

/-- A number that has been read from the front of a text. -/
structure Reading where
  /-- The number is negative. -/
  negative : Bool := false
  /-- Its absolute value. -/
  value : Floating := .finite ⟨false, 0, Binary64.minExponent⟩
  /-- The number is beyond the range, or too small for all of its bits. -/
  outOfRange : Bool := false
  /-- What follows. -/
  rest : List Char

/-! ## Reading -/

/-- The digits in a base, before and after a point, and the rest. -/
def takeDigits (base : Nat) (cs : List Char) : List Char × List Char × List Char :=
  let isDigit (c : Char) : Bool := (Arithmetic.digit? base c).isSome
  let whole := cs.takeWhile isDigit
  match cs.drop whole.length with
  | '.' :: rest =>
    let part := rest.takeWhile isDigit
    if whole = [] ∧ part = [] then ([], [], cs) else (whole, part, rest.drop part.length)
  | rest => (whole, [], rest)

/-- The exponent after a letter, if there is one, and the rest. -/
def takeExponent (letter : Char) (cs : List Char) : Int × List Char :=
  match cs with
  | e :: rest =>
    let (negative, digits) := match rest with
      | '-' :: more => (true, more)
      | '+' :: more => (false, more)
      | more => (false, more)
    if e.toLower = letter ∧ digits.head?.any Char.isDigit then
      let (n, rest) := Arithmetic.digits 10 digits
      (if negative then -(n : Int) else n, rest)
    else (0, cs)
  | [] => (0, [])

/-- The value nearest to `digits * base ^ e`, and whether that is out of range. Numbers far
beyond the range are told apart by the place of their first digit. -/
def ofDigits (base digits : Nat) (e : Int) : Floating × Bool :=
  let zero : Floating := .finite ⟨false, 0, Binary64.minExponent⟩
  let top : Int := (Nat.toDigits base digits).length + e
  if digits = 0 then (zero, false)
  else if top < -1200 then (zero, true)
  else if 1200 < top then (.infinite, true)
  else
    let num := digits * Nat.pow base e.toNat
    let den := Nat.pow base (-e).toNat
    match Binary64.ofFraction? num den with
    | none => (.infinite, true)
    | some (m, q) =>
      let isExact := num * Nat.pow 2 (-q).toNat = m * Nat.pow 2 q.toNat * den
      (.finite ⟨false, m, q⟩, m < Binary64.leastMantissa && !isExact)

/-- A word in front of a text, in small or capital letters, and the rest. -/
def afterWord? (word : String) (cs : List Char) : Option (List Char) :=
  if (cs.take word.length).map Char.toLower = word.toList then some (cs.drop word.length)
  else none

/-- What follows `nan`: a name in parentheses belongs to it. -/
def afterNotANumber (cs : List Char) : List Char :=
  match cs with
  | '(' :: more =>
    match more.dropWhile isNameChar with
    | ')' :: rest => rest
    | _ => cs
  | _ => cs

/-- The absolute value at the front of a text, whether it is out of range, and the rest; or
nothing, if no number is there. -/
def readValue? (cs : List Char) : Option (Floating × Bool × List Char) :=
  let inDecimal : Option (Floating × Bool × List Char) :=
    match takeDigits 10 cs with
    | ([], [], _) => none
    | (whole, part, rest) =>
      let (e, rest) := takeExponent 'e' rest
      let (value, outOfRange) :=
        ofDigits 10 (Arithmetic.digits 10 (whole ++ part)).1 (e - part.length)
      some (value, outOfRange, rest)
  match afterWord? "infinity" cs, afterWord? "inf" cs, afterWord? "nan" cs, afterWord? "0x" cs with
  | some rest, _, _, _ => some (.infinite, false, rest)
  | none, some rest, _, _ => some (.infinite, false, rest)
  | none, none, some rest, _ => some (.notANumber, false, afterNotANumber rest)
  | none, none, none, some digits =>
    match takeDigits 16 digits with
    | ([], [], _) => inDecimal
    | (whole, part, rest) =>
      let (e, rest) := takeExponent 'p' rest
      let n := (Arithmetic.digits 16 (whole ++ part)).1
      -- Digits of four bits each count as an exponent of two.
      let (value, outOfRange) := ofDigits 2 n (e - 4 * part.length)
      some (value, outOfRange, rest)
  | none, none, none, none => inDecimal

/-- The number at the front of a text after white space. If there is none, everything follows
and the number is zero. -/
def read (cs : List Char) : Reading :=
  let bare := cs.dropWhile fun c => " \t\n\r\x0b\x0c".toList.contains c
  let (negative, bare) := match bare with
    | '-' :: rest => (true, rest)
    | '+' :: rest => (false, rest)
    | _ => (false, bare)
  match readValue? bare with
  | some (value, outOfRange, rest) => { negative, value, outOfRange, rest }
  | none => { rest := cs }

/-! ## Writing -/

/-- A point and the digits after it; the point alone only if it is asked for. -/
def afterPoint (marked : Bool) (digits : List Char) : List Char :=
  if digits = [] ∧ ¬marked then [] else '.' :: digits

/-- An exponent with its sign and at least `count` digits. -/
def exponentDigits (count : Nat) (e : Int) : List Char :=
  (if e < 0 then '-' else '+') :: Binary64.digitsWithin count e.natAbs

/-- A number with a digit before the point and an exponent. -/
def scientificDigits (marked : Bool) (first : Char) (part : List Char) (e : Int) : List Char :=
  first :: afterPoint marked part ++ 'e' :: exponentDigits 2 e

/-- A number with so many significant digits, in the shorter form; zeros at the end are kept
only if they are asked for. -/
def generalDigits (marked : Bool) (significant : Nat) (x : Binary64) : List Char :=
  let significant := max significant 1
  let trim (digits : List Char) : List Char :=
    if marked then digits else Binary64.withoutEndZeros digits
  let (first, part, e) := x.scientific (significant - 1)
  if -4 ≤ e ∧ e < significant then
    let (whole, part) := x.fixed (significant - 1 - e).toNat
    whole ++ afterPoint marked (trim part)
  else scientificDigits marked first (trim part) e

/-- A number in hexadecimal digits with an exponent of two: one bit before the point, 52 bits
after it, of which the last digits may be rounded away. -/
def hexadecimalDigits (marked : Bool) (places : Option Nat) (x : Binary64) : List Char :=
  let e : Int := if x.mantissa = 0 then 0 else x.exponent + 52
  let kept := min (places.getD 13) 13
  let n := Binary64.roundDiv x.mantissa (Nat.pow 16 (13 - kept))
  let whole := n / Nat.pow 16 kept
  let digits := Nat.toDigits 16 (n % Nat.pow 16 kept)
  let digits :=
    if kept = 0 then [] else List.replicate (kept - digits.length) '0' ++ digits
  let digits := match places with
    | some count => digits ++ List.replicate (count - 13) '0'
    | none => Binary64.withoutEndZeros digits
  Nat.toDigits 16 whole ++ afterPoint marked digits ++ 'p' :: exponentDigits 1 e

/-- The sign of a base in front of a value, and the value, in the form that a letter stands
for. A capital letter makes all letters capital. -/
def text (letter : Char) (precision : Option Nat) (marked : Bool) (value : Floating) :
    List Char × List Char :=
  let places := precision.getD 6
  let (lead, body) : List Char × List Char :=
    match value, letter.toLower with
    | infinite, _ => ([], "inf".toList)
    | notANumber, _ => ([], "nan".toList)
    | finite x, 'e' =>
      let (first, part, e) := x.scientific places
      ([], scientificDigits marked first part e)
    | finite x, 'g' => ([], generalDigits marked places x)
    | finite x, 'a' => (['0', 'x'], hexadecimalDigits marked precision x)
    | finite x, _ =>
      let (whole, part) := x.fixed places
      ([], whole ++ afterPoint marked part)
  if letter.isUpper then (lead.map Char.toUpper, body.map Char.toUpper) else (lead, body)

end Floating

end CompileCommands.Shell
