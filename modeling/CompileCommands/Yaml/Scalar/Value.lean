import CompileCommands.Decimal.Shortest
import CompileCommands.Text.Opening
import CompileCommands.Text.Quoted
import CompileCommands.Yaml.Document

/-!
# Values of scalars

What a scalar stands for when nothing says how to take it: a plain scalar may be null, a
boolean, an integer or a number with a fraction, and everything else is text. A tag of the
core schema asks for one of these whatever the scalar looks like.
-/

namespace CompileCommands.Yaml

/-- What a scalar stands for. -/
inductive Value where
  /-- Nothing. -/
  | null
  /-- A truth value. -/
  | boolean (b : Bool)
  /-- An integer of at most 64 bits. -/
  | integer (n : Int)
  /-- A greater integer of at most 128 bits. -/
  | wideInteger (n : Int)
  /-- A binary number. -/
  | float (x : Binary64)
  /-- An infinite number. -/
  | infinite (negative : Bool)
  /-- No number. -/
  | notANumber
  /-- Text. -/
  | text (s : String)
  deriving DecidableEq, Repr

namespace Value

/-- A value as messages call it. -/
def describe : Value → String
  | null => "unit value"
  | boolean b => "boolean `" ++ (if b then "true" else "false") ++ "`"
  | integer n => "integer `" ++ toString n ++ "`"
  | wideInteger n =>
    "integer `" ++ toString n ++ (if n < 0 then "` as i128" else "` as u128")
  | float x => "floating point `" ++ x.render ++ "`"
  | infinite negative => "floating point `" ++ (if negative then "-inf" else "inf") ++ "`"
  | notANumber => "floating point `NaN`"
  | text s => "string " ++ Text.quoted s

/-- The value of a digit in some base. -/
def digit? (base : Nat) (c : Char) : Option Nat :=
  (hexValue? c).filter (· < base)

/-- The number that one or more digits make up. -/
def digits? (base : Nat) (cs : List Char) : Option Nat :=
  if cs = [] then none
  else (cs.mapM (digit? base)).map (List.foldl (fun n d => base * n + d) 0)

/-- The text without the sign that it may start with. -/
def unsigned : List Char → List Char
  | '+' :: cs => cs
  | '-' :: cs => cs
  | cs => cs

/-- Digits that start with a zero, with or without a sign; they are text. -/
def isZeroLed (cs : List Char) : Bool :=
  match unsigned cs with
  | '0' :: d :: rest => (d :: rest).all Char.isDigit
  | _ => false

/-- The bases that a number may say, and what stands before its digits then. -/
def bases : List (String × Nat) := [("0x", 16), ("0o", 8), ("0b", 2)]

/-- The number after the sign of a base. -/
def inBase? (cs : List Char) : Option Nat :=
  bases.findSome? fun (opening, base) =>
    (Text.afterChars? opening.toList cs).bind (digits? base)

/-- The natural number that a text spells. -/
def natural? (cs : List Char) : Option Nat :=
  let bare := match cs with
    | '+' :: rest => rest
    | _ => cs
  (inBase? bare).or (if isZeroLed cs then none else digits? 10 bare)

/-- The negative number, or the zero, that a text with a minus sign spells. -/
def negative? (cs : List Char) : Option Int :=
  match cs with
  | '-' :: rest =>
    ((inBase? rest).or (if isZeroLed cs then none else digits? 10 rest)).map fun n => -(n : Int)
  | _ => none

/-- The integer that a text spells, if it has at most 128 bits. -/
def integer? (cs : List Char) : Option Value :=
  match natural? cs, negative? cs with
  | some n, _ =>
    if n < 0x10000000000000000 then some (.integer n)
    else if n < 0x100000000000000000000000000000000 then some (.wideInteger n)
    else none
  | none, some n =>
    if -0x8000000000000000 ≤ n then some (.integer n)
    else if -0x80000000000000000000000000000000 ≤ n then some (.wideInteger n)
    else none
  | none, none => none

/-- The exponent that a text spells: nothing, or an `e` and an integer. -/
def exponent? : List Char → Option Int
  | [] => some 0
  | e :: cs =>
    if e = 'e' ∨ e = 'E' then
      match cs with
      | '-' :: ds => (digits? 10 ds).map fun n => -(n : Int)
      | '+' :: ds => (digits? 10 ds).map fun n => (n : Int)
      | ds => (digits? 10 ds).map fun n => (n : Int)
    else none

/-- The binary number nearest to the decimal that a text spells. -/
def decimal? (cs : List Char) : Option Binary64 := do
  let (negative, cs) := match cs with
    | '-' :: rest => (true, rest)
    | '+' :: rest => (false, rest)
    | _ => (false, cs)
  let whole := cs.takeWhile Char.isDigit
  let cs := cs.dropWhile Char.isDigit
  let (fraction, cs) := match cs with
    | '.' :: rest => (rest.takeWhile Char.isDigit, rest.dropWhile Char.isDigit)
    | _ => ([], cs)
  let digits ← digits? 10 (whole ++ fraction)
  let e ← exponent? cs
  Binary64.ofDecimal? negative digits (e - fraction.length)

/-- The number with a fraction that a text spells. -/
def float? (cs : List Char) : Option Value :=
  let bare := match cs with
    | '+' :: rest => rest
    | _ => cs
  let signs := match cs, bare.head? with
    | '+' :: _, some c => c == '+' || c == '-'
    | _, _ => false
  if signs then none
  else if [".inf", ".Inf", ".INF"].contains (String.ofList bare) then some (.infinite false)
  else if ["-.inf", "-.Inf", "-.INF"].contains (String.ofList cs) then some (.infinite true)
  else if [".nan", ".NaN", ".NAN"].contains (String.ofList cs) then some .notANumber
  else (decimal? bare).map .float

/-- The truth value that a text spells. -/
def boolean? (s : String) : Option Bool :=
  if ["true", "True", "TRUE"].contains s then some true
  else if ["false", "False", "FALSE"].contains s then some false
  else none

/-- The text spells null. -/
def spellsNull (s : String) : Bool :=
  ["~", "null", "Null", "NULL"].contains s

/-- What a plain scalar stands for. -/
def ofPlain (s : String) : Value :=
  if s = "" ∨ spellsNull s then null
  else
    match boolean? s with
    | some b => boolean b
    | none =>
      match integer? s.toList with
      | some n => n
      | none => ((if isZeroLed s.toList then none else float? s.toList)).getD (text s)

/-- A tag of the core schema. -/
def coreTag (name : String) : TagOctets :=
  Text.Utf8.encode ("tag:yaml.org,2002:" ++ name)

/-- A text that is not what its tag asks for, and what that is. -/
structure Mismatch where
  /-- The text. -/
  text : String
  /-- What the tag asks for. -/
  expected : String
  deriving DecidableEq, Repr

/-- What a scalar stands for. -/
def ofScalar (s : Scalar) : Except Mismatch Value :=
  let asked (value? : Option Value) (expected : String) : Except Mismatch Value :=
    match value? with
    | some value => .ok value
    | none => .error ⟨s.text, expected⟩
  match s.tag? with
  | none => .ok (if s.isPlain then ofPlain s.text else text s.text)
  | some tag =>
    if tag = coreTag "bool" then asked ((boolean? s.text).map boolean) "a boolean"
    else if tag = coreTag "int" then asked (integer? s.text.toList) "an integer"
    else if tag = coreTag "float" then asked (float? s.text.toList) "a float"
    else if tag = coreTag "null" then
      asked (if spellsNull s.text then some null else none) "null"
    else if tag.head? = Tag.exclamationMark.head? ∧ s.isPlain then .ok (ofPlain s.text)
    else .ok (text s.text)

end Value

end CompileCommands.Yaml
