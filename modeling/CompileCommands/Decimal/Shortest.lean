import CompileCommands.Decimal.Binary64

/-!
# The shortest decimal

A binary number is written with the fewest digits that lead back to it, and of the decimals
with so many digits with the nearest. It is written without an exponent and with a point.
-/

namespace CompileCommands.Binary64

/-- Four times the bounds of what rounds to the number: below, and above. -/
def bounds (x : Binary64) : Nat × Nat :=
  (if x.mantissa = leastMantissa ∧ minExponent < x.exponent then 4 * x.mantissa - 1
    else 4 * x.mantissa - 2,
   4 * x.mantissa + 2)

/-- How many digits stand before the point of a positive number; for a number below one, how
many zeros stand after it, as a negative number. -/
def pointPlace (x : Binary64) : Int :=
  let (num, den) := scaled x.mantissa 1 (-x.exponent)
  if den ≤ num then (Nat.repr (num / den)).length
  else
    let zeros : Nat := ((List.range 400).find? fun j => den ≤ num * Nat.pow 10 (j + 1)).getD 0
    Int.neg zeros

/-- The decimal with `count` digits that is nearest to a positive number, if one of its two
neighbours rounds to the number. Of two that are equally near it is the greater one. -/
def decimalOf? (x : Binary64) (count : Nat) : Option (Nat × Int) :=
  let t := pointPlace x - count
  let e := x.exponent - 2
  let binary := Nat.pow 2 e.toNat * Nat.pow 10 (-t).toNat
  let decimal := Nat.pow 10 t.toNat * Nat.pow 2 (-e).toNat
  let value := 4 * x.mantissa * binary
  let isInside (c : Nat) : Bool :=
    let below := (bounds x).1 * binary
    let above := (bounds x).2 * binary
    -- An even mantissa wins ties, so the bounds themselves lead back to it.
    if x.mantissa % 2 = 0 then below ≤ c * decimal && c * decimal ≤ above
    else below < c * decimal && c * decimal < above
  let low := value / decimal
  let gapBelow := value - low * decimal
  let gapAbove := (low + 1) * decimal - value
  match isInside low, isInside (low + 1) with
  | true, true => some (if gapBelow < gapAbove then low else low + 1, t)
  | true, false => some (low, t)
  | false, true => some (low + 1, t)
  | false, false => none

/-- Digits without the zeros at their end, which the exponent takes over. -/
def stripZeros : (fuel : Nat) → Nat × Int → Nat × Int
  | 0, d => d
  | fuel + 1, (digits, e) =>
    if digits ≠ 0 ∧ digits % 10 = 0 then stripZeros fuel (digits / 10, e + 1) else (digits, e)

/-- The shortest decimal of a number: its digits, and an exponent of ten. -/
def shortest (x : Binary64) : Nat × Int :=
  if x.mantissa = 0 then (0, 0)
  else stripZeros 20 (((List.range 17).findSome? fun n => decimalOf? x (n + 1)).getD (0, 0))

/-- A decimal with a point and without an exponent. -/
def positional (digits : Nat) (e : Int) : String :=
  let ds := Nat.repr digits
  let point : Int := ds.length + e
  if point ≤ 0 then "0." ++ String.ofList (List.replicate (-point).toNat '0') ++ ds
  else if 0 ≤ e then ds ++ String.ofList (List.replicate e.toNat '0') ++ ".0"
  else String.ofList (ds.toList.take point.toNat) ++ "." ++
    String.ofList (ds.toList.drop point.toNat)

/-- The written form of a number. -/
def render (x : Binary64) : String :=
  let (digits, e) := shortest x
  (if x.negative then "-" else "") ++ positional digits e

end CompileCommands.Binary64
