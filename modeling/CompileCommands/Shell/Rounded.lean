import CompileCommands.Decimal.Binary64

/-!
# Decimals with a number of places

A binary number is written with a given number of digits: so many after the point, or so many
after the first digit and an exponent. It is rounded to the nearest such decimal, and of two
nearest to the one with the even last digit. The commands that print a number in a format write it
so.
-/

namespace CompileCommands.Binary64

/-- The numerator and the denominator of a number without its sign. -/
def fraction (x : Binary64) : Nat × Nat :=
  scaled x.mantissa 1 (-x.exponent)

/-- A number without its sign, in units of `10 ^ (-places)`. -/
def inUnits (x : Binary64) (places : Int) : Nat :=
  let (num, den) := x.fraction
  roundDiv (num * Nat.pow 10 places.toNat) (den * Nat.pow 10 (-places).toNat)

/-- Digits with zeros in front, at least `count` of them. -/
def digitsWithin (count n : Nat) : List Char :=
  let ds := Nat.toDigits 10 n
  List.replicate (count - ds.length) '0' ++ ds

/-- A number without its sign: what stands before the point, and `places` digits after it. -/
def fixed (x : Binary64) (places : Nat) : List Char × List Char :=
  let ds := digitsWithin (places + 1) (x.inUnits places)
  ds.splitAt (ds.length - places)

/-- A number without its sign: a digit, `places` digits after it, and an exponent of ten. A
number that is rounded up to a power of ten has one digit less after the first. -/
def scientific (x : Binary64) (places : Nat) : Char × List Char × Int :=
  let (num, den) := x.fraction
  let guess : Int :=
    if num = 0 then 0
    else if den ≤ num then (Nat.toDigits 10 (num / den)).length - 1
    else
      -- A reciprocal between `10 ^ n` and `10 ^ (n + 1)` starts `n + 1` or, if it is a power,
      -- `n` places after the point.
      let n := (Nat.toDigits 10 (den / num)).length - 1
      Int.neg (if num * Nat.pow 10 n = den then n else n + 1)
  let ds := digitsWithin (places + 1) (x.inUnits (places - guess))
  (ds.headD '0', (ds.drop 1).take places, if places + 1 < ds.length then guess + 1 else guess)

/-- Digits without the zeros at their end. -/
def withoutEndZeros (ds : List Char) : List Char :=
  (ds.reverse.dropWhile (· = '0')).reverse

end CompileCommands.Binary64
