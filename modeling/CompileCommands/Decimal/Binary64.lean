/-!
# Binary numbers of 64 bits

The numbers `m * 2 ^ q` with a mantissa of at most 53 bits, and rounding of decimal numbers to
them: to the nearest, and of two nearest to the one with the even mantissa.
-/

namespace CompileCommands

/-- The absolute value of a finite binary number, and its sign. -/
structure Binary64 where
  /-- The number is negative, or the negative zero. -/
  negative : Bool
  /-- The mantissa. -/
  mantissa : Nat
  /-- The exponent of two. -/
  exponent : Int
  deriving DecidableEq, Repr

namespace Binary64

/-- The least exponent. -/
def minExponent : Int := -1074

/-- The greatest exponent. -/
def maxExponent : Int := 971

/-- The least mantissa of 53 bits. -/
def leastMantissa : Nat := 0x10000000000000

/-- The quotient of two numbers, rounded to the nearest, a half to the even neighbour. -/
def roundDiv (num den : Nat) : Nat :=
  let q := num / den
  let r := num % den
  if 2 * r < den ∨ (2 * r = den ∧ q % 2 = 0) then q else q + 1

/-- The numerator and the denominator of `num / den / 2 ^ e`. -/
def scaled (num den : Nat) (e : Int) : Nat × Nat :=
  (num * Nat.pow 2 (-e).toNat, den * Nat.pow 2 e.toNat)

/-- The greatest `e` with `2 ^ e ≤ num / den`, for positive numbers. -/
def log2 (num den : Nat) : Int :=
  let guess : Int := (num.log2 : Int) - den.log2
  let (n, d) := scaled num den guess
  if d ≤ n then guess else guess - 1

/-- The mantissa and the exponent nearest to a fraction, unless it is too large. -/
def ofFraction? (num den : Nat) : Option (Nat × Int) :=
  if num = 0 then some (0, minExponent)
  else
    let e := max (log2 num den - 52) minExponent
    let (n, d) := scaled num den e
    let m := roundDiv n d
    -- Rounding up may carry into one bit more.
    let (m, e) := if m = 2 * leastMantissa then (leastMantissa, e + 1) else (m, e)
    if maxExponent < e then none else some (m, e)

/-- The number nearest to `digits * 10 ^ e`, unless it is too large. Numbers far beyond the
range are told apart by the place of their first digit. -/
def ofDecimal? (negative : Bool) (digits : Nat) (e : Int) : Option Binary64 :=
  let top : Int := (Nat.repr digits).length + e
  let found :=
    if digits = 0 ∨ top < -330 then some (0, minExponent)
    else if 310 < top then none
    else ofFraction? (digits * Nat.pow 10 e.toNat) (Nat.pow 10 (-e).toNat)
  found.map fun (m, q) => ⟨negative, m, q⟩

end Binary64

end CompileCommands
