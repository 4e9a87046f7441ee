/-!
# Variable-length numbers

A number is written in groups of seven bits, the lowest first, one group to a byte; the high
bit of a byte says that more groups follow. Numbers have at most 64 bits, so at most ten
groups, and the tenth holds one bit. A number may be written with more groups than it needs.
-/

namespace CompileCommands.Wire

/-- How many groups a number may have. -/
def maxGroups : Nat := 10

/-- The number in the first groups, of which there may be `groups`, and the bytes after it. -/
def varintWithin? : (groups : Nat) → List UInt8 → Option (Nat × List UInt8)
  | 0, _ => none
  | _ + 1, [] => none
  | n + 1, b :: rest =>
    -- The last group has one bit left.
    if n = 0 ∧ 1 < b.toNat then none
    else if b.toNat < 0x80 then some (b.toNat, rest)
    else (varintWithin? n rest).map fun (high, after) => (b.toNat - 0x80 + 0x80 * high, after)

/-- The number at the start of some bytes, and the bytes after it. -/
def varint? (bytes : List UInt8) : Option (Nat × List UInt8) :=
  varintWithin? maxGroups bytes

/-- The fewest groups of a number, at most `groups`. -/
def encodeVarintWithin : (groups : Nat) → Nat → List UInt8
  | 0, _ => []
  | g + 1, n =>
    if n < 0x80 then [UInt8.ofNat n]
    else UInt8.ofNat (0x80 + n % 0x80) :: encodeVarintWithin g (n / 0x80)

/-- The shortest written form of a number below `2 ^ 64`. -/
def encodeVarint (n : Nat) : List UInt8 :=
  encodeVarintWithin maxGroups n

end CompileCommands.Wire
