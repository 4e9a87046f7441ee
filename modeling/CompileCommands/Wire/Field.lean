import CompileCommands.Text.Utf8
import CompileCommands.Wire.Varint

/-!
# Fields

A message is a sequence of fields, each a key and a payload. The key holds the number of the
field and the form of its payload. Fields that a message does not declare are skipped; a
group is skipped with all the fields inside it, up to the end key of the same number. How
deep groups may nest is bounded by a budget that each level spends one of.
-/

namespace CompileCommands.Wire

/-- The form of a payload. -/
inductive WireType where
  /-- One variable-length number. -/
  | varint
  /-- Eight bytes. -/
  | fixed64
  /-- A length and as many bytes. -/
  | lengthDelimited
  /-- The fields of a group follow. -/
  | startGroup
  /-- The end of a group. -/
  | endGroup
  /-- Four bytes. -/
  | fixed32
  deriving DecidableEq, Repr

namespace WireType

/-- The form with a number. -/
def ofNat? : Nat → Option WireType
  | 0 => some .varint
  | 1 => some .fixed64
  | 2 => some .lengthDelimited
  | 3 => some .startGroup
  | 4 => some .endGroup
  | 5 => some .fixed32
  | _ => none

/-- The number of a form. -/
def toNat : WireType → Nat
  | varint => 0
  | fixed64 => 1
  | lengthDelimited => 2
  | startGroup => 3
  | endGroup => 4
  | fixed32 => 5

/-- The name of a form in messages. -/
def name : WireType → String
  | varint => "Varint"
  | fixed64 => "SixtyFourBit"
  | lengthDelimited => "LengthDelimited"
  | startGroup => "StartGroup"
  | endGroup => "EndGroup"
  | fixed32 => "ThirtyTwoBit"

@[simp] theorem ofNat?_toNat (type : WireType) : ofNat? type.toNat = some type := by
  cases type <;> rfl

end WireType

/-- Why bytes are no message. -/
inductive Fault where
  /-- No number stands here. -/
  | varint
  /-- A key has more than 32 bits. -/
  | keyValue (value : Nat)
  /-- A key has a form that does not exist. -/
  | wireTypeValue (value : Nat)
  /-- A key has field number zero. -/
  | fieldNumber
  /-- A field that needs a length has another form. -/
  | wireType (found : WireType)
  /-- The payload is longer than what is left. -/
  | underflow
  /-- The fields of a message overrun its length. -/
  | overrun
  /-- A text is no UTF-8. -/
  | text
  /-- Groups nest too deeply. -/
  | nesting
  /-- A group ends that has not begun. -/
  | endGroup
  deriving DecidableEq, Repr

/-- The text of a fault. -/
def Fault.message : Fault → String
  | varint => "invalid varint"
  | keyValue value => "invalid key value: " ++ toString value
  | wireTypeValue value => "invalid wire type value: " ++ toString value
  | fieldNumber => "invalid tag value: 0"
  | wireType found =>
    "invalid wire type: " ++ found.name ++ " (expected " ++ WireType.lengthDelimited.name ++ ")"
  | underflow => "buffer underflow"
  | overrun => "delimited length exceeded"
  | text => "invalid string value: data is not UTF-8 encoded"
  | nesting => "recursion limit reached"
  | endGroup => "unexpected end group tag"

/-- The key of a field. -/
structure Key where
  /-- The number of the field. -/
  number : Nat
  /-- The form of its payload. -/
  type : WireType
  deriving DecidableEq, Repr

/-- The number at the start of some bytes, and the bytes after it. -/
def readVarint (bytes : List UInt8) : Except Fault (Nat × List UInt8) :=
  match varint? bytes with
  | some found => .ok found
  | none => .error .varint

/-- The key at the start of some bytes, and the bytes after it. -/
def readKey (bytes : List UInt8) : Except Fault (Key × List UInt8) := do
  let (value, rest) ← readVarint bytes
  if 0x100000000 ≤ value then throw (.keyValue value)
  match WireType.ofNat? (value % 8) with
  | none => throw (.wireTypeValue (value % 8))
  | some type =>
    if value / 8 = 0 then throw .fieldNumber
    return (⟨value / 8, type⟩, rest)

/-- The first `count` bytes, and the bytes after them. -/
def takeBytes (count : Nat) (bytes : List UInt8) : Except Fault (List UInt8 × List UInt8) :=
  let taken := bytes.take count
  if taken.length = count then .ok (taken, bytes.drop count) else .error .underflow

/-- The bytes of a length-delimited payload, and the bytes after it. -/
def readDelimited (bytes : List UInt8) : Except Fault (List UInt8 × List UInt8) := do
  let (length, rest) ← readVarint bytes
  takeBytes length rest

/-- The text of a payload whose key says that it has the form `type`, and the bytes after
it. -/
def readText (type : WireType) (bytes : List UInt8) : Except Fault (String × List UInt8) := do
  if type ≠ .lengthDelimited then throw (.wireType type)
  let (payload, rest) ← readDelimited bytes
  match Text.Utf8.decode? payload with
  | some text => return (text, rest)
  | none => throw .text

/-- Skip the fields of group `number` with `skip`, and its end key. Every field takes a byte,
so `fuel` runs out only after the bytes do, where no key stands. -/
def skipGroup (skip : Key → List UInt8 → Except Fault (List UInt8)) (number : Nat) :
    (fuel : Nat) → List UInt8 → Except Fault (List UInt8)
  | 0, _ => .error .varint
  | fuel + 1, bytes => do
    let (key, rest) ← readKey bytes
    if key.type = .endGroup then
      -- Groups are closed in the order in which they were opened.
      if key.number = number then return rest else throw .endGroup
    else
      let after ← skip key rest
      skipGroup skip number fuel after

/-- Skip the payload of a field, with `budget` levels of nesting left. -/
def skipField : (budget : Nat) → Key → List UInt8 → Except Fault (List UInt8)
  | 0, _, _ => .error .nesting
  | budget + 1, key, bytes =>
    match key.type with
    | .varint => Prod.snd <$> readVarint bytes
    | .fixed64 => Prod.snd <$> takeBytes 8 bytes
    | .fixed32 => Prod.snd <$> takeBytes 4 bytes
    | .lengthDelimited => Prod.snd <$> readDelimited bytes
    | .startGroup => skipGroup (skipField budget) key.number bytes.length bytes
    | .endGroup => .error .endGroup

end CompileCommands.Wire
