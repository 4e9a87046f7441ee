import CompileCommands.Text.Utf8

/-!
# Octets

A byte string held as a text of which each character is one byte, for work on text whose
encoding is not known.
-/

namespace CompileCommands.Text.Octets

/-- The octets of some bytes. -/
def ofBytes (bytes : List UInt8) : String :=
  String.ofList (bytes.map fun b => Char.ofNat b.toNat)

/-- The bytes of some octets. -/
def toBytes (octets : String) : List UInt8 :=
  octets.toList.map fun c => UInt8.ofNat c.toNat

/-- The octets of a text. -/
def ofText (text : String) : String :=
  ofBytes (Utf8.encode text)

/-- The text of some octets. -/
def toText (octets : String) : String :=
  Utf8.decodeLossy (toBytes octets)

end CompileCommands.Text.Octets
