/-!
# UTF-8

Encoding of text, and decoding piece by piece. A piece is either one character or one
ill-formed part: the longest run of bytes that starts a character without finishing one, or
a single byte that starts none. Strict decoding refuses ill-formed parts; lossy decoding
writes `U+FFFD` for each of them.
-/

namespace CompileCommands.Text.Utf8

/-- The bytes of one character. -/
def encodeChar (c : Char) : List UInt8 :=
  let n := c.toNat
  if n < 0x80 then [UInt8.ofNat n]
  else if n < 0x800 then
    [UInt8.ofNat (0xC0 + n / 0x40), UInt8.ofNat (0x80 + n % 0x40)]
  else if n < 0x10000 then
    [UInt8.ofNat (0xE0 + n / 0x1000), UInt8.ofNat (0x80 + n / 0x40 % 0x40),
      UInt8.ofNat (0x80 + n % 0x40)]
  else
    [UInt8.ofNat (0xF0 + n / 0x40000), UInt8.ofNat (0x80 + n / 0x1000 % 0x40),
      UInt8.ofNat (0x80 + n / 0x40 % 0x40), UInt8.ofNat (0x80 + n % 0x40)]

/-- The bytes of a list of characters. -/
def encodeChars (cs : List Char) : List UInt8 :=
  cs.flatMap encodeChar

/-- The bytes of a text. -/
def encode (s : String) : List UInt8 :=
  encodeChars s.toList

/-- One piece of a byte string. -/
inductive Piece where
  /-- A well-formed character. -/
  | char (c : Char)
  /-- An ill-formed part. -/
  | illFormed
  deriving DecidableEq, Repr

/-- What a first byte announces. -/
structure Lead where
  /-- How many bytes follow. -/
  following : Nat
  /-- The least value of the next byte. -/
  least : Nat
  /-- The greatest value of the next byte. -/
  greatest : Nat
  /-- The bits of the first byte that belong to the character. -/
  bits : Nat

/-- What the first byte `b` announces, if it starts a character. The bounds on the second
byte keep out overlong forms, surrogates and values past the last scalar. -/
def lead? (b : Nat) : Option Lead :=
  if b < 0x80 then some ⟨0, 0x80, 0xBF, b⟩
  else if b < 0xC2 then none
  else if b < 0xE0 then some ⟨1, 0x80, 0xBF, b - 0xC0⟩
  else if b = 0xE0 then some ⟨2, 0xA0, 0xBF, 0⟩
  else if b = 0xED then some ⟨2, 0x80, 0x9F, 0x0D⟩
  else if b < 0xF0 then some ⟨2, 0x80, 0xBF, b - 0xE0⟩
  else if b = 0xF0 then some ⟨3, 0x90, 0xBF, 0⟩
  else if b < 0xF4 then some ⟨3, 0x80, 0xBF, b - 0xF0⟩
  else if b = 0xF4 then some ⟨3, 0x80, 0x8F, 4⟩
  else none

/-- Take `following` more bytes, the first of them within the bounds, into the character
whose bits so far are `bits`. -/
def finish : (following least greatest bits : Nat) → List UInt8 → Piece × List UInt8
  | 0, _, _, bits, rest => (.char (Char.ofNat bits), rest)
  | _ + 1, _, _, _, [] => (.illFormed, [])
  | n + 1, least, greatest, bits, b :: rest =>
    if least ≤ b.toNat ∧ b.toNat ≤ greatest then
      finish n 0x80 0xBF (bits * 0x40 + (b.toNat - 0x80)) rest
    else (.illFormed, b :: rest)

/-- The piece that starts with byte `b`, and the bytes after it. -/
def piece (b : UInt8) (rest : List UInt8) : Piece × List UInt8 :=
  match lead? b.toNat with
  | some l => finish l.following l.least l.greatest l.bits rest
  | none => (.illFormed, rest)

/-- The first `count` pieces. -/
def piecesUpTo : (count : Nat) → List UInt8 → List Piece
  | 0, _ => []
  | _ + 1, [] => []
  | n + 1, b :: rest => (piece b rest).1 :: piecesUpTo n (piece b rest).2

/-- All pieces of a byte string. -/
def pieces (bytes : List UInt8) : List Piece :=
  piecesUpTo bytes.length bytes

/-- The character of a piece that has one. -/
def Piece.char? : Piece → Option Char
  | .char c => some c
  | .illFormed => none

/-- The character of a piece, or the replacement character. -/
def Piece.charOrReplacement : Piece → Char
  | .char c => c
  | .illFormed => '\uFFFD'

/-- The text of well-formed bytes. -/
def decode? (bytes : List UInt8) : Option String :=
  ((pieces bytes).mapM Piece.char?).map String.ofList

/-- The text of any bytes, with `U+FFFD` for each ill-formed part. -/
def decodeLossy (bytes : List UInt8) : String :=
  String.ofList ((pieces bytes).map Piece.charOrReplacement)

/-- Taking more bytes never lengthens what is left. -/
theorem length_finish_le (following least greatest bits : Nat) (bytes : List UInt8) :
    (finish following least greatest bits bytes).2.length ≤ bytes.length := by
  induction following generalizing least greatest bits bytes with
  | zero => simp [finish]
  | succ n ih =>
    cases bytes with
    | nil => simp [finish]
    | cons b rest =>
      simp only [finish]
      split
      · exact Nat.le_trans (ih ..) (by simp)
      · simp

/-- A piece takes its first byte at least. -/
theorem length_piece_le (b : UInt8) (rest : List UInt8) :
    (piece b rest).2.length ≤ rest.length := by
  unfold piece
  split
  · exact length_finish_le ..
  · simp

end CompileCommands.Text.Utf8
