import Mathlib.Data.Char
import CompileCommands.Text.Utf8

/-!
# Strict decoding of UTF-8

Encoding is the usual one, and strict decoding is its inverse: bytes have a text exactly when
they are the encoding of that text.

* `encode_eq_toByteArray`: the bytes of a text are those of its standard encoding.
* `piece_eq_char_iff`: the first piece is a character exactly when its encoding comes first.
* `decode?_eq_some_iff`: strict decoding finds a text exactly in its encoding.
-/

namespace CompileCommands.Text.Utf8

/-! ## Encoding -/

/-- A character is below the surrogates or above them and no greater than the last scalar. -/
theorem toNat_of_char (c : Char) : c.toNat < 0xD800 ∨ 0xDFFF < c.toNat ∧ c.toNat < 0x110000 := by
  have hvalid := c.valid
  simpa only [UInt32.isValidChar, Nat.isValidChar, Char.toNat] using hvalid

/-- The bytes of two texts, one after the other. -/
theorem encode_append (first second : String) :
    encode (first ++ second) = encode first ++ encode second := by
  simp only [encode, encodeChars, String.toList_append, List.flatMap_append]

/-- The bytes of a character are those of its standard encoding. -/
theorem encodeChar_eq_utf8EncodeChar (c : Char) : encodeChar c = String.utf8EncodeChar c := by
  have hc := toNat_of_char c
  unfold encodeChar String.utf8EncodeChar
  simp only [Char.toNat] at hc ⊢
  grind

/-- The bytes of a text are those of its standard encoding. -/
theorem encode_eq_toByteArray (s : String) : encode s = s.toByteArray.data.toList := by
  have hchar : encodeChar = String.utf8EncodeChar := funext encodeChar_eq_utf8EncodeChar
  rw [← String.utf8Encode_toList, List.utf8Encode, List.data_toByteArray, List.toList_toArray,
    encode, encodeChars, hchar]

/-! ## One character

A character of two, three or four bytes is written with the bits of its first byte and six bits
in each byte after it. -/

theorem toNat_charOfNat {n : Nat} (h : n < 0xD800 ∨ 0xDFFF < n ∧ n < 0x110000) :
    (Char.ofNat n).toNat = n := by
  rw [Char.ofNat, dif_pos h]
  rfl

theorem encodeChar_one {n : Nat} (hn : n < 0x80) : encodeChar (Char.ofNat n) = [UInt8.ofNat n] := by
  have hc := toNat_charOfNat (n := n) (by omega)
  simp only [encodeChar, hc]
  rw [if_pos hn]

theorem encodeChar_two {n k : Nat} (hn : 2 ≤ n) (hn' : n < 0x20) (hk : k < 0x40) :
    encodeChar (Char.ofNat (n * 0x40 + k)) = [UInt8.ofNat (0xC0 + n), UInt8.ofNat (0x80 + k)] := by
  have hc := toNat_charOfNat (n := n * 0x40 + k) (by omega)
  simp only [encodeChar, hc]
  rw [if_neg (by omega), if_pos (by omega), show (n * 0x40 + k) / 0x40 = n by omega,
    show (n * 0x40 + k) % 0x40 = k by omega]

/-- The second byte keeps out overlong forms and surrogates. -/
theorem encodeChar_three {n k l : Nat} (hn : n < 0x10) (hk : k < 0x40) (hl : l < 0x40)
    (hshort : 0 < n ∨ 0x20 ≤ k) (hscalar : n ≠ 0x0D ∨ k < 0x20) :
    encodeChar (Char.ofNat ((n * 0x40 + k) * 0x40 + l)) =
      [UInt8.ofNat (0xE0 + n), UInt8.ofNat (0x80 + k), UInt8.ofNat (0x80 + l)] := by
  have hc := toNat_charOfNat (n := (n * 0x40 + k) * 0x40 + l) (by omega)
  simp only [encodeChar, hc]
  rw [if_neg (by omega), if_neg (by omega), if_pos (by omega),
    show ((n * 0x40 + k) * 0x40 + l) / 0x1000 = n by omega,
    show ((n * 0x40 + k) * 0x40 + l) / 0x40 % 0x40 = k by omega,
    show ((n * 0x40 + k) * 0x40 + l) % 0x40 = l by omega]

/-- The second byte keeps out overlong forms and values past the last scalar. -/
theorem encodeChar_four {n k l m : Nat} (hn : n < 5) (hk : k < 0x40) (hl : l < 0x40)
    (hm : m < 0x40) (hshort : 0 < n ∨ 0x10 ≤ k) (hscalar : n < 4 ∨ k < 0x10) :
    encodeChar (Char.ofNat (((n * 0x40 + k) * 0x40 + l) * 0x40 + m)) =
      [UInt8.ofNat (0xF0 + n), UInt8.ofNat (0x80 + k), UInt8.ofNat (0x80 + l),
        UInt8.ofNat (0x80 + m)] := by
  have hc := toNat_charOfNat (n := ((n * 0x40 + k) * 0x40 + l) * 0x40 + m) (by omega)
  simp only [encodeChar, hc]
  rw [if_neg (by omega), if_neg (by omega), if_neg (by omega),
    show (((n * 0x40 + k) * 0x40 + l) * 0x40 + m) / 0x40000 = n by omega,
    show (((n * 0x40 + k) * 0x40 + l) * 0x40 + m) / 0x1000 % 0x40 = k by omega,
    show (((n * 0x40 + k) * 0x40 + l) * 0x40 + m) / 0x40 % 0x40 = l by omega,
    show (((n * 0x40 + k) * 0x40 + l) * 0x40 + m) % 0x40 = m by omega]

/-! ## Reading one character -/

theorem toNat_byteOfNat {n : Nat} (h : n < 0x100) : (UInt8.ofNat n).toNat = n := by
  rw [UInt8.toNat_ofNat']
  omega

theorem finish_zero_eq_char_iff {least greatest bits : Nat} {bytes after : List UInt8} {c : Char} :
    finish 0 least greatest bits bytes = (.char c, after) ↔
      bytes = after ∧ c = Char.ofNat bits := by
  simp only [finish, Prod.mk.injEq, Piece.char.injEq]
  exact ⟨fun h => ⟨h.2, h.1.symm⟩, fun h => ⟨h.2.symm, h.1⟩⟩

/-- A byte that goes on with a character holds six of its bits. -/
theorem finish_succ_eq_char_iff {n least greatest bits : Nat} {bytes after : List UInt8} {c : Char}
    (hleast : 0x80 ≤ least) (hgreatest : greatest ≤ 0xBF) :
    finish (n + 1) least greatest bits bytes = (.char c, after) ↔
      ∃ k more, bytes = UInt8.ofNat (0x80 + k) :: more ∧ k < 0x40 ∧ least ≤ 0x80 + k ∧
        0x80 + k ≤ greatest ∧ finish n 0x80 0xBF (bits * 0x40 + k) more = (.char c, after) := by
  cases bytes with
  | nil => simp [finish]
  | cons b more =>
    rw [finish]
    constructor
    · intro h
      split at h
      · next hb =>
        refine ⟨b.toNat - 0x80, more, ?_, by omega, by omega, by omega, h⟩
        rw [show 0x80 + (b.toNat - 0x80) = b.toNat by omega, UInt8.ofNat_toNat]
      · simp at h
    · rintro ⟨k, more, hbytes, hk, hl, hg, hfinish⟩
      obtain ⟨rfl, rfl⟩ := List.cons.inj hbytes
      have hb : (UInt8.ofNat (0x80 + k)).toNat = 0x80 + k := toNat_byteOfNat (by omega)
      rw [hb, if_pos ⟨hl, hg⟩, show 0x80 + k - 0x80 = k by omega]
      exact hfinish

variable {rest after : List UInt8} {c : Char}

theorem piece_one {n : Nat} (hn : n < 0x80) :
    piece (UInt8.ofNat n) rest = (.char c, after) ↔ rest = after ∧ c = Char.ofNat n := by
  have hlead : lead? n = some ⟨0, 0x80, 0xBF, n⟩ := by rw [lead?, if_pos hn]
  rw [piece, toNat_byteOfNat (by omega), hlead]
  exact finish_zero_eq_char_iff

theorem piece_two {n : Nat} (hn : 2 ≤ n) (hn' : n < 0x20) :
    piece (UInt8.ofNat (0xC0 + n)) rest = (.char c, after) ↔
      ∃ k < 0x40, rest = UInt8.ofNat (0x80 + k) :: after ∧ c = Char.ofNat (n * 0x40 + k) := by
  have hlead : lead? (0xC0 + n) = some ⟨1, 0x80, 0xBF, n⟩ := by
    rw [lead?, if_neg (by omega), if_neg (by omega), if_pos (by omega),
      show 0xC0 + n - 0xC0 = n by omega]
  rw [piece, toNat_byteOfNat (by omega), hlead]
  simp only [finish_succ_eq_char_iff (Nat.le_refl _) (Nat.le_refl _), finish_zero_eq_char_iff]
  constructor
  · rintro ⟨k, more, rfl, hk, -, -, rfl, rfl⟩
    exact ⟨k, hk, rfl, rfl⟩
  · rintro ⟨k, hk, rfl, rfl⟩
    exact ⟨k, after, rfl, hk, by omega, by omega, rfl, rfl⟩

/-- The bounds on the second byte depend on the bits of the first. -/
theorem lead?_three {n : Nat} (hn : n < 0x10) :
    ∃ least greatest, lead? (0xE0 + n) = some ⟨2, least, greatest, n⟩ ∧ 0x80 ≤ least ∧
      greatest ≤ 0xBF ∧ ∀ k < 0x40, (least ≤ 0x80 + k ∧ 0x80 + k ≤ greatest) ↔
        (0 < n ∨ 0x20 ≤ k) ∧ (n ≠ 0x0D ∨ k < 0x20) := by
  unfold lead?
  rcases (by omega : n = 0 ∨ n = 0x0D ∨ 0 < n ∧ n ≠ 0x0D) with rfl | rfl | ⟨hpos, hne⟩
  · exact ⟨0xA0, 0xBF, rfl, by omega, by omega, by omega⟩
  · exact ⟨0x80, 0x9F, rfl, by omega, by omega, by omega⟩
  · refine ⟨0x80, 0xBF, ?_, by omega, by omega, by omega⟩
    rw [if_neg (by omega), if_neg (by omega), if_neg (by omega), if_neg (by omega),
      if_neg (by omega), if_pos (by omega), show 0xE0 + n - 0xE0 = n by omega]

theorem lead?_four {n : Nat} (hn : n < 5) :
    ∃ least greatest, lead? (0xF0 + n) = some ⟨3, least, greatest, n⟩ ∧ 0x80 ≤ least ∧
      greatest ≤ 0xBF ∧ ∀ k < 0x40, (least ≤ 0x80 + k ∧ 0x80 + k ≤ greatest) ↔
        (0 < n ∨ 0x10 ≤ k) ∧ (n < 4 ∨ k < 0x10) := by
  unfold lead?
  rcases (by omega : n = 0 ∨ n = 4 ∨ 0 < n ∧ n < 4) with rfl | rfl | ⟨hpos, hlt⟩
  · exact ⟨0x90, 0xBF, rfl, by omega, by omega, by omega⟩
  · exact ⟨0x80, 0x8F, rfl, by omega, by omega, by omega⟩
  · refine ⟨0x80, 0xBF, ?_, by omega, by omega, by omega⟩
    rw [if_neg (by omega), if_neg (by omega), if_neg (by omega), if_neg (by omega),
      if_neg (by omega), if_neg (by omega), if_neg (by omega), if_pos (by omega),
      show 0xF0 + n - 0xF0 = n by omega]

theorem piece_three {n : Nat} (hn : n < 0x10) :
    piece (UInt8.ofNat (0xE0 + n)) rest = (.char c, after) ↔
      ∃ k < 0x40, ∃ l < 0x40, (0 < n ∨ 0x20 ≤ k) ∧ (n ≠ 0x0D ∨ k < 0x20) ∧
        rest = UInt8.ofNat (0x80 + k) :: UInt8.ofNat (0x80 + l) :: after ∧
        c = Char.ofNat ((n * 0x40 + k) * 0x40 + l) := by
  obtain ⟨least, greatest, hlead, hleast, hgreatest, hbounds⟩ := lead?_three hn
  rw [piece, toNat_byteOfNat (by omega), hlead]
  simp only [finish_succ_eq_char_iff hleast hgreatest,
    finish_succ_eq_char_iff (Nat.le_refl _) (Nat.le_refl _), finish_zero_eq_char_iff]
  constructor
  · rintro ⟨k, _, rfl, hk, hl, hg, l, more, rfl, hl', -, -, rfl, rfl⟩
    obtain ⟨hshort, hscalar⟩ := (hbounds k hk).1 ⟨hl, hg⟩
    exact ⟨k, hk, l, hl', hshort, hscalar, rfl, rfl⟩
  · rintro ⟨k, hk, l, hl, hshort, hscalar, rfl, rfl⟩
    obtain ⟨hlow, hhigh⟩ := (hbounds k hk).2 ⟨hshort, hscalar⟩
    exact ⟨k, _, rfl, hk, hlow, hhigh, l, after, rfl, hl, by omega, by omega, rfl, rfl⟩

theorem piece_four {n : Nat} (hn : n < 5) :
    piece (UInt8.ofNat (0xF0 + n)) rest = (.char c, after) ↔
      ∃ k < 0x40, ∃ l < 0x40, ∃ m < 0x40, (0 < n ∨ 0x10 ≤ k) ∧ (n < 4 ∨ k < 0x10) ∧
        rest = UInt8.ofNat (0x80 + k) :: UInt8.ofNat (0x80 + l) :: UInt8.ofNat (0x80 + m) ::
          after ∧
        c = Char.ofNat (((n * 0x40 + k) * 0x40 + l) * 0x40 + m) := by
  obtain ⟨least, greatest, hlead, hleast, hgreatest, hbounds⟩ := lead?_four hn
  rw [piece, toNat_byteOfNat (by omega), hlead]
  simp only [finish_succ_eq_char_iff hleast hgreatest,
    finish_succ_eq_char_iff (Nat.le_refl _) (Nat.le_refl _), finish_zero_eq_char_iff]
  constructor
  · rintro ⟨k, _, rfl, hk, hl, hg, l, _, rfl, hl', -, -, m, more, rfl, hm, -, -, rfl, rfl⟩
    obtain ⟨hshort, hscalar⟩ := (hbounds k hk).1 ⟨hl, hg⟩
    exact ⟨k, hk, l, hl', m, hm, hshort, hscalar, rfl, rfl⟩
  · rintro ⟨k, hk, l, hl, m, hm, hshort, hscalar, rfl, rfl⟩
    obtain ⟨hlow, hhigh⟩ := (hbounds k hk).2 ⟨hshort, hscalar⟩
    exact ⟨k, _, rfl, hk, hlow, hhigh, l, _, rfl, hl, by omega, by omega, m, after, rfl, hm,
      by omega, by omega, rfl, rfl⟩

/-- No character starts with a byte that goes on with one, that could only start an overlong
form, or that leads past the last scalar. -/
theorem lead?_eq_none {b : Nat} (h : 0x80 ≤ b ∧ b < 0xC2 ∨ 0xF5 ≤ b) : lead? b = none := by
  unfold lead?
  grind

/-- The encoding of a character that is the first piece comes first. -/
theorem eq_encodeChar_append_of_piece {b : UInt8} (h : piece b rest = (.char c, after)) :
    b :: rest = encodeChar c ++ after := by
  -- The first byte decides how many bytes the character has.
  have hlt := b.toNat_lt
  rw [← UInt8.ofNat_toNat (x := b)] at h ⊢
  generalize b.toNat = n at h hlt ⊢
  rcases (by omega : n < 0x80 ∨ (0x80 ≤ n ∧ n < 0xC2 ∨ 0xF5 ≤ n) ∨ (0xC2 ≤ n ∧ n < 0xE0) ∨
    (0xE0 ≤ n ∧ n < 0xF0) ∨ (0xF0 ≤ n ∧ n < 0xF5)) with hn | hn | hn | hn | hn
  · obtain ⟨rfl, rfl⟩ := (piece_one hn).1 h
    rw [encodeChar_one hn]
    rfl
  · rw [piece, toNat_byteOfNat hlt, lead?_eq_none hn] at h
    simp at h
  · obtain ⟨n, rfl⟩ : ∃ m, n = 0xC0 + m := ⟨n - 0xC0, by omega⟩
    obtain ⟨k, hk, rfl, rfl⟩ := (piece_two (by omega) (by omega)).1 h
    rw [encodeChar_two (by omega) (by omega) hk]
    rfl
  · obtain ⟨n, rfl⟩ : ∃ m, n = 0xE0 + m := ⟨n - 0xE0, by omega⟩
    obtain ⟨k, hk, l, hl, hshort, hscalar, rfl, rfl⟩ := (piece_three (by omega)).1 h
    rw [encodeChar_three (by omega) hk hl hshort hscalar]
    rfl
  · obtain ⟨n, rfl⟩ : ∃ m, n = 0xF0 + m := ⟨n - 0xF0, by omega⟩
    obtain ⟨k, hk, l, hl, m, hm, hshort, hscalar, rfl, rfl⟩ := (piece_four (by omega)).1 h
    rw [encodeChar_four (by omega) hk hl hm hshort hscalar]
    rfl

/-- A character whose encoding comes first is the first piece. -/
theorem piece_of_eq_encodeChar_append {b : UInt8} (h : b :: rest = encodeChar c ++ after) :
    piece b rest = (.char c, after) := by
  -- The value of the character decides how many bytes it has.
  have hc := toNat_of_char c
  rw [← Char.ofNat_toNat c] at h ⊢
  generalize c.toNat = n at h hc ⊢
  rcases (by omega : n < 0x80 ∨ (0x80 ≤ n ∧ n < 0x800) ∨ (0x800 ≤ n ∧ n < 0x10000) ∨
    0x10000 ≤ n) with hn | hn | hn | hn
  · rw [encodeChar_one hn] at h
    obtain ⟨rfl, rfl⟩ := List.cons.inj h
    exact (piece_one hn).2 ⟨rfl, rfl⟩
  · obtain ⟨m, k, hk, rfl⟩ : ∃ m k, k < 0x40 ∧ n = m * 0x40 + k :=
      ⟨n / 0x40, n % 0x40, by omega, by omega⟩
    rw [encodeChar_two (by omega) (by omega) hk] at h
    obtain ⟨rfl, rfl⟩ := List.cons.inj h
    exact (piece_two (by omega) (by omega)).2 ⟨k, hk, rfl, rfl⟩
  · obtain ⟨m, k, l, hk, hl, rfl⟩ : ∃ m k l, k < 0x40 ∧ l < 0x40 ∧ n = (m * 0x40 + k) * 0x40 + l :=
      ⟨n / 0x1000, n / 0x40 % 0x40, n % 0x40, by omega, by omega, by omega⟩
    rw [encodeChar_three (by omega) hk hl (by omega) (by omega)] at h
    obtain ⟨rfl, rfl⟩ := List.cons.inj h
    exact (piece_three (by omega)).2 ⟨k, hk, l, hl, by omega, by omega, rfl, rfl⟩
  · obtain ⟨o, k, l, m, hk, hl, hm, rfl⟩ : ∃ o k l m, k < 0x40 ∧ l < 0x40 ∧ m < 0x40 ∧
        n = ((o * 0x40 + k) * 0x40 + l) * 0x40 + m :=
      ⟨n / 0x40000, n / 0x1000 % 0x40, n / 0x40 % 0x40, n % 0x40, by omega, by omega, by omega,
        by omega⟩
    rw [encodeChar_four (by omega) hk hl hm (by omega) (by omega)] at h
    obtain ⟨rfl, rfl⟩ := List.cons.inj h
    exact (piece_four (by omega)).2 ⟨k, hk, l, hl, m, hm, by omega, by omega, rfl, rfl⟩

/-- The first piece is a character exactly when its encoding comes first. -/
theorem piece_eq_char_iff {b : UInt8} :
    piece b rest = (.char c, after) ↔ b :: rest = encodeChar c ++ after :=
  ⟨eq_encodeChar_append_of_piece, piece_of_eq_encodeChar_append⟩

/-! ## A whole text -/

@[simp]
theorem encodeChars_nil : encodeChars [] = [] := rfl

@[simp]
theorem encodeChars_cons (c : Char) (cs : List Char) :
    encodeChars (c :: cs) = encodeChar c ++ encodeChars cs := rfl

theorem encodeChar_ne_nil (c : Char) : encodeChar c ≠ [] := by
  rw [encodeChar_eq_utf8EncodeChar]
  exact String.utf8EncodeChar_ne_nil

/-- With enough fuel, all pieces are characters exactly in the encoding of those characters. -/
theorem mapM_piecesUpTo_eq_some_iff {count : Nat} {bytes : List UInt8} {cs : List Char}
    (h : bytes.length ≤ count) :
    (piecesUpTo count bytes).mapM Piece.char? = some cs ↔ bytes = encodeChars cs := by
  induction count generalizing bytes cs with
  | zero =>
    obtain rfl : bytes = [] := List.length_eq_zero_iff.1 (by omega)
    cases cs <;> simp [piecesUpTo, encodeChar_ne_nil]
  | succ count ih =>
    cases bytes with
    | nil => cases cs <;> simp [piecesUpTo, encodeChar_ne_nil]
    | cons b rest =>
      have hrest : (piece b rest).2.length ≤ count := by
        have hle := length_piece_le b rest
        rw [List.length_cons] at h
        omega
      cases cs with
      | nil => simp [piecesUpTo, List.mapM_cons, Option.bind_eq_some_iff]
      | cons c cs =>
        have hpiece : (piece b rest).1.char? = some c ↔ (piece b rest).1 = .char c := by
          cases (piece b rest).1 <;> simp [Piece.char?]
        rw [encodeChars_cons, ← piece_eq_char_iff, Prod.ext_iff, ← ih hrest, ← hpiece]
        simp [piecesUpTo, List.mapM_cons, Option.bind_eq_some_iff]

/-- Strict decoding finds a text exactly in its encoding. -/
theorem decode?_eq_some_iff {bytes : List UInt8} {s : String} :
    decode? bytes = some s ↔ bytes = encode s := by
  rw [decode?, pieces, Option.map_eq_some_iff]
  constructor
  · rintro ⟨cs, hcs, rfl⟩
    rw [encode, String.toList_ofList]
    exact (mapM_piecesUpTo_eq_some_iff (Nat.le_refl _)).1 hcs
  · intro h
    exact ⟨s.toList, (mapM_piecesUpTo_eq_some_iff (Nat.le_refl _)).2 h, String.ofList_toList⟩

/-- A text is found again in its encoding. -/
@[simp]
theorem decode?_encode (s : String) : decode? (encode s) = some s :=
  decode?_eq_some_iff.2 rfl

end CompileCommands.Text.Utf8
