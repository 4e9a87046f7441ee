/-!
# White space

The characters with the Unicode property `White_Space`, and trimming by it. The zero-width
space, the word joiner, the Mongolian vowel separator and the byte order mark do not have
the property.
-/

namespace CompileCommands.Text

/-- The character has the property `White_Space`. -/
def isWhite (c : Char) : Bool :=
  let n := c.toNat
  (0x09 ≤ n && n ≤ 0x0D) || n == 0x20 || n == 0x85 || n == 0xA0 || n == 0x1680 ||
    (0x2000 ≤ n && n ≤ 0x200A) || n == 0x2028 || n == 0x2029 || n == 0x202F ||
    n == 0x205F || n == 0x3000

/-- The characters without the white space at either end. -/
def trimChars (cs : List Char) : List Char :=
  ((cs.dropWhile isWhite).reverse.dropWhile isWhite).reverse

/-- The text without the white space at either end. -/
def trim (s : String) : String :=
  String.ofList (trimChars s.toList)

@[simp] theorem trimChars_nil : trimChars [] = [] := rfl

/-- Dropping white space leaves nothing exactly of text that is white throughout. -/
theorem dropWhile_isWhite_eq_nil_iff {cs : List Char} :
    cs.dropWhile isWhite = [] ↔ ∀ c ∈ cs, isWhite c = true := by
  induction cs with
  | nil => simp
  | cons c cs ih => by_cases h : isWhite c = true <;> simp [h, ih]

/-- Trimming leaves nothing exactly of text that is white throughout. -/
theorem trimChars_eq_nil_iff {cs : List Char} :
    trimChars cs = [] ↔ ∀ c ∈ cs, isWhite c = true := by
  rw [trimChars, List.reverse_eq_nil_iff, dropWhile_isWhite_eq_nil_iff]
  constructor
  · intro h
    have front : cs.dropWhile isWhite = [] := by
      cases hd : cs.dropWhile isWhite with
      | nil => rfl
      | cons d ds =>
        have white : isWhite d = true := h d (by simp [hd])
        have := List.head_dropWhile_not isWhite (l := cs) (by simp [hd])
        simp [hd, white] at this
    exact dropWhile_isWhite_eq_nil_iff.1 front
  · intro h c hc
    exact h c ((List.dropWhile_suffix isWhite).subset (List.mem_reverse.1 hc))

end CompileCommands.Text
