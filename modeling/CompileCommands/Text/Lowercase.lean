import CompileCommands.Text.Lowercase.Table

/-!
# Lowercase

Full lowercase of text: every character has its own lowercase form, `İ` has one of two
characters, and a capital sigma at the end of a word becomes a final sigma. Beside it stands
the fold that changes ASCII capitals alone.
-/

namespace CompileCommands.Text

namespace Lowercase

/-- The run holds the character with number `n`. -/
def Run.holds (r : Run) (n : Nat) : Bool :=
  r.first ≤ n && n ≤ r.last && (n - r.first) % r.step == 0

/-- The number of the lowercase form of a character of the run. -/
def Run.lower (r : Run) (n : Nat) : Nat :=
  n + r.up - r.down

/-- The lowercase form of a character that has one of a single character. -/
def ofChar (c : Char) : Char :=
  match runs.find? (·.holds c.toNat) with
  | some r => Char.ofNat (r.lower c.toNat)
  | none => c

/-- The character lies in one of the runs. -/
def within (ranges : List (Nat × Nat)) (c : Char) : Bool :=
  ranges.any fun r => r.1 ≤ c.toNat && c.toNat ≤ r.2

/-- The first character that is not ignored for case is cased. -/
def casedAhead (cs : List Char) : Bool :=
  match cs.dropWhile (within caseIgnorable) with
  | c :: _ => within cased c
  | [] => false

/-- A capital sigma ends a word: a cased character comes before it and none after it. -/
def sigmaIsFinal (before after : List Char) : Bool :=
  casedAhead before && !casedAhead after

/-- The lowercase form of `c` between the characters `before`, nearest first, and `after`. -/
def inContext (before : List Char) (c : Char) (after : List Char) : List Char :=
  if c = 'Σ' then [if sigmaIsFinal before after then 'ς' else 'σ']
  else if c = 'İ' then ['i', '\u0307']
  else [ofChar c]

/-- The lowercase forms of `cs` after the characters `before`, nearest first. -/
def after (before : List Char) : List Char → List Char
  | [] => []
  | c :: cs => inContext before c cs ++ after (c :: before) cs

end Lowercase

/-- The lowercase form of a list of characters. -/
def lowercase (cs : List Char) : List Char :=
  Lowercase.after [] cs

/-- The lowercase form as far as ASCII goes. -/
def lowercaseAscii (cs : List Char) : List Char :=
  cs.map Char.toLower

@[simp] theorem lowercase_nil : lowercase [] = [] := rfl

@[simp] theorem length_lowercaseAscii (cs : List Char) :
    (lowercaseAscii cs).length = cs.length := by
  simp [lowercaseAscii]

end CompileCommands.Text
