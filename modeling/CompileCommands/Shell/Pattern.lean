import CompileCommands.Shell.Command

/-!
# Patterns

In a pattern a star stands for any text, a question mark for any character and brackets for one
of some characters. A quoted character stands for itself.
-/

namespace CompileCommands.Shell

/-- A character and whether it is quoted. -/
structure Glyph where
  /-- The character. -/
  char : Char
  /-- It stands for itself. -/
  quoted : Bool
  deriving DecidableEq, Repr

/-- Some characters. -/
inductive CharClass where
  /-- The characters from one to another. -/
  | range (first last : Char)
  /-- The characters of a kind. -/
  | kind (name : String)
  deriving DecidableEq, Repr

/-- What a pattern asks for. -/
inductive Symbol where
  /-- Any text. -/
  | anything
  /-- Any character. -/
  | anyChar
  /-- One character. -/
  | char (c : Char)
  /-- One of some characters, or none of them. -/
  | oneOf (negated : Bool) (classes : List CharClass)
  deriving DecidableEq, Repr

/-- The character is of a kind. -/
def isOfKind (name : String) (c : Char) : Bool :=
  match name with
  | "alpha" => c.isAlpha
  | "digit" => c.isDigit
  | "alnum" => c.isAlphanum
  | "upper" => c.isUpper
  | "lower" => c.isLower
  | "space" => " \t\n\r\x0b\x0c".toList.contains c
  | "blank" => c = ' ' || c = '\t'
  | "punct" => 0x21 ≤ c.toNat && c.toNat ≤ 0x7E && !c.isAlphanum
  | "print" => 0x20 ≤ c.toNat && c.toNat ≤ 0x7E
  | "graph" => 0x21 ≤ c.toNat && c.toNat ≤ 0x7E
  | "cntrl" => c.toNat < 0x20 || c.toNat = 0x7F
  | "xdigit" => c.isDigit || ('a' ≤ c && c ≤ 'f') || ('A' ≤ c && c ≤ 'F')
  | _ => false

/-- The class holds the character. -/
def CharClass.holds (c : Char) : CharClass → Bool
  | range first last => first ≤ c && c ≤ last
  | kind name => isOfKind name c

/-- The symbol stands for the character. -/
def Symbol.holds (c : Char) : Symbol → Bool
  | anything => false
  | anyChar => true
  | char d => c = d
  | oneOf negated classes => (classes.any (·.holds c)) != negated

/-- The classes between brackets, and what follows the closing one. `atStart` says that a
closing bracket stands for itself. -/
def bracketClasses : (count : Nat) → (atStart : Bool) → List Glyph →
    Option (List CharClass × List Glyph)
  | 0, _, _ => none
  | _ + 1, _, [] => none
  | n + 1, atStart, g :: rest =>
    let also (found : CharClass) (rest : List Glyph) :=
      (bracketClasses n false rest).map fun (classes, after) => (found :: classes, after)
    if g = ⟨']', false⟩ ∧ !atStart then some ([], rest)
    else if g = ⟨'[', false⟩ ∧ rest.head? = some ⟨':', false⟩ then
      let name := (rest.drop 1).takeWhile fun g => g.char.isAlpha
      match rest.drop (name.length + 1) with
      | ⟨':', _⟩ :: ⟨']', _⟩ :: after => also (.kind (String.ofList (name.map (·.char)))) after
      | _ => also (.range '[' '[') rest
    else
      match rest with
      | ⟨'-', false⟩ :: last :: after =>
        if last = ⟨']', false⟩ then also (.range g.char g.char) rest
        else also (.range g.char last.char) after
      | _ => also (.range g.char g.char) rest

/-- The first `count` symbols of a pattern. -/
def symbolsUpTo : (count : Nat) → List Glyph → List Symbol
  | 0, _ => []
  | _ + 1, [] => []
  | n + 1, g :: rest =>
    if g.quoted then .char g.char :: symbolsUpTo n rest
    else if g.char = '*' then .anything :: symbolsUpTo n rest
    else if g.char = '?' then .anyChar :: symbolsUpTo n rest
    else if g.char = '[' then
      let negated := rest.head?.any fun h => !h.quoted && (h.char = '!' || h.char = '^')
      match bracketClasses (rest.length + 1) true (rest.drop (if negated then 1 else 0)) with
      | some (classes, after) => .oneOf negated classes :: symbolsUpTo n after
      | none => .char '[' :: symbolsUpTo n rest
    else .char g.char :: symbolsUpTo n rest

/-- The symbols of a pattern. -/
def symbols (pattern : List Glyph) : List Symbol :=
  symbolsUpTo pattern.length pattern

/-- The text is what the pattern asks for. -/
def fits : List Symbol → List Char → Bool
  | [], cs => cs.isEmpty
  | .anything :: pattern, cs =>
    (List.range (cs.length + 1)).any fun k => fits pattern (cs.drop k)
  | _ :: _, [] => false
  | symbol :: pattern, c :: cs => symbol.holds c && fits pattern cs

/-- The pattern asks for more than one text. -/
def isOpen (pattern : List Glyph) : Bool :=
  (symbols pattern).any fun
    | .char _ => false
    | _ => true

/-- The text without the part at one end that the pattern matches, the shortest such part or
the longest. Of a part with zeros in it the pattern sees what is before the first one. -/
def withoutMatch (atEnd longest : Bool) (pattern : List Symbol) (text : List Char) :
    List Char :=
  let sizes := List.range (text.length + 1)
  let sizes := if longest then sizes.reverse else sizes
  let part (size : Nat) : List Char × List Char :=
    let split := if atEnd then text.length - size else size
    if atEnd then (text.drop split, text.take split) else (text.take split, text.drop split)
  match sizes.find? fun size => fits pattern ((part size).1.takeWhile (· ≠ '\x00')) with
  | some size => (part size).2
  | none => text

end CompileCommands.Shell
