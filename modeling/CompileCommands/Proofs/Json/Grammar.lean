import Mathlib.Data.List.Basic

/-!
# The grammar of JSON

What a text means as JSON (RFC 8259). A value is a word, a quoted text, an array or an object.
Space may stand around every item, name and value. The grammar counts how deep values are nested,
so that it is defined, and used, by recursion on that depth; no depth is left out.

* `IsQuoted`: the quoted texts, with all their escapes.
* `IsValue`: the values up to a depth of nesting.
* `IsDocument`: a value with space around it.
* `IsValue.of_length`: the nesting is never deeper than the text is long.
-/

namespace CompileCommands.Json

/-- What a text means as JSON. A number stands as it is written, and the members of an object keep
their order. -/
inductive Datum where
  /-- The literal `null`. -/
  | null
  /-- The literal `true` or `false`. -/
  | boolean (b : Bool)
  /-- A number. -/
  | number (written : String)
  /-- A text. -/
  | text (s : String)
  /-- A list of values. -/
  | array (items : List Datum)
  /-- Named values. -/
  | object (members : List (String × Datum))

/-! ## Space -/

/-- The characters that may stand between the parts of a value. -/
def isSpace (c : Char) : Bool :=
  c = ' ' || c = '\t' || c = '\n' || c = '\r'

/-- There is nothing but space. -/
def IsSpace (cs : List Char) : Prop :=
  ∀ c ∈ cs, isSpace c = true

theorem IsSpace.nil : IsSpace [] :=
  List.forall_mem_nil _

theorem IsSpace.singleton {c : Char} (hc : isSpace c = true) : IsSpace [c] :=
  List.forall_mem_singleton.2 hc

/-- Something written, with space around it. -/
def Padded {α : Type} (form : List Char → α → Prop) (written : List Char) (x : α) : Prop :=
  ∃ before inner after, IsSpace before ∧ form inner x ∧ IsSpace after ∧
    written = before ++ (inner ++ after)

/-! ## Words -/

/-- The characters of literals and numbers. -/
def isWordChar (c : Char) : Bool :=
  c.isAlphanum || c = '+' || c = '-' || c = '.'

/-- Digits, at least one. -/
def isDigits (cs : List Char) : Bool :=
  cs ≠ [] && cs.all Char.isDigit

/-- Nothing, or an exponent. -/
def isExponent : List Char → Bool
  | [] => true
  | e :: '+' :: cs => (e = 'e' || e = 'E') && isDigits cs
  | e :: '-' :: cs => (e = 'e' || e = 'E') && isDigits cs
  | e :: cs => (e = 'e' || e = 'E') && isDigits cs

/-- Nothing, or a fraction, an exponent or both. -/
def isFraction : List Char → Bool
  | '.' :: cs => isDigits (cs.takeWhile Char.isDigit) && isExponent (cs.dropWhile Char.isDigit)
  | cs => isExponent cs

/-- A number without a sign: only zero starts with a zero. -/
def isUnsigned : List Char → Bool
  | [] => false
  | '0' :: cs => isFraction cs
  | c :: cs => c.isDigit && isFraction (cs.dropWhile Char.isDigit)

/-- A number. -/
def isNumber : List Char → Bool
  | '-' :: cs => isUnsigned cs
  | cs => isUnsigned cs

/-- The literals and the numbers. -/
inductive IsWord : List Char → Datum → Prop where
  /-- The literal `null`. -/
  | nullLiteral : IsWord ['n', 'u', 'l', 'l'] .null
  /-- The literal `true`. -/
  | trueLiteral : IsWord ['t', 'r', 'u', 'e'] (.boolean true)
  /-- The literal `false`. -/
  | falseLiteral : IsWord ['f', 'a', 'l', 's', 'e'] (.boolean false)
  /-- A number. -/
  | number {written : List Char} (hnumber : isNumber written = true) :
      IsWord written (.number (String.ofList written))

/-! ## Texts -/

/-- The letters that stand for a character after a backslash. -/
def shortEscapes : List (Char × Char) :=
  [('"', '"'), ('\\', '\\'), ('/', '/'), ('b', '\x08'), ('f', '\x0C'), ('n', '\n'), ('r', '\r'),
    ('t', '\t')]

/-- The value of a hexadecimal digit. -/
def hexValue? (c : Char) : Option Nat :=
  if c.isDigit then some (c.toNat - 0x30)
  else if 'a' ≤ c ∧ c ≤ 'f' then some (c.toNat - 0x57)
  else if 'A' ≤ c ∧ c ≤ 'F' then some (c.toNat - 0x37)
  else none

/-- The value of some hexadecimal digits. -/
def hexNumber? (digits : List Char) : Option Nat :=
  digits.foldlM (fun n digit => (hexValue? digit).map (16 * n + ·)) 0

/-- Four hexadecimal digits. -/
def IsUnit (digits : List Char) (n : Nat) : Prop :=
  digits.length = 4 ∧ hexNumber? digits = some n

/-- The first unit of two that stand for one character. -/
def IsHigh (n : Nat) : Prop :=
  0xD800 ≤ n ∧ n < 0xDC00

/-- The second unit of two that stand for one character. -/
def IsLow (n : Nat) : Prop :=
  0xDC00 ≤ n ∧ n < 0xE000

instance (n : Nat) : Decidable (IsHigh n) :=
  inferInstanceAs (Decidable (_ ∧ _))

instance (n : Nat) : Decidable (IsLow n) :=
  inferInstanceAs (Decidable (_ ∧ _))

/-- The character that two units stand for. -/
def ofUnits (high low : Nat) : Char :=
  Char.ofNat (0x10000 + (high - 0xD800) * 0x400 + (low - 0xDC00))

/-- The ways to write a character between quotes. -/
inductive IsCharForm : List Char → Char → Prop where
  /-- The character itself, unless it is a control character, the quote or the backslash. -/
  | raw {c : Char} (hcontrol : 0x20 ≤ c.toNat) (hquote : c ≠ '"') (hslash : c ≠ '\\') :
      IsCharForm [c] c
  /-- A backslash and a letter. -/
  | short {letter c : Char} (hletter : (letter, c) ∈ shortEscapes) : IsCharForm ['\\', letter] c
  /-- A backslash and the number of the character. -/
  | unit {digits : List Char} {n : Nat} (hdigits : IsUnit digits n) (hhigh : ¬ IsHigh n)
      (hlow : ¬ IsLow n) : IsCharForm ('\\' :: 'u' :: digits) (Char.ofNat n)
  /-- The two units of a character, each after a backslash. -/
  | units {digits digits' : List Char} {high low : Nat} (hdigits : IsUnit digits high)
      (hhigh : IsHigh high) (hdigits' : IsUnit digits' low) (hlow : IsLow low) :
      IsCharForm ('\\' :: 'u' :: (digits ++ '\\' :: 'u' :: digits')) (ofUnits high low)

/-- The ways to write the characters of a text, one after the other. -/
inductive IsChars : List Char → List Char → Prop where
  /-- No characters. -/
  | nil : IsChars [] []
  /-- One more character. -/
  | cons {form written : List Char} {c : Char} {cs : List Char} (hform : IsCharForm form c)
      (hrest : IsChars written cs) : IsChars (form ++ written) (c :: cs)

/-- A text between quotes. -/
def IsQuoted (written : List Char) (s : String) : Prop :=
  ∃ body, IsChars body s.toList ∧ written = '"' :: (body ++ ['"'])

/-! ## Values -/

/-- Items between commas, at least one. -/
inductive IsItems {α : Type} (form : List Char → α → Prop) : List Char → List α → Prop where
  /-- The last item. -/
  | last {written : List Char} {x : α} (hitem : Padded form written x) : IsItems form written [x]
  /-- An item before others. -/
  | cons {written rest : List Char} {x : α} {xs : List α} (hitem : Padded form written x)
      (hrest : IsItems form rest xs) : IsItems form (written ++ ',' :: rest) (x :: xs)

/-- Items between brackets. -/
def IsBlock {α : Type} (opening closing : Char) (form : List Char → α → Prop)
    (written : List Char) (xs : List α) : Prop :=
  ∃ body, written = opening :: (body ++ [closing]) ∧
    (xs = [] ∧ IsSpace body ∨ IsItems form body xs)

/-- A name and a value with a colon between them. -/
def IsMember (form : List Char → Datum → Prop) (written : List Char)
    (member : String × Datum) : Prop :=
  ∃ name before after value, IsQuoted name member.1 ∧ IsSpace before ∧ IsSpace after ∧
    form value member.2 ∧ written = name ++ (before ++ ':' :: (after ++ value))

/-- What a text means as a value that is nested less than `depth` levels deep. -/
def IsValue : (depth : Nat) → List Char → Datum → Prop
  | 0, _, _ => False
  | depth + 1, written, datum =>
    IsWord written datum ∨
      (∃ s, datum = .text s ∧ IsQuoted written s) ∨
      (∃ items, datum = .array items ∧ IsBlock '[' ']' (IsValue depth) written items) ∨
      ∃ members, datum = .object members ∧
        IsBlock '\x7b' '\x7d' (IsMember (IsValue depth)) written members

/-- What a text means as a value. -/
def Means (written : List Char) (datum : Datum) : Prop :=
  ∃ depth, IsValue depth written datum

/-- What a text means as a value with space around it. -/
def IsDocument (written : List Char) (datum : Datum) : Prop :=
  Padded Means written datum

/-! ## Depth -/

theorem Padded.mono {α : Type} {form form' : List Char → α → Prop} {written : List Char} {x : α}
    (hform : ∀ inner, inner.length ≤ written.length → form inner x → form' inner x)
    (h : Padded form written x) : Padded form' written x := by
  obtain ⟨before, inner, after, hbefore, hinner, hafter, rfl⟩ := h
  refine ⟨before, inner, after, hbefore, hform inner ?_ hinner, hafter, rfl⟩
  simp only [List.length_append]
  omega

theorem IsItems.mono {α : Type} {form form' : List Char → α → Prop} {written : List Char}
    {xs : List α}
    (hform : ∀ inner x, inner.length ≤ written.length → form inner x → form' inner x)
    (h : IsItems form written xs) : IsItems form' written xs := by
  induction h with
  | last hitem => exact .last (hitem.mono fun inner hle => hform inner _ hle)
  | cons hitem _ ih =>
    simp only [List.length_append, List.length_cons] at hform
    refine .cons (hitem.mono fun inner hle => hform inner _ ?_)
      (ih fun inner x hle => hform inner x ?_)
    all_goals omega

theorem IsBlock.mono {α : Type} {opening closing : Char} {form form' : List Char → α → Prop}
    {written : List Char} {xs : List α}
    (hform : ∀ inner x, inner.length < written.length → form inner x → form' inner x)
    (h : IsBlock opening closing form written xs) :
    IsBlock opening closing form' written xs := by
  obtain ⟨body, rfl, hbody⟩ := h
  refine ⟨body, rfl, hbody.imp_right fun hitems => hitems.mono fun inner x hle => hform inner x ?_⟩
  simp only [List.length_cons, List.length_append, List.length_nil]
  omega

theorem IsMember.mono {form form' : List Char → Datum → Prop} {written : List Char}
    {member : String × Datum}
    (hform : ∀ inner x, inner.length ≤ written.length → form inner x → form' inner x)
    (h : IsMember form written member) : IsMember form' written member := by
  obtain ⟨name, before, after, value, hname, hbefore, hafter, hvalue, rfl⟩ := h
  refine ⟨name, before, after, value, hname, hbefore, hafter, hform value _ ?_ hvalue, rfl⟩
  simp only [List.length_append, List.length_cons]
  omega

/-- The nesting of a value is never deeper than its text is long. -/
theorem IsValue.of_length_le {depth bound : Nat} {written : List Char} {datum : Datum}
    (h : IsValue depth written datum) (hbound : written.length ≤ bound) :
    IsValue (bound + 1) written datum := by
  induction depth generalizing bound written datum with
  | zero => exact h.elim
  | succ depth ih =>
    -- What is inside a value is shorter than the value, so that one level less is enough for it.
    have hform : ∀ inner x, inner.length < written.length → IsValue depth inner x →
        IsValue bound inner x := by
      intro inner x hlt hinner
      cases bound with
      | zero => omega
      | succ bound => exact ih hinner (by omega)
    refine h.imp_right (.imp_right (.imp (fun ⟨items, hdatum, hblock⟩ => ⟨items, hdatum, ?_⟩)
      fun ⟨members, hdatum, hblock⟩ => ⟨members, hdatum, ?_⟩))
    · exact hblock.mono hform
    · exact hblock.mono fun inner member hlt hmember =>
        hmember.mono fun value x hle => hform value x (by omega)

namespace Means

variable {written : List Char}

theorem word {datum : Datum} (h : IsWord written datum) : Means written datum :=
  ⟨1, .inl h⟩

theorem text {s : String} (h : IsQuoted written s) : Means written (.text s) :=
  ⟨1, .inr (.inl ⟨s, rfl, h⟩)⟩

/-- A shorter text needs no more depth than the longer one that it is in. -/
theorem of_length_lt {bound : Nat} {datum : Datum} (h : Means written datum)
    (hbound : written.length < bound) : IsValue bound written datum := by
  obtain ⟨depth, hvalue⟩ := h
  cases bound with
  | zero => omega
  | succ bound => exact hvalue.of_length_le (by omega)

theorem array {items : List Datum} (h : IsBlock '[' ']' Means written items) :
    Means written (.array items) :=
  ⟨written.length + 1, .inr (.inr (.inl ⟨items, rfl, h.mono fun _ _ hlt hinner =>
    hinner.of_length_lt hlt⟩))⟩

theorem object {members : List (String × Datum)}
    (h : IsBlock '\x7b' '\x7d' (IsMember Means) written members) :
    Means written (.object members) :=
  ⟨written.length + 1, .inr (.inr (.inr ⟨members, rfl, h.mono fun _ _ hlt hmember =>
    hmember.mono fun _ _ hle hinner => hinner.of_length_lt (by omega)⟩))⟩

end Means

end CompileCommands.Json
