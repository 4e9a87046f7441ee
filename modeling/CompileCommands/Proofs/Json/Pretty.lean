import CompileCommands.Json.Pretty
import CompileCommands.Proofs.Json.Grammar
import Mathlib.Data.List.Forall2
import Mathlib.Data.List.TakeWhile

/-!
# What indented JSON means

The indented form of a value is JSON for that value: every escape stands for the character that it
replaces, and the indentation is space.

* `isQuoted_quote`: texts.
* `isBlock_block`: lists on lines of their own.
* `Value.means_prettyAt`: values.
-/

namespace CompileCommands.Json

/-! ## Texts -/

/-- The escapes of the control characters. -/
theorem isUnit_hexDigit :
    ∀ n < 0x20, IsUnit ['0', '0', hexDigit (n / 16), hexDigit (n % 16)] n := by
  unfold IsUnit
  decide

/-- Every character is written in one of the ways to write it. -/
theorem isCharForm_escapeChar (c : Char) : IsCharForm (escapeChar c) c := by
  -- The short escapes come first, then the other control characters, then what stays as it is.
  unfold escapeChar
  split
  · next hc => subst hc; exact .short (by decide)
  split
  · next hc => subst hc; exact .short (by decide)
  split
  · next hc => subst hc; exact .short (by decide)
  split
  · next hc => subst hc; exact .short (by decide)
  split
  · next hc => subst hc; exact .short (by decide)
  split
  · next hc => subst hc; exact .short (by decide)
  split
  · next hc => subst hc; exact .short (by decide)
  split
  · next hcontrol =>
    have hunit := isUnit_hexDigit c.toNat hcontrol
    have hform := IsCharForm.unit hunit (fun h => by have := h.1; omega)
      (fun h => by have := h.1; omega)
    rwa [Char.ofNat_toNat] at hform
  · next hquote hslash _ _ _ _ _ hcontrol =>
    exact .raw (Nat.le_of_not_lt hcontrol) hquote hslash

theorem isChars_flatMap_escapeChar (cs : List Char) : IsChars (cs.flatMap escapeChar) cs := by
  induction cs with
  | nil => exact .nil
  | cons c cs ih => exact .cons (isCharForm_escapeChar c) ih

/-- A text between quotes stands for itself. -/
theorem isQuoted_quote (s : String) : IsQuoted (quote s) s :=
  ⟨s.toList.flatMap escapeChar, isChars_flatMap_escapeChar s.toList, rfl⟩

/-! ## Numbers -/

/-- No number but zero starts with a zero. -/
theorem exists_toDigits_eq_cons {n : Nat} (hn : 0 < n) :
    ∃ c cs, Nat.toDigits 10 n = c :: cs ∧ c ≠ '0' := by
  induction n using Nat.strongRecOn with
  | ind n ih =>
    rcases Nat.lt_or_ge n 10 with hlt | hge
    · have hdigit : ∀ n < 10, 0 < n → n.digitChar ≠ '0' := by
        decide
      exact ⟨n.digitChar, [], Nat.toDigits_of_lt_base hlt, hdigit n hlt hn⟩
    · obtain ⟨c, cs, hcs, hc⟩ := ih (n / 10) (by omega) (by omega)
      rw [Nat.toDigits_of_base_le (by decide) hge, hcs]
      exact ⟨c, _, rfl, hc⟩

theorem isNumber_toDigits (n : Nat) : isNumber (Nat.toDigits 10 n) = true := by
  rcases Nat.eq_zero_or_pos n with rfl | hn
  · decide
  · obtain ⟨c, cs, hcs, hc⟩ := exists_toDigits_eq_cons hn
    have hdigits : ∀ d ∈ c :: cs, d.isDigit = true := fun d hd =>
      Nat.isDigit_of_mem_toDigits (by decide) (Nat.le_refl 10) (hcs ▸ hd)
    obtain ⟨hfirst, hrest⟩ := List.forall_mem_cons.1 hdigits
    have hminus : c ≠ '-' := by
      rintro rfl
      cases hfirst
    rw [hcs, isNumber]
    · rw [isUnsigned, hfirst, List.dropWhile_eq_nil_iff.2 hrest]
      · rfl
      · simpa using hc
    · simpa using hminus

/-- A number in digits is a word. -/
theorem isWord_repr (n : Nat) : IsWord (Nat.repr n).toList (.number (Nat.repr n)) := by
  have hnumber : isNumber (Nat.repr n).toList = true := by
    rw [Nat.toList_repr]
    exact isNumber_toDigits n
  have hword := IsWord.number hnumber
  rwa [String.ofList_toList] at hword

/-! ## Lists on lines of their own -/

theorem isSpace_newline (depth : Nat) : IsSpace (newline depth) := by
  intro c hc
  rcases List.mem_cons.1 hc with rfl | hc
  · decide
  · rw [List.eq_of_mem_replicate hc]
    decide

variable {α : Type} {form : List Char → α → Prop}

/-- Parts with a comma and space between them, and space around them, are items. -/
theorem isItems_intercalate {before after : List Char} (hbefore : IsSpace before)
    (hafter : IsSpace after) {parts : List (List Char)} {xs : List α}
    (h : List.Forall₂ form parts xs) (hparts : parts ≠ []) :
    IsItems form (before ++ ((',' :: before).intercalate parts ++ after)) xs := by
  -- The space after the last part differs from that after the commas.
  induction h with
  | nil => exact absurd rfl hparts
  | @cons part x parts xs hpart hrest ih =>
    cases hrest with
    | nil =>
      rw [List.intercalate_singleton]
      exact .last ⟨before, part, after, hbefore, hpart, hafter, rfl⟩
    | @cons part' x' parts xs hpart' hrest =>
      have hitem : Padded form (before ++ (part ++ [])) x :=
        ⟨before, part, [], hbefore, hpart, List.forall_mem_nil _, rfl⟩
      have hitems := IsItems.cons hitem (ih (List.cons_ne_nil _ _))
      rw [List.intercalate_cons_cons]
      simpa using hitems

/-- Parts between brackets, on lines of their own, are items between brackets. -/
theorem isBlock_block (opening closing : Char) (depth : Nat) {parts : List (List Char)}
    {xs : List α} (h : List.Forall₂ form parts xs) :
    IsBlock opening closing form (block opening closing depth parts) xs := by
  unfold block
  split
  · next hparts =>
    subst hparts
    cases h
    exact ⟨[], rfl, .inl ⟨rfl, List.forall_mem_nil _⟩⟩
  · next hparts =>
    have hitems :=
      isItems_intercalate (isSpace_newline (depth + 1)) (isSpace_newline depth) h hparts
    exact ⟨_, by simp, .inr hitems⟩

/-! ## Values -/

mutual

/-- What a value is. -/
def Value.datum : Value → Datum
  | .number n => .number (Nat.repr n)
  | .text s => .text s
  | .array items => .array (itemData items)
  | .object members => .object (memberData members)

/-- What the items of a list are. -/
def itemData : List Value → List Datum
  | [] => []
  | item :: items => item.datum :: itemData items

/-- What the members of an object are. -/
def memberData : List (String × Value) → List (String × Datum)
  | [] => []
  | (name, value) :: members => (name, value.datum) :: memberData members

end

mutual

/-- The written form of a value means that value. -/
theorem Value.means_prettyAt (depth : Nat) :
    (value : Value) → Means (value.prettyAt depth) value.datum
  | .number n => by
    rw [Value.prettyAt, Value.datum]
    exact .word (isWord_repr n)
  | .text s => .text (isQuoted_quote s)
  | .array items => .array (isBlock_block '[' ']' depth (forall₂_prettyItems (depth + 1) items))
  | .object members =>
    .object (isBlock_block '\x7b' '\x7d' depth (forall₂_prettyMembers (depth + 1) members))

/-- The written forms of the items of a list mean the items. -/
theorem forall₂_prettyItems (depth : Nat) :
    (items : List Value) → List.Forall₂ Means (prettyItems depth items) (itemData items)
  | [] => .nil
  | item :: items => .cons (item.means_prettyAt depth) (forall₂_prettyItems depth items)

/-- The written forms of the members of an object mean the members. -/
theorem forall₂_prettyMembers (depth : Nat) : (members : List (String × Value)) →
    List.Forall₂ (IsMember Means) (prettyMembers depth members) (memberData members)
  | [] => .nil
  | (name, value) :: members =>
    .cons ⟨quote name, [], [' '], value.prettyAt depth, isQuoted_quote name,
        .nil, .singleton rfl, value.means_prettyAt depth,
        List.append_assoc ..⟩
      (forall₂_prettyMembers depth members)

end

end CompileCommands.Json
