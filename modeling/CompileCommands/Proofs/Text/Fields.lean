import CompileCommands.Text.Fields
import CompileCommands.Text.Opening
import Mathlib.Data.List.Basic

/-!
# Openings and fields

When a text starts with a character, and what the fields are of a text that is put together from
fields with separators between them.

* `startsWith_iff_head?`: texts that start with one character.
* `fields_append`: the fields of two texts with a separator between them.
* `fields_intercalate`: fields that have been joined are found again.
-/

namespace CompileCommands.Text

/-- A text starts with one character exactly when that is its first. -/
theorem startsWith_iff_head? {opening s : String} {c : Char} (hopening : opening.toList = [c]) :
    startsWith opening s = true ↔ s.toList.head? = some c := by
  rw [startsWith, after?, Option.isSome_map, Option.isSome_iff_exists, List.head?_eq_some_iff,
    hopening]
  exact exists_congr fun rest => afterChars?_eq_some_iff

variable {separator : Char}

/-- No field holds the separator. -/
theorem notMem_of_mem_fieldChars {cs field : List Char} (h : field ∈ fieldChars separator cs) :
    separator ∉ field := by
  induction cs generalizing field with
  | nil =>
    obtain rfl := List.mem_singleton.1 h
    exact List.not_mem_nil
  | cons c cs ih =>
    obtain ⟨first, others, hfields⟩ := List.exists_cons_of_ne_nil (fieldChars_ne_nil separator cs)
    rw [hfields] at ih
    simp only [fieldChars, hfields] at h
    split at h
    · rcases List.mem_cons.1 h with rfl | h
      · exact List.not_mem_nil
      · exact ih h
    · next hc =>
      rcases List.mem_cons.1 h with rfl | h
      · rw [List.mem_cons, not_or]
        exact ⟨Ne.symm hc, ih List.mem_cons_self⟩
      · exact ih (List.mem_cons_of_mem _ h)

/-- Text without the separator is one field. -/
theorem fieldChars_of_notMem {cs : List Char} (h : separator ∉ cs) :
    fieldChars separator cs = [cs] := by
  induction cs with
  | nil => rfl
  | cons c cs ih =>
    rw [List.mem_cons, not_or] at h
    rw [fieldChars, if_neg (Ne.symm h.1), ih h.2]

/-- A separator ends a field. -/
theorem fieldChars_append (cs ds : List Char) :
    fieldChars separator (cs ++ separator :: ds) =
      fieldChars separator cs ++ fieldChars separator ds := by
  induction cs with
  | nil => simp [fieldChars]
  | cons c cs ih =>
    obtain ⟨first, others, hfields⟩ := List.exists_cons_of_ne_nil (fieldChars_ne_nil separator cs)
    rw [List.cons_append, fieldChars, ih, fieldChars, hfields]
    split
    · rfl
    · rfl

/-- The fields of two texts with the separator between them are those of both. -/
theorem fields_append {between : String} (hbetween : between.toList = [separator])
    (s t : String) :
    fields separator (s ++ between ++ t) = fields separator s ++ fields separator t := by
  rw [fields, String.toList_append, String.toList_append, hbetween, List.append_assoc,
    List.singleton_append, fieldChars_append, List.map_append]
  rfl

/-- Fields that have been joined are found again. -/
theorem fields_intercalate {between : String} (hbetween : between.toList = [separator])
    {parts : List String} (hparts : ∀ part ∈ parts, separator ∉ part.toList) (hne : parts ≠ []) :
    fields separator (between.intercalate parts) = parts := by
  induction parts with
  | nil => exact absurd rfl hne
  | cons part parts ih =>
    obtain ⟨hpart, hparts⟩ := List.forall_mem_cons.1 hparts
    have hone : fields separator part = [part] := by
      rw [fields, fieldChars_of_notMem hpart, List.map_singleton, String.ofList_toList]
    cases parts with
    | nil => rw [String.intercalate_singleton, hone]
    | cons next parts =>
      rw [String.intercalate_cons_cons, fields_append hbetween, hone, ih hparts (by simp)]
      rfl

end CompileCommands.Text
