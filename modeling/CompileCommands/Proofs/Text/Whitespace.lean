import CompileCommands.Text.Whitespace
import Mathlib.Data.List.DropRight
import Mathlib.Data.List.TakeWhile

/-!
# Trimmed text

What trimming leaves of a text, said by what the text is made of and not by how the white space is
taken away.

* `IsTrimmed`: the part of a text that is left without the white space at either end.
* `trim_eq_iff`: trimming leaves this part, and there is no other one.
-/

namespace CompileCommands.Text

/-- The text is `trimmed` between white space, and `trimmed` neither starts nor ends with any. -/
structure IsTrimmed (text trimmed : String) : Prop where
  /-- Nothing but white space is missing at either end. -/
  between : ∃ front back, text.toList = front ++ trimmed.toList ++ back ∧
    (∀ c ∈ front, isWhite c = true) ∧ ∀ c ∈ back, isWhite c = true
  /-- No white space is left at the start. -/
  head : ∀ c ∈ trimmed.toList.head?, isWhite c = false
  /-- No white space is left at the end. -/
  last : ∀ c ∈ trimmed.toList.getLast?, isWhite c = false

variable {cs front middle back : List Char}

/-- Trimming leaves nothing exactly of text that is white throughout. -/
theorem trim_eq_empty_iff {text : String} :
    trim text = "" ↔ ∀ c ∈ text.toList, isWhite c = true := by
  rw [trim, ← trimChars_eq_nil_iff, ← String.toList_inj, String.toList_ofList]
  rfl

/-- What dropping white space leaves does not start with any. -/
theorem isWhite_of_mem_head?_dropWhile {c : Char} (h : c ∈ (cs.dropWhile isWhite).head?) :
    isWhite c = false := by
  have hnot := List.head?_dropWhile_not isWhite cs
  rw [Option.mem_def.1 h] at hnot
  exact hnot

/-- White space is dropped from the left and then from the right. -/
theorem trimChars_eq_rdropWhile : trimChars cs = (cs.dropWhile isWhite).rdropWhile isWhite := rfl

/-- White space in front of text that does not start with any is dropped. -/
theorem dropWhile_isWhite_append (hfront : ∀ c ∈ front, isWhite c = true)
    (hhead : ∀ c ∈ middle.head?, isWhite c = false) :
    (front ++ middle).dropWhile isWhite = middle := by
  rw [List.dropWhile_append_of_pos hfront]
  cases middle with
  | nil => rfl
  | cons c cs => rw [List.dropWhile_cons_of_neg (by simp [hhead c rfl])]

/-- White space at either end is trimmed away. -/
theorem trimChars_append (hfront : ∀ c ∈ front, isWhite c = true)
    (hback : ∀ c ∈ back, isWhite c = true) (hhead : ∀ c ∈ middle.head?, isWhite c = false)
    (hlast : ∀ c ∈ middle.getLast?, isWhite c = false) :
    trimChars (front ++ middle ++ back) = middle := by
  cases middle with
  | nil =>
    rw [List.append_nil, trimChars_eq_nil_iff]
    intro c hc
    exact (List.mem_append.1 hc).elim (hfront c) (hback c)
  | cons c cs =>
    -- What is not white in the middle stops the dropping at either end.
    have hstart : (front ++ (c :: cs ++ back)).dropWhile isWhite = c :: cs ++ back :=
      dropWhile_isWhite_append hfront hhead
    have hend : (back.reverse ++ (c :: cs).reverse).dropWhile isWhite = (c :: cs).reverse := by
      refine dropWhile_isWhite_append (fun d hd => hback d (List.mem_reverse.1 hd)) ?_
      rwa [List.head?_reverse]
    rw [trimChars, List.append_assoc, hstart, List.reverse_append, hend, List.reverse_reverse]

/-- Trimming leaves what is between the white space at either end. -/
theorem isTrimmed_trim (text : String) : IsTrimmed text (trim text) where
  between := by
    refine ⟨text.toList.takeWhile isWhite, (text.toList.dropWhile isWhite).rtakeWhile isWhite,
      ?_, fun c => List.mem_takeWhile_imp, fun c => List.mem_rtakeWhile_imp⟩
    have hback := List.rdropWhile_append_rtakeWhile (p := isWhite)
      (l := text.toList.dropWhile isWhite)
    rw [trim, String.toList_ofList, trimChars_eq_rdropWhile, List.append_assoc, hback,
      List.takeWhile_append_dropWhile]
  head := by
    intro c hc
    rw [trim, String.toList_ofList, trimChars_eq_rdropWhile] at hc
    obtain ⟨rest, hrest⟩ := List.rdropWhile_prefix isWhite (text.toList.dropWhile isWhite)
    have hdropped : c ∈ (text.toList.dropWhile isWhite).head? := by
      rw [← hrest, List.head?_append, Option.mem_def.1 hc]
      rfl
    exact isWhite_of_mem_head?_dropWhile hdropped
  last := by
    intro c hc
    rw [trim, String.toList_ofList, trimChars, List.getLast?_reverse] at hc
    exact isWhite_of_mem_head?_dropWhile hc

/-- Trimming leaves what is between the white space at either end, and there is no other text of
which that can be said. -/
theorem trim_eq_iff {text trimmed : String} : trim text = trimmed ↔ IsTrimmed text trimmed := by
  constructor
  · rintro rfl
    exact isTrimmed_trim text
  · rintro ⟨⟨front, back, htext, hfront, hback⟩, hhead, hlast⟩
    rw [trim, htext, trimChars_append hfront hback hhead hlast, String.ofList_toList]

end CompileCommands.Text
