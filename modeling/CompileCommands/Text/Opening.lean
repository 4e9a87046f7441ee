/-!
# Openings

Taking a text apart at its opening.
-/

namespace CompileCommands.Text

/-- What follows `opening` in a list of characters that starts with it. -/
def afterChars? : (opening cs : List Char) → Option (List Char)
  | [], cs => some cs
  | _ :: _, [] => none
  | o :: os, c :: cs => if o = c then afterChars? os cs else none

/-- What follows `opening` in a text that starts with it. -/
def after? (opening s : String) : Option String :=
  (afterChars? opening.toList s.toList).map String.ofList

/-- The text starts with `opening`. -/
def startsWith (opening s : String) : Bool :=
  (after? opening s).isSome

/-- Something follows an opening exactly in the texts that it opens. -/
theorem afterChars?_eq_some_iff {opening cs rest : List Char} :
    afterChars? opening cs = some rest ↔ cs = opening ++ rest := by
  induction opening generalizing cs with
  | nil => simp [afterChars?]
  | cons o os ih =>
    cases cs with
    | nil => simp [afterChars?]
    | cons c cs =>
      by_cases h : o = c
      · subst h; simp [afterChars?, ih]
      · simp [afterChars?, h, Ne.symm h]

/-- Something follows an opening exactly in the texts that it opens. -/
theorem after?_eq_some_iff {opening s rest : String} :
    after? opening s = some rest ↔ s = opening ++ rest := by
  simp only [after?, Option.map_eq_some_iff, afterChars?_eq_some_iff]
  constructor
  · rintro ⟨cs, h, rfl⟩
    apply String.toList_inj.1
    simp [h]
  · rintro rfl
    exact ⟨rest.toList, by simp, by simp⟩

end CompileCommands.Text
