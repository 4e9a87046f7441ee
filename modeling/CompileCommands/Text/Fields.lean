/-!
# Fields

Splitting a text at every occurrence of a separator.
-/

namespace CompileCommands.Text

/-- The parts of `cs` between the separators, empty ones included. -/
def fieldChars (separator : Char) : List Char → List (List Char)
  | [] => [[]]
  | c :: cs =>
    if c = separator then [] :: fieldChars separator cs
    else
      match fieldChars separator cs with
      | field :: fields => (c :: field) :: fields
      | [] => [[c]]

/-- The parts of a text between the separators, empty ones included. -/
def fields (separator : Char) (s : String) : List String :=
  (fieldChars separator s.toList).map String.ofList

/-- There is always a field. -/
theorem fieldChars_ne_nil (separator : Char) (cs : List Char) : fieldChars separator cs ≠ [] := by
  cases cs with
  | nil => simp [fieldChars]
  | cons c cs =>
    simp only [fieldChars]
    split
    · simp
    · split <;> simp

/-- Joining the fields with the separator gives the text back. -/
theorem intercalate_fieldChars (separator : Char) (cs : List Char) :
    [separator].intercalate (fieldChars separator cs) = cs := by
  induction cs with
  | nil => rfl
  | cons c cs ih =>
    simp only [fieldChars]
    split
    · next h =>
      subst h
      obtain ⟨f, fs, hf⟩ := List.exists_cons_of_ne_nil (fieldChars_ne_nil c cs)
      rw [hf] at ih ⊢
      simpa [List.intercalate, List.intersperse] using ih
    · split
      · next field fields hf =>
        rw [hf] at ih
        cases fields with
        | nil => simpa [List.intercalate] using ih
        | cons g gs => simpa [List.intercalate, List.intersperse] using ih
      · next hf => exact absurd hf (fieldChars_ne_nil separator cs)

end CompileCommands.Text
