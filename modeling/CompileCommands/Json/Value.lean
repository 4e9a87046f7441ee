/-!
# JSON values
-/

namespace CompileCommands.Json

/-- A JSON value of the forms that are written here. The members of an object keep their
order. -/
inductive Value where
  /-- A natural number. -/
  | number (n : Nat)
  /-- A text. -/
  | text (s : String)
  /-- A list of values. -/
  | array (items : List Value)
  /-- Named values. -/
  | object (members : List (String × Value))

/-- The list of some texts. -/
def Value.ofTexts (texts : List String) : Value :=
  .array (texts.map .text)

end CompileCommands.Json
