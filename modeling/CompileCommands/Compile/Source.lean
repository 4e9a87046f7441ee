import CompileCommands.Compile.Kind
import CompileCommands.Text.Lowercase
import CompileCommands.Text.Opening

/-!
# The source of a compile action

The source is the first argument that is no flag and ends in an extension of the action's
kind. Letter case does not count: the extension is looked for in the lowercase form of the
argument, while the argument itself is the answer.
-/

namespace CompileCommands

namespace Kind

/-- The folded text ends in a dot and an extension of the kind. -/
def endsInExtension (kind : Kind) (folded : List Char) : Bool :=
  kind.extensions.any fun extension => ('.' :: extension.toList).isSuffixOf folded

/-- The argument, folded, ends in an extension of the kind. -/
def isSourceBy (fold : List Char → List Char) (kind : Kind) (argument : String) : Bool :=
  kind.endsInExtension (fold argument.toList)

/-- The argument ends in an extension of the kind, whatever the case of its letters. -/
def isSource (kind : Kind) (argument : String) : Bool :=
  kind.isSourceBy Text.lowercase argument

/-- There is something of the argument, and it is no flag. -/
def isOperand (argument : String) : Bool :=
  argument ≠ "" && !Text.startsWith "-" argument

/-- The first argument that is no flag and ends in an extension of the kind when letters are folded
with `fold`. -/
def sourceBy? (fold : List Char → List Char) (kind : Kind) (arguments : List String) :
    Option String :=
  (arguments.filter isOperand).find? (kind.isSourceBy fold)

/-- The first argument that names a source of the kind. -/
def source? (kind : Kind) (arguments : List String) : Option String :=
  kind.sourceBy? Text.lowercase arguments

/-- The source of two parts is that of the first one, or else that of the second one. -/
theorem source?_append (kind : Kind) (arguments more : List String) :
    kind.source? (arguments ++ more) = (kind.source? arguments).or (kind.source? more) := by
  simp only [source?, sourceBy?, List.filter_append, List.find?_append]

/-- A source that was found stays the source when arguments follow. -/
theorem source?_append_of_eq_some {kind : Kind} {arguments more : List String} {s : String}
    (h : kind.source? arguments = some s) : kind.source? (arguments ++ more) = some s := by
  rw [source?_append, h, Option.some_or]

end Kind

end CompileCommands
