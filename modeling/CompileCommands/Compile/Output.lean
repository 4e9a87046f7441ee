import CompileCommands.Text.Opening

/-!
# The output of a compile action

Compilers name the output file in four ways, each a rule. A rule looks at one argument and
at the argument after it, if there is one, and may yield a value. The first argument at which
a rule yields a value ends the scan; an empty value then means that there is no output.
-/

namespace CompileCommands

/-- A way of naming the output. -/
structure OutputRule where
  /-- What the rule is called. -/
  name : String
  /-- The value that an argument and its successor yield. -/
  value? : (argument : String) → (next? : Option String) → Option String

namespace OutputRule

/-- What follows `opening` in the argument, unless that is nothing. -/
def attachedTo (opening argument : String) : Option String :=
  (Text.after? opening argument).filter (· ≠ "")

/-- `-o out.o` and `--output out.o`. -/
def separate : OutputRule where
  name := "separate"
  value? argument next? := if argument = "-o" ∨ argument = "--output" then next? else none

/-- `-oout.o`. -/
def attached : OutputRule where
  name := "attached"
  value? argument _ := attachedTo "-o" argument

/-- `--output=out.o`. -/
def longEquals : OutputRule where
  name := "long_equals"
  value? argument _ := attachedTo "--output=" argument

/-- `/Foout.obj` and `-Foout.obj`, or `/Fo out.obj` and `-Fo out.obj`. -/
def objectFile : OutputRule where
  name := "msvc"
  value? argument next? :=
    match (Text.after? "/Fo" argument).or (Text.after? "-Fo" argument) with
    | some "" => next?
    | some value => some value
    | none => none

/-- Every rule, in the order in which they are tried. -/
def all : List OutputRule := [separate, attached, longEquals, objectFile]

/-- The value of the first of the rules that yields one at an argument. -/
def first? (rules : List OutputRule) (argument : String) (next? : Option String) :
    Option String :=
  rules.findSome? (·.value? argument next?)

/-- The value at the first argument at which one of the rules yields one. -/
def scan? (rules : List OutputRule) : List String → Option String
  | [] => none
  | argument :: rest =>
    if argument = "" then scan? rules rest
    else (first? rules argument rest.head?).or (scan? rules rest)

end OutputRule

/-- The output that the command line names by the rules. -/
def outputBy? (rules : List OutputRule) (arguments : List String) : Option String :=
  (OutputRule.scan? rules arguments).filter (· ≠ "")

/-- The output that the command line names. -/
def output? (arguments : List String) : Option String :=
  outputBy? OutputRule.all arguments

end CompileCommands
