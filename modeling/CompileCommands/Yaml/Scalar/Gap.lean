import CompileCommands.Yaml.SyntaxError

/-!
# Gaps in flow scalars

Between two words of a plain or quoted scalar stand blanks, or line ends with blanks around
them. Blanks on one line are kept. Line ends are folded: one alone becomes a space, and of
several the first is dropped.
-/

namespace CompileCommands.Yaml

/-- What stands between the last word and the cursor. -/
inductive Gap where
  /-- Nothing. -/
  | none
  /-- Blanks on one line. -/
  | blanks (text : List Char)
  /-- Line ends: what the first stands for, and what the others stand for. -/
  | breaks (first others : List Char)
  deriving DecidableEq, Repr

namespace Gap

/-- The gap with one more blank. Blanks around line ends are dropped. -/
def addBlank (c : Char) : Gap → Gap
  | none => blanks [c]
  | blanks text => blanks (text ++ [c])
  | breaks first others => breaks first others

/-- The gap with one more line end, which stands for `text`. -/
def addBreak (text : List Char) : Gap → Gap
  | none => breaks text []
  | blanks _ => breaks text []
  | breaks first others => breaks first (others ++ text)

/-- The gap holds a line end. -/
def hasBreak : Gap → Bool
  | breaks .. => true
  | _ => false

/-- What the gap stands for between two words. -/
def fold : Gap → List Char
  | none => []
  | blanks text => text
  | breaks first others =>
    if first = ['\n'] then if others = [] then [' '] else others
    else first ++ others

end Gap

end CompileCommands.Yaml
