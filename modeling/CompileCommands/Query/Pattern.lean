import CompileCommands.Compile.Kind

/-!
# Mnemonic patterns

A pattern is a regular expression made of literal text, grouping and alternation. The query
asks for the mnemonics that the whole of a pattern matches.
-/

namespace CompileCommands

/-- A regular expression of literal text, groups of alternatives and sequences. -/
inductive Pattern where
  /-- This text alone. -/
  | literal (text : String)
  /-- One of the alternatives, written as a group. -/
  | anyOf (alternatives : List String)
  /-- One pattern and then the other. -/
  | followedBy (first second : Pattern)
  deriving DecidableEq, Repr

namespace Pattern

/-- The written form of a pattern. -/
def render : Pattern → String
  | literal text => text
  | anyOf alternatives => "(" ++ "|".intercalate alternatives ++ ")"
  | followedBy first second => first.render ++ second.render

/-- The pattern matches the whole of a text. -/
inductive Matches : Pattern → String → Prop where
  /-- Literal text matches itself. -/
  | literal (text : String) : Matches (literal text) text
  /-- A group matches each of its alternatives. -/
  | anyOf {alternatives : List String} {text : String} (member : text ∈ alternatives) :
      Matches (anyOf alternatives) text
  /-- A sequence matches what its parts match, one after the other. -/
  | followedBy {first second : Pattern} {s t : String} (left : Matches first s)
      (right : Matches second t) : Matches (followedBy first second) (s ++ t)

/-- The pattern of the mnemonics of compile actions. -/
def compileMnemonic : Pattern :=
  followedBy (anyOf (Kind.all.map Kind.name)) (literal "Compile")

end Pattern

end CompileCommands
