import CompileCommands.Shell.Pattern

/-!
# Fields

When the parts of a word have their values, the word becomes fields: text in quotes stays as it
is, and other values are split at the separators. A separator that is white space counts once
however often it comes; any other ends a field each time.
-/

namespace CompileCommands.Shell

/-- A piece of a word that has its values. -/
inductive Piece where
  /-- A character; it may be a separator if it comes from a value outside quotes. -/
  | char (glyph : Glyph) (splits : Bool)
  /-- A field is there even if it has no text. -/
  | mark
  /-- The end of a field. -/
  | gap
  deriving DecidableEq, Repr

/-- The pieces of some text. -/
def textPieces (quoted splits : Bool) (text : String) : List Piece :=
  text.toList.map fun c => .char ⟨c, quoted⟩ splits

/-- The pieces of a value. -/
def valuePieces (quoted : Bool) (value : String) : List Piece :=
  if quoted then .mark :: textPieces true false value else textPieces false true value

/-- The pieces of some values of which each is a field of its own. -/
def separatePieces (quoted : Bool) (values : List String) : List Piece :=
  List.flatten ((values.map (valuePieces quoted)).intersperse [.gap])

/-- The characters of some pieces. -/
def glyphs (pieces : List Piece) : List Glyph :=
  pieces.filterMap fun
    | .char glyph _ => some glyph
    | .mark => none
    | .gap => some ⟨' ', true⟩

/-- The text of some pieces that are not split. -/
def joined (pieces : List Piece) : String :=
  String.ofList ((glyphs pieces).map (·.char))

/-- The separator is white space. -/
def isWhiteSeparator (c : Char) : Bool :=
  c = ' ' || c = '\t' || c = '\n'

/-- The fields of some pieces, after a field that is open, the last character of which comes
first. `afterWhite` says that white space has just ended a field. -/
def fieldsAfter (separators : List Char) :
    (field : Option (List Glyph)) → (afterWhite : Bool) → List Piece → List (List Glyph)
  | field, _, [] => (field.map List.reverse).toList
  | field, _, .mark :: rest => fieldsAfter separators (some (field.getD [])) false rest
  | field, _, .gap :: rest =>
    (field.map List.reverse).toList ++ fieldsAfter separators none false rest
  | field, afterWhite, .char glyph splits :: rest =>
    if splits ∧ separators.contains glyph.char then
      match field, isWhiteSeparator glyph.char with
      | some glyphs, white => glyphs.reverse :: fieldsAfter separators none white rest
      | none, true => fieldsAfter separators none afterWhite rest
      | none, false =>
        if afterWhite then fieldsAfter separators none false rest
        else [] :: fieldsAfter separators none false rest
    else fieldsAfter separators (some (glyph :: field.getD [])) false rest

/-- The fields of some pieces. -/
def fields (separators : List Char) (pieces : List Piece) : List (List Glyph) :=
  fieldsAfter separators none false pieces

end CompileCommands.Shell
