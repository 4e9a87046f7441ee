import CompileCommands.Text.Utf8
import CompileCommands.Yaml.Token

/-!
# Anchors, tags and directives

The tokens that start with `&`, `*`, `!` and, at the start of a line, `%`. The octets of a tag
end at the first that is zero.
-/

namespace CompileCommands.Yaml.Tag

/-- What a tag or a tag directive is being read for. -/
structure Purpose where
  /-- The tag belongs to a directive. -/
  inDirective : Bool
  /-- Where the token starts. -/
  start : Position
  deriving Repr

/-- An error in a token that starts at `start`. -/
def refuse {α : Type} (start : Position) (during : Activity) (what : Fault)
    (position : Position) : Except SyntaxError α :=
  .error (.fault what position (some (during, start)))

/-- What is being read when the URI of a tag is wrong. -/
def Purpose.uriActivity (p : Purpose) : Activity :=
  if p.inDirective then .tagDirectiveUri else .tagUri

/-- The character may stand in the URI of a tag; flow indicators only in a verbatim one. -/
def isUriChar (verbatim : Bool) (c : Char) : Bool :=
  isNameChar c || ";/?:@&=+$.%!~*'()".toList.contains c ||
    (verbatim && ",[]".toList.contains c)

/-- How many octets the character takes that starts with an octet. -/
def widthOf? (octet : Nat) : Option Nat :=
  if octet < 0x80 then some 1
  else if octet < 0xC0 then none
  else if octet < 0xE0 then some 2
  else if octet < 0xF0 then some 3
  else if octet < 0xF8 then some 4
  else none

/-- Read the URI of a tag on. `octets` holds what has been read, last octet first, and
`pending` says how many escaped octets must still follow. -/
def readUri (p : Purpose) (verbatim : Bool) (octets : TagOctets) (pending : Nat)
    (position : Position) : List Char → Except SyntaxError (TagOctets × Cursor)
  | '%' :: a :: b :: rest =>
    match hexValue? a, hexValue? b with
    | some high, some low =>
      let octet := 16 * high + low
      -- Escaped octets are counted out as characters, though they are not checked further.
      let pending? := if pending = 0 then widthOf? octet
        else if 0x80 ≤ octet ∧ octet < 0xC0 then some pending else none
      match pending? with
      | some count =>
        readUri p verbatim (UInt8.ofNat octet :: octets) (count - 1)
          (position.advance ['%', a, b]) rest
      | none =>
        refuse p.start p.uriActivity (if pending = 0 then .badLeadingOctet else .badTrailingOctet)
          position
    | _, _ => refuse p.start p.uriActivity .badUriEscape position
  | c :: rest =>
    if pending ≠ 0 ∨ c = '%' then refuse p.start p.uriActivity .badUriEscape position
    else if isUriChar verbatim c then
      readUri p verbatim (UInt8.ofNat c.toNat :: octets) 0 (position.next c) rest
    else .ok (octets.reverse, ⟨c :: rest, position⟩)
  | [] =>
    if pending ≠ 0 then refuse p.start p.uriActivity .badUriEscape position
    else .ok (octets.reverse, ⟨[], position⟩)

/-- The URI of a tag at a cursor. Nothing may be read only if something stands before it. -/
def takeUri (p : Purpose) (verbatim : Bool) (before? : Option TagOctets) (c : Cursor) :
    Except SyntaxError (TagOctets × Cursor) := do
  let (octets, after) ← readUri p verbatim [] 0 c.position c.rest
  if octets = [] ∧ before?.getD [] = [] then
    refuse p.start p.uriActivity .noTagUri after.position
  return (((before?.getD []).drop 1 ++ octets).takeWhile (· ≠ 0), after)

/-- The handle of a tag at a cursor: an exclamation mark, or a name between two. -/
def takeHandle (p : Purpose) (c : Cursor) : Except SyntaxError (TagOctets × Cursor) := do
  if !c.isAt '!' then
    refuse p.start (if p.inDirective then .tagDirectiveHandle else .tag) .noExclamationMark
      c.position
  let (name, after) := (c.skip 1).span isNameChar
  if after.isAt '!' then return (Text.Utf8.encodeChars ('!' :: name ++ ['!']), after.skip 1)
  if p.inDirective ∧ name ≠ [] then
    refuse p.start .tagDirectiveHandleEnd .noExclamationMark after.position
  return (Text.Utf8.encodeChars ('!' :: name), after)

/-- The octets of an exclamation mark. -/
def exclamationMark : TagOctets := [0x21]

/-- The handle and the suffix of the tag at a cursor. -/
def takeParts (p : Purpose) (c : Cursor) :
    Except SyntaxError (TagOctets × TagOctets × Cursor) := do
  if c.ahead? 1 = some '<' then
    let (suffix, after) ← takeUri p true none (c.skip 2)
    if !after.isAt '>' then refuse p.start .tag .noTagClose after.position
    return ([], suffix, after.skip 1)
  let (handle, after) ← takeHandle p c
  -- A handle that is not closed is the start of the suffix of a tag with the first handle.
  if handle.length ≠ 1 ∧ handle.getLast? = exclamationMark.head? then
    let (suffix, after) ← takeUri p false none after
    return (handle, suffix, after)
  let (suffix, after) ← takeUri p false (some handle) after
  if suffix = [] then return ([], exclamationMark, after)
  return (exclamationMark, suffix, after)

/-- The tag at a cursor. -/
def scan (inFlow : Bool) (c : Cursor) : Except SyntaxError (Token.Located × Cursor) := do
  let start := c.position
  let (handle, suffix, after) ← takeParts ⟨false, start⟩ c
  if !(inFlow && after.isAt ',') && !after.spaceAhead 0 then
    refuse start .tag .noSpace after.position
  return (⟨.tag handle suffix, start, after.position⟩, after)

/-- The character may follow the name of an anchor. -/
def endsAnchor (c : Cursor) : Bool :=
  c.spaceAhead 0 || (c.ahead? 0).any fun char => "?:,]\x7d%@`".toList.contains char

/-- The anchor or the alias at a cursor. -/
def scanAnchor (isAlias : Bool) (c : Cursor) : Except SyntaxError (Token.Located × Cursor) := do
  let start := c.position
  let (name, after) := (c.skip 1).span isNameChar
  if name = [] ∨ !endsAnchor after then
    refuse start (if isAlias then .reference else .anchor) .badAnchorName after.position
  let name := String.ofList name
  return (⟨if isAlias then .reference name else .anchor name, start, after.position⟩, after)

/-- A number of a version at a cursor. It has at most nine digits. -/
def takeVersionNumber (start : Position) (c : Cursor) : Except SyntaxError (Nat × Cursor) := do
  let (digits, after) := c.span Char.isDigit
  if 9 < digits.length then
    refuse start .versionDirective .longVersion (c.skip 9).position
  if digits = [] then refuse start .versionDirective .noVersion after.position
  return (digits.foldl (fun n d => 10 * n + (d.toNat - 0x30)) 0, after)

/-- The value of a version directive at a cursor. -/
def takeVersion (start : Position) (c : Cursor) : Except SyntaxError (Token × Cursor) := do
  let (major, c) ← takeVersionNumber start (c.skipWhile isBlank)
  if !c.isAt '.' then refuse start .versionDirective .noVersionPoint c.position
  let (minor, c) ← takeVersionNumber start (c.skip 1)
  return (.versionDirective major minor, c)

/-- The value of a tag directive at a cursor. -/
def takeTagDirective (start : Position) (c : Cursor) : Except SyntaxError (Token × Cursor) := do
  let (handle, c) ← takeHandle ⟨true, start⟩ (c.skipWhile isBlank)
  if !(c.ahead? 0).any isBlank then refuse start .tagDirective .noBlank c.position
  let (stem, c) ← takeUri ⟨true, start⟩ true none (c.skipWhile isBlank)
  if !c.spaceAhead 0 then refuse start .tagDirective .noSpace c.position
  return (.tagDirective handle stem, c)

/-- The directive at a cursor. -/
def scanDirective (c : Cursor) : Except SyntaxError (Token.Located × Cursor) := do
  let start := c.position
  let (name, c) := (c.skip 1).span isNameChar
  if name = [] then refuse start .directive .noDirectiveName c.position
  if !c.spaceAhead 0 then refuse start .directive .badNameEnd c.position
  let (token, c) ←
    if name = "YAML".toList then takeVersion start c
    else if name = "TAG".toList then takeTagDirective start c
    else refuse start .directive .unknownDirective c.position
  let stop := c.position
  let c := c.skipWhile isBlank
  let c := if c.isAt '#' then c.skipWhile (!isBreak ·) else c
  if !c.atLineEnd then refuse start .directive .noLineEnd c.position
  return (⟨token, start, stop⟩, c.skipBreak)

end CompileCommands.Yaml.Tag
