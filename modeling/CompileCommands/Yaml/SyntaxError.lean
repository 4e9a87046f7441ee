import CompileCommands.Yaml.Position

/-!
# Syntax errors of YAML

What is wrong, where it is wrong, and what was being read at the time.
-/

namespace CompileCommands.Yaml

/-- What is wrong with a text. -/
inductive Fault where
  /-- A simple key ends without its colon. -/
  | noColonAfterKey
  /-- A block sequence entry stands where none may. -/
  | misplacedBlockEntry
  /-- A mapping key stands where none may. -/
  | misplacedKey
  /-- A mapping value stands where none may. -/
  | misplacedValue
  /-- No token starts with the character. -/
  | noTokenStart
  /-- A directive has an unknown name. -/
  | unknownDirective
  /-- Something follows where the line should end. -/
  | noLineEnd
  /-- A directive has no name. -/
  | noDirectiveName
  /-- A name ends in a character that it may not hold. -/
  | badNameEnd
  /-- A version has no point. -/
  | noVersionPoint
  /-- A version number is too long. -/
  | longVersion
  /-- A version number has no digits. -/
  | noVersion
  /-- No blank follows. -/
  | noBlank
  /-- No blank or line end follows. -/
  | noSpace
  /-- An anchor or an alias has no proper name. -/
  | badAnchorName
  /-- A verbatim tag is not closed. -/
  | noTagClose
  /-- A tag handle lacks an exclamation mark. -/
  | noExclamationMark
  /-- A tag is empty. -/
  | noTagUri
  /-- A per cent sign has no two digits. -/
  | badUriEscape
  /-- An escaped octet starts no character. -/
  | badLeadingOctet
  /-- An escaped octet continues no character. -/
  | badTrailingOctet
  /-- A block scalar asks for no indentation. -/
  | zeroIndentation
  /-- A tab stands in the indentation of a block scalar. -/
  | tabInIndentation
  /-- A document starts or ends inside a quoted scalar. -/
  | documentMarkInQuotes
  /-- The text ends inside a quoted scalar. -/
  | unclosedQuotes
  /-- No such escape exists. -/
  | unknownEscape
  /-- An escape code lacks a digit. -/
  | noHexDigit
  /-- An escape code names no character. -/
  | badEscapeCode
  /-- A colon stands before a flow indicator. -/
  | unexpectedColon
  /-- A tab indents a plain scalar. -/
  | tabBeforePlain
  /-- A document start is missing. -/
  | noDocumentStart
  /-- There are two version directives. -/
  | duplicateVersion
  /-- The version is not supported. -/
  | incompatibleVersion
  /-- Two tag directives have one handle. -/
  | duplicateTagDirective
  /-- A tag handle has no directive. -/
  | undefinedTagHandle
  /-- No node starts here. -/
  | noNodeContent
  /-- A block sequence has something other than an entry. -/
  | noEntryIndicator
  /-- A block mapping has something other than a key. -/
  | noMappingKey
  /-- A flow sequence goes on without a comma. -/
  | noSequenceComma
  /-- A flow mapping goes on without a comma. -/
  | noMappingComma
  deriving DecidableEq, Repr

/-- The text of a fault. -/
def Fault.message : Fault → String
  | noColonAfterKey => "could not find expected ':'"
  | misplacedBlockEntry => "block sequence entries are not allowed in this context"
  | misplacedKey => "mapping keys are not allowed in this context"
  | misplacedValue => "mapping values are not allowed in this context"
  | noTokenStart => "found character that cannot start any token"
  | unknownDirective => "found unknown directive name"
  | noLineEnd => "did not find expected comment or line break"
  | noDirectiveName => "could not find expected directive name"
  | badNameEnd => "found unexpected non-alphabetical character"
  | noVersionPoint => "did not find expected digit or '.' character"
  | longVersion => "found extremely long version number"
  | noVersion => "did not find expected version number"
  | noBlank => "did not find expected whitespace"
  | noSpace => "did not find expected whitespace or line break"
  | badAnchorName => "did not find expected alphabetic or numeric character"
  | noTagClose => "did not find the expected '>'"
  | noExclamationMark => "did not find expected '!'"
  | noTagUri => "did not find expected tag URI"
  | badUriEscape => "did not find URI escaped octet"
  | badLeadingOctet => "found an incorrect leading UTF-8 octet"
  | badTrailingOctet => "found an incorrect trailing UTF-8 octet"
  | zeroIndentation => "found an indentation indicator equal to 0"
  | tabInIndentation => "found a tab character where an indentation space is expected"
  | documentMarkInQuotes => "found unexpected document indicator"
  | unclosedQuotes => "found unexpected end of stream"
  | unknownEscape => "found unknown escape character"
  | noHexDigit => "did not find expected hexadecimal number"
  | badEscapeCode => "found invalid Unicode character escape code"
  | unexpectedColon => "found unexpected ':'"
  | tabBeforePlain => "found a tab character that violates indentation"
  | noDocumentStart => "did not find expected <document start>"
  | duplicateVersion => "found duplicate %YAML directive"
  | incompatibleVersion => "found incompatible YAML document"
  | duplicateTagDirective => "found duplicate %TAG directive"
  | undefinedTagHandle => "found undefined tag handle"
  | noNodeContent => "did not find expected node content"
  | noEntryIndicator => "did not find expected '-' indicator"
  | noMappingKey => "did not find expected key"
  | noSequenceComma => "did not find expected ',' or ']'"
  | noMappingComma => "did not find expected ',' or '\x7d'"

/-- What is being read. -/
inductive Activity where
  /-- A key on one line. -/
  | simpleKey
  /-- Any token. -/
  | nextToken
  /-- A directive. -/
  | directive
  /-- A version directive. -/
  | versionDirective
  /-- A tag directive. -/
  | tagDirective
  /-- The handle of a tag directive. -/
  | tagDirectiveHandle
  /-- The end of the handle of a tag directive. -/
  | tagDirectiveHandleEnd
  /-- The URI of a tag directive. -/
  | tagDirectiveUri
  /-- A tag. -/
  | tag
  /-- The URI of a tag. -/
  | tagUri
  /-- An anchor. -/
  | anchor
  /-- An alias. -/
  | reference
  /-- A block scalar. -/
  | blockScalar
  /-- A quoted scalar. -/
  | quotedScalar
  /-- An escape in a quoted scalar. -/
  | quotedEscape
  /-- A plain scalar. -/
  | plainScalar
  /-- A node with properties. -/
  | node
  /-- A node in block context. -/
  | blockNode
  /-- A node in flow context. -/
  | flowNode
  /-- A block sequence. -/
  | blockSequence
  /-- A block mapping. -/
  | blockMapping
  /-- A flow sequence. -/
  | flowSequence
  /-- A flow mapping. -/
  | flowMapping
  deriving DecidableEq, Repr

/-- The text of an activity. -/
def Activity.message : Activity → String
  | simpleKey => "while scanning a simple key"
  | nextToken => "while scanning for the next token"
  | directive => "while scanning a directive"
  | versionDirective => "while scanning a %YAML directive"
  | tagDirective => "while scanning a %TAG directive"
  | tagDirectiveHandle => "while scanning a tag directive"
  | tagDirectiveHandleEnd => "while parsing a tag directive"
  | tagDirectiveUri => "while parsing a %TAG directive"
  | tag => "while scanning a tag"
  | tagUri => "while parsing a tag"
  | anchor => "while scanning an anchor"
  | reference => "while scanning an alias"
  | blockScalar => "while scanning a block scalar"
  | quotedScalar => "while scanning a quoted scalar"
  | quotedEscape => "while parsing a quoted scalar"
  | plainScalar => "while scanning a plain scalar"
  | node => "while parsing a node"
  | blockNode => "while parsing a block node"
  | flowNode => "while parsing a flow node"
  | blockSequence => "while parsing a block collection"
  | blockMapping => "while parsing a block mapping"
  | flowSequence => "while parsing a flow sequence"
  | flowMapping => "while parsing a flow mapping"

/-- Why a text is no YAML. -/
inductive SyntaxError where
  /-- A character that no text may hold follows after `offset` bytes. -/
  | controlCharacter (offset : Nat)
  /-- A fault at a place, and what was being read from where on. -/
  | fault (fault : Fault) (position : Position) (during? : Option (Activity × Position))
  deriving DecidableEq, Repr

/-- The text of an error. The place of the activity is left out where it is that of the
fault, and the start of the text is never named. -/
def SyntaxError.message : SyntaxError → String
  | controlCharacter offset =>
    "control characters are not allowed" ++
      if offset = 0 then "" else " at position " ++ toString offset
  | fault what position during? =>
    what.message ++ position.placeText ++
      match during? with
      | none => ""
      | some (activity, start) =>
        ", " ++ activity.message ++
          if start.line = position.line ∧ start.column = position.column then ""
          else start.placeText

end CompileCommands.Yaml
