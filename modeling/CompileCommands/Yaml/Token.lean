import CompileCommands.Yaml.SyntaxError

/-!
# Tokens of YAML
-/

namespace CompileCommands.Yaml

/-- How a scalar is written. -/
inductive Style where
  /-- Without quotes. -/
  | plain
  /-- Between single quotes. -/
  | singleQuoted
  /-- Between double quotes. -/
  | doubleQuoted
  /-- In lines of its own whose ends are kept. -/
  | literal
  /-- In lines of its own that are joined. -/
  | folded
  deriving DecidableEq, Repr

/-- Octets of a tag. Escapes may make up any octets, so a tag need not be text. -/
abbrev TagOctets := List UInt8

/-- A token. -/
inductive Token where
  /-- The version that the document asks for. -/
  | versionDirective (major minor : Nat)
  /-- What a tag handle stands for. -/
  | tagDirective (handle stem : TagOctets)
  /-- `---`. -/
  | documentStart
  /-- `...`. -/
  | documentEnd
  /-- A block sequence begins. -/
  | blockSequenceStart
  /-- A block mapping begins. -/
  | blockMappingStart
  /-- A block collection is over. -/
  | blockEnd
  /-- `[`. -/
  | flowSequenceStart
  /-- `]`. -/
  | flowSequenceEnd
  /-- An opening brace. -/
  | flowMappingStart
  /-- A closing brace. -/
  | flowMappingEnd
  /-- `-`. -/
  | blockEntry
  /-- `,`. -/
  | flowEntry
  /-- A key follows. -/
  | key
  /-- A value follows. -/
  | value
  /-- A node that stands elsewhere. -/
  | reference (name : String)
  /-- The name of the node that follows. -/
  | anchor (name : String)
  /-- The tag of the node that follows. -/
  | tag (handle suffix : TagOctets)
  /-- A scalar. -/
  | scalar (text : String) (style : Style)
  deriving DecidableEq, Repr

namespace Token

/-- A token and where it stands. -/
structure Located where
  /-- The token. -/
  token : Token
  /-- Where it starts. -/
  start : Position
  /-- Where it ends. -/
  stop : Position
  deriving DecidableEq, Repr

/-- The tokens of a text, up to its end or to the first error. -/
inductive Stream where
  /-- A token, and the tokens after it. -/
  | next (token : Located) (rest : Stream)
  /-- The end of the text, at a place. -/
  | finish (position : Position)
  /-- No further token can be read. -/
  | failed (error : SyntaxError)
  deriving Repr

end Token

end CompileCommands.Yaml
