import CompileCommands.Shell.Field
import CompileCommands.Shell.State

/-!
# From words to fields

Every part of a word is put in place of its value; then the word is split into fields, and a
field that is a pattern becomes the paths that fit it. How commands inside words are run is a
parameter.
-/

namespace CompileCommands.Shell

/-! ## Paths that fit a pattern -/

/-- The components of a pattern for paths. -/
def patternComponents : List Glyph → List (List Glyph)
  | [] => [[]]
  | g :: rest =>
    if g.char = '/' then [] :: patternComponents rest
    else
      match patternComponents rest with
      | first :: others => (g :: first) :: others
      | [] => [[g]]

/-- The names in a directory that fit a pattern. A dot at the start has to be written. -/
def namesThatFit (fs : FileSystem) (here : Location) (directory : String)
    (pattern : List Glyph) : List String :=
  match fs.resolve here (Text.Octets.toText (if directory = "" then "." else directory)) with
  | .error _ => []
  | .ok location =>
    -- The directory itself and the one above it fit only a pattern with a dot in front.
    let dotted := pattern.head?.any (·.char = '.')
    let names := (if dotted then [".", ".."] else []) ++
      ((fs.namesIn location).map Text.Octets.ofText).filter fun name =>
        dotted || !name.startsWith "."
    let wanted := symbols pattern
    (names.filter fun name => fits wanted name.toList).mergeSort fun a b => a ≤ b

/-- The paths that fit a pattern whose first components have been read as a path. -/
def pathsThatFit (fs : FileSystem) (here : Location) : (start : String) →
    List (List Glyph) → List String
  | start, [] => [start]
  | start, component :: rest =>
    let names :=
      if isOpen component then namesThatFit fs here start component
      else [String.ofList (component.map (·.char))]
    names.flatMap fun name =>
      let path := start ++ name
      -- Only the last component has to lead somewhere; the ones before it are checked on the way.
      if rest = [] then
        match fs.linkStatus here (Text.Octets.toText path) with
        | .ok _ => [path]
        | .error _ => []
      else pathsThatFit fs here (path ++ "/") rest

/-- What a field becomes: the paths that fit it, or its own text if there are none. -/
def fieldPaths (shell : Shell) (fs : FileSystem) (field : List Glyph) : List String :=
  let text := String.ofList (field.map (·.char))
  if shell.has 'f' || !isOpen field then [text]
  else
    match pathsThatFit fs shell.host.directory "" (patternComponents field) with
    | [] => [text]
    | paths => paths

/-! ## Values -/

section Values

variable (run : (tested : Bool) → Command → ShellTask Unit)

/-- Run a command because of a trap. -/
def runTrap (action : String) : ShellTask Unit := do
  let before ← get
  set { before with trapStatus := some before.status }
  run false (.script action)
  modify fun shell => { shell with status := before.status, trapStatus := before.trapStatus }

/-- Do a task, and then what has to be done when the script ends, however it ends. -/
def untilEnd (task : ShellTask Unit) : ShellTask Unit := do
  let leap? ← caught task
  let shell ← get
  match leap?, shell.traps.lookup 0 with
  | some (.killed process number), _ => throw (.killed process number)
  | _, none => resume leap?
  | _, some action =>
    set { shell with traps := shell.traps.filter (·.1 ≠ 0), loops := 0, calls := 0 }
    runTrap run action

/-- What a command writes. -/
def captured (command : Command) : ShellTask String := do
  let before ← get
  let text ← writtenBy (apart (untilEnd run (run false command)))
  -- The status of the command counts only if nothing else is run.
  modify fun shell => { shell with wordStatus := shell.status, status := before.status }
  return withoutLineEnds text

/-- A parameter stands for the arguments one by one, where words become fields. -/
def isSeparate (name : String) (fielded quoted : Bool) : Bool :=
  fielded && (name = "@" || (name = "*" && !quoted))

/-- The pieces of a parameter, if it is set. -/
def parameterPieces? (shell : Shell) (name : String) (fielded quoted : Bool) :
    Option (List Piece) :=
  if isSeparate name fielded quoted ∧ shell.arguments ≠ [] then
    some (separatePieces quoted shell.arguments)
  else (shell.parameter? name).map (valuePieces quoted)

/-- The pieces of a parameter without what a pattern matches at one end, if it is set. -/
def trimmedPieces? (shell : Shell) (name : String) (fielded quoted : Bool)
    (trim : List Char → List Char) : Option (List Piece) :=
  if isSeparate name fielded quoted ∧ shell.arguments ≠ [] then
    -- No argument holds a zero octet, so the arguments can be told apart again.
    let joined := "\x00".intercalate shell.arguments
    some (separatePieces quoted
      (Text.fields '\x00' (String.ofList (trim joined.toList))))
  else
    (shell.parameter? name).map fun value =>
      valuePieces quoted (String.ofList (trim value.toList))

/-- The value of an arithmetic expression. -/
def sumValue (text : String) : ShellTask String := do
  let shell ← get
  match Arithmetic.evaluate shell.binding? text with
  | .ok (n, assignments) =>
    assignments.reverse.forM fun (name, value) => assign name value
    return toString n
  | .error fault => fail (fault.message text)

/-- Pieces that are split like a value, and are there even if they are empty when quoted. -/
def likeValue (quoted : Bool) (pieces : List Piece) : List Piece :=
  if quoted then .mark :: pieces
  else
    pieces.map fun
      | .char ⟨c, false⟩ _ => .char ⟨c, false⟩ true
      | piece => piece

/-- Pieces in which a tilde stands for the home directory: in front, and after colons if they are
the value of an assignment. -/
def withHome (home? : Option String) (isValue : Bool) : (atStart : Bool) → List Piece →
    List Piece
  | _, [] => []
  | atStart, piece :: rest =>
    let isBound : Piece → Bool
      | .char ⟨c, false⟩ false => c = '/' || (isValue && c = ':')
      | _ => false
    let isColon := isValue && piece = .char ⟨':', false⟩ false
    match if atStart ∧ piece = .char ⟨'~', false⟩ false ∧ rest.head?.all isBound then home?
      else none with
    | some home => textPieces true false home ++ withHome home? isValue false rest
    | none => piece :: withHome home? isValue isColon rest

/-- Pieces in which a tilde in front stands for the home directory, unless they are quoted. -/
def homed (shell : Shell) (quoted : Bool) (pieces : List Piece) : List Piece :=
  if quoted then pieces else withHome (shell.binding? "HOME") false true pieces

/-- A parameter has a value. -/
def hasValue (emptyToo : Bool) (shell : Shell) (name : String) : Bool :=
  match shell.parameter? name with
  | none => false
  | some value => !emptyToo || value ≠ ""

mutual

/-- The pieces of a part of a word, which may become fields. -/
def partPieces (fielded : Bool) : Part → ShellTask (List Piece)
  | .text text quoted =>
    return if quoted then .mark :: textPieces true false text else textPieces false false text
  | .output command quoted => return valuePieces quoted (← captured run command)
  | .sum expression quoted => do
    return valuePieces quoted (← sumValue (joined (← wordPieces false expression)))
  | .malformed => fail "Bad substitution"
  | .parameter name use quoted => usePieces fielded name quoted use

/-- The pieces of a parameter. -/
def usePieces (fielded : Bool) (name : String) (quoted : Bool) : Use → ShellTask (List Piece)
  | .value => do
    let shell ← get
    -- No arguments make no fields, not even an empty one in quotes.
    if isSeparate name fielded quoted ∧ shell.arguments = [] then return []
    match parameterPieces? shell name fielded quoted with
    | some pieces => return pieces
    | none =>
      if shell.has 'u' then fail (name ++ ": parameter not set")
      return valuePieces quoted ""
  | .length => do
    let shell ← get
    match shell.parameter? name with
    | some value => return valuePieces quoted (toString value.length)
    | none =>
      if shell.has 'u' then fail (name ++ ": parameter not set")
      return valuePieces quoted "0"
  | .orElse emptyToo word => do
    let shell ← get
    if hasValue emptyToo shell name then
      return (parameterPieces? shell name fielded quoted).getD []
    return likeValue quoted (shell.homed quoted (← wordPieces fielded word))
  | .orAssign emptyToo word => do
    let shell ← get
    if hasValue emptyToo shell name then
      return (parameterPieces? shell name fielded quoted).getD []
    let value := joined (shell.homed quoted (← wordPieces false word))
    if !isName name then fail (name ++ ": bad variable name")
    assign name value
    return valuePieces quoted value
  | .orFail emptyToo word => do
    let shell ← get
    if hasValue emptyToo shell name then
      return (parameterPieces? shell name fielded quoted).getD []
    -- The word is the complaint, if there is one.
    let usual := if emptyToo then "parameter not set or null" else "parameter not set"
    let text := joined (shell.homed quoted (← wordPieces false word))
    fail (name ++ ": " ++ if word.isEmpty then usual else text)
  | .ifSet emptyToo word => do
    let shell ← get
    if hasValue emptyToo shell name then
      return likeValue quoted (shell.homed quoted (← wordPieces fielded word))
    return valuePieces quoted ""
  | .without atEnd longest pattern => do
    let shell ← get
    if (shell.parameter? name).isNone ∧ shell.has 'u' then fail (name ++ ": parameter not set")
    let wanted := symbols (glyphs (shell.homed false (← wordPieces false pattern)))
    match trimmedPieces? shell name fielded quoted (withoutMatch atEnd longest wanted) with
    | some pieces => return pieces
    | none => return valuePieces quoted ""

/-- The pieces of a word, which may become fields. -/
def wordPieces (fielded : Bool) : List Part → ShellTask (List Piece)
  | [] => return []
  | part :: parts => do
    let first ← partPieces fielded part
    return first ++ (← wordPieces fielded parts)

end

/-- The text of the value of an assignment. -/
def valueText (word : Word) : ShellTask String := do
  let pieces ← wordPieces run false word
  return joined (withHome ((← get).binding? "HOME") true true pieces)

/-- The pieces of a word in which a tilde stands for the home directory. -/
def homedPieces (fielded : Bool) (word : Word) : ShellTask (List Piece) := do
  let pieces ← wordPieces run fielded word
  return (← get).homed false pieces

/-- The text of a word that is not split. -/
def wordText (word : Word) : ShellTask String := do
  return joined (← homedPieces run false word)

/-- The fields of a word. -/
def wordFields (word : Word) : ShellTask (List String) := do
  let pieces ← homedPieces run true word
  let shell ← get
  let fs ← files
  return (fields shell.separators pieces).flatMap (fieldPaths shell fs)

/-- The fields of some words. -/
def allFields (words : List Word) : ShellTask (List String) :=
  List.flatten <$> words.mapM (wordFields run)

/-- The pattern that a word is. -/
def wordPattern (word : Word) : ShellTask (List Symbol) := do
  return symbols (glyphs (← homedPieces run false word))

end Values

end CompileCommands.Shell
