import CompileCommands.Text.Opening
import CompileCommands.Text.Similarity

/-!
# Options

The arguments are read from left to right, up to `--`; what follows is for the build tool. An
option that takes a value is settled when its value is known and the next option is read. The
first error ends the reading, and so does a request for help or for the version.
-/

namespace CompileCommands.CommandLine

/-- What the arguments ask for. -/
structure Options where
  /-- The build tool. -/
  bazel : Option String := none
  /-- The summary is written as JSON. -/
  json : Bool := false
  /-- The arguments for the build tool. -/
  bazelArguments : List String := []
  deriving DecidableEq, Repr

/-- An option. -/
inductive Flag where
  /-- The build tool. -/
  | bazel
  /-- The summary is written as JSON. -/
  | json
  /-- Help is asked for. -/
  | help
  /-- The version is asked for. -/
  | version
  deriving DecidableEq, Repr

/-- Every option, the ones that are suggested first at the end. -/
def Flag.all : List Flag := [bazel, json, help, version]

/-- The name of an option. -/
def Flag.name : Flag → String
  | bazel => "bazel"
  | json => "json"
  | help => "help"
  | version => "version"

/-- How an option is written, with its value. -/
def Flag.usage : Flag → String
  | bazel => "--bazel <PATH>"
  | flag => "--" ++ flag.name

/-- How the arguments may look, as far as it matters for an error. -/
structure Usage where
  /-- The options that are shown. -/
  shown : List String
  /-- The choice of all arguments is shown. -/
  choice : Bool
  deriving DecidableEq, Repr

/-- The usage of all options. -/
def Usage.general : Usage := ⟨["[OPTIONS]"], false⟩

/-- What is wrong with the arguments. -/
inductive UsageError where
  /-- An argument that is none, and an option that looks similar. -/
  | unexpected (argument : String) (similar : Option String) (usage : Usage)
  /-- There is no value for the build tool. -/
  | valueMissing
  /-- An option that has been there before. -/
  | repeated (option : String)
  /-- A value for an option that takes none. -/
  | valueUnexpected (option value : String) (usage : Usage)
  deriving DecidableEq, Repr

/-- Why the reading of arguments ends. -/
inductive Stop where
  /-- Help is asked for. -/
  | help
  /-- The version is asked for. -/
  | version
  /-- The arguments are wrong. -/
  | wrong (e : UsageError)
  deriving DecidableEq, Repr

/-- What an argument in front of `--` is. -/
inductive Argument where
  /-- The end of the options. -/
  | separator
  /-- An option with a name, and a value if one is attached. -/
  | long (name : String) (value : Option String)
  /-- Options with a letter each. -/
  | short (letters : List Char)
  /-- Anything else. -/
  | plain (text : String)
  deriving DecidableEq, Repr

/-- What an argument is. -/
def Argument.ofText (text : String) : Argument :=
  match text.toList with
  | ['-', '-'] => .separator
  | '-' :: '-' :: rest =>
    let name := rest.takeWhile (· ≠ '=')
    .long (String.ofList name)
      (if name.length = rest.length then none
        else some (String.ofList (rest.drop (name.length + 1))))
  | ['-'] => .plain text
  | '-' :: letters => .short letters
  | _ => .plain text

/-- How far the reading is. -/
structure Progress where
  /-- What is settled. -/
  options : Options := {}
  /-- The options that are settled, the first one first. -/
  settled : List Flag := []
  /-- The value of `--bazel` if the option has been read and is not settled; the value may
  still be missing. -/
  pending : Option (Option String) := none
  deriving DecidableEq, Repr

namespace Progress

/-- Settle the build tool. -/
def settleBazel (progress : Progress) (value : String) : Except Stop Progress :=
  match progress.options.bazel with
  | some _ => .error (.wrong (.repeated Flag.bazel.usage))
  | none =>
    .ok {
      options := { progress.options with bazel := some value }
      settled := progress.settled ++ [.bazel], pending := none }

/-- Settle an option that is pending. -/
def settle (progress : Progress) : Except Stop Progress :=
  match progress.pending with
  | none => .ok progress
  | some none => .error (.wrong .valueMissing)
  | some (some value) => progress.settleBazel value

/-- Settle the form of the summary. -/
def settleJson (progress : Progress) : Except Stop Progress :=
  if progress.options.json then .error (.wrong (.repeated Flag.json.usage))
  else
    .ok { progress with
      options := { progress.options with json := true }
      settled := progress.settled ++ [.json] }

/-- The options that are settled once the one that is pending has been, if it can be. One that
is pending a second time takes the first one with it. -/
def shown (progress : Progress) : List Flag :=
  match progress.pending with
  | some (some _) =>
    -- A second value is refused only after the first one has been taken out.
    if .bazel ∈ progress.settled then progress.settled.erase .bazel
    else progress.settled ++ [.bazel]
  | _ => progress.settled

end Progress

/-- Only names that are more similar than this are suggested. -/
def leastSimilarity : Text.Similarity.Ratio := Text.Similarity.Ratio.rounded ⟨7, 10⟩

/-- The better of two suggestions, the later one if they are equally good. -/
def betterFlag (name : String) (best : Option Flag) (other : Flag) : Option Flag :=
  let similarity := Text.Similarity.similarity name other.name
  if !leastSimilarity.less similarity then best
  else
    match best with
    | none => some other
    | some b =>
      if similarity.less (Text.Similarity.similarity name b.name) then best else some other

/-- The option whose name looks similar. -/
def similarFlag? (name : String) : Option Flag :=
  Flag.all.foldl (betterFlag name) none

/-- The usage when there is no option with a name: the options so far and the similar one. -/
def usageAt (progress : Progress) (similar? : Option Flag) : Usage :=
  let shown := progress.shown ++ similar?.toList.filter (· ∉ progress.shown)
  if shown = [] then .general else ⟨shown.map Flag.usage, false⟩

/-- The usage when an option that takes no value has one. -/
def usageAtValue (progress : Progress) (flag : Flag) : Usage :=
  let started := progress.settled ≠ []
  if flag = .json ∧ started then ⟨[], true⟩ else ⟨[flag.usage], started⟩

/-- Read an option with a name. -/
def readLong (progress : Progress) (name : String) (value : Option String) :
    Except Stop Progress :=
  match Flag.all.find? (·.name == name), value with
  | some .bazel, none => do
    return { ← progress.settle with pending := some none }
  | some .bazel, some value => do (← progress.settle).settleBazel value
  | some .json, none => do (← progress.settle).settleJson
  -- Help comes only after what is pending has been settled, which may be wrong.
  | some .help, none => do
    discard progress.settle
    throw .help
  | some .version, none => do
    discard progress.settle
    throw .version
  | some flag, some value =>
    .error (.wrong (.valueUnexpected flag.usage value (usageAtValue progress flag)))
  | none, _ =>
    -- The option that was probably meant is shown as if it had been given.
    let similar? := similarFlag? name
    .error (.wrong (.unexpected ("--" ++ name) (similar?.map fun flag => "--" ++ flag.name)
      (usageAt progress similar?)))

/-- Read options with a letter each. -/
def readShort : Progress → List Char → Except Stop Progress
  | progress, [] => .ok progress
  | progress, letter :: letters => do
    match letter with
    | 'j' => readShort (← (← progress.settle).settleJson) letters
    | 'h' =>
      discard progress.settle
      throw .help
    | 'V' =>
      discard progress.settle
      throw .version
    | letter => throw (.wrong (.unexpected (String.ofList ['-', letter]) none .general))

/-- Read an argument that is no option. -/
def readPlain (progress : Progress) (text : String) : Except Stop Progress :=
  match progress.pending with
  | some none => .ok { progress with pending := some (some text) }
  | _ => .error (.wrong (.unexpected text none .general))

/-- Read the arguments that are left. -/
def readFrom (progress : Progress) : List String → Except Stop Options
  | [] => do return (← progress.settle).options
  | text :: rest =>
    match Argument.ofText text with
    | .separator => do return { (← progress.settle).options with bazelArguments := rest }
    | .long name value => do readFrom (← readLong progress name value) rest
    | .short letters => do readFrom (← readShort progress letters) rest
    | .plain text => do readFrom (← readPlain progress text) rest

/-- Read the arguments. -/
def Options.read (arguments : List String) : Except Stop Options :=
  readFrom {} arguments

end CompileCommands.CommandLine
