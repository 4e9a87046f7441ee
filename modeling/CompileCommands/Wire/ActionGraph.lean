import CompileCommands.Action
import CompileCommands.Wire.Field

/-!
# The action graph on the wire

The build tool answers a query with a message whose field 2 holds the actions. Of an action,
field 4 is the mnemonic and field 6 is one argument; a mnemonic that is given twice is the
last one. A field that does not fit into its action is read all the same, from everything that
is left, and overruns the action only if it has no fault of its own.
-/

namespace CompileCommands.ActionGraph

open Wire

/-- Where in the message a fault lies. -/
inductive Place where
  /-- Between the actions. -/
  | graph
  /-- In an action. -/
  | action
  /-- In the mnemonic of an action. -/
  | mnemonic
  /-- In an argument of an action. -/
  | argument
  deriving DecidableEq, Repr

/-- The fields that lead to a place, the innermost first. -/
def Place.path : Place → String
  | graph => ""
  | action => "ActionGraphContainer.actions: "
  | mnemonic => "Action.mnemonic: ActionGraphContainer.actions: "
  | argument => "Action.arguments: ActionGraphContainer.actions: "

/-- A fault and its place. -/
structure DecodeError where
  /-- Where the fault lies. -/
  place : Place
  /-- What is wrong. -/
  fault : Fault
  deriving DecidableEq, Repr

/-- The text of an error. -/
def DecodeError.message (e : DecodeError) : String :=
  "failed to decode Protobuf message: " ++ e.place.path ++ e.fault.message

/-- A fault, if there is one, at a place. -/
def faultAt {α : Type} (place : Place) (result : Except Fault α) : Except DecodeError α :=
  result.mapError (⟨place, ·⟩)

/-- How deeply groups may nest between the actions, and inside an action. -/
def nestingBudget : Place → Nat
  | .graph => 100
  | _ => 99

/-- The number of the field that holds an action. -/
def actionNumber : Nat := 2

/-- The number of the field that holds a mnemonic. -/
def mnemonicNumber : Nat := 4

/-- The number of the field that holds an argument. -/
def argumentNumber : Nat := 6

/-- Read the payload of one field into an action. -/
def readActionField (key : Key) (action : Action) (bytes : List UInt8) :
    Except DecodeError (Action × List UInt8) :=
  if key.number = mnemonicNumber then do
    let (text, rest) ← faultAt .mnemonic (readText key.type bytes)
    return ({ action with mnemonic := text }, rest)
  else if key.number = argumentNumber then do
    let (text, rest) ← faultAt .argument (readText key.type bytes)
    return ({ action with arguments := action.arguments ++ [text] }, rest)
  else do
    let rest ← faultAt .action (skipField (nestingBudget .action) key bytes)
    return (action, rest)

/-- Read one field into an action. -/
def readField (action : Action) (bytes : List UInt8) :
    Except DecodeError (Action × List UInt8) := do
  let (key, rest) ← faultAt .action (readKey bytes)
  readActionField key action rest

/-- Read the fields in `inside`, the bytes of an action, into it. A field that needs more than
those is read from `after` as well; if it is no field even then, that is the fault, and
otherwise it overruns the action. Every field takes a byte, so `fuel` runs out only after the
bytes do. -/
def readActionFields (after : List UInt8) : (fuel : Nat) → Action → (inside : List UInt8) →
    Except DecodeError Action
  | _, action, [] => .ok action
  | 0, _, _ :: _ => .error ⟨.action, .varint⟩
  | fuel + 1, action, inside =>
    match readField action inside with
    | .ok (action, inside) => readActionFields after fuel action inside
    | .error _ =>
      match readField action (inside ++ after) with
      | .ok _ => .error ⟨.action, .overrun⟩
      | .error e => .error e

/-- Read an action whose key says that it has the form `type`. -/
def readAction (type : WireType) (bytes : List UInt8) :
    Except DecodeError (Action × List UInt8) := do
  if type ≠ .lengthDelimited then throw ⟨.action, .wireType type⟩
  let (inside, after) ← faultAt .action (readDelimited bytes)
  return (← readActionFields after inside.length {} inside, after)

/-- Read the actions of a message. Every field takes a byte, so `fuel` runs out only after
the bytes do. -/
def readActions : (fuel : Nat) → List UInt8 → Except DecodeError (List Action)
  | _, [] => .ok []
  | 0, _ :: _ => .error ⟨.graph, .varint⟩
  | fuel + 1, bytes => do
    let (key, rest) ← faultAt .graph (readKey bytes)
    if key.number = actionNumber then
      let (action, after) ← readAction key.type rest
      let actions ← readActions fuel after
      return action :: actions
    else
      let after ← faultAt .graph (skipField (nestingBudget .graph) key rest)
      readActions fuel after

/-- The actions of a message. -/
def decode (bytes : List UInt8) : Except DecodeError (List Action) :=
  readActions bytes.length bytes

/-- The written form of a length-delimited field. -/
def encodeField (number : Nat) (payload : List UInt8) : List UInt8 :=
  encodeVarint (8 * number + WireType.lengthDelimited.toNat) ++
    encodeVarint payload.length ++ payload

/-- The written form of the fields of an action. An empty mnemonic is left out. -/
def encodeAction (action : Action) : List UInt8 :=
  (if action.mnemonic = "" then []
    else encodeField mnemonicNumber (Text.Utf8.encode action.mnemonic)) ++
    action.arguments.flatMap fun argument =>
      encodeField argumentNumber (Text.Utf8.encode argument)

/-- The message that holds some actions. -/
def encode (actions : List Action) : List UInt8 :=
  actions.flatMap fun action => encodeField actionNumber (encodeAction action)

@[simp] theorem decode_nil : decode [] = .ok [] := rfl

@[simp] theorem encode_append (first second : List Action) :
    encode (first ++ second) = encode first ++ encode second := by
  simp [encode]

end CompileCommands.ActionGraph
