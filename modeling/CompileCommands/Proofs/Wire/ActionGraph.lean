import Mathlib.Data.List.ReduceOption
import CompileCommands.Proofs.Wire.Field
import CompileCommands.Wire.ActionGraph

/-!
# What decodes to an action graph

The grammar of the message that holds the actions, and that decoding answers some actions
exactly for the bytes that this grammar has for them.

* `IsAction`, `IsActionGraph`: the grammar of an action and of the message.
* `decode_eq_ok_iff`: decoding finds exactly the actions of the grammar.
-/

namespace CompileCommands.ActionGraph

open Wire

/-! ## The grammar -/

/-- What a field of an action says. -/
inductive ActionPart where
  /-- The mnemonic. -/
  | mnemonic (text : String)
  /-- One more argument. -/
  | argument (text : String)
  /-- Nothing that is kept. -/
  | other

namespace ActionPart

/-- The mnemonic that a field gives. -/
def mnemonic? : ActionPart → Option String
  | mnemonic text => some text
  | _ => none

/-- The argument that a field gives. -/
def argument? : ActionPart → Option String
  | argument text => some text
  | _ => none

end ActionPart

/-- What a field of an action says by its key and payload. Fields 4 and 6 are length-delimited
UTF-8; a field with another number is skipped, inside at most 98 groups. -/
inductive IsActionPart : Key → List UInt8 → ActionPart → Prop
  | mnemonic {payload : List UInt8} {text : String} :
      IsDelimited payload text.toByteArray.data.toList →
      IsActionPart ⟨4, .lengthDelimited⟩ payload (.mnemonic text)
  | argument {payload : List UInt8} {text : String} :
      IsDelimited payload text.toByteArray.data.toList →
      IsActionPart ⟨6, .lengthDelimited⟩ payload (.argument text)
  | other {key : Key} {payload : List UInt8} :
      key.number ≠ 4 → key.number ≠ 6 → Skippable 98 0 key payload →
      IsActionPart key payload .other

/-- The action of some fields: the last mnemonic, or the empty one, and all arguments in order. -/
def actionOf (parts : List ActionPart) : Action where
  mnemonic := (parts.filterMap ActionPart.mnemonic?).getLast?.getD ""
  arguments := parts.filterMap ActionPart.argument?

/-- The bytes are the fields of an action. -/
def IsAction (bytes : List UInt8) (action : Action) : Prop :=
  ∃ parts, IsMessage IsActionPart bytes parts ∧ action = actionOf parts

/-- What a field of the message says by its key and payload. Field 2 is a length-delimited
action; a field with another number is skipped, inside at most 99 groups. -/
inductive IsGraphPart : Key → List UInt8 → Option Action → Prop
  | action {payload content : List UInt8} {action : Action} :
      IsDelimited payload content → IsAction content action →
      IsGraphPart ⟨2, .lengthDelimited⟩ payload (some action)
  | other {key : Key} {payload : List UInt8} :
      key.number ≠ 2 → Skippable 99 0 key payload → IsGraphPart key payload none

/-- The bytes are a message that holds the actions in this order. -/
def IsActionGraph (bytes : List UInt8) (actions : List Action) : Prop :=
  ∃ parts, IsMessage IsGraphPart bytes parts ∧ actions = parts.reduceOption

/-! ## Actions -/

/-- An action with what one more field says. -/
def ActionPart.addTo (action : Action) : ActionPart → Action
  | mnemonic text => { action with mnemonic := text }
  | argument text => { action with arguments := action.arguments ++ [text] }
  | other => action

/-- Adding the parts one by one gives the last mnemonic and all arguments. -/
theorem foldl_addTo (parts : List ActionPart) (action : Action) :
    parts.foldl ActionPart.addTo action =
      { mnemonic := (parts.filterMap ActionPart.mnemonic?).getLast?.getD action.mnemonic
        arguments := action.arguments ++ parts.filterMap ActionPart.argument? } := by
  induction parts generalizing action with
  | nil => simp
  | cons part parts ih =>
    rw [List.foldl_cons, ih]
    cases part <;>
      simp [ActionPart.addTo, ActionPart.mnemonic?, ActionPart.argument?, List.filterMap_cons,
        List.getLast?_cons]

theorem foldl_addTo_empty (parts : List ActionPart) :
    parts.foldl ActionPart.addTo {} = actionOf parts := by
  rw [foldl_addTo, List.nil_append, actionOf]

@[simp]
theorem faultAt_eq_ok_iff {α : Type} {place : Place} {result : Except Fault α} {a : α} :
    faultAt place result = .ok a ↔ result = .ok a := by
  cases result <;> simp [faultAt, Except.mapError]

variable {key : Key} {bytes rest : List UInt8}

theorem skipField_action_eq_ok_iff :
    skipField (nestingBudget .action) key bytes = .ok rest ↔
      ∃ payload, Skippable 98 0 key payload ∧ bytes = payload ++ rest :=
  skipField_eq_ok_iff (by decide)

theorem skipField_graph_eq_ok_iff :
    skipField (nestingBudget .graph) key bytes = .ok rest ↔
      ∃ payload, Skippable 99 0 key payload ∧ bytes = payload ++ rest :=
  skipField_eq_ok_iff (by decide)

/-- A field is read into an action exactly where a payload comes first that says something. -/
theorem readActionField_eq_ok_iff {action after : Action} :
    readActionField key action bytes = .ok (after, rest) ↔
      ∃ payload part, IsActionPart key payload part ∧ bytes = payload ++ rest ∧
        after = part.addTo action := by
  obtain ⟨number, type⟩ := key
  rw [readActionField]
  -- Fields 4 and 6 are read as texts; a field with another number is skipped.
  split
  · next hnumber =>
    obtain rfl : number = 4 := hnumber
    simp only [Except.bind_eq_ok_iff, faultAt_eq_ok_iff, Prod.exists, readText_eq_ok_iff,
      Text.Utf8.encode_eq_toByteArray]
    constructor
    · rintro ⟨text, more, ⟨rfl, payload, hpayload, rfl⟩, h⟩
      cases h
      exact ⟨payload, _, .mnemonic hpayload, rfl, rfl⟩
    · rintro ⟨payload, part, hpart, rfl, rfl⟩
      cases hpart with
      | mnemonic hpayload => exact ⟨_, rest, ⟨rfl, payload, hpayload, rfl⟩, rfl⟩
      | other hne _ _ => exact absurd rfl hne
  split
  · next hne hnumber =>
    obtain rfl : number = 6 := hnumber
    simp only [Except.bind_eq_ok_iff, faultAt_eq_ok_iff, Prod.exists, readText_eq_ok_iff,
      Text.Utf8.encode_eq_toByteArray]
    constructor
    · rintro ⟨text, more, ⟨rfl, payload, hpayload, rfl⟩, h⟩
      cases h
      exact ⟨payload, _, .argument hpayload, rfl, rfl⟩
    · rintro ⟨payload, part, hpart, rfl, rfl⟩
      cases hpart with
      | argument hpayload => exact ⟨_, rest, ⟨rfl, payload, hpayload, rfl⟩, rfl⟩
      | other _ hne _ => exact absurd rfl hne
  · next hmnemonic hargument =>
    simp only [Except.bind_eq_ok_iff, faultAt_eq_ok_iff, skipField_action_eq_ok_iff]
    constructor
    · rintro ⟨more, ⟨payload, hpayload, rfl⟩, h⟩
      cases h
      exact ⟨payload, .other, .other hmnemonic hargument hpayload, rfl, rfl⟩
    · rintro ⟨payload, part, hpart, rfl, rfl⟩
      cases hpart with
      | mnemonic _ => exact absurd rfl hmnemonic
      | argument _ => exact absurd rfl hargument
      | other _ _ hpayload => exact ⟨rest, ⟨payload, hpayload, rfl⟩, rfl⟩

/-- A field with its key is read into an action exactly where such a field comes first. -/
theorem readField_eq_ok_iff {action after : Action} :
    readField action bytes = .ok (after, rest) ↔
      ∃ keyBytes key payload part, IsKey keyBytes key ∧ IsActionPart key payload part ∧
        bytes = keyBytes ++ (payload ++ rest) ∧ after = part.addTo action := by
  simp only [readField, Except.bind_eq_ok_iff, faultAt_eq_ok_iff, Prod.exists, readKey_eq_ok_iff,
    readActionField_eq_ok_iff]
  constructor
  · rintro ⟨key, _, ⟨keyBytes, hkey, rfl⟩, payload, part, hpart, rfl, rfl⟩
    exact ⟨keyBytes, key, payload, part, hkey, hpart, rfl, rfl⟩
  · rintro ⟨keyBytes, key, payload, part, hkey, hpart, rfl, rfl⟩
    exact ⟨key, _, ⟨keyBytes, hkey, rfl⟩, payload, part, hpart, rfl, rfl⟩

/-- A field that is read from the bytes of an action alone is taken; any other one is a fault,
whatever comes after the action. -/
theorem readActionFields_cons_eq_ok_iff {after : List UInt8} {fuel : Nat} {b : UInt8}
    {action result : Action} :
    readActionFields after (fuel + 1) action (b :: bytes) = .ok result ↔
      ∃ next rest, readField action (b :: bytes) = .ok (next, rest) ∧
        readActionFields after fuel next rest = .ok result := by
  simp only [readActionFields]
  cases readField action (b :: bytes) with
  | ok read =>
    obtain ⟨next, rest⟩ := read
    constructor
    · exact fun h => ⟨next, rest, rfl, h⟩
    · rintro ⟨_, _, hread, h⟩
      cases hread
      exact h
  | error e =>
    -- Only the kind of the fault depends on what comes after the action.
    simp only [reduceCtorEq, false_and, exists_false, iff_false]
    split <;> simp

/-- The fields of an action are read exactly from the bytes of such fields. -/
theorem readActionFields_eq_ok_iff {after : List UInt8} {fuel : Nat} {action result : Action}
    {inside : List UInt8} (hfuel : inside.length ≤ fuel) :
    readActionFields after fuel action inside = .ok result ↔
      ∃ parts, IsMessage IsActionPart inside parts ∧
        result = parts.foldl ActionPart.addTo action := by
  -- One field is read at a time.
  induction fuel generalizing action inside with
  | zero =>
    obtain rfl : inside = [] := List.length_eq_zero_iff.1 (by omega)
    simp [readActionFields, eq_comm]
  | succ fuel ih =>
    cases inside with
    | nil => simp [readActionFields, eq_comm]
    | cons b bytes =>
      simp only [readActionFields_cons_eq_ok_iff, readField_eq_ok_iff,
        isMessage_iff_of_ne_nil (List.cons_ne_nil b bytes)]
      constructor
      · rintro ⟨_, rest, ⟨keyBytes, key, payload, part, hkey, hpart, hbytes, rfl⟩, h⟩
        have hshorter : rest.length ≤ fuel := hkey.length_rest_le hbytes hfuel
        obtain ⟨parts, hparts, rfl⟩ := (ih hshorter).1 h
        exact ⟨part :: parts,
          ⟨keyBytes, key, payload, part, rest, parts, hkey, hpart, hbytes, hparts, rfl⟩, rfl⟩
      · rintro ⟨_, ⟨keyBytes, key, payload, part, rest, parts, hkey, hpart, hbytes, hparts, rfl⟩,
          rfl⟩
        have hshorter : rest.length ≤ fuel := hkey.length_rest_le hbytes hfuel
        exact ⟨_, rest, ⟨keyBytes, key, payload, part, hkey, hpart, hbytes, rfl⟩,
          (ih hshorter).2 ⟨parts, hparts, rfl⟩⟩

/-- An action is read exactly where its length and its fields come first. -/
theorem readAction_eq_ok_iff {type : WireType} {action : Action} :
    readAction type bytes = .ok (action, rest) ↔ type = .lengthDelimited ∧
      ∃ payload content, IsDelimited payload content ∧ IsAction content action ∧
        bytes = payload ++ rest := by
  rw [readAction]
  -- The fuel is the length of the action, which is enough for all of its fields.
  by_cases htype : type = .lengthDelimited
  · subst htype
    simp only [ne_eq, not_true_eq_false, if_false, Except.bind_eq_ok_iff, faultAt_eq_ok_iff,
      Prod.exists, readDelimited_eq_ok_iff, readActionFields_eq_ok_iff (Nat.le_refl _),
      foldl_addTo_empty, true_and]
    constructor
    · rintro ⟨content, more, ⟨payload, hpayload, rfl⟩, found, ⟨parts, hparts, rfl⟩, h⟩
      cases h
      exact ⟨payload, content, hpayload, ⟨parts, hparts, rfl⟩, rfl⟩
    · rintro ⟨payload, content, hpayload, ⟨parts, hparts, rfl⟩, rfl⟩
      exact ⟨content, rest, ⟨payload, hpayload, rfl⟩, _, ⟨parts, hparts, rfl⟩, rfl⟩
  · simp only [ne_eq, htype, not_false_eq_true, if_true, false_and, iff_false]
    intro h
    cases h

/-! ## The message -/

/-- Read one field of the message, and the action if the field holds one. -/
def readPart (bytes : List UInt8) : Except DecodeError (Option Action × List UInt8) := do
  let (key, rest) ← faultAt .graph (readKey bytes)
  if key.number = actionNumber then
    let (action, after) ← readAction key.type rest
    return (some action, after)
  else
    let after ← faultAt .graph (skipField (nestingBudget .graph) key rest)
    return (none, after)

/-- One field of the message is read, and then the actions of what follows. -/
theorem readActions_cons (fuel : Nat) (b : UInt8) (bytes : List UInt8) :
    readActions (fuel + 1) (b :: bytes) =
      readPart (b :: bytes) >>= fun read =>
        (read.1.toList ++ ·) <$> readActions fuel read.2 := by
  simp only [readActions, readPart]
  cases faultAt Place.graph (readKey (b :: bytes)) with
  | error e => rfl
  | ok read =>
    obtain ⟨key, rest⟩ := read
    dsimp only [bind, Except.bind]
    split
    · -- An action goes in front of those that follow.
      cases readAction key.type rest with
      | error e => rfl
      | ok read => cases readActions fuel read.2 <;> rfl
    · cases faultAt Place.graph (skipField (nestingBudget .graph) key rest) with
      | error e => rfl
      | ok after => cases hafter : readActions fuel after <;> simp [pure, Except.pure, hafter]

/-- A field of the message is read exactly where its key and a payload that says something come
first. -/
theorem readPart_eq_ok_iff {part : Option Action} :
    readPart bytes = .ok (part, rest) ↔
      ∃ keyBytes key payload, IsKey keyBytes key ∧ IsGraphPart key payload part ∧
        bytes = keyBytes ++ (payload ++ rest) := by
  simp only [readPart, Except.bind_eq_ok_iff, faultAt_eq_ok_iff, Prod.exists, readKey_eq_ok_iff]
  constructor
  · rintro ⟨⟨number, type⟩, after, ⟨keyBytes, hkey, hbytes⟩, h⟩
    split at h
    · next hnumber =>
      obtain rfl : number = 2 := hnumber
      simp only [Except.bind_eq_ok_iff, Prod.exists, readAction_eq_ok_iff] at h
      obtain ⟨action, rest, ⟨rfl, payload, content, hpayload, hcontent, rfl⟩, h⟩ := h
      cases h
      exact ⟨keyBytes, _, payload, hkey, .action hpayload hcontent, hbytes⟩
    · next hnumber =>
      simp only [Except.bind_eq_ok_iff, faultAt_eq_ok_iff, skipField_graph_eq_ok_iff] at h
      obtain ⟨rest, ⟨payload, hpayload, rfl⟩, h⟩ := h
      cases h
      exact ⟨keyBytes, _, payload, hkey, .other hnumber hpayload, hbytes⟩
  · rintro ⟨keyBytes, key, payload, hkey, hpart, hbytes⟩
    refine ⟨key, _, ⟨keyBytes, hkey, hbytes⟩, ?_⟩
    cases hpart with
    | action hpayload hcontent =>
      rw [if_pos (show 2 = actionNumber from rfl), Except.bind_eq_ok_iff]
      exact ⟨(_, rest), readAction_eq_ok_iff.2 ⟨rfl, payload, _, hpayload, hcontent, rfl⟩, rfl⟩
    | other hnumber hpayload =>
      rw [if_neg (show key.number ≠ actionNumber from hnumber), Except.bind_eq_ok_iff]
      exact ⟨rest, faultAt_eq_ok_iff.2 (skipField_graph_eq_ok_iff.2 ⟨payload, hpayload, rfl⟩), rfl⟩

/-- The actions are read exactly where one field comes first and the actions of what follows are
read. -/
theorem readActions_cons_eq_ok_iff {fuel : Nat} {b : UInt8} {actions : List Action} :
    readActions (fuel + 1) (b :: bytes) = .ok actions ↔
      ∃ keyBytes key payload part rest more, IsKey keyBytes key ∧ IsGraphPart key payload part ∧
        b :: bytes = keyBytes ++ (payload ++ rest) ∧ readActions fuel rest = .ok more ∧
        actions = part.toList ++ more := by
  simp only [readActions_cons, Except.bind_eq_ok_iff, Prod.exists, readPart_eq_ok_iff,
    Except.map_eq_ok_iff]
  constructor
  · rintro ⟨part, rest, ⟨keyBytes, key, payload, hkey, hpart, hbytes⟩, more, hmore, rfl⟩
    exact ⟨keyBytes, key, payload, part, rest, more, hkey, hpart, hbytes, hmore, rfl⟩
  · rintro ⟨keyBytes, key, payload, part, rest, more, hkey, hpart, hbytes, hmore, rfl⟩
    exact ⟨part, rest, ⟨keyBytes, key, payload, hkey, hpart, hbytes⟩, more, hmore, rfl⟩

theorem isActionGraph_nil_iff {actions : List Action} :
    IsActionGraph [] actions ↔ actions = [] := by
  simp [IsActionGraph, List.reduceOption]

/-- The actions of a message are read exactly from the bytes of its fields. -/
theorem readActions_eq_ok_iff {fuel : Nat} {actions : List Action} (hfuel : bytes.length ≤ fuel) :
    readActions fuel bytes = .ok actions ↔ IsActionGraph bytes actions := by
  -- One field is read at a time.
  induction fuel generalizing bytes actions with
  | zero =>
    obtain rfl : bytes = [] := List.length_eq_zero_iff.1 (by omega)
    simp [readActions, isActionGraph_nil_iff, eq_comm]
  | succ fuel ih =>
    cases bytes with
    | nil => simp [readActions, isActionGraph_nil_iff, eq_comm]
    | cons b bytes =>
      rw [readActions_cons_eq_ok_iff, IsActionGraph]
      simp only [isMessage_iff_of_ne_nil (List.cons_ne_nil b bytes)]
      constructor
      · rintro ⟨keyBytes, key, payload, part, rest, more, hkey, hpart, hbytes, hmore, rfl⟩
        obtain ⟨parts, hparts, rfl⟩ := (ih (hkey.length_rest_le hbytes hfuel)).1 hmore
        refine ⟨part :: parts,
          ⟨keyBytes, key, payload, part, rest, parts, hkey, hpart, hbytes, hparts, rfl⟩, ?_⟩
        cases part <;> rfl
      · rintro ⟨_, ⟨keyBytes, key, payload, part, rest, parts, hkey, hpart, hbytes, hparts, rfl⟩,
          rfl⟩
        have hmore := (ih (hkey.length_rest_le hbytes hfuel)).2 ⟨parts, hparts, rfl⟩
        refine ⟨keyBytes, key, payload, part, rest, _, hkey, hpart, hbytes, hmore, ?_⟩
        cases part <;> rfl

/-- Decoding finds some actions exactly in the messages that hold them. -/
theorem decode_eq_ok_iff (bytes : List UInt8) (actions : List Action) :
    decode bytes = .ok actions ↔ IsActionGraph bytes actions :=
  readActions_eq_ok_iff (Nat.le_refl _)

end CompileCommands.ActionGraph
