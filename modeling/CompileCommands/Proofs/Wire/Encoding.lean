import Mathlib.Algebra.Ring.Nat
import CompileCommands.Proofs.Wire.ActionGraph

/-!
# What is written is read again

The written form of some actions is a message of the grammar, and the message holds these actions.
A number is written in the fewest groups, an empty mnemonic is left out, and every argument is
written, the empty ones too. Lengths are numbers, so all of this is limited to messages of less than
`2 ^ 64` bytes.

* `isVarint_encodeVarint`: the written form of a number writes it.
* `isMessage_encodeField`: a written field is a message of one part.
* `isAction_encodeAction`, `isMessage_encodeEntry` and `isActionGraph_encode`: the written forms of
  an action, of its field and of a message.
* `decode_encode`: decoding answers the actions that were written.
-/

namespace CompileCommands

namespace Wire

/-! ## Numbers and keys -/

/-- A number that fits into the groups is written in at most so many. The last group that is
allowed holds one bit. -/
theorem isVarintWithin_encodeVarintWithin {groups n : Nat} (h : n < 2 * 0x80 ^ groups) :
    IsVarintWithin (groups + 1) (encodeVarintWithin (groups + 1) n) n := by
  -- One group is written at a time, the lowest first.
  induction groups generalizing n with
  | zero =>
    have hn : n < 2 := by simpa using h
    rw [encodeVarintWithin, if_pos (by omega), isVarintWithin_singleton,
      Text.Utf8.toNat_byteOfNat (by omega)]
    exact ⟨by omega, fun _ => by omega, rfl⟩
  | succ groups ih =>
    by_cases hn : n < 0x80
    · rw [encodeVarintWithin, if_pos hn, isVarintWithin_singleton,
        Text.Utf8.toNat_byteOfNat (by omega)]
      exact ⟨hn, fun hgroups => absurd hgroups (Nat.succ_ne_zero groups), rfl⟩
    · have hhigh : n / 0x80 < 2 * 0x80 ^ groups := by
        rw [Nat.pow_succ] at h
        omega
      rw [encodeVarintWithin, if_neg hn, isVarintWithin_cons,
        Text.Utf8.toNat_byteOfNat (by omega)]
      exact .inr ⟨by omega, n / 0x80, ih hhigh, by omega⟩

/-- The written form of a number of at most 64 bits writes it. -/
theorem isVarint_encodeVarint {n : Nat} (h : n < 2 ^ 64) : IsVarint (encodeVarint n) n := by
  have hgroups : n < 2 * 0x80 ^ 9 := by omega
  exact isVarintWithin_encodeVarintWithin hgroups

/-- The key of a length-delimited field as it is written. -/
theorem isKey_encodeVarint {number : Nat} (hone : 1 ≤ number) (hle : number ≤ 0x1FFFFFFF) :
    IsKey (encodeVarint (8 * number + WireType.lengthDelimited.toNat))
      ⟨number, .lengthDelimited⟩ := by
  have hvalue : 8 * number + WireType.lengthDelimited.toNat ≤ 0xFFFFFFFF := by
    rw [WireType.toNat]
    omega
  exact ⟨isVarint_encodeVarint (by omega), hvalue, hone⟩

/-- A payload behind its length. -/
theorem isDelimited_encodeVarint_append {payload : List UInt8} (h : payload.length < 2 ^ 64) :
    IsDelimited (encodeVarint payload.length ++ payload) payload :=
  ⟨encodeVarint payload.length, isVarint_encodeVarint h, rfl⟩

/-! ## Messages -/

section Messages

variable {α β : Type} {IsPart : Key → List UInt8 → α → Prop}

/-- Two messages, one after the other, are a message. -/
theorem IsMessage.append {first second : List UInt8} {parts parts' : List α}
    (hfirst : IsMessage IsPart first parts) (hsecond : IsMessage IsPart second parts') :
    IsMessage IsPart (first ++ second) (parts ++ parts') := by
  obtain ⟨fields, hfields, rfl, rfl⟩ := hfirst
  obtain ⟨fields', hfields', rfl, rfl⟩ := hsecond
  refine ⟨fields ++ fields', ?_, ?_, ?_⟩
  · exact List.forall_mem_append.2 ⟨hfields, hfields'⟩
  · rw [List.flatMap_append]
  · rw [List.map_append]

/-- Messages of one part each make up a message of all these parts. -/
theorem isMessage_flatMap {items : List β} {write : β → List UInt8} {part : β → α}
    (h : ∀ item ∈ items, IsMessage IsPart (write item) [part item]) :
    IsMessage IsPart (items.flatMap write) (items.map part) := by
  induction items with
  | nil => exact isMessage_nil_iff.2 rfl
  | cons item items ih =>
    obtain ⟨hitem, hitems⟩ := List.forall_mem_cons.1 h
    rw [List.flatMap_cons, List.map_cons]
    exact hitem.append (ih hitems)

end Messages

end Wire

namespace ActionGraph

open Wire

/-! ## Fields -/

/-- A field is written as its key, the length of its payload and the payload. -/
theorem encodeField_eq (number : Nat) (payload : List UInt8) :
    encodeField number payload =
      encodeVarint (8 * number + WireType.lengthDelimited.toNat) ++
        (encodeVarint payload.length ++ payload) :=
  List.append_assoc ..

/-- A payload is no longer than its field. -/
theorem length_le_length_encodeField (number : Nat) (payload : List UInt8) :
    payload.length ≤ (encodeField number payload).length := by
  rw [encodeField, List.length_append]
  exact Nat.le_add_left ..

/-- A written field is a message of one part. -/
theorem isMessage_encodeField {α : Type} {IsPart : Key → List UInt8 → α → Prop} {number : Nat}
    {payload : List UInt8} {part : α} (hone : 1 ≤ number) (hle : number ≤ 0x1FFFFFFF)
    (hpart : IsPart ⟨number, .lengthDelimited⟩ (encodeVarint payload.length ++ payload) part) :
    IsMessage IsPart (encodeField number payload) [part] := by
  let field : Field := ⟨_, _, encodeVarint payload.length ++ payload, isKey_encodeVarint hone hle⟩
  refine ⟨[(field, part)], ?_, ?_, rfl⟩
  · exact List.forall_mem_singleton.2 hpart
  · rw [List.flatMap_singleton, Field.bytes, encodeField_eq]

/-- Each of some written forms is no longer than all of them together. -/
theorem length_le_length_flatMap {β : Type} {items : List β} (write : β → List UInt8) {item : β}
    (hitem : item ∈ items) : (write item).length ≤ (items.flatMap write).length := by
  rw [List.flatMap_def]
  exact (List.sublist_flatten_of_mem (List.mem_map_of_mem hitem)).length_le

/-! ## Actions -/

/-- What the fields say with which an action is written. -/
def partsOf (action : Action) : List ActionPart :=
  (if action.mnemonic = "" then [] else [.mnemonic action.mnemonic]) ++
    action.arguments.map .argument

/-- The fields with which an action is written make it up. -/
theorem actionOf_partsOf (action : Action) : actionOf (partsOf action) = action := by
  have harguments : (action.arguments.map ActionPart.argument).filterMap ActionPart.argument? =
      action.arguments := by
    rw [List.filterMap_map]
    exact List.filterMap_some
  have hnone : (action.arguments.map ActionPart.argument).filterMap ActionPart.mnemonic? = [] :=
    List.filterMap_eq_nil_iff.2 (by simp [ActionPart.mnemonic?])
  rw [actionOf, partsOf, List.filterMap_append, List.filterMap_append, harguments, hnone]
  by_cases hmnemonic : action.mnemonic = ""
  · -- The action of no mnemonic has the empty one.
    rw [if_pos hmnemonic]
    obtain ⟨mnemonic, arguments⟩ := action
    obtain rfl : mnemonic = "" := hmnemonic
    rfl
  · rw [if_neg hmnemonic]
    rfl

/-- The written form of an action has fields that make it up. -/
theorem isAction_encodeAction {action : Action} (hsize : (encodeAction action).length < 2 ^ 64) :
    IsAction (encodeAction action) action := by
  rw [encodeAction, List.length_append] at hsize
  refine ⟨partsOf action, ?_, (actionOf_partsOf action).symm⟩
  rw [encodeAction, partsOf]
  refine IsMessage.append ?_ (isMessage_flatMap fun argument hargument => ?_)
  · -- An empty mnemonic has no field.
    split
    · exact isMessage_nil_iff.2 rfl
    · next hmnemonic =>
      rw [if_neg hmnemonic] at hsize
      have hle := length_le_length_encodeField mnemonicNumber (Text.Utf8.encode action.mnemonic)
      refine isMessage_encodeField (by decide) (by decide) (.mnemonic ?_)
      rw [← Text.Utf8.encode_eq_toByteArray]
      exact isDelimited_encodeVarint_append (by omega)
  · have hfield := length_le_length_flatMap
      (fun argument => encodeField argumentNumber (Text.Utf8.encode argument)) hargument
    have hle := length_le_length_encodeField argumentNumber (Text.Utf8.encode argument)
    refine isMessage_encodeField (by decide) (by decide) (.argument ?_)
    rw [← Text.Utf8.encode_eq_toByteArray]
    exact isDelimited_encodeVarint_append (by omega)

/-! ## The message -/

/-- The written form of one action, as it stands in a message. -/
def encodeEntry (action : Action) : List UInt8 :=
  encodeField actionNumber (encodeAction action)

theorem encode_eq_flatMap (actions : List Action) : encode actions = actions.flatMap encodeEntry :=
  rfl

/-- The written form of one action is a field of the message that holds it. -/
theorem isMessage_encodeEntry {action : Action} (hsize : (encodeAction action).length < 2 ^ 64) :
    IsMessage IsGraphPart (encodeEntry action) [some action] := by
  refine isMessage_encodeField (by decide) (by decide) (.action ?_ (isAction_encodeAction hsize))
  exact isDelimited_encodeVarint_append hsize

/-- In a message that is not too long, no action is. -/
theorem length_encodeAction_lt {action : Action} {actions : List Action} (haction : action ∈ actions)
    (hsize : (encode actions).length < 2 ^ 64) : (encodeAction action).length < 2 ^ 64 := by
  calc (encodeAction action).length
      ≤ (encodeEntry action).length := length_le_length_encodeField ..
    _ ≤ (encode actions).length := length_le_length_flatMap encodeEntry haction
    _ < 2 ^ 64 := hsize

/-- The written form of some actions is a message that holds them. -/
theorem isActionGraph_encode {actions : List Action} (hsize : (encode actions).length < 2 ^ 64) :
    IsActionGraph (encode actions) actions := by
  refine ⟨actions.map some, ?_, ?_⟩
  · rw [encode_eq_flatMap]
    refine isMessage_flatMap fun action haction => ?_
    exact isMessage_encodeEntry (length_encodeAction_lt haction hsize)
  · rw [List.reduceOption, List.filterMap_map]
    exact List.filterMap_some.symm

/-- Decoding answers the actions that were written, in their order. -/
theorem decode_encode (actions : List Action) (hsize : (encode actions).length < 2 ^ 64) :
    decode (encode actions) = .ok actions :=
  (readActions_eq_ok_iff (Nat.le_refl _)).2 (isActionGraph_encode hsize)

/-- Actions without a mnemonic, without arguments and with empty ones, twice the same action, and
an argument whose length takes two bytes. -/
def writtenActions : List Action := [
  ⟨"CppCompile", ["cc", "", "é→😀"]⟩, ⟨"", [String.ofList (List.replicate 32 '😀')]⟩,
  ⟨"", []⟩, ⟨"", [""]⟩, ⟨"", []⟩]

/-- These actions are answered as they were written. -/
theorem decode_encode_written : (encode writtenActions).length < 2 ^ 64 ∧
    decode (encode writtenActions) = .ok writtenActions := by
  have hsize : (encode writtenActions).length < 2 ^ 64 := by decide +kernel
  exact ⟨hsize, decode_encode writtenActions hsize⟩

end ActionGraph

end CompileCommands
