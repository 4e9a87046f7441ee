import CompileCommands.Proofs.Wire.Concatenation
import CompileCommands.Proofs.Wire.Encoding

/-!
# Messages that are cut off

The bytes at the start of a written message are a message only if the cut is between two actions.
The reason is that a key and a length say where they end: whatever starts with the bytes of a field
is read as that field, and a part of it is too short for the length that it tells.

* `IsKey.append_inj`, `IsDelimited.append_inj`: a key and a payload are where they are in only one
  way.
* `not_isActionGraph_of_cut`: a part of a written action is no message.
* `isActionGraph_take_encode_iff`: the first bytes of a written message are a message exactly when
  they are the written form of the first actions.
* `decode_take_encode`: what decoding the first bytes answers.
-/

namespace CompileCommands

namespace Wire

variable {used used' rest rest' : List UInt8}

/-- Bytes start with at most one key. -/
theorem IsKey.append_inj {key key' : Key} (h : IsKey used key) (h' : IsKey used' key')
    (heq : used ++ rest = used' ++ rest') : key = key' ∧ rest = rest' := by
  have hread : readKey (used ++ rest) = .ok (key, rest) := readKey_eq_ok_iff.2 ⟨used, h, rfl⟩
  have hread' : readKey (used ++ rest) = .ok (key', rest') := readKey_eq_ok_iff.2 ⟨used', h', heq⟩
  exact Prod.mk.inj (Except.ok.inj (hread.symm.trans hread'))

/-- Bytes start with at most one length-delimited payload. -/
theorem IsDelimited.append_inj {payload payload' : List UInt8} (h : IsDelimited used payload)
    (h' : IsDelimited used' payload') (heq : used ++ rest = used' ++ rest') :
    payload = payload' ∧ rest = rest' := by
  have hread : readDelimited (used ++ rest) = .ok (payload, rest) :=
    readDelimited_eq_ok_iff.2 ⟨used, h, rfl⟩
  have hread' : readDelimited (used ++ rest) = .ok (payload', rest') :=
    readDelimited_eq_ok_iff.2 ⟨used', h', heq⟩
  exact Prod.mk.inj (Except.ok.inj (hread.symm.trans hread'))

end Wire

namespace ActionGraph

open Wire

variable {action : Action} {actions found : List Action}

theorem encode_cons (action : Action) (actions : List Action) :
    encode (action :: actions) = encodeEntry action ++ encode actions :=
  List.flatMap_cons

theorem length_encode_cons (action : Action) (actions : List Action) :
    (encode (action :: actions)).length =
      (encodeEntry action).length + (encode actions).length := by
  rw [encode_cons, List.length_append]

/-- The bytes of the key with which an action is written. -/
def entryKey : List UInt8 :=
  encodeVarint (8 * actionNumber + WireType.lengthDelimited.toNat)

theorem isKey_entryKey : IsKey entryKey ⟨actionNumber, .lengthDelimited⟩ :=
  isKey_encodeVarint (by decide) (by decide)

/-- The key of an action, its length and its fields. -/
theorem encodeEntry_eq (action : Action) :
    encodeEntry action =
      entryKey ++ (encodeVarint (encodeAction action).length ++ encodeAction action) :=
  encodeField_eq ..

theorem length_encodeEntry_pos (action : Action) : 0 < (encodeEntry action).length := by
  rw [encodeEntry_eq, List.length_append]
  exact Nat.add_pos_left (List.length_pos_iff.2 isKey_entryKey.ne_nil) _

/-! ## One action -/

/-- A part of a written action that is neither nothing nor all of it is no message. -/
theorem not_isActionGraph_of_cut {cut missing : List UInt8}
    (hsize : (encodeAction action).length < 2 ^ 64) (hentry : encodeEntry action = cut ++ missing)
    (hcut : cut ≠ []) (hmissing : missing ≠ []) : ¬ IsActionGraph cut found := by
  rintro ⟨parts, hparts, -⟩
  rw [isMessage_iff_of_ne_nil hcut] at hparts
  obtain ⟨keyBytes, key, payload, part, rest, more, hkey, hpart, rfl, -, -⟩ := hparts
  -- The first key of the part is the key of the action.
  rw [encodeEntry_eq, List.append_assoc, List.append_assoc] at hentry
  obtain ⟨rfl, hrest⟩ := isKey_entryKey.append_inj hkey hentry
  cases hpart with
  | other hnumber _ => exact hnumber rfl
  | action hpayload _ =>
    -- The payload behind it has the length of the action, so nothing of the action is missing.
    have hwhole : (encodeVarint (encodeAction action).length ++ encodeAction action) ++ [] =
        _ ++ (rest ++ missing) := (List.append_nil _).trans hrest
    obtain ⟨-, hnil⟩ := (isDelimited_encodeVarint_append hsize).append_inj hpayload hwhole
    exact hmissing (List.append_eq_nil_iff.1 hnil.symm).2

/-- So of what is less than a written action, only nothing at all is a message. -/
theorem isActionGraph_take_encodeEntry_iff {count : Nat}
    (hsize : (encodeAction action).length < 2 ^ 64) (hcount : count < (encodeEntry action).length) :
    IsActionGraph ((encodeEntry action).take count) found ↔ found = [] ∧ count = 0 := by
  by_cases hzero : count = 0
  · subst hzero
    rw [List.take_zero, isActionGraph_nil_iff]
    exact (and_iff_left rfl).symm
  · have hcut : (encodeEntry action).take count ≠ [] := by
      rw [← List.length_pos_iff, List.length_take]
      omega
    have hmissing : (encodeEntry action).drop count ≠ [] := by
      rw [← List.length_pos_iff, List.length_drop]
      omega
    have hnot : ¬ IsActionGraph ((encodeEntry action).take count) found :=
      not_isActionGraph_of_cut hsize (List.take_append_drop ..).symm hcut hmissing
    exact iff_of_false hnot fun h => hzero h.2

/-- Behind a written action, the actions of the rest follow. -/
theorem isActionGraph_encodeEntry_append_iff {rest : List UInt8}
    (hsize : (encodeAction action).length < 2 ^ 64) :
    IsActionGraph (encodeEntry action ++ rest) found ↔
      ∃ more, found = action :: more ∧ IsActionGraph rest more := by
  have hentry : IsActionGraph (encodeEntry action) [action] :=
    ⟨[some action], isMessage_encodeEntry hsize, rfl⟩
  have hdecode := decode_append_of_isActionGraph hentry rest
  rw [← readActions_eq_ok_iff (Nat.le_refl _)]
  change decode (encodeEntry action ++ rest) = .ok found ↔ _
  rw [hdecode, Except.map_eq_ok_iff]
  constructor
  · rintro ⟨more, hmore, rfl⟩
    exact ⟨more, rfl, (readActions_eq_ok_iff (Nat.le_refl _)).1 hmore⟩
  · rintro ⟨more, rfl, hmore⟩
    exact ⟨more, (readActions_eq_ok_iff (Nat.le_refl _)).2 hmore, rfl⟩

/-! ## The message -/

/-- The first bytes of a written message are a message exactly when they are the written form of
the first actions, and then it holds these. -/
theorem isActionGraph_take_encode_iff {count : Nat} (hsize : (encode actions).length < 2 ^ 64)
    (hcount : count ≤ (encode actions).length) :
    IsActionGraph ((encode actions).take count) found ↔
      found <+: actions ∧ (encode found).length = count := by
  -- Either the cut is in the first action, or it is in what comes after it.
  induction actions generalizing count found with
  | nil =>
    obtain rfl : count = 0 := Nat.le_zero.1 hcount
    rw [List.take_zero, isActionGraph_nil_iff, List.prefix_nil]
    exact ⟨fun h => ⟨h, by rw [h]; rfl⟩, And.left⟩
  | cons action actions ih =>
    have haction := length_encodeAction_lt List.mem_cons_self hsize
    rw [length_encode_cons] at hsize hcount
    rw [List.prefix_cons_iff, encode_cons]
    rcases Nat.lt_or_ge count (encodeEntry action).length with hlt | hge
    · rw [List.take_append_of_le_length (Nat.le_of_lt hlt),
        isActionGraph_take_encodeEntry_iff haction hlt]
      constructor
      · rintro ⟨rfl, rfl⟩
        exact ⟨.inl rfl, rfl⟩
      · rintro ⟨rfl | ⟨more, rfl, -⟩, hbytes⟩
        · exact ⟨rfl, hbytes.symm⟩
        · -- The first action alone takes more bytes.
          rw [length_encode_cons] at hbytes
          omega
    · obtain ⟨left, rfl⟩ := Nat.exists_eq_add_of_le hge
      have hrest (more : List Action) : IsActionGraph ((encode actions).take left) more ↔
          more <+: actions ∧ (encode more).length = left := ih (by omega) (by omega)
      rw [List.take_length_add_append, isActionGraph_encodeEntry_append_iff haction]
      constructor
      · rintro ⟨more, rfl, hmore⟩
        obtain ⟨hfound, hbytes⟩ := (hrest more).1 hmore
        refine ⟨.inr ⟨more, rfl, hfound⟩, ?_⟩
        rw [length_encode_cons, hbytes]
      · rintro ⟨rfl | ⟨more, rfl, hfound⟩, hbytes⟩
        · -- No bytes are less than those of the first action.
          have hpos := length_encodeEntry_pos action
          rw [encode, List.flatMap_nil, List.length_nil] at hbytes
          omega
        · rw [length_encode_cons] at hbytes
          exact ⟨more, rfl, (hrest more).2 ⟨hfound, by omega⟩⟩

/-- Decoding the first bytes of a written message answers actions exactly when these bytes are the
written form of the first actions, and then it answers these. In all other places of the cut it
ends with an error. -/
theorem decode_take_encode {count : Nat} (hsize : (encode actions).length < 2 ^ 64)
    (hcount : count ≤ (encode actions).length) :
    (∀ found, decode ((encode actions).take count) = .ok found ↔
      found <+: actions ∧ (encode found).length = count) ∧
    ((∀ found, found <+: actions → (encode found).length ≠ count) →
      ∃ e, decode ((encode actions).take count) = .error e) := by
  have hok (found : List Action) : decode ((encode actions).take count) = .ok found ↔
      found <+: actions ∧ (encode found).length = count :=
    (readActions_eq_ok_iff (Nat.le_refl _)).trans (isActionGraph_take_encode_iff hsize hcount)
  refine ⟨hok, fun hinside => ?_⟩
  cases hresult : decode ((encode actions).take count) with
  | error e => exact ⟨e, rfl⟩
  | ok found =>
    obtain ⟨hfound, hbytes⟩ := (hok found).1 hresult
    exact absurd hbytes (hinside found hfound)

/-- A cut behind the first of the written actions, and one between the two bytes of the length of
the second. -/
theorem decode_take_encode_written :
    (encode writtenActions).length < 2 ^ 64 ∧ 33 ≤ (encode writtenActions).length ∧
      decode ((encode writtenActions).take 31) = .ok (writtenActions.take 1) ∧
        ∃ e, decode ((encode writtenActions).take 33) = .error e := by
  have hsize : (encode writtenActions).length < 2 ^ 64 := by decide +kernel
  have hcount : 33 ≤ (encode writtenActions).length := by decide +kernel
  have hinside : ∀ m ≤ writtenActions.length,
      (encode (writtenActions.take m)).length ≠ 33 := by decide +kernel
  refine ⟨hsize, hcount, ?_, ?_⟩
  · have hends : (encode (writtenActions.take 1)).length = 31 := by decide +kernel
    exact ((decode_take_encode hsize (by omega)).1 _).2 ⟨List.take_prefix .., hends⟩
  · refine (decode_take_encode hsize hcount).2 fun found hfound => ?_
    rw [List.prefix_iff_eq_take.1 hfound]
    exact hinside _ hfound.length_le

end ActionGraph

end CompileCommands
