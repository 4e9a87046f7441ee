import CompileCommands.Proofs.Result
import CompileCommands.Proofs.Text.Utf8
import CompileCommands.Wire.Field

/-!
# The grammar of fields

What the bytes of a number, a key, a length-delimited payload and a skipped field look like,
said without a reader, and that the readers find exactly these. Every statement about a reader
has one form: it answers a value and the rest exactly when the bytes are some bytes of the
grammar for that value, followed by the rest.

* `IsVarint`, `IsKey`, `IsDelimited`: the grammar of numbers, keys and length-delimited payloads.
* `Skippable`: the grammar of the payloads of fields that are skipped, groups included.
* `IsSequence`: bytes that are fields one after the other.
* `varint?_eq_some_iff`, `readKey_eq_ok_iff`, `readDelimited_eq_ok_iff`, `readText_eq_ok_iff`
  and `skipField_eq_ok_iff`: the readers.
-/

namespace CompileCommands

namespace Wire

/-! ## Numbers -/

/-- The number that bytes write in groups of seven bits, the lowest group first. The high bit of
a byte does not count. -/
def groupsValue : List UInt8 → Nat
  | [] => 0
  | b :: bytes => b.toNat % 0x80 + 0x80 * groupsValue bytes

/-- The bytes write `n` in at most `groups` groups. -/
structure IsVarintWithin (groups : Nat) (bytes : List UInt8) (n : Nat) : Prop where
  /-- There are not too many groups. -/
  length_le : bytes.length ≤ groups
  /-- The last group that is allowed has one bit. -/
  last_le : bytes.length = groups → ∀ b, bytes.getLast? = some b → b.toNat ≤ 1
  /-- The high bit says of every byte but the last that more follow. -/
  continued : ∃ more last, bytes = more ++ [last] ∧ (∀ b ∈ more, 0x80 ≤ b.toNat) ∧
    last.toNat < 0x80
  /-- The groups are those of the number. -/
  value : groupsValue bytes = n

/-- The bytes write the number `n`: at most ten of them, the tenth at most 1. They need not be
the fewest. -/
def IsVarint (bytes : List UInt8) (n : Nat) : Prop :=
  IsVarintWithin 10 bytes n

theorem isVarintWithin_singleton {groups : Nat} {b : UInt8} {n : Nat} :
    IsVarintWithin (groups + 1) [b] n ↔
      b.toNat < 0x80 ∧ (groups = 0 → b.toNat ≤ 1) ∧ n = b.toNat := by
  constructor
  · rintro ⟨-, hlast, ⟨more, last, hbytes, -, hlt⟩, hvalue⟩
    obtain ⟨rfl, rfl⟩ : more = [] ∧ b = last := by
      cases more <;> simp_all
    refine ⟨hlt, fun hgroups => hlast (by simp [hgroups]) b rfl, ?_⟩
    rw [← hvalue, groupsValue, groupsValue]
    omega
  · rintro ⟨hlt, hlast, rfl⟩
    refine ⟨by simp, ?_, ⟨[], b, rfl, by simp, hlt⟩, ?_⟩
    · intro hlength c hc
      obtain rfl : b = c := by simpa using hc
      exact hlast (by simpa using hlength.symm)
    · rw [groupsValue, groupsValue]
      omega

/-- A number of several groups is its lowest group and the number of the groups above. -/
theorem isVarintWithin_cons_cons {groups : Nat} {b c : UInt8} {bytes : List UInt8} {n : Nat} :
    IsVarintWithin (groups + 1) (b :: c :: bytes) n ↔
      0x80 ≤ b.toNat ∧ ∃ high, IsVarintWithin groups (c :: bytes) high ∧
        n = b.toNat - 0x80 + 0x80 * high := by
  have hb := b.toNat_lt
  constructor
  · rintro ⟨hlength, hlast, ⟨more, last, hbytes, hmore, hlt⟩, hvalue⟩
    obtain ⟨more, rfl⟩ : ∃ rest, more = b :: rest := by
      cases more <;> simp_all
    have hcontinued : 0x80 ≤ b.toNat := hmore b (by simp)
    refine ⟨hcontinued, groupsValue (c :: bytes), ⟨by simpa using hlength, ?_, ?_, rfl⟩, ?_⟩
    · intro hfull d hd
      exact hlast (by simpa using hfull) d (by simpa using hd)
    · exact ⟨more, last, by simpa using hbytes, fun d hd => hmore d (by simp [hd]), hlt⟩
    · rw [← hvalue, groupsValue]
      omega
  · rintro ⟨hcontinued, high, ⟨hlength, hlast, ⟨more, last, hbytes, hmore, hlt⟩, hvalue⟩, rfl⟩
    refine ⟨by simpa using hlength, ?_, ⟨b :: more, last, by simp [hbytes], ?_, hlt⟩, ?_⟩
    · intro hfull d hd
      exact hlast (by simpa using hfull) d (by simpa using hd)
    · simpa using ⟨hcontinued, hmore⟩
    · rw [groupsValue, hvalue]
      omega

theorem IsVarintWithin.ne_nil {groups : Nat} {bytes : List UInt8} {n : Nat}
    (h : IsVarintWithin groups bytes n) : bytes ≠ [] := by
  obtain ⟨more, last, rfl, -, -⟩ := h.continued
  simp

/-- A number has one group below `0x80`, or a group that says that more follow and the number of
the groups above. -/
theorem isVarintWithin_cons {groups : Nat} {b : UInt8} {bytes : List UInt8} {n : Nat} :
    IsVarintWithin (groups + 1) (b :: bytes) n ↔
      bytes = [] ∧ b.toNat < 0x80 ∧ (groups = 0 → b.toNat ≤ 1) ∧ n = b.toNat ∨
        0x80 ≤ b.toNat ∧ ∃ high, IsVarintWithin groups bytes high ∧
          n = b.toNat - 0x80 + 0x80 * high := by
  -- A group that more follow is never the last one that is written.
  cases bytes with
  | nil =>
    rw [isVarintWithin_singleton]
    constructor
    · rintro h
      exact .inl ⟨rfl, h⟩
    · rintro (⟨-, h⟩ | ⟨-, high, hhigh, -⟩)
      · exact h
      · exact absurd rfl hhigh.ne_nil
  | cons c bytes =>
    rw [isVarintWithin_cons_cons]
    exact ⟨.inr, fun h => h.resolve_left fun h => by simp at h⟩

/-- The reader finds a number exactly where bytes that write it come first. -/
theorem varintWithin?_eq_some_iff {groups : Nat} {bytes rest : List UInt8} {n : Nat} :
    varintWithin? groups bytes = some (n, rest) ↔
      ∃ used, IsVarintWithin groups used n ∧ bytes = used ++ rest := by
  -- One group is read at a time, while fewer are left.
  induction groups generalizing bytes n with
  | zero =>
    simp only [varintWithin?, reduceCtorEq, false_iff]
    rintro ⟨used, hused, -⟩
    exact hused.ne_nil (List.length_eq_zero_iff.1 (Nat.le_zero.1 hused.length_le))
  | succ groups ih =>
    cases bytes with
    | nil =>
      simp only [varintWithin?, reduceCtorEq, false_iff]
      rintro ⟨used, hused, hbytes⟩
      exact hused.ne_nil (List.append_eq_nil_iff.1 hbytes.symm).1
    | cons b bytes =>
      rw [varintWithin?]
      constructor
      · intro h
        split at h
        · contradiction
        · -- Only one bit is left for the last group that is allowed.
          next hlast =>
          split at h
          · next hb =>
            obtain ⟨rfl, rfl⟩ := Prod.mk.inj (Option.some.inj h)
            exact ⟨[b], isVarintWithin_cons.2 (.inl ⟨rfl, hb, by omega, rfl⟩), rfl⟩
          · next hb =>
            obtain ⟨⟨high, after⟩, hhigh, heq⟩ := Option.map_eq_some_iff.1 h
            obtain ⟨rfl, rfl⟩ := Prod.mk.inj heq
            obtain ⟨used, hused, rfl⟩ := ih.1 hhigh
            exact ⟨b :: used, isVarintWithin_cons.2 (.inr ⟨by omega, high, hused, rfl⟩), rfl⟩
      · rintro ⟨used, hused, hbytes⟩
        cases used with
        | nil => exact absurd rfl hused.ne_nil
        | cons c used =>
          rw [List.cons_append] at hbytes
          obtain ⟨rfl, rfl⟩ := List.cons.inj hbytes
          rcases isVarintWithin_cons.1 hused with
            ⟨rfl, hlt, hlast, rfl⟩ | ⟨hcontinued, high, hhigh, rfl⟩
          · rw [if_neg (by omega), if_pos hlt]
            rfl
          · have hgroups : groups ≠ 0 := by
              rintro rfl
              exact hhigh.ne_nil (List.length_eq_zero_iff.1 (Nat.le_zero.1 hhigh.length_le))
            rw [if_neg (by omega), if_neg (by omega), ih.2 ⟨used, hhigh, rfl⟩]
            rfl

/-- The reader finds a number exactly where bytes that write it come first. -/
theorem varint?_eq_some_iff {bytes rest : List UInt8} {n : Nat} :
    varint? bytes = some (n, rest) ↔ ∃ used, IsVarint used n ∧ bytes = used ++ rest :=
  varintWithin?_eq_some_iff

/-- The numbers that the reader finds are those that bytes at the start write. -/
theorem readVarint_eq_ok_iff {bytes rest : List UInt8} {n : Nat} :
    readVarint bytes = .ok (n, rest) ↔ ∃ used, IsVarint used n ∧ bytes = used ++ rest := by
  rw [← varint?_eq_some_iff, readVarint]
  cases varint? bytes <;> simp

/-! ## Keys and payloads -/

/-- The bytes write a key: a number below `2 ^ 32` that holds a field number other than zero and
the number of a form. -/
structure IsKey (bytes : List UInt8) (key : Key) : Prop where
  /-- The number is made of the field number and the form. -/
  varint : IsVarint bytes (8 * key.number + key.type.toNat)
  /-- The number has at most 32 bits. -/
  value_le : 8 * key.number + key.type.toNat ≤ 0xFFFFFFFF
  /-- There is no field zero. -/
  one_le : 1 ≤ key.number

/-- The bytes write a length and the payload of that length. -/
def IsDelimited (bytes payload : List UInt8) : Prop :=
  ∃ length, IsVarint length payload.length ∧ bytes = length ++ payload

theorem WireType.toNat_lt (type : WireType) : type.toNat < 6 := by
  cases type <;> decide

/-- A form has a number exactly when the number is its own. -/
theorem WireType.ofNat?_eq_some_iff {n : Nat} {type : WireType} :
    ofNat? n = some type ↔ n = type.toNat := by
  constructor
  · intro h
    unfold ofNat? at h
    split at h <;> simp_all [toNat] <;> subst h <;> rfl
  · rintro rfl
    exact ofNat?_toNat type

/-- The reader finds a key exactly where bytes that write it come first. -/
theorem readKey_eq_ok_iff {bytes rest : List UInt8} {key : Key} :
    readKey bytes = .ok (key, rest) ↔ ∃ used, IsKey used key ∧ bytes = used ++ rest := by
  have hlt := key.type.toNat_lt
  rw [readKey, Except.bind_eq_ok_iff]
  constructor
  · rintro ⟨⟨value, after⟩, hvalue, h⟩
    obtain ⟨used, hused, rfl⟩ := readVarint_eq_ok_iff.1 hvalue
    simp only at h
    split at h
    · cases h
    · next hvalue =>
      split at h
      · cases h
      · next type htype =>
        rw [WireType.ofNat?_eq_some_iff] at htype
        split at h
        · cases h
        · next hnumber =>
          cases h
          refine ⟨used, ⟨?_, ?_, ?_⟩, rfl⟩
          · rwa [← htype, Nat.div_add_mod]
          · rw [← htype, Nat.div_add_mod]
            omega
          · exact Nat.one_le_iff_ne_zero.2 hnumber
  · rintro ⟨used, ⟨hvarint, hle, hone⟩, rfl⟩
    refine ⟨(_, rest), readVarint_eq_ok_iff.2 ⟨used, hvarint, rfl⟩, ?_⟩
    -- The form is in the lowest three bits, and the field number above them.
    have hdiv : (8 * key.number + key.type.toNat) / 8 = key.number := by omega
    have hmod : (8 * key.number + key.type.toNat) % 8 = key.type.toNat := by omega
    simp only [hdiv, hmod, WireType.ofNat?_toNat]
    rw [if_neg (by omega), if_neg (by omega)]
    rfl

/-- Bytes are taken exactly when so many come first. -/
theorem takeBytes_eq_ok_iff {count : Nat} {bytes taken rest : List UInt8} :
    takeBytes count bytes = .ok (taken, rest) ↔ taken.length = count ∧ bytes = taken ++ rest := by
  rw [takeBytes]
  constructor
  · intro h
    split at h
    · next hlength =>
      cases h
      exact ⟨hlength, (List.take_append_drop count bytes).symm⟩
    · cases h
  · rintro ⟨rfl, rfl⟩
    simp

/-- A length-delimited payload is found exactly where a length and so many bytes come first. -/
theorem readDelimited_eq_ok_iff {bytes payload rest : List UInt8} :
    readDelimited bytes = .ok (payload, rest) ↔
      ∃ used, IsDelimited used payload ∧ bytes = used ++ rest := by
  rw [readDelimited, Except.bind_eq_ok_iff]
  constructor
  · rintro ⟨⟨length, after⟩, hlength, htake⟩
    obtain ⟨used, hused, rfl⟩ := readVarint_eq_ok_iff.1 hlength
    obtain ⟨rfl, rfl⟩ := takeBytes_eq_ok_iff.1 htake
    exact ⟨used ++ payload, ⟨used, hused, rfl⟩, (List.append_assoc ..).symm⟩
  · rintro ⟨_, ⟨length, hlength, rfl⟩, rfl⟩
    refine ⟨(payload.length, payload ++ rest), readVarint_eq_ok_iff.2 ⟨length, hlength, ?_⟩, ?_⟩
    · rw [List.append_assoc]
    · exact takeBytes_eq_ok_iff.2 ⟨rfl, rfl⟩

/-- A text is found exactly where its encoding comes first as a length-delimited payload. -/
theorem readText_eq_ok_iff {type : WireType} {bytes rest : List UInt8} {text : String} :
    readText type bytes = .ok (text, rest) ↔ type = .lengthDelimited ∧
      ∃ used, IsDelimited used (Text.Utf8.encode text) ∧ bytes = used ++ rest := by
  rw [readText, ← readDelimited_eq_ok_iff]
  constructor
  · intro h
    split at h
    · cases h
    · next htype =>
      refine ⟨Decidable.not_not.1 htype, ?_⟩
      obtain ⟨⟨payload, after⟩, hpayload, h⟩ := Except.bind_eq_ok_iff.1 h
      simp only at h
      split at h
      · next found hfound =>
        cases h
        rwa [← Text.Utf8.decode?_eq_some_iff.1 hfound]
      · cases h
  · rintro ⟨rfl, hpayload⟩
    rw [if_neg (by simp), Except.bind_eq_ok_iff]
    refine ⟨_, hpayload, ?_⟩
    simp only [Text.Utf8.decode?_encode]
    rfl

/-! ## Fields -/

/-- A field as it is written: a key and the bytes that follow it. -/
structure Field where
  /-- The key. -/
  key : Key
  /-- The bytes of the key. -/
  keyBytes : List UInt8
  /-- The bytes after the key. -/
  payload : List UInt8
  /-- The bytes of the key write it. -/
  isKey : IsKey keyBytes key

/-- The bytes of a field. -/
def Field.bytes (field : Field) : List UInt8 :=
  field.keyBytes ++ field.payload

/-- The payloads of a form, unless it is that of a group. -/
def IsPlain : WireType → List UInt8 → Prop
  | .varint, payload => ∃ n, IsVarint payload n
  | .fixed64, payload => payload.length = 8
  | .fixed32, payload => payload.length = 4
  | .lengthDelimited, payload => ∃ content, IsDelimited payload content
  | .startGroup, _ => False
  | .endGroup, _ => False

/-- The payloads of a field that is skipped and lies inside `inside` groups, when no skipped field
may lie inside more than `most`. A group holds fields of any number and form, and the end key of
its own number closes it. -/
inductive Skippable (most : Nat) : (inside : Nat) → Key → List UInt8 → Prop
  | plain {inside number : Nat} {type : WireType} {payload : List UInt8} :
      inside ≤ most → IsPlain type payload → Skippable most inside ⟨number, type⟩ payload
  | group {inside number : Nat} {fields : List Field} {endKey : List UInt8} :
      inside ≤ most → (∀ field ∈ fields, Skippable most (inside + 1) field.key field.payload) →
      IsKey endKey ⟨number, .endGroup⟩ →
      Skippable most inside ⟨number, .startGroup⟩ (fields.flatMap Field.bytes ++ endKey)

theorem Skippable.type_ne_endGroup {most inside : Nat} {key : Key} {payload : List UInt8}
    (h : Skippable most inside key payload) : key.type ≠ .endGroup := by
  cases h with
  | plain _ hplain =>
    rintro rfl
    exact hplain
  | group _ _ _ => simp

theorem IsKey.ne_nil {bytes : List UInt8} {key : Key} (h : IsKey bytes key) : bytes ≠ [] :=
  IsVarintWithin.ne_nil h.varint

/-- What follows a key is shorter than what starts with it. -/
theorem IsKey.length_rest_le {fuel : Nat} {bytes keyBytes payload rest : List UInt8} {key : Key}
    (h : IsKey keyBytes key) (hbytes : bytes = keyBytes ++ (payload ++ rest))
    (hfuel : bytes.length ≤ fuel + 1) : rest.length ≤ fuel := by
  have hpos := List.length_pos_iff.2 h.ne_nil
  rw [hbytes, List.length_append, List.length_append] at hfuel
  omega

section Skipping

variable {skip : Key → List UInt8 → Except Fault (List UInt8)} {IsSkipped : Key → List UInt8 → Prop}

/-- A group is skipped exactly where fields that can be skipped come first, and then the end key
of the group. -/
theorem skipGroup_eq_ok_iff
    (hskip : ∀ key bytes rest, skip key bytes = .ok rest ↔
      ∃ used, IsSkipped key used ∧ bytes = used ++ rest)
    (hopen : ∀ key payload, IsSkipped key payload → key.type ≠ .endGroup)
    {number fuel : Nat} {bytes rest : List UInt8} (hfuel : bytes.length ≤ fuel) :
    skipGroup skip number fuel bytes = .ok rest ↔
      ∃ (fields : List Field) (endKey : List UInt8),
        (∀ field ∈ fields, IsSkipped field.key field.payload) ∧
          IsKey endKey ⟨number, .endGroup⟩ ∧
          bytes = fields.flatMap Field.bytes ++ endKey ++ rest := by
  -- One field is skipped at a time.
  induction fuel generalizing bytes with
  | zero =>
    obtain rfl : bytes = [] := List.length_eq_zero_iff.1 (by omega)
    simp only [skipGroup, reduceCtorEq, false_iff]
    rintro ⟨fields, endKey, -, hend, hbytes⟩
    have hnil := (List.append_eq_nil_iff.1 hbytes.symm).1
    exact hend.ne_nil (List.append_eq_nil_iff.1 hnil).2
  | succ fuel ih =>
    rw [skipGroup, Except.bind_eq_ok_iff]
    constructor
    · rintro ⟨⟨key, after⟩, hkey, h⟩
      obtain ⟨keyBytes, hkeyBytes, rfl⟩ := readKey_eq_ok_iff.1 hkey
      simp only at h
      split at h
      · -- An end key ends the group if it has the number of the group.
        next htype =>
        split at h
        · next hnumber =>
          cases h
          refine ⟨[], keyBytes, by simp, ?_, rfl⟩
          rwa [← hnumber, ← htype]
        · cases h
      · rw [Except.bind_eq_ok_iff] at h
        obtain ⟨remaining, hremaining, h⟩ := h
        obtain ⟨payload, hpayload, rfl⟩ := (hskip _ _ _).1 hremaining
        have hshorter : remaining.length ≤ fuel := hkeyBytes.length_rest_le rfl hfuel
        obtain ⟨fields, endKey, hfields, hend, rfl⟩ := (ih hshorter).1 h
        refine ⟨⟨key, keyBytes, payload, hkeyBytes⟩ :: fields, endKey, ?_, hend, ?_⟩
        · simpa using ⟨hpayload, hfields⟩
        · simp [Field.bytes]
    · rintro ⟨fields, endKey, hfields, hend, rfl⟩
      cases fields with
      | nil =>
        refine ⟨_, readKey_eq_ok_iff.2 ⟨endKey, hend, rfl⟩, ?_⟩
        simp [pure, Except.pure]
      | cons field fields =>
        obtain ⟨hfield, hfields⟩ := List.forall_mem_cons.1 hfields
        have hbytes : (field :: fields).flatMap Field.bytes ++ endKey ++ rest =
            field.keyBytes ++ (field.payload ++
              (fields.flatMap Field.bytes ++ endKey ++ rest)) := by
          simp [Field.bytes]
        refine ⟨(field.key, _), readKey_eq_ok_iff.2 ⟨field.keyBytes, field.isKey, hbytes⟩, ?_⟩
        simp only
        rw [if_neg (hopen _ _ hfield), (hskip _ _ _).2 ⟨field.payload, hfield, rfl⟩]
        exact (ih (field.isKey.length_rest_le hbytes hfuel)).2 ⟨fields, endKey, hfields, hend, rfl⟩

end Skipping

/-- Outside of groups, the payloads that can be skipped are the plain ones. -/
theorem skippable_iff_isPlain {most inside number : Nat} {type : WireType} {payload : List UInt8}
    (hinside : inside ≤ most) (htype : type ≠ .startGroup) :
    Skippable most inside ⟨number, type⟩ payload ↔ IsPlain type payload := by
  constructor
  · intro h
    cases h with
    | plain _ hplain => exact hplain
    | group _ _ _ => exact absurd rfl htype
  · exact .plain hinside

/-- What is read is skipped when only the rest is kept. -/
theorem map_snd_eq_ok_iff {α : Type} {read : Except Fault (α × List UInt8)} {rest : List UInt8} :
    Prod.snd <$> read = .ok rest ↔ ∃ a, read = .ok (a, rest) := by
  cases read <;> simp [Functor.map, Except.map, Prod.ext_iff]

/-- A field inside `inside` groups is skipped exactly where a payload that can be skipped comes
first. The budget is what the groups around the field have left over. -/
theorem skipField_eq_ok_iff {most inside budget : Nat} (hbudget : budget + inside = most + 1)
    {key : Key} {bytes rest : List UInt8} :
    skipField budget key bytes = .ok rest ↔
      ∃ used, Skippable most inside key used ∧ bytes = used ++ rest := by
  -- The budget goes down by one with every group that is entered.
  induction budget generalizing inside key bytes rest with
  | zero =>
    simp only [skipField, reduceCtorEq, false_iff]
    rintro ⟨used, hused, -⟩
    cases hused <;> omega
  | succ budget ih =>
    have hinside : inside ≤ most := by omega
    obtain ⟨number, type⟩ := key
    cases type with
    | varint =>
      simp only [skipField, map_snd_eq_ok_iff, readVarint_eq_ok_iff,
        skippable_iff_isPlain hinside (by simp : WireType.varint ≠ .startGroup), IsPlain]
      constructor
      · rintro ⟨n, used, hused, rfl⟩
        exact ⟨used, ⟨n, hused⟩, rfl⟩
      · rintro ⟨used, ⟨n, hused⟩, rfl⟩
        exact ⟨n, used, hused, rfl⟩
    | fixed64 =>
      simp only [skipField, map_snd_eq_ok_iff, takeBytes_eq_ok_iff,
        skippable_iff_isPlain hinside (by simp : WireType.fixed64 ≠ .startGroup), IsPlain]
    | fixed32 =>
      simp only [skipField, map_snd_eq_ok_iff, takeBytes_eq_ok_iff,
        skippable_iff_isPlain hinside (by simp : WireType.fixed32 ≠ .startGroup), IsPlain]
    | lengthDelimited =>
      simp only [skipField, map_snd_eq_ok_iff, readDelimited_eq_ok_iff,
        skippable_iff_isPlain hinside (by simp : WireType.lengthDelimited ≠ .startGroup), IsPlain]
      constructor
      · rintro ⟨content, used, hused, rfl⟩
        exact ⟨used, ⟨content, hused⟩, rfl⟩
      · rintro ⟨used, ⟨content, hused⟩, rfl⟩
        exact ⟨content, used, hused, rfl⟩
    | endGroup =>
      simp only [skipField, reduceCtorEq, false_iff]
      rintro ⟨used, hused, -⟩
      exact hused.type_ne_endGroup rfl
    | startGroup =>
      -- What a group holds lies inside one group more, and the budget is one less.
      have hskip : ∀ key bytes rest, skipField budget key bytes = .ok rest ↔
          ∃ used, Skippable most (inside + 1) key used ∧ bytes = used ++ rest :=
        fun _ _ _ => ih (by omega)
      simp only [skipField]
      rw [skipGroup_eq_ok_iff hskip (fun _ _ => Skippable.type_ne_endGroup) (Nat.le_refl _)]
      constructor
      · rintro ⟨fields, endKey, hfields, hend, rfl⟩
        exact ⟨_, .group hinside hfields hend, rfl⟩
      · rintro ⟨used, hused, rfl⟩
        cases hused with
        | plain _ hplain => exact hplain.elim
        | group _ hfields hend => exact ⟨_, _, hfields, hend, rfl⟩

/-! ## Messages -/

/-- The bytes are fields one after the other, which say `parts` in this order. -/
def IsMessage {α : Type} (IsPart : Key → List UInt8 → α → Prop) (bytes : List UInt8)
    (parts : List α) : Prop :=
  ∃ fields : List (Field × α), (∀ field ∈ fields, IsPart field.1.key field.1.payload field.2) ∧
    bytes = fields.flatMap (·.1.bytes) ∧ parts = fields.map (·.2)

section Messages

variable {α : Type} {IsPart : Key → List UInt8 → α → Prop}

@[simp]
theorem isMessage_nil_iff {parts : List α} : IsMessage IsPart [] parts ↔ parts = [] := by
  constructor
  · rintro ⟨fields, -, hbytes, rfl⟩
    cases fields with
    | nil => rfl
    | cons field fields =>
      -- A field has at least the byte of its key.
      have hnil := (List.append_eq_nil_iff.1 hbytes.symm).1
      exact absurd (List.append_eq_nil_iff.1 hnil).1 field.1.isKey.ne_nil
  · rintro rfl
    exact ⟨[], by simp, rfl, rfl⟩

/-- A message that is not empty is a field and a message. -/
theorem isMessage_iff_of_ne_nil {bytes : List UInt8} {parts : List α} (hne : bytes ≠ []) :
    IsMessage IsPart bytes parts ↔
      ∃ keyBytes key payload part rest more, IsKey keyBytes key ∧ IsPart key payload part ∧
        bytes = keyBytes ++ (payload ++ rest) ∧ IsMessage IsPart rest more ∧
        parts = part :: more := by
  constructor
  · rintro ⟨fields, hfields, rfl, rfl⟩
    cases fields with
    | nil => exact absurd rfl hne
    | cons field fields =>
      obtain ⟨hfield, hfields⟩ := List.forall_mem_cons.1 hfields
      refine ⟨field.1.keyBytes, field.1.key, field.1.payload, field.2, _, _, field.1.isKey,
        hfield, ?_, ⟨fields, hfields, rfl, rfl⟩, rfl⟩
      rw [List.flatMap_cons, Field.bytes, List.append_assoc]
  · rintro ⟨keyBytes, key, payload, part, rest, more, hkey, hpart, rfl,
      ⟨fields, hfields, rfl, rfl⟩, rfl⟩
    refine ⟨(⟨key, keyBytes, payload, hkey⟩, part) :: fields, ?_, ?_, rfl⟩
    · exact List.forall_mem_cons.2 ⟨hpart, hfields⟩
    · rw [List.flatMap_cons, Field.bytes, List.append_assoc]

end Messages

end Wire

end CompileCommands
