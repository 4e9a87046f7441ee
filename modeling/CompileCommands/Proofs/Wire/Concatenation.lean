import CompileCommands.Database
import CompileCommands.Proofs.Wire.ActionGraph

/-!
# Messages one after the other

What comes after a message changes nothing of how it is read, and nothing is carried over from a
message to what comes after it. So the actions of a message go in front of what decoding the rest
answers, be that more actions or an error.

* `decode_of_readPart`: one field is read, and then what comes after it is decoded.
* `decode_append_of_isMessage`: the same for all fields of a message.
* `decode_append`: actions and errors of two parts, and the records that are made from them.
-/

namespace CompileCommands.ActionGraph

open Wire

variable {bytes first second rest : List UInt8}

/-! ## One field -/

/-- What is read does not depend on the fuel as long as there is one unit for every byte. -/
theorem readActions_eq_of_length_le {fuel fuel' : Nat} (hfuel : bytes.length ≤ fuel)
    (hfuel' : bytes.length ≤ fuel') : readActions fuel bytes = readActions fuel' bytes := by
  -- Both spend one unit on a field, which takes at least one byte.
  induction fuel generalizing fuel' bytes with
  | zero =>
    obtain rfl : bytes = [] := List.length_eq_zero_iff.1 (by omega)
    simp [readActions]
  | succ fuel ih =>
    cases bytes with
    | nil => simp [readActions]
    | cons b bytes =>
      obtain ⟨fuel', rfl⟩ : ∃ n, fuel' = n + 1 := Nat.exists_eq_add_one.2 (by simp at hfuel'; omega)
      rw [readActions_cons, readActions_cons]
      cases hread : readPart (b :: bytes) with
      | error e => rfl
      | ok read =>
        obtain ⟨part, rest⟩ := read
        obtain ⟨keyBytes, key, payload, hkey, -, hbytes⟩ := readPart_eq_ok_iff.1 hread
        have hrest : rest.length ≤ fuel := hkey.length_rest_le hbytes hfuel
        have hrest' : rest.length ≤ fuel' := hkey.length_rest_le hbytes hfuel'
        dsimp only [bind, Except.bind]
        rw [ih hrest hrest']

/-- Once one field is read, what comes after it is decoded on its own. -/
theorem decode_of_readPart {part : Option Action} (hread : readPart bytes = .ok (part, rest)) :
    decode bytes = (part.toList ++ ·) <$> decode rest := by
  obtain ⟨keyBytes, key, payload, hkey, -, hbytes⟩ := readPart_eq_ok_iff.1 hread
  cases bytes with
  | nil => exact absurd (List.append_eq_nil_iff.1 hbytes.symm).1 hkey.ne_nil
  | cons b bytes =>
    have hrest : rest.length ≤ bytes.length := hkey.length_rest_le hbytes (Nat.le_refl _)
    rw [decode, List.length_cons, readActions_cons, hread, decode,
      readActions_eq_of_length_le (Nat.le_refl _) hrest]
    rfl

/-! ## All fields -/

/-- The actions of a message go in front of what comes after it. -/
theorem decode_append_of_isMessage {parts : List (Option Action)}
    (h : IsMessage IsGraphPart first parts) (second : List UInt8) :
    decode (first ++ second) = (parts.reduceOption ++ ·) <$> decode second := by
  obtain ⟨fields, hfields, rfl, rfl⟩ := h
  -- One field is read at a time.
  induction fields with
  | nil =>
    rw [List.flatMap_nil, List.nil_append]
    exact (id_map _).symm
  | cons field fields ih =>
    obtain ⟨hfield, hfields⟩ := List.forall_mem_cons.1 hfields
    have hbytes : (field :: fields).flatMap (·.1.bytes) ++ second =
        field.1.keyBytes ++ (field.1.payload ++ (fields.flatMap (·.1.bytes) ++ second)) := by
      rw [List.flatMap_cons, Field.bytes, List.append_assoc, List.append_assoc]
    have hread := readPart_eq_ok_iff.2
      ⟨field.1.keyBytes, field.1.key, field.1.payload, field.1.isKey, hfield, hbytes⟩
    have hparts (more : List Action) :
        field.2.toList ++ ((fields.map (·.2)).reduceOption ++ more) =
          ((field :: fields).map (·.2)).reduceOption ++ more := by
      rw [List.map_cons]
      cases field.2 with
      | none => rfl
      | some action => rfl
    calc decode ((field :: fields).flatMap (·.1.bytes) ++ second)
        = (field.2.toList ++ ·) <$> decode (fields.flatMap (·.1.bytes) ++ second) :=
          decode_of_readPart hread
      _ = (field.2.toList ++ ·) <$> ((fields.map (·.2)).reduceOption ++ ·) <$> decode second := by
          rw [ih hfields]
      _ = (((field :: fields).map (·.2)).reduceOption ++ ·) <$> decode second := by
          rw [Functor.map_map]
          exact congrArg (· <$> decode second) (funext hparts)

/-- Its actions go in front of what decoding the rest answers. -/
theorem decode_append_of_isActionGraph {actions : List Action} (h : IsActionGraph first actions)
    (second : List UInt8) : decode (first ++ second) = (actions ++ ·) <$> decode second := by
  obtain ⟨parts, hparts, rfl⟩ := h
  exact decode_append_of_isMessage hparts second

/-- Decoding goes on behind a message as if it had not been there: more actions follow those of
the message, an error stays the same error, and the records of the rest follow those of the
message. -/
theorem decode_append {actions : List Action} (hfirst : decode first = .ok actions) :
    (∀ more, decode second = .ok more → decode (first ++ second) = .ok (actions ++ more)) ∧
    (∀ e, decode second = .error e → decode (first ++ second) = .error e) ∧
    ∀ workspace, Database.assemble workspace <$> decode (first ++ second) =
      (Database.assemble workspace actions ++ ·) <$>
        Database.assemble workspace <$> decode second := by
  have hgraph : IsActionGraph first actions := (readActions_eq_ok_iff (Nat.le_refl _)).1 hfirst
  rw [decode_append_of_isActionGraph hgraph]
  refine ⟨fun more hmore => ?_, fun e he => ?_, fun workspace => ?_⟩
  · rw [hmore]
    rfl
  · rw [he]
    rfl
  · cases decode second with
    | error e => rfl
    | ok more => exact congrArg Except.ok (Database.assemble_append workspace actions more)

/-- A skipped group and an action. -/
def groupAndAction : List UInt8 :=
  [0x0B, 0x08, 0x00, 0x0C] ++ encode [⟨"CppCompile", ["cc", "a.cc", "-o", "a.o"]⟩]

/-- Behind a group and an action come an empty action, or one whose mnemonic overruns it. -/
theorem decode_append_groupAndAction :
    decode groupAndAction = .ok [⟨"CppCompile", ["cc", "a.cc", "-o", "a.o"]⟩] ∧
      decode (groupAndAction ++ [0x12, 0x00]) =
        .ok [⟨"CppCompile", ["cc", "a.cc", "-o", "a.o"]⟩, ⟨"", []⟩] ∧
      decode (groupAndAction ++ [0x12, 0x02, 0x22, 0x01, 0x61]) = .error ⟨.action, .overrun⟩ ∧
      Database.assemble "/ws" <$> decode (groupAndAction ++ [0x12, 0x00]) =
        (Database.assemble "/ws" [⟨"CppCompile", ["cc", "a.cc", "-o", "a.o"]⟩] ++ ·) <$>
          Database.assemble "/ws" <$> decode [0x12, 0x00] := by
  have hfirst : decode groupAndAction = .ok [⟨"CppCompile", ["cc", "a.cc", "-o", "a.o"]⟩] := by
    decide +kernel
  have hempty : decode [0x12, 0x00] = .ok [⟨"", []⟩] := by decide +kernel
  have hoverrun : decode [0x12, 0x02, 0x22, 0x01, 0x61] = .error ⟨.action, .overrun⟩ := by
    decide +kernel
  exact ⟨hfirst, (decode_append hfirst).1 _ hempty, (decode_append hfirst).2.1 _ hoverrun,
    (decode_append hfirst).2.2 "/ws"⟩

end CompileCommands.ActionGraph
