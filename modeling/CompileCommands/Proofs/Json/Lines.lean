import CompileCommands.Json.Pretty
import Mathlib.Algebra.Ring.Nat
import Mathlib.Data.List.Basic
import Mathlib.Data.List.ModifyLast

/-!
# The lines of indented JSON

The indented form of a value is made of lines. A text stays inside one line, whatever its
characters are, and no line has a control character in it, so that a line ends at a line break of
the layout and nowhere else. What is inside a list or an object has the lines that it has on its
own, two spaces deeper, up to the comma at the end of every part but the last.

* `Value.prettyAt_eq_intercalate_lines`: the written form of a value is its lines.
* `Value.isLine_of_mem_lines`: no line has a control character.
-/

namespace CompileCommands.Json

/-! ## Lines -/

/-- The text fits on a line: it has no control characters. -/
def IsLine (line : List Char) : Prop :=
  ∀ c ∈ line, 0x20 ≤ c.toNat

instance (line : List Char) : Decidable (IsLine line) :=
  List.decidableBAll (fun c : Char => 0x20 ≤ c.toNat) line

theorem IsLine.append {first second : List Char} (hfirst : IsLine first) (hsecond : IsLine second) :
    IsLine (first ++ second) :=
  List.forall_mem_append.2 ⟨hfirst, hsecond⟩

/-- There is no line break inside a line. -/
theorem IsLine.notMem_newline {line : List Char} (h : IsLine line) : '\n' ∉ line := fun hmem =>
  absurd (h '\n' hmem) (by decide)

/-- Two spaces deeper. -/
def deeper (part : List (List Char)) : List (List Char) :=
  part.map ([' ', ' '] ++ ·)

/-- With a comma at the end of the last line. -/
def withComma (part : List (List Char)) : List (List Char) :=
  part.modifyLast (· ++ [','])

/-- The lines of some parts, with a comma after every part but the last. -/
def separated : List (List (List Char)) → List (List Char)
  | [] => []
  | [part] => part
  | part :: next :: parts => withComma part ++ separated (next :: parts)

/-- The lines of some parts between two brackets. -/
def blockLines (opening closing : Char) (parts : List (List (List Char))) : List (List Char) :=
  if parts = [] then [[opening, closing]]
  else [opening] :: (separated (parts.map deeper) ++ [[closing]])

mutual

/-- The lines of a value. -/
def Value.lines : Value → List (List Char)
  | .number n => [(Nat.repr n).toList]
  | .text s => [quote s]
  | .array items => blockLines '[' ']' (itemLines items)
  | .object members => blockLines '\x7b' '\x7d' (memberLines members)

/-- The lines of each item of a list. -/
def itemLines : List Value → List (List (List Char))
  | [] => []
  | item :: items => item.lines :: itemLines items

/-- The lines of each member of an object. The name stands in front of the first. -/
def memberLines : List (String × Value) → List (List (List Char))
  | [] => []
  | (name, value) :: members =>
    value.lines.modifyHead ((quote name ++ [':', ' ']) ++ ·) :: memberLines members

end

/-! ## Commas -/

theorem withComma_concat (part : List (List Char)) (line : List Char) :
    withComma (part ++ [line]) = part ++ [line ++ [',']] :=
  List.modifyLast_concat ..

@[simp] theorem length_withComma (part : List (List Char)) :
    (withComma part).length = part.length := by
  rcases List.eq_nil_or_concat' part with rfl | ⟨before, line, rfl⟩
  · rfl
  · rw [withComma_concat, List.length_append, List.length_append]
    rfl

theorem withComma_ne_nil {part : List (List Char)} (hpart : part ≠ []) : withComma part ≠ [] := by
  rwa [← List.length_pos_iff, length_withComma, List.length_pos_iff]

theorem isLine_of_mem_withComma {part : List (List Char)} (h : ∀ line ∈ part, IsLine line) :
    ∀ line ∈ withComma part, IsLine line := by
  rcases List.eq_nil_or_concat' part with rfl | ⟨before, line, rfl⟩
  · exact List.forall_mem_nil _
  · obtain ⟨hbefore, hline⟩ := List.forall_mem_append.1 h
    rw [withComma_concat]
    have hcomma : IsLine (line ++ [',']) := (List.forall_mem_singleton.1 hline).append (by decide)
    exact List.forall_mem_append.2 ⟨hbefore, List.forall_mem_singleton.2 hcomma⟩

@[simp] theorem length_separated (parts : List (List (List Char))) :
    (separated parts).length = (parts.map List.length).sum := by
  fun_induction separated parts with
  | case1 => rfl
  | case2 part => simp
  | case3 part next parts ih =>
    rw [List.length_append, length_withComma, ih]
    rfl

theorem separated_ne_nil {parts : List (List (List Char))} (hparts : parts ≠ [])
    (h : ∀ part ∈ parts, part ≠ []) : separated parts ≠ [] := by
  fun_cases separated parts with
  | case1 => exact absurd rfl hparts
  | case2 part => exact h part (List.mem_singleton.2 rfl)
  | case3 part next parts =>
    exact List.append_ne_nil_of_left_ne_nil (withComma_ne_nil (h part List.mem_cons_self)) _

theorem isLine_of_mem_separated {parts : List (List (List Char))}
    (h : ∀ part ∈ parts, ∀ line ∈ part, IsLine line) : ∀ line ∈ separated parts, IsLine line := by
  fun_induction separated parts with
  | case1 => exact List.forall_mem_nil _
  | case2 part => exact List.forall_mem_singleton.1 h
  | case3 part next parts ih =>
    obtain ⟨hpart, hparts⟩ := List.forall_mem_cons.1 h
    exact List.forall_mem_append.2 ⟨isLine_of_mem_withComma hpart, ih hparts⟩

/-! ## Brackets -/

theorem length_blockLines (opening closing : Char) (parts : List (List (List Char))) :
    (blockLines opening closing parts).length =
      if parts = [] then 1 else 2 + (parts.map List.length).sum := by
  unfold blockLines
  split
  · rfl
  · have hdeeper : (parts.map deeper).map List.length = parts.map List.length := by
      simp [deeper]
    rw [List.length_cons, List.length_append, length_separated, hdeeper, List.length_singleton]
    omega

theorem blockLines_ne_nil (opening closing : Char) (parts : List (List (List Char))) :
    blockLines opening closing parts ≠ [] := by
  unfold blockLines
  split
  · exact List.cons_ne_nil _ _
  · exact List.cons_ne_nil _ _

theorem Value.lines_ne_nil (value : Value) : value.lines ≠ [] := by
  cases value with
  | number n => exact List.cons_ne_nil _ _
  | text s => exact List.cons_ne_nil _ _
  | array items => exact blockLines_ne_nil _ _ _
  | object members => exact blockLines_ne_nil _ _ _

theorem itemLines_eq_map (items : List Value) : itemLines items = items.map Value.lines := by
  induction items with
  | nil => rfl
  | cons item items ih => rw [itemLines, ih, List.map_cons]

theorem itemLines_ne_nil (items : List Value) : ∀ part ∈ itemLines items, part ≠ [] := by
  rw [itemLines_eq_map, List.forall_mem_map]
  exact fun item _ => item.lines_ne_nil

theorem memberLines_ne_nil (members : List (String × Value)) :
    ∀ part ∈ memberLines members, part ≠ [] := by
  induction members with
  | nil => exact List.forall_mem_nil _
  | cons member members ih =>
    refine List.forall_mem_cons.2 ⟨?_, ih⟩
    rw [Ne, List.modifyHead_eq_nil_iff]
    exact member.2.lines_ne_nil

/-! ## Parts with something between them -/

section Intercalate

variable {α : Type} {sep : List α}

theorem intercalate_append_of_ne_nil {first second : List (List α)} (hfirst : first ≠ [])
    (hsecond : second ≠ []) : sep.intercalate (first ++ second) =
      sep.intercalate first ++ (sep ++ sep.intercalate second) := by
  induction first with
  | nil => exact absurd rfl hfirst
  | cons part parts ih =>
    by_cases hparts : parts = []
    · subst hparts
      rw [List.singleton_append, List.intercalate_cons_of_ne_nil hsecond,
        List.intercalate_singleton, List.append_assoc]
    · rw [List.cons_append,
        List.intercalate_cons_of_ne_nil (List.append_ne_nil_of_left_ne_nil hparts _), ih hparts,
        List.intercalate_cons_of_ne_nil hparts]
      simp only [List.append_assoc]

/-- What stands in front of the first part. -/
theorem intercalate_modifyHead (before : List α) {parts : List (List α)} (hparts : parts ≠ []) :
    sep.intercalate (parts.modifyHead (before ++ ·)) = before ++ sep.intercalate parts := by
  obtain ⟨part, parts, rfl⟩ := List.exists_cons_of_ne_nil hparts
  cases parts with
  | nil => simp
  | cons next parts => simp [List.intercalate_cons_cons]

/-- What ends the text between the parts can stand in front of every part. -/
theorem append_intercalate_append (before : List α) {parts : List (List α)}
    (hparts : parts ≠ []) :
    before ++ (sep ++ before).intercalate parts = sep.intercalate (parts.map (before ++ ·)) := by
  induction parts with
  | nil => exact absurd rfl hparts
  | cons part parts ih =>
    by_cases hparts : parts = []
    · subst hparts
      simp
    · have hmap : parts.map (before ++ ·) ≠ [] := by
        simpa using hparts
      rw [List.map_cons, List.intercalate_cons_of_ne_nil hparts,
        List.intercalate_cons_of_ne_nil hmap, ← ih hparts]
      simp only [List.append_assoc]

/-- With nothing behind them, the parts are all ended by what is between them. -/
theorem intercalate_concat_nil (sep : List α) (parts : List (List α)) :
    sep.intercalate (parts ++ [[]]) = parts.flatMap (· ++ sep) := by
  induction parts with
  | nil => simp
  | cons part parts ih =>
    rw [List.cons_append,
      List.intercalate_cons_of_ne_nil (List.append_ne_nil_of_right_ne_nil _ (List.cons_ne_nil _ _)),
      ih, List.flatMap_cons]

end Intercalate

theorem intercalate_withComma (sep : List Char) {part : List (List Char)} (hpart : part ≠ []) :
    sep.intercalate (withComma part) = sep.intercalate part ++ [','] := by
  obtain ⟨before, line, rfl⟩ := (List.eq_nil_or_concat' part).resolve_left hpart
  rw [withComma_concat]
  by_cases hbefore : before = []
  · subst hbefore
    simp
  · simp [intercalate_append_of_ne_nil hbefore]

/-- The commas after the parts are those between them. -/
theorem intercalate_separated (sep : List Char) {parts : List (List (List Char))}
    (h : ∀ part ∈ parts, part ≠ []) :
    sep.intercalate (separated parts) = (',' :: sep).intercalate (parts.map sep.intercalate) := by
  fun_induction separated parts with
  | case1 => rfl
  | case2 part => simp
  | case3 part next parts ih =>
    obtain ⟨hpart, hparts⟩ := List.forall_mem_cons.1 h
    rw [intercalate_append_of_ne_nil (withComma_ne_nil hpart)
        (separated_ne_nil (List.cons_ne_nil _ _) hparts), intercalate_withComma sep hpart,
      ih hparts, List.map_cons, List.map_cons, List.map_cons, List.intercalate_cons_cons]
    simp only [List.append_assoc, List.cons_append, List.nil_append]

/-! ## The written form -/

theorem newline_succ (depth : Nat) : newline (depth + 1) = newline depth ++ [' ', ' '] := by
  rw [newline, Nat.mul_succ, List.replicate_add]
  rfl

/-- Parts one level deeper are parts two spaces deeper, whatever mark stands between them. -/
theorem append_intercalate_newline_succ (mark : List Char) (depth : Nat)
    {parts : List (List Char)} (hparts : parts ≠ []) :
    [' ', ' '] ++ (mark ++ newline (depth + 1)).intercalate parts =
      (mark ++ newline depth).intercalate (deeper parts) := by
  rw [newline_succ, ← List.append_assoc, append_intercalate_append _ hparts, deeper]

/-- Deeper parts with commas between them. -/
theorem intercalate_separated_map_deeper (depth : Nat) {parts : List (List (List Char))}
    (hparts : parts ≠ []) (h : ∀ part ∈ parts, part ≠ []) :
    (newline depth).intercalate (separated (parts.map deeper)) =
      [' ', ' '] ++
        (',' :: newline (depth + 1)).intercalate (parts.map (newline (depth + 1)).intercalate) := by
  have hdeeper : ∀ part ∈ parts.map deeper, part ≠ [] := by
    simpa [deeper] using h
  -- Line breaks give their two spaces to what follows: those inside the parts first, and then those
  -- between the parts.
  calc
    _ = (',' :: newline depth).intercalate
          ((parts.map deeper).map (newline depth).intercalate) :=
      intercalate_separated _ hdeeper
    _ = (',' :: newline depth).intercalate
          (deeper (parts.map (newline (depth + 1)).intercalate)) := by
      rw [deeper, List.map_map, List.map_map]
      exact congrArg _ (List.map_congr_left fun part hpart =>
        (append_intercalate_newline_succ [] depth (h part hpart)).symm)
    _ = _ :=
      (append_intercalate_newline_succ [','] depth (by rwa [Ne, List.map_eq_nil_iff])).symm

/-- Parts between brackets, on lines of their own, are the lines of the parts. -/
theorem block_map_intercalate (opening closing : Char) (depth : Nat)
    {parts : List (List (List Char))} (h : ∀ part ∈ parts, part ≠ []) :
    block opening closing depth (parts.map (newline (depth + 1)).intercalate) =
      (newline depth).intercalate (blockLines opening closing parts) := by
  by_cases hparts : parts = []
  · subst hparts
    rfl
  · have hmap : parts.map (newline (depth + 1)).intercalate ≠ [] := by
      rwa [Ne, List.map_eq_nil_iff]
    have hne : separated (parts.map deeper) ≠ [] :=
      separated_ne_nil (by rwa [Ne, List.map_eq_nil_iff]) (by simpa [deeper] using h)
    rw [block, if_neg hmap, blockLines, if_neg hparts,
      List.intercalate_cons_of_ne_nil (List.append_ne_nil_of_left_ne_nil hne _),
      intercalate_append_of_ne_nil hne (List.cons_ne_nil _ _),
      intercalate_separated_map_deeper depth hparts h, List.intercalate_singleton]
    simp [newline_succ]

mutual

/-- The written form of a value is its lines, each at the depth of the value. -/
theorem Value.prettyAt_eq_intercalate_lines (depth : Nat) :
    (value : Value) → value.prettyAt depth = (newline depth).intercalate value.lines
  | .number n => by rw [Value.prettyAt, Value.lines, List.intercalate_singleton]
  | .text s => by rw [Value.prettyAt, Value.lines, List.intercalate_singleton]
  | .array items => by
    rw [Value.prettyAt, Value.lines, prettyItems_eq_map_itemLines (depth + 1) items,
      block_map_intercalate _ _ _ (itemLines_ne_nil items)]
  | .object members => by
    rw [Value.prettyAt, Value.lines, prettyMembers_eq_map_memberLines (depth + 1) members,
      block_map_intercalate _ _ _ (memberLines_ne_nil members)]

/-- The written forms of the items of a list are their lines. -/
theorem prettyItems_eq_map_itemLines (depth : Nat) : (items : List Value) →
    prettyItems depth items = (itemLines items).map (newline depth).intercalate
  | [] => rfl
  | item :: items => by
    rw [prettyItems, itemLines, List.map_cons, item.prettyAt_eq_intercalate_lines depth,
      prettyItems_eq_map_itemLines depth items]

/-- The written forms of the members of an object are their lines. -/
theorem prettyMembers_eq_map_memberLines (depth : Nat) : (members : List (String × Value)) →
    prettyMembers depth members = (memberLines members).map (newline depth).intercalate
  | [] => rfl
  | (name, value) :: members => by
    rw [prettyMembers, memberLines, List.map_cons, intercalate_modifyHead _ value.lines_ne_nil,
      value.prettyAt_eq_intercalate_lines depth, prettyMembers_eq_map_memberLines depth members]

end

/-! ## Control characters -/

theorem isLine_escapeChar (c : Char) : IsLine (escapeChar c) := by
  have hhex : ∀ n < 0x10, 0x20 ≤ (hexDigit n).toNat := by
    decide
  unfold escapeChar
  split_ifs with _ _ _ _ _ _ _ hcontrol
  -- The short escapes do not depend on the character.
  any_goals decide
  · have hhigh := hhex (c.toNat / 0x10) (by omega)
    have hlow := hhex (c.toNat % 0x10) (Nat.mod_lt _ (by decide))
    simpa [IsLine] using ⟨hhigh, hlow⟩
  · exact List.forall_mem_singleton.2 (Nat.le_of_not_lt hcontrol)

theorem isLine_quote (s : String) : IsLine (quote s) := by
  intro c hc
  simp only [quote, List.mem_append, List.mem_cons, List.mem_flatMap, List.not_mem_nil,
    or_false] at hc
  rcases hc with (rfl | ⟨d, -, hc⟩) | rfl
  · decide
  · exact isLine_escapeChar d c hc
  · decide

theorem isLine_repr (n : Nat) : IsLine (Nat.repr n).toList := by
  intro c hc
  rw [Nat.toList_repr] at hc
  have hdigit := Nat.isDigit_of_mem_toDigits (by decide) (Nat.le_refl 10) hc
  exact Nat.le_trans (by decide) (Char.isDigit_iff_toNat.1 hdigit).1

theorem isLine_of_mem_blockLines {opening closing : Char} {parts : List (List (List Char))}
    (hbrackets : IsLine [opening, closing])
    (h : ∀ part ∈ parts, ∀ line ∈ part, IsLine line) :
    ∀ line ∈ blockLines opening closing parts, IsLine line := by
  obtain ⟨hopening, hclosing⟩ := List.forall_mem_cons.1 hbrackets
  unfold blockLines
  split
  · exact List.forall_mem_singleton.2 hbrackets
  · have hdeeper : ∀ part ∈ parts.map deeper, ∀ line ∈ part, IsLine line := by
      simp only [List.forall_mem_map, deeper]
      intro part hpart line hline
      exact IsLine.append (by decide) (h part hpart line hline)
    refine List.forall_mem_cons.2 ⟨List.forall_mem_singleton.2 hopening, ?_⟩
    exact List.forall_mem_append.2
      ⟨isLine_of_mem_separated hdeeper, List.forall_mem_singleton.2 hclosing⟩

mutual

/-- No line of a value has a control character. -/
theorem Value.isLine_of_mem_lines : (value : Value) → ∀ line ∈ value.lines, IsLine line
  | .number n => List.forall_mem_singleton.2 (isLine_repr n)
  | .text s => List.forall_mem_singleton.2 (isLine_quote s)
  | .array items =>
    isLine_of_mem_blockLines (by decide) (isLine_of_mem_itemLines items)
  | .object members =>
    isLine_of_mem_blockLines (by decide) (isLine_of_mem_memberLines members)

/-- No line of an item has a control character. -/
theorem isLine_of_mem_itemLines :
    (items : List Value) → ∀ part ∈ itemLines items, ∀ line ∈ part, IsLine line
  | [] => List.forall_mem_nil _
  | item :: items =>
    List.forall_mem_cons.2 ⟨item.isLine_of_mem_lines, isLine_of_mem_itemLines items⟩

/-- No line of a member has a control character. -/
theorem isLine_of_mem_memberLines :
    (members : List (String × Value)) → ∀ part ∈ memberLines members, ∀ line ∈ part, IsLine line
  | [] => List.forall_mem_nil _
  | (name, value) :: members => by
    have hlines := value.isLine_of_mem_lines
    obtain ⟨first, rest, heq⟩ := List.exists_cons_of_ne_nil value.lines_ne_nil
    rw [heq] at hlines
    obtain ⟨hfirst, hrest⟩ := List.forall_mem_cons.1 hlines
    rw [memberLines, heq, List.modifyHead_cons]
    -- The name is part of the first line.
    have hname : IsLine ((quote name ++ [':', ' ']) ++ first) :=
      ((isLine_quote name).append (by decide)).append hfirst
    exact List.forall_mem_cons.2
      ⟨List.forall_mem_cons.2 ⟨hname, hrest⟩, isLine_of_mem_memberLines members⟩

end

end CompileCommands.Json
