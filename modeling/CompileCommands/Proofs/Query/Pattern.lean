import CompileCommands.Proofs.Database
import CompileCommands.Query

/-!
# What the filter of the query matches

The filter is a regular expression in its written form, and the build tool reports the actions whose
whole mnemonic it matches. Read as characters, groups and bars, it matches the mnemonics that have a
kind and no others, so that no action with a command is kept back.

* `Regex`: expressions of characters, sequences and alternatives, and what they match.
* `Regex.read?`: the expression that a text is the written form of.
* `Pattern.exists_read?_render`: the written form of a pattern matches what the pattern does.
* `Query.exists_regex_of_filter`: the filter and the kinds of compile action agree.
-/

namespace CompileCommands

/-- A regular expression. A group leaves no trace in it. -/
inductive Regex where
  /-- The empty text. -/
  | empty
  /-- A character by itself. -/
  | char (c : Char)
  /-- One expression after another. -/
  | sequence (first second : Regex)
  /-- One expression or another. -/
  | either (first second : Regex)
  deriving DecidableEq, Repr

namespace Regex

/-! ## Matching -/

/-- The expression matches the whole of some characters. -/
inductive Matches : Regex → List Char → Prop where
  /-- The empty text matches itself. -/
  | empty : Matches empty []
  /-- A character matches itself. -/
  | char (c : Char) : Matches (char c) [c]
  /-- A sequence matches what its parts match, one after the other. -/
  | sequence {first second : Regex} {s t : List Char} (left : Matches first s)
      (right : Matches second t) : Matches (sequence first second) (s ++ t)
  /-- The first alternative. -/
  | first {first : Regex} {s : List Char} (second : Regex) (h : Matches first s) :
      Matches (either first second) s
  /-- The second alternative. -/
  | second {second : Regex} {s : List Char} (first : Regex) (h : Matches second s) :
      Matches (either first second) s

variable {r first second : Regex} {s rest : List Char}

theorem matches_empty_iff : empty.Matches s ↔ s = [] := by
  constructor
  · rintro ⟨⟩
    rfl
  · rintro rfl
    exact .empty

theorem matches_char_iff {c : Char} : (char c).Matches s ↔ s = [c] := by
  constructor
  · rintro ⟨⟩
    rfl
  · rintro rfl
    exact .char c

theorem matches_sequence_iff : (sequence first second).Matches s ↔
    ∃ t u, s = t ++ u ∧ first.Matches t ∧ second.Matches u := by
  constructor
  · rintro (_ | _ | ⟨left, right⟩)
    exact ⟨_, _, rfl, left, right⟩
  · rintro ⟨t, u, rfl, left, right⟩
    exact .sequence left right

theorem matches_either_iff :
    (either first second).Matches s ↔ first.Matches s ∨ second.Matches s := by
  constructor
  · intro h
    cases h with
    | first _ h => exact .inl h
    | second _ h => exact .inr h
  · rintro (h | h)
    · exact .first second h
    · exact .second first h

/-- What is left of some characters after each match at their start. -/
def rests : Regex → List Char → List (List Char)
  | empty, s => [s]
  | char c, s => if s.head? = some c then [s.tail] else []
  | sequence first second, s => (first.rests s).flatMap second.rests
  | either first second, s => first.rests s ++ second.rests s

theorem mem_rests_iff : rest ∈ r.rests s ↔ ∃ t, s = t ++ rest ∧ r.Matches t := by
  induction r generalizing s rest with
  | empty => simp [rests, matches_empty_iff, eq_comm]
  | char c =>
    simp only [rests, matches_char_iff]
    cases s with
    | nil => simp
    | cons d s =>
      by_cases h : d = c
      · simp [h, eq_comm]
      · simp [h]
  | sequence first second ihFirst ihSecond =>
    simp only [rests, List.mem_flatMap, ihFirst, ihSecond, matches_sequence_iff]
    constructor
    · rintro ⟨middle, ⟨t, rfl, ht⟩, u, rfl, hu⟩
      exact ⟨t ++ u, (List.append_assoc t u rest).symm, t, u, rfl, ht, hu⟩
    · rintro ⟨_, rfl, t, u, rfl, ht, hu⟩
      exact ⟨u ++ rest, ⟨t, List.append_assoc t u rest, ht⟩, u, rfl, hu⟩
  | either first second ihFirst ihSecond =>
    simp only [rests, List.mem_append, ihFirst, ihSecond, matches_either_iff]
    constructor
    · rintro (⟨t, hs, ht⟩ | ⟨t, hs, ht⟩)
      · exact ⟨t, hs, .inl ht⟩
      · exact ⟨t, hs, .inr ht⟩
    · rintro ⟨t, hs, ht | ht⟩
      · exact .inl ⟨t, hs, ht⟩
      · exact .inr ⟨t, hs, ht⟩

/-- Whether an expression matches is decided by what its matches leave. -/
instance (r : Regex) (s : List Char) : Decidable (r.Matches s) :=
  decidable_of_iff ([] ∈ r.rests s) <| by simp [mem_rests_iff]

/-! ## Reading -/

/-- The characters that do not stand for themselves. -/
def isSpecial (c : Char) : Bool :=
  "()|[]\x7b\x7d.*+?^$\\".toList.contains c

/-- What has been read of a group. -/
structure Group where
  /-- The alternatives in front of the last bar. -/
  earlier? : Option Regex := none
  /-- The sequence after it. -/
  sequence : Regex := .empty

namespace Group

/-- The group with one more part in its sequence. -/
def append (g : Group) (r : Regex) : Group :=
  { g with sequence := .sequence g.sequence r }

/-- The expression that the group is. -/
def close (g : Group) : Regex :=
  match g.earlier? with
  | none => g.sequence
  | some earlier => .either earlier g.sequence

end Group

/-- The groups that are open, the innermost one apart. -/
abbrev Reading := Group × List Group

/-- Read one more character. -/
def readNext : Reading → Char → Option Reading
  | (g, outer), c =>
    if c = '(' then some ({}, g :: outer)
    else if c = '|' then some ({ earlier? := some g.close }, outer)
    else if c = ')' then
      match outer with
      | [] => none
      | above :: outer => some (above.append g.close, outer)
    else if isSpecial c then none
    else some (g.append (.char c), outer)

/-- The expression of which some characters are the written form, if they are characters, groups
and bars alone. -/
def read? (cs : List Char) : Option Regex := do
  let (g, outer) ← cs.foldlM readNext ({}, [])
  if outer.isEmpty then some g.close else none

/-- Wherever the characters stand, they go on with the sequence, which then also matches what they
are the written form of. -/
def ReadsAs (cs : List Char) (matched : List Char → Prop) : Prop :=
  ∀ (g : Group) (outer : List Group), ∃ r,
    cs.foldlM readNext (g, outer) = some ({ g with sequence := r }, outer) ∧
      ∀ s, r.Matches s ↔ ∃ t u, s = t ++ u ∧ g.sequence.Matches t ∧ matched u

variable {cs ds : List Char} {p q : List Char → Prop}

theorem readsAs_nil : ReadsAs [] (· = []) :=
  fun g _ => ⟨g.sequence, rfl, by simp⟩

theorem readsAs_singleton {c : Char} (h : isSpecial c = false) : ReadsAs [c] (· = [c]) := by
  intro g outer
  refine ⟨.sequence g.sequence (.char c), ?_, ?_⟩
  · have hopen : c ≠ '(' := by rintro rfl; cases h
    have hbar : c ≠ '|' := by rintro rfl; cases h
    have hclose : c ≠ ')' := by rintro rfl; cases h
    simp [readNext, hopen, hbar, hclose, h, Group.append]
  · simp only [matches_sequence_iff, matches_char_iff, implies_true]

/-- One written form after another stands for one match after another. -/
theorem ReadsAs.append (hcs : ReadsAs cs p) (hds : ReadsAs ds q) :
    ReadsAs (cs ++ ds) fun s => ∃ t u, s = t ++ u ∧ p t ∧ q u := by
  intro g outer
  obtain ⟨r, hr, hmatches⟩ := hcs g outer
  obtain ⟨r', hr', hmatches'⟩ := hds { g with sequence := r } outer
  refine ⟨r', ?_, fun s => ?_⟩
  · rw [List.foldlM_append, hr]
    exact hr'
  · simp only [hmatches', hmatches]
    constructor
    · rintro ⟨_, w, rfl, ⟨t, u, rfl, ht, hu⟩, hw⟩
      exact ⟨t, u ++ w, List.append_assoc t u w, ht, u, w, rfl, hu, hw⟩
    · rintro ⟨t, _, rfl, ht, u, w, rfl, hu, hw⟩
      exact ⟨t ++ u, w, (List.append_assoc t u w).symm, ⟨t, u, rfl, ht, hu⟩, hw⟩

theorem ReadsAs.congr (hcs : ReadsAs cs p) (h : ∀ s, p s ↔ q s) : ReadsAs cs q := by
  obtain rfl : p = q := funext fun s => propext (h s)
  exact hcs

/-- Text of characters that stand for themselves. -/
def IsPlain (text : String) : Prop :=
  ∀ c ∈ text.toList, isSpecial c = false

theorem isPlain_iff_any {text : String} : IsPlain text ↔ text.toList.any isSpecial = false := by
  simp [IsPlain]

/-- Such text stands for itself. -/
theorem readsAs_of_plain (h : ∀ c ∈ cs, isSpecial c = false) : ReadsAs cs (· = cs) := by
  induction cs with
  | nil => exact readsAs_nil
  | cons c cs ih =>
    obtain ⟨hc, hcs⟩ := List.forall_mem_cons.1 h
    refine ((readsAs_singleton hc).append (ih hcs)).congr fun s => ?_
    simp

/-- A group of alternatives, from behind its opening on: it matches what it did in front of the last
bar, and each of the alternatives. -/
theorem exists_foldlM_alternatives {alternatives : List String} (hne : alternatives ≠ [])
    (hplain : ∀ text ∈ alternatives, IsPlain text) (earlier? : Option Regex)
    (outer : List Group) :
    ∃ g, (['|'].intercalate (alternatives.map String.toList)).foldlM readNext
        ({ earlier? }, outer) = some (g, outer) ∧
      ∀ s, g.close.Matches s ↔
        (∃ r ∈ earlier?, r.Matches s) ∨ ∃ text ∈ alternatives, s = text.toList := by
  induction alternatives generalizing earlier? with
  | nil => exact absurd rfl hne
  | cons text alternatives ih =>
    obtain ⟨htext, hrest⟩ := List.forall_mem_cons.1 hplain
    -- The first alternative is the whole sequence behind the last bar.
    obtain ⟨r, hr, hmatches⟩ := readsAs_of_plain htext { earlier? } outer
    have hclose (s : List Char) : (Group.mk earlier? r).close.Matches s ↔
        (∃ r ∈ earlier?, r.Matches s) ∨ s = text.toList := by
      have hsequence : r.Matches s ↔ s = text.toList := by
        rw [hmatches]
        simp [matches_empty_iff]
      cases earlier? with
      | none => simp [Group.close, hsequence]
      | some earlier => simp [Group.close, matches_either_iff, hsequence]
    cases alternatives with
    | nil =>
      refine ⟨⟨earlier?, r⟩, ?_, fun s => ?_⟩
      · rw [List.map_singleton, List.intercalate_singleton]
        exact hr
      · simp [hclose]
    | cons next alternatives =>
      obtain ⟨g, hg, hgmatches⟩ := ih (List.cons_ne_nil _ _) hrest
        (some (Group.mk earlier? r).close)
      refine ⟨g, ?_, fun s => ?_⟩
      · rw [List.map_cons, List.map_cons, List.intercalate_cons_cons, List.append_assoc,
          List.foldlM_append, hr]
        exact hg
      · rw [hgmatches]
        simp [hclose, or_assoc]

/-- A group of alternatives stands for each of them. -/
theorem readsAs_group {alternatives : List String} (hne : alternatives ≠ [])
    (hplain : ∀ text ∈ alternatives, IsPlain text) :
    ReadsAs ('(' :: ['|'].intercalate (alternatives.map String.toList) ++ [')'])
      fun s => ∃ text ∈ alternatives, s = text.toList := by
  intro above outer
  obtain ⟨g, hg, hmatches⟩ := exists_foldlM_alternatives hne hplain none (above :: outer)
  refine ⟨.sequence above.sequence g.close, ?_, ?_⟩
  · have hopen : readNext (above, outer) '(' = some ({}, above :: outer) := rfl
    rw [List.cons_append, List.foldlM_cons, hopen, Option.bind_eq_bind, Option.bind_some,
      List.foldlM_append, hg]
    rfl
  · simp only [matches_sequence_iff, hmatches]
    simp

end Regex

namespace Pattern

/-- There is no special character in the texts of the pattern, and an alternative in each group. -/
def IsPlain : Pattern → Prop
  | literal text => Regex.IsPlain text
  | anyOf alternatives => alternatives ≠ [] ∧ ∀ text ∈ alternatives, Regex.IsPlain text
  | followedBy first second => first.IsPlain ∧ second.IsPlain

variable {pattern first second : Pattern} {text : String}

theorem matches_literal_iff {t : String} : (literal text).Matches t ↔ t = text := by
  constructor
  · rintro ⟨⟩
    rfl
  · rintro rfl
    exact .literal t

theorem matches_anyOf_iff {alternatives : List String} :
    (anyOf alternatives).Matches text ↔ text ∈ alternatives := by
  constructor
  · rintro (_ | h)
    exact h
  · exact .anyOf

theorem matches_followedBy_iff : (followedBy first second).Matches text ↔
    ∃ s t, text = s ++ t ∧ first.Matches s ∧ second.Matches t := by
  constructor
  · rintro (_ | _ | ⟨left, right⟩)
    exact ⟨_, _, rfl, left, right⟩
  · rintro ⟨s, t, rfl, left, right⟩
    exact .followedBy left right

/-- The written form of a pattern stands for what the pattern matches. -/
theorem readsAs_render (h : pattern.IsPlain) :
    Regex.ReadsAs pattern.render.toList fun s => pattern.Matches (String.ofList s) := by
  induction pattern with
  | literal text =>
    refine (Regex.readsAs_of_plain h).congr fun s => ?_
    rw [matches_literal_iff, ← String.toList_inj, String.toList_ofList]
  | anyOf alternatives =>
    have hrender : (anyOf alternatives).render.toList =
        '(' :: ['|'].intercalate (alternatives.map String.toList) ++ [')'] := by
      rw [render, String.toList_append, String.toList_append, String.toList_intercalate]
      rfl
    rw [hrender]
    refine (Regex.readsAs_group h.1 h.2).congr fun s => ?_
    rw [matches_anyOf_iff]
    constructor
    · rintro ⟨text, htext, rfl⟩
      rwa [String.ofList_toList]
    · intro hs
      exact ⟨_, hs, String.toList_ofList.symm⟩
  | followedBy first second ihFirst ihSecond =>
    rw [render, String.toList_append]
    refine ((ihFirst h.1).append (ihSecond h.2)).congr fun s => ?_
    rw [matches_followedBy_iff]
    constructor
    · rintro ⟨t, u, rfl, ht, hu⟩
      exact ⟨_, _, String.ofList_append, ht, hu⟩
    · rintro ⟨t, u, hs, ht, hu⟩
      refine ⟨t.toList, u.toList, ?_, ?_, ?_⟩
      · rw [← String.toList_append, ← hs, String.toList_ofList]
      · rwa [String.ofList_toList]
      · rwa [String.ofList_toList]

/-- The written form of a pattern is one of an expression that matches what the pattern does. -/
theorem exists_read?_render (h : pattern.IsPlain) :
    ∃ regex, Regex.read? pattern.render.toList = some regex ∧
      ∀ text : String, regex.Matches text.toList ↔ pattern.Matches text := by
  obtain ⟨regex, hregex, hmatches⟩ := readsAs_render h {} []
  refine ⟨regex, ?_, fun text => ?_⟩
  · rw [Regex.read?, hregex]
    rfl
  · rw [hmatches]
    simp [Regex.matches_empty_iff]

/-! ## The filter -/

theorem isPlain_compileMnemonic : compileMnemonic.IsPlain := by
  have hnames (kind : Kind) : Regex.IsPlain kind.name := by
    rw [Regex.isPlain_iff_any]
    cases kind <;> decide +kernel
  have hending : Regex.IsPlain "Compile" := by
    rw [Regex.isPlain_iff_any]
    decide +kernel
  refine ⟨⟨List.cons_ne_nil _ _, fun text htext => ?_⟩, hending⟩
  obtain ⟨kind, -, rfl⟩ := List.mem_map.1 htext
  exact hnames kind

/-- The mnemonic of a kind is its name with one ending for all kinds. -/
theorem name_append_eq_mnemonic (kind : Kind) : kind.name ++ "Compile" = kind.mnemonic := by
  cases kind <;> rfl

theorem matches_compileMnemonic_iff {mnemonic : String} :
    compileMnemonic.Matches mnemonic ↔ ∃ kind, Kind.ofMnemonic? mnemonic = some kind := by
  simp only [compileMnemonic, matches_followedBy_iff, matches_anyOf_iff, matches_literal_iff,
    List.mem_map, Kind.ofMnemonic?_eq_some_iff]
  constructor
  · rintro ⟨_, _, rfl, ⟨kind, -, rfl⟩, rfl⟩
    exact ⟨kind, name_append_eq_mnemonic kind⟩
  · rintro ⟨kind, rfl⟩
    refine ⟨kind.name, "Compile", (name_append_eq_mnemonic kind).symm, ⟨kind, ?_, rfl⟩, rfl⟩
    cases kind <;> decide

end Pattern

/-! ## The actions that are reported -/

/-- An action with a command has a mnemonic with a kind. -/
theorem Command.exists_kind_of_ofAction? {workspace : String} {action : Action} {command : Command}
    (h : ofAction? workspace action = some command) :
    ∃ kind, Kind.ofMnemonic? action.mnemonic = some kind := by
  obtain ⟨found, hfound, -⟩ := Option.map_eq_some_iff.1 h
  exact ⟨found.kind, (classify?_eq_some_iff.1 hfound).1⟩

/-- Actions without a command do not count. -/
theorem Database.assemble_filter {workspace : String} {p : Action → Bool} {actions : List Action}
    (h : ∀ action command, Command.ofAction? workspace action = some command → p action = true) :
    assemble workspace (actions.filter p) = assemble workspace actions := by
  rw [assemble, assemble, List.filterMap_filter]
  refine List.filterMap_congr fun action _ => ?_
  cases hp : p action with
  | true => rfl
  | false =>
    refine (Option.eq_none_iff_forall_ne_some.2 fun command hcommand => ?_).symm
    rw [h action command hcommand] at hp
    cases hp

namespace Query

/-- The filter in the query is the written form of a regular expression that matches the mnemonics
that have a kind and no others. So the actions that it matches have all the commands that there are,
and no action with a command is kept back. -/
theorem exists_regex_of_filter :
    (∀ target, wrap target =
      "mnemonic(\"" ++ Pattern.compileMnemonic.render ++ "\", " ++ target ++ ")") ∧
    Pattern.compileMnemonic.render = "(Cpp|Objc|Cuda)Compile" ∧
    ∃ regex, Regex.read? Pattern.compileMnemonic.render.toList = some regex ∧
      (∀ mnemonic : String,
        regex.Matches mnemonic.toList ↔ (Kind.ofMnemonic? mnemonic).isSome = true) ∧
      (∀ (workspace : String) (actions : List Action),
        Database.assemble workspace (actions.filter (regex.Matches ·.mnemonic.toList)) =
          Database.assemble workspace actions) ∧
      ∀ (workspace : String) (action : Action) (command : Command),
        Command.ofAction? workspace action = some command →
          regex.Matches action.mnemonic.toList := by
  obtain ⟨regex, hread, hregex⟩ := Pattern.exists_read?_render Pattern.isPlain_compileMnemonic
  have hkind (mnemonic : String) :
      regex.Matches mnemonic.toList ↔ ∃ kind, Kind.ofMnemonic? mnemonic = some kind :=
    (hregex mnemonic).trans Pattern.matches_compileMnemonic_iff
  have hreported (workspace : String) (action : Action) (command : Command)
      (h : Command.ofAction? workspace action = some command) :
      regex.Matches action.mnemonic.toList :=
    (hkind _).2 (Command.exists_kind_of_ofAction? h)
  refine ⟨fun _ => rfl, rfl, regex, hread, fun mnemonic => ?_, fun workspace actions => ?_,
    hreported⟩
  · rw [hkind, Option.isSome_iff_exists]
  · exact Database.assemble_filter fun action command h =>
      decide_eq_true (hreported workspace action command h)

/-- Neither a part of a mnemonic nor more than one is matched. -/
example : ∃ regex, Regex.read? Pattern.compileMnemonic.render.toList = some regex ∧
    regex.Matches "ObjcCompile".toList ∧ ¬ regex.Matches "Cpp".toList ∧
      ¬ regex.Matches "CppCompileCompile".toList := by
  refine ⟨_, rfl, ?_⟩
  decide +kernel

end Query

end CompileCommands
