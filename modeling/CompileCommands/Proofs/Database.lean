import CompileCommands.Database
import CompileCommands.Proofs.Compile.Output
import CompileCommands.Proofs.Compile.Source

/-!
# The records of a database

A database has one record for every action that names a compiler, a source and an output, in the
order of the actions, and no other record.

* `Command.ofAction?_eq_some_iff`: the record of one action.
* `Database.assemble_eq_iff`: the records of a list of actions.
-/

namespace CompileCommands

/-- The mnemonics of the compile actions, each with the extensions of its sources. -/
def compileMnemonics : List (String × List String) :=
  [("CppCompile", ["c", "cc", "cpp", "cxx", "c++"]),
    ("ObjcCompile", ["c", "cc", "cpp", "cxx", "c++", "m", "mm"]),
    ("CudaCompile", ["cu", "cc", "cpp"])]

/-- The action has the mnemonic of a compile action, some argument names a source for it, and the
value that fires first is not empty. -/
def Qualifies (action : Action) : Prop :=
  ∃ extensions, (action.mnemonic, extensions) ∈ compileMnemonics ∧
    (∃ argument ∈ action.arguments, NamesSource extensions argument) ∧
    ∃ value, FiresFirst action.arguments value ∧ value ≠ ""

/-- The command records the action: its command line as it is, the first argument that names a
source, and the value that fires first. -/
def Records (workspace : String) (action : Action) (command : Command) : Prop :=
  command.directory = workspace ∧ command.arguments = action.arguments ∧
    (∃ extensions, (action.mnemonic, extensions) ∈ compileMnemonics ∧
      IsFirstSource extensions action.arguments command.file) ∧
    FiresFirst action.arguments command.output

/-- The commands record the actions that qualify, one by one and in order. -/
inductive IsDatabase (workspace : String) : List Action → List Command → Prop where
  /-- No action, no command. -/
  | nil : IsDatabase workspace [] []
  /-- An action that qualifies has a command of its own. -/
  | record {action command actions commands} (hqualifies : Qualifies action)
      (hrecords : Records workspace action command)
      (hrest : IsDatabase workspace actions commands) :
      IsDatabase workspace (action :: actions) (command :: commands)
  /-- Any other action has none. -/
  | skip {action actions commands} (hqualifies : ¬ Qualifies action)
      (hrest : IsDatabase workspace actions commands) :
      IsDatabase workspace (action :: actions) commands

/-- The kinds are the entries of the table of mnemonics. -/
theorem mem_compileMnemonics_iff {mnemonic : String} {extensions : List String} :
    (mnemonic, extensions) ∈ compileMnemonics ↔
      ∃ kind, Kind.ofMnemonic? mnemonic = some kind ∧ kind.extensions = extensions := by
  simp only [compileMnemonics, List.mem_cons, Prod.mk.injEq, List.not_mem_nil, or_false,
    Kind.ofMnemonic?_eq_some_iff]
  constructor
  · rintro (⟨rfl, rfl⟩ | ⟨rfl, rfl⟩ | ⟨rfl, rfl⟩)
    · exact ⟨.cpp, rfl, rfl⟩
    · exact ⟨.objc, rfl, rfl⟩
    · exact ⟨.cuda, rfl, rfl⟩
  · rintro ⟨kind, rfl, rfl⟩
    cases kind
    case cpp => exact .inl ⟨rfl, rfl⟩
    case objc => exact .inr (.inl ⟨rfl, rfl⟩)
    case cuda => exact .inr (.inr ⟨rfl, rfl⟩)

/-- A classification names the kind, the source and the output. -/
theorem classify?_eq_some_iff {mnemonic : String} {arguments : List String}
    {found : Classification} :
    classify? mnemonic arguments = some found ↔ Kind.ofMnemonic? mnemonic = some found.kind ∧
      found.kind.source? arguments = some found.source ∧ output? arguments = some found.output := by
  simp only [classify?, Option.bind_eq_bind, Option.bind_eq_some_iff, Option.pure_def,
    Option.some.injEq]
  constructor
  · rintro ⟨kind, hkind, source, hsource, output, houtput, rfl⟩
    exact ⟨hkind, hsource, houtput⟩
  · rintro ⟨hkind, hsource, houtput⟩
    exact ⟨found.kind, hkind, found.source, hsource, found.output, houtput, rfl⟩

variable {workspace : String} {action : Action} {command : Command}

/-- An action that qualifies has a classification. -/
theorem Qualifies.exists_classify? (hqualifies : Qualifies action) :
    ∃ found, action.classify? = some found := by
  obtain ⟨extensions, hmnemonic, ⟨argument, hargument, hnames⟩, value, hfires⟩ := hqualifies
  obtain ⟨kind, hkind, rfl⟩ := mem_compileMnemonics_iff.1 hmnemonic
  obtain ⟨hoperand, hends⟩ := Kind.namesSource_iff.1 hnames
  have hsource : (kind.source? action.arguments).isSome :=
    List.find?_isSome.2 ⟨argument, List.mem_filter.2 ⟨hargument, hoperand⟩, hends⟩
  obtain ⟨source, hsource⟩ := Option.isSome_iff_exists.1 hsource
  exact ⟨⟨kind, source, value⟩,
    classify?_eq_some_iff.2 ⟨hkind, hsource, output?_eq_some_iff.2 hfires⟩⟩

namespace Command

/-- The command of an action is the one that records it, if the action qualifies. -/
theorem ofAction?_eq_some_iff :
    ofAction? workspace action = some command ↔
      Qualifies action ∧ Records workspace action command := by
  constructor
  · intro h
    obtain ⟨found, hfound, rfl⟩ := Option.map_eq_some_iff.1 h
    obtain ⟨hkind, hsource, houtput⟩ := classify?_eq_some_iff.1 hfound
    obtain ⟨hfires, hne⟩ := output?_eq_some_iff.1 houtput
    have hmnemonic := mem_compileMnemonics_iff.2 ⟨found.kind, hkind, rfl⟩
    have hfirst := Kind.source?_eq_some_iff.1 hsource
    exact ⟨⟨_, hmnemonic, hfirst.exists_namesSource, _, hfires, hne⟩,
      rfl, rfl, ⟨_, hmnemonic, hfirst⟩, hfires⟩
  · rintro ⟨hqualifies, hdirectory, harguments, ⟨extensions, hmnemonic, hfirst⟩, hfires⟩
    obtain ⟨-, -, -, value, hvalue, hne⟩ := hqualifies
    obtain ⟨kind, hkind, rfl⟩ := mem_compileMnemonics_iff.1 hmnemonic
    -- Only one value fires first, so it is both the one that is not empty and the output.
    obtain rfl := hvalue.unique hfires
    refine Option.map_eq_some_iff.2 ⟨⟨kind, command.file, command.output⟩, ?_, ?_⟩
    · exact classify?_eq_some_iff.2
        ⟨hkind, Kind.source?_eq_some_iff.2 hfirst, output?_eq_some_iff.2 ⟨hfires, hne⟩⟩
    · rw [← hdirectory, ← harguments]

/-- An action has no command exactly when it does not qualify. -/
theorem ofAction?_eq_none_iff : ofAction? workspace action = none ↔ ¬ Qualifies action := by
  constructor
  · intro h hqualifies
    obtain ⟨found, hfound⟩ := hqualifies.exists_classify?
    simp [ofAction?, hfound] at h
  · intro hqualifies
    rw [Option.eq_none_iff_forall_ne_some]
    exact fun command h => hqualifies (ofAction?_eq_some_iff.1 h).1

end Command

namespace Database

variable {actions : List Action} {commands : List Command}

/-- The database of some actions is made of the records of those that qualify. -/
theorem isDatabase_assemble (workspace : String) (actions : List Action) :
    IsDatabase workspace actions (assemble workspace actions) := by
  induction actions with
  | nil => exact .nil
  | cons action actions ih =>
    rw [assemble, List.filterMap_cons]
    split
    · next hnone => exact .skip (Command.ofAction?_eq_none_iff.1 hnone) ih
    · next command hcommand =>
      obtain ⟨hqualifies, hrecords⟩ := Command.ofAction?_eq_some_iff.1 hcommand
      exact .record hqualifies hrecords ih

/-- No other commands record the actions. -/
theorem assemble_eq_of_isDatabase (h : IsDatabase workspace actions commands) :
    assemble workspace actions = commands := by
  induction h with
  | nil => rfl
  | record hqualifies hrecords _ ih =>
    rw [assemble, List.filterMap_cons, Command.ofAction?_eq_some_iff.2 ⟨hqualifies, hrecords⟩]
    exact congrArg (_ :: ·) ih
  | skip hqualifies _ ih =>
    rw [assemble, List.filterMap_cons, Command.ofAction?_eq_none_iff.2 hqualifies]
    exact ih

/-- The database of some actions is the list of the records of those that qualify, where neither
`--output=` alone nor a flag without the argument after it fires. -/
theorem assemble_eq_iff (workspace : String) (actions : List Action) (commands : List Command) :
    (assemble workspace actions = commands ↔ IsDatabase workspace actions commands) ∧
      ∀ arguments index value, FiresAt arguments index value →
        ∃ argument, arguments[index]? = some argument ∧ argument ≠ "--output=" ∧
          (arguments[index + 1]? = none → argument ∉ separateFlags) := by
  refine ⟨⟨?_, assemble_eq_of_isDatabase⟩, ?_⟩
  · rintro rfl
    exact isDatabase_assemble workspace actions
  · rintro arguments index value ⟨argument, hargument, hfires⟩
    refine ⟨argument, hargument, ?_, ?_⟩
    · rintro rfl
      exact not_fires_longEquals hfires
    · intro hnone hflag
      rw [hnone] at hfires
      exact not_fires_none hflag hfires

end Database

end CompileCommands
