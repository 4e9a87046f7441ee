import Mathlib.Data.List.ReduceOption
import CompileCommands.CommandLine

/-!
# Which settings count

Settings may be said in four places: in a file in the home directory, in a file in the current
directory, by an option and by the arguments for the build tool. Each of the three settings has a
rule of its own for the place that counts, and a file that can be read and is no settings ends it
all, the one in the home directory first.

* `Finding`: what there is where settings are looked for.
* `IsEffective`: the settings that count, given what is said in the four places.
* `IsOutcome`: settings that count, or the error of a malformed file.
* `runOn_config_eq_iff`: the settings are found as these rules say, and no file changes.
-/

namespace CompileCommands

namespace Config

open CommandLine (Options)

/-! ## The rules -/

/-- What there is where settings are looked for. -/
inductive Finding where
  /-- No file that can be read. -/
  | unreadable
  /-- A file that is no settings. -/
  | malformed (cause : SettingsError)
  /-- A file that says some settings. -/
  | settings (layer : Layer)
  deriving DecidableEq, Repr

/-- What there is at a path. -/
def Finding.ofFile (host : Host) (fs : FileSystem) (path : String) : Finding :=
  match fs.readText? host.directory path with
  | none => .unreadable
  | some text =>
    match Settings.ofText text with
    | .ok layer => .settings layer
    | .error cause => .malformed cause

/-- The settings that are said unless a file is malformed. No settings are said where no file can be
read. -/
def Finding.said? : Finding → Option Layer
  | unreadable => some {}
  | malformed _ => none
  | settings layer => some layer

/-- The list that counts: the arguments if there are any, or else the list of the current directory
if there is one, be it empty, or else that of the home directory. -/
def prevailing : (given : List String) → (here home : Option (List String)) → Option (List String)
  | item :: items, _, _ => some (item :: items)
  | [], some items, _ => some items
  | [], none, home => home

/-- The settings that count under some options, given what the files in the home directory and in
the current directory say. -/
structure IsEffective (options : Options) (home here : Layer) (config : Config) : Prop where
  /-- The build tool is the first one whose name is not empty. -/
  bazel : config.bazel =
    ([options.bazel, here.bazel, home.bazel].reduceOption.find? (· ≠ "")).getD "bazel"
  /-- There are no flags if nobody says any. -/
  bazelFlags : config.bazelFlags =
    (prevailing (Arguments.split options.bazelArguments).1 here.bazelFlags home.bazelFlags).getD []
  /-- If nobody says a target, or the list that counts is empty, everything is asked for. -/
  targets : config.targets =
    match prevailing (Arguments.split options.bazelArguments).2 here.targets home.targets with
    | some (target :: targets) => target :: targets
    | _ => ["//..."]

/-- What comes of the two files. -/
inductive IsOutcome (options : Options) (homePath herePath : String) :
    (home here : Finding) → Except Failure Config → Prop
  /-- The file in the home directory is malformed. -/
  | malformedHome {cause : SettingsError} {here : Finding} :
      IsOutcome options homePath herePath (.malformed cause) here
        (.error (.badSettings homePath cause))
  /-- The file in the current directory is malformed, and the one in the home directory is not. -/
  | malformedHere {home : Finding} {cause : SettingsError} {lower : Layer} :
      home.said? = some lower →
      IsOutcome options homePath herePath home (.malformed cause)
        (.error (.badSettings herePath cause))
  /-- No file is malformed. -/
  | effective {home here : Finding} {lower upper : Layer} {config : Config} :
      home.said? = some lower → here.said? = some upper →
      IsEffective options lower upper config →
      IsOutcome options homePath herePath home here (.ok config)

/-! ## Merging -/

/-- The first name that is not empty is the first one of the list, unless that is empty or
absent. -/
theorem find?_reduceOption_cons (name : Option String) (names : List (Option String)) :
    (name :: names).reduceOption.find? (· ≠ "") =
      (name.filter (· ≠ "")).or (names.reduceOption.find? (· ≠ "")) := by
  cases name with
  | none => rfl
  | some name =>
    rw [List.reduceOption_cons_of_some, List.find?_cons, Option.filter_some]
    by_cases h : name = ""
    · simp [h]
    · simp [h]

/-- A name that is not empty stays when empty names are dropped. -/
theorem filter_find? (names : List String) :
    (names.find? (· ≠ "")).filter (· ≠ "") = names.find? (· ≠ "") := by
  cases h : names.find? (· ≠ "") with
  | none => rfl
  | some name =>
    have hname := List.find?_some h
    exact Option.filter_some_pos hname

/-- Lists are merged so that the one that counts is left. -/
theorem unlessEmpty_or (given : List String) (here home : Option (List String)) :
    (Layer.unlessEmpty given).or (here.or home) = prevailing given here home := by
  cases given with
  | cons item items => rfl
  | nil =>
    cases here with
    | some items => rfl
    | none => rfl

/-- Merging in the order of the places, and then the defaults, gives the settings that count. -/
theorem isEffective_resolveOver (options : Options) (home here : Layer) :
    IsEffective options home here
      (options.resolveOver ((({} : Layer).merge home).merge here)) := by
  refine ⟨?_, ?_, ?_⟩
  · have hnames : ((options.bazel.filter (· ≠ "")).or ((here.bazel.filter (· ≠ "")).or
        ((home.bazel.filter (· ≠ "")).or none))) =
          [options.bazel, here.bazel, home.bazel].reduceOption.find? (· ≠ "") := by
      rw [find?_reduceOption_cons, find?_reduceOption_cons, find?_reduceOption_cons]
      rfl
    rw [← filter_find?, ← hnames]
    rfl
  · simp only [Options.resolveOver, Layer.resolve, Layer.merge, Layer.ofArguments, Option.none_or,
      Option.or_none, unlessEmpty_or]
  · simp only [Options.resolveOver, Layer.resolve, Layer.merge, Layer.ofArguments, Option.none_or,
      Option.or_none, unlessEmpty_or]
    rcases prevailing _ here.targets home.targets with _ | _ | ⟨target, targets⟩
    · rfl
    · rfl
    · rfl

/-- An empty list in the current directory hides the list of the home directory. -/
example : ((({} : Layer).merge { targets := some ["//a"] }).merge { targets := some [] }).resolve =
    ⟨"bazel", [], ["//..."]⟩ := rfl

/-- What is said in the four places leaves no choice. -/
theorem IsEffective.unique {options : Options} {home here : Layer} {config config' : Config}
    (h : IsEffective options home here config) (h' : IsEffective options home here config') :
    config = config' := by
  obtain ⟨bazel, bazelFlags, targets⟩ := config
  obtain ⟨bazel', bazelFlags', targets'⟩ := config'
  obtain rfl : bazel = bazel' := h.bazel.trans h'.bazel.symm
  obtain rfl : bazelFlags = bazelFlags' := h.bazelFlags.trans h'.bazelFlags.symm
  obtain rfl : targets = targets' := h.targets.trans h'.targets.symm
  rfl

/-! ## Files -/

section Files

variable {host : Host} {journal : Journal} {layer : Layer} {path : String} {rest : List String}

/-- A file is only looked at. -/
theorem runOn_load? (host : Host) (path : String) (journal : Journal) :
    (Layer.load? host path).runOn journal =
      match Finding.ofFile host journal.now path with
      | .unreadable => (.ok none, journal)
      | .malformed cause => (.error (.badSettings path cause), journal)
      | .settings layer => (.ok (some layer), journal) := by
  simp only [Layer.load?, Finding.ofFile, FileTask.runOn_bind, FileTask.runOn_look]
  cases journal.now.readText? host.directory path with
  | none => rfl
  | some text =>
    dsimp only
    cases Settings.ofText text with
    | ok layer => rfl
    | error cause => rfl

/-- A malformed file ends the search. -/
theorem runOn_loadOver_of_malformed {cause : SettingsError}
    (h : Finding.ofFile host journal.now path = .malformed cause) :
    (Layer.loadOver host layer (path :: rest)).runOn journal =
      (.error (.badSettings path cause), journal) := by
  rw [Layer.loadOver, FileTask.runOn_bind, runOn_load?, h]

/-- What a file says goes over what was said before. -/
theorem runOn_loadOver_of_said {found : Layer}
    (h : (Finding.ofFile host journal.now path).said? = some found) :
    (Layer.loadOver host layer (path :: rest)).runOn journal =
      (Layer.loadOver host (layer.merge found) rest).runOn journal := by
  rw [Layer.loadOver, FileTask.runOn_bind, runOn_load?]
  cases hfile : Finding.ofFile host journal.now path with
  | unreadable =>
    rw [hfile] at h
    cases h
    rfl
  | malformed cause =>
    rw [hfile] at h
    cases h
  | settings layer =>
    rw [hfile] at h
    cases h
    rfl

end Files

/-- A file is malformed, or it says some settings. -/
theorem Finding.malformed_or_said (finding : Finding) :
    (∃ cause, finding = .malformed cause) ∨ ∃ layer, finding.said? = some layer := by
  cases finding with
  | unreadable => exact .inr ⟨{}, rfl⟩
  | malformed cause => exact .inl ⟨cause, rfl⟩
  | settings layer => exact .inr ⟨layer, rfl⟩

/-! ## The search -/

section Search

variable {options : Options} {host : Host} {journal : Journal}

/-- The search ends in one of the ways in which it may, and no file changes. -/
theorem exists_isOutcome (options : Options) (host : Host) (journal : Journal) :
    ∃ result, (options.config host).runOn journal = (result, journal) ∧
      IsOutcome options (Path.join host.homeDirectory ".bazel-compdb")
        (Path.join (FileSystem.pathOf host.directory) ".bazel-compdb")
        (.ofFile host journal.now (Path.join host.homeDirectory ".bazel-compdb"))
        (.ofFile host journal.now (Path.join (FileSystem.pathOf host.directory) ".bazel-compdb"))
        result := by
  simp only [Options.config, Layer.discover, Layer.homeFile, Path.settings, Path.settingsName,
    FileTask.runOn_bind]
  generalize Path.join host.homeDirectory ".bazel-compdb" = homePath
  generalize Path.join (FileSystem.pathOf host.directory) ".bazel-compdb" = herePath
  -- The file in the home directory comes first.
  rcases (Finding.ofFile host journal.now homePath).malformed_or_said with
    ⟨cause, hhome⟩ | ⟨lower, hhome⟩
  · rw [runOn_loadOver_of_malformed hhome, hhome]
    exact ⟨_, rfl, .malformedHome⟩
  rw [runOn_loadOver_of_said hhome]
  rcases (Finding.ofFile host journal.now herePath).malformed_or_said with
    ⟨cause, hhere⟩ | ⟨upper, hhere⟩
  · rw [runOn_loadOver_of_malformed hhere, hhere]
    exact ⟨_, rfl, .malformedHere hhome⟩
  · rw [runOn_loadOver_of_said hhere]
    exact ⟨_, rfl, .effective hhome hhere (isEffective_resolveOver options lower upper)⟩

/-- What is found in the two files leaves no choice. -/
theorem IsOutcome.unique {homePath herePath : String} {home here : Finding}
    {result result' : Except Failure Config}
    (h : IsOutcome options homePath herePath home here result)
    (h' : IsOutcome options homePath herePath home here result') : result = result' := by
  cases h with
  | malformedHome =>
    cases h' with
    | malformedHome => rfl
    | malformedHere hhome => cases hhome
    | effective hhome _ _ => cases hhome
  | malformedHere hhome =>
    cases h' with
    | malformedHome => cases hhome
    | malformedHere _ => rfl
    | effective _ hhere _ => cases hhere
  | effective hhome hhere heffective =>
    cases h' with
    | malformedHome => cases hhome
    | malformedHere _ => cases hhere
    | effective hhome' hhere' heffective' =>
      cases hhome.symm.trans hhome'
      cases hhere.symm.trans hhere'
      rw [heffective.unique heffective']

/-- The settings under some options are those that count, given what is in the file of settings in
the home directory and in that in the current directory, unless one of them can be read and is
malformed. No file changes. -/
theorem runOn_config_eq_iff {result : Except Failure Config} {after : Journal} :
    (options.config host).runOn journal = (result, after) ↔
      after = journal ∧
        IsOutcome options (Path.join host.homeDirectory ".bazel-compdb")
          (Path.join (FileSystem.pathOf host.directory) ".bazel-compdb")
          (.ofFile host journal.now (Path.join host.homeDirectory ".bazel-compdb"))
          (.ofFile host journal.now (Path.join (FileSystem.pathOf host.directory) ".bazel-compdb"))
          result := by
  obtain ⟨found, hrun, hfound⟩ := exists_isOutcome options host journal
  rw [hrun]
  constructor
  · rintro h
    cases h
    exact ⟨rfl, hfound⟩
  · rintro ⟨rfl, hresult⟩
    rw [hfound.unique hresult]

/-- A host whose home directory is not the current directory. -/
def sampleHost : Host := { directory := ["ws"], home := "/home" }

/-- The two files of settings of that host. -/
def sampleFiles (home here : String) : FileSystem := ⟨[
  (["home"], .directory), (["home", ".bazel-compdb"], .file (Text.Utf8.encode home) false),
  (["ws"], .directory), (["ws", ".bazel-compdb"], .file (Text.Utf8.encode here) false)]⟩

/-- The file in the current directory goes over that in the home directory: its empty list hides the
targets there, while its empty name says nothing. If both are malformed, the error is that of the
one in the home directory; if only the one in the current directory is, it is its own. -/
theorem runOn_config_of_two_files :
    let merged := sampleFiles "bazel: b\ntargets: [//a]\n" "bazel: ''\ntargets: []\n"
    let bothMalformed := sampleFiles "[]\n" "[]\n"
    let hereMalformed := sampleFiles "bazel: b\n" "[]\n"
    let cause : SettingsError := .complaint .top (.wrongType .sequence .layer) ⟨0, 0, 0⟩
    (({ bazelArguments := ["-k"] } : Options).config sampleHost).runOn ⟨merged, []⟩ =
        (.ok ⟨"b", ["-k"], ["//..."]⟩, ⟨merged, []⟩) ∧
      (({} : Options).config sampleHost).runOn ⟨bothMalformed, []⟩ =
        (.error (.badSettings "/home/.bazel-compdb" cause), ⟨bothMalformed, []⟩) ∧
      (({} : Options).config sampleHost).runOn ⟨hereMalformed, []⟩ =
        (.error (.badSettings "/ws/.bazel-compdb" cause), ⟨hereMalformed, []⟩) := by
  intro merged bothMalformed hereMalformed cause
  have hhomePath : Path.join sampleHost.homeDirectory ".bazel-compdb" = "/home/.bazel-compdb" := by
    decide +kernel
  have hherePath : Path.join (FileSystem.pathOf sampleHost.directory) ".bazel-compdb" =
      "/ws/.bazel-compdb" := by decide +kernel
  refine ⟨runOn_config_eq_iff.2 ⟨rfl, ?_⟩, runOn_config_eq_iff.2 ⟨rfl, ?_⟩,
    runOn_config_eq_iff.2 ⟨rfl, ?_⟩⟩
  · have hhome : Finding.ofFile sampleHost merged "/home/.bazel-compdb" =
        .settings { bazel := some "b", targets := some ["//a"] } := by decide +kernel
    have hhere : Finding.ofFile sampleHost merged "/ws/.bazel-compdb" =
        .settings { bazel := some "", targets := some [] } := by decide +kernel
    rw [hhomePath, hherePath, hhome, hhere]
    exact .effective rfl rfl ⟨rfl, rfl, rfl⟩
  · have hhome : Finding.ofFile sampleHost bothMalformed "/home/.bazel-compdb" =
        .malformed cause := by decide +kernel
    rw [hhomePath, hherePath, hhome]
    exact .malformedHome
  · have hhome : Finding.ofFile sampleHost hereMalformed "/home/.bazel-compdb" =
        .settings { bazel := some "b" } := by decide +kernel
    have hhere : Finding.ofFile sampleHost hereMalformed "/ws/.bazel-compdb" =
        .malformed cause := by decide +kernel
    rw [hhomePath, hherePath, hhome, hhere]
    exact .malformedHere rfl

end Search

end Config

end CompileCommands
