import CompileCommands.Proofs.CommandLine.Settings
import CompileCommands.Proofs.Generation

/-!
# How the command line ends

There are four ways to end. The arguments stop it, because they are wrong or ask for help or for the
version; a file of settings is malformed; the generation fails; or all is done. The exit code tells
wrong arguments and malformed settings, after which nothing has been touched, from a failure of the
generation.

* `HasMalformedSettings`: a file of settings can be read and is malformed.
* `run_of_stop`, `run_of_error`, `run_of_config`: how each of the stages ends it.
* `IsEnding`: what the exit code and the two outputs say, and what has not been touched.
* `isEnding_run`: the command line always ends so.
-/

namespace CompileCommands.CommandLine

variable {host : Host} {launch : Launch} {arguments : List String} {options : Options}
  {config : Config} {journal after : Journal} {ending : Ending}

/-! ## Malformed settings -/

/-- One of the files of settings can be read and is malformed. -/
def HasMalformedSettings (host : Host) (fs : FileSystem) : Prop :=
  ∃ path ∈ [Path.join host.homeDirectory ".bazel-compdb",
      Path.join (FileSystem.pathOf host.directory) ".bazel-compdb"],
    ∃ cause, Config.Finding.ofFile host fs path = .malformed cause

/-- A file that says some settings is not malformed. -/
theorem ne_malformed_of_said {finding : Config.Finding} {layer : Config.Layer}
    (h : finding.said? = some layer) (cause : Config.SettingsError) :
    finding ≠ .malformed cause := by
  rintro rfl
  cases h

/-- The settings are found unless a file is malformed. No file changes. -/
theorem runOn_config_cases (options : Options) (host : Host) (journal : Journal) :
    (HasMalformedSettings host journal.now ∧
      ∃ failure, (options.config host).runOn journal = (.error failure, journal)) ∨
    (¬ HasMalformedSettings host journal.now ∧
      ∃ config, (options.config host).runOn journal = (.ok config, journal)) := by
  obtain ⟨result, hrun, houtcome⟩ := Config.exists_isOutcome options host journal
  generalize hhome : Config.Finding.ofFile host journal.now
    (Path.join host.homeDirectory ".bazel-compdb") = home at houtcome
  generalize hhere : Config.Finding.ofFile host journal.now
    (Path.join (FileSystem.pathOf host.directory) ".bazel-compdb") = here at houtcome
  cases houtcome with
  | malformedHome => exact .inl ⟨⟨_, List.mem_cons_self, _, hhome⟩, _, hrun⟩
  | malformedHere _ =>
    exact .inl ⟨⟨_, List.mem_cons_of_mem _ List.mem_cons_self, _, hhere⟩, _, hrun⟩
  | effective hlower hupper _ =>
    refine .inr ⟨?_, _, hrun⟩
    rintro ⟨path, hpath, cause, hcause⟩
    rcases List.mem_pair.1 hpath with rfl | rfl
    · exact ne_malformed_of_said hlower cause (hhome.symm.trans hcause)
    · exact ne_malformed_of_said hupper cause (hhere.symm.trans hcause)

/-! ## Stages -/

/-- A second step goes on where the first one ends. -/
theorem run_bind_of_eq {σ α β : Type} {step : StateM σ α} {next : α → StateM σ β} {s s' : σ} {a : α}
    (h : step.run s = (a, s')) : (step >>= next).run s = (next a).run s' := by
  rw [StateT.run_bind, h]
  rfl

/-- The arguments may end it before anything is looked at. -/
theorem run_of_stop {stop : Stop} (hread : Options.read arguments = .error stop)
    (launch : Launch) (journal : Journal) :
    (run host launch arguments).run journal = (stop.ending, journal) := by
  rw [run, hread]
  rfl

/-- Settings that cannot be found end it before the build tool is located. -/
theorem run_of_error (hread : Options.read arguments = .ok options) {failure : Failure}
    (hconfig : (options.config host).runOn journal = (.error failure, journal))
    (launch : Launch) :
    (run host launch arguments).run journal =
      (failed 2 "failed to load config" failure, journal) := by
  rw [run, hread]
  exact run_bind_of_eq hconfig

/-- Once the settings are found, it ends as the generation does. -/
theorem run_of_config (hread : Options.read arguments = .ok options)
    (hconfig : (options.config host).runOn journal = (.ok config, journal)) (launch : Launch) :
    (run host launch arguments).run journal =
      match (generate host launch config).runOn journal with
      | (.error failure, after) =>
        (failed 1 "failed to generate compile_commands.json" failure, after)
      | (.ok summary, after) => ({ code := 0, output := report options.json summary }, after) := by
  rw [run, hread]
  refine (run_bind_of_eq hconfig).trans ?_
  rcases hgenerate : (generate host launch config).runOn journal with ⟨failure | summary, after⟩
  · exact run_bind_of_eq hgenerate
  · exact run_bind_of_eq hgenerate

/-! ## The two outputs -/

/-- The outputs go with the exit code. -/
structure Ending.IsReported (ending : Ending) : Prop where
  /-- There is something on the standard output exactly after a success. -/
  output_iff : ending.output ≠ "" ↔ ending.code = 0
  /-- There is something on the standard error exactly after a failure. -/
  complaints_iff : ending.complaints ≠ "" ↔ ending.code ≠ 0
  /-- Complaints say that there is an error. -/
  opening : ending.code ≠ 0 → Text.startsWith "error: " ending.complaints = true

/-- A success has an output and no complaints. -/
theorem isReported_of_output {output : String} (h : output ≠ "") :
    Ending.IsReported { code := 0, output } where
  output_iff := iff_of_true h rfl
  complaints_iff := iff_of_false (fun hne => hne rfl) (fun hne => hne rfl)
  opening := fun hne => absurd rfl hne

/-- A failure has complaints, which say that there is an error, and no output. -/
theorem isReported_of_complaints {code : Nat} (hcode : code ≠ 0) (rest : String) :
    Ending.IsReported { code, complaints := "error: " ++ rest } where
  output_iff := iff_of_false (fun hne => hne rfl) hcode
  complaints_iff := by
    refine iff_of_true (fun hempty => ?_) hcode
    exact absurd (String.append_eq_empty_iff.1 hempty).1 (by decide)
  opening := by
    intro _
    rw [Text.startsWith, Option.isSome_iff_exists]
    exact ⟨rest, Text.after?_eq_some_iff.2 rfl⟩

theorem isReported_stop (stop : Stop) : stop.ending.IsReported := by
  cases stop with
  | help => exact isReported_of_output (by decide)
  | version => exact isReported_of_output (by decide)
  | wrong e =>
    have hmessage : ∃ rest, e.message = "error: " ++ rest :=
      ⟨_, by simp only [UsageError.message, String.append_assoc]; rfl⟩
    obtain ⟨rest, hrest⟩ := hmessage
    rw [Stop.ending, hrest]
    exact isReported_of_complaints (by decide) rest

theorem isReported_failed {code : Nat} (hcode : code ≠ 0) (what : String) (failure : Failure) :
    (failed code what failure).IsReported := by
  rw [failed, String.append_assoc, String.append_assoc, String.append_assoc]
  exact isReported_of_complaints hcode _

theorem report_ne_empty (json : Bool) (summary : Summary) : report json summary ≠ "" := by
  intro hempty
  rw [report] at hempty
  split at hempty
  · exact absurd (String.append_eq_empty_iff.1 hempty).2 (by decide)
  · simp only [summaryText, String.append_assoc] at hempty
    exact absurd (String.append_eq_empty_iff.1 hempty).1 (by decide)

/-! ## Every end -/

/-- What an end of the command line says about its course. -/
structure IsEnding (host : Host) (launch : Launch) (arguments : List String) (journal : Journal)
    (ending : Ending) (after : Journal) : Prop where
  /-- The code is 2 exactly when the arguments are wrong, or can be read and a file of settings is
  malformed. -/
  rejected_iff : ending.code = 2 ↔ (∃ e, Options.read arguments = .error (.wrong e)) ∨
    (∃ options, Options.read arguments = .ok options) ∧ HasMalformedSettings host journal.now
  /-- The code is 1 exactly when the arguments and the settings are fine and the generation
  fails. -/
  failed_iff : ending.code = 1 ↔ ∃ options config failure, Options.read arguments = .ok options ∧
    ¬ HasMalformedSettings host journal.now ∧
    (options.config host).runOn journal = (.ok config, journal) ∧
    (generate host launch config).runOn journal = (.error failure, after)
  /-- Otherwise the code is 0. -/
  otherwise : ending.code ≠ 2 → ending.code ≠ 1 → ending.code = 0
  /-- After code 2, and when the arguments ask for help or for the version, no file has changed, and
  it would have ended in the same way whatever calls of programs do. -/
  untouched : (ending.code = 2 ∨ ∃ stop, Options.read arguments = .error stop) →
    after = journal ∧ ∀ other : Launch, (run host other arguments).run journal = (ending, journal)
  /-- The outputs go with the code. -/
  isReported : ending.IsReported

/-- The arguments end it: they are wrong, or ask for help or for the version. -/
theorem isEnding_of_stop {stop : Stop} (hread : Options.read arguments = .error stop) :
    IsEnding host launch arguments journal stop.ending journal where
  rejected_iff := by
    simp only [hread, Except.error.injEq, reduceCtorEq, exists_false, false_and, or_false]
    cases stop with
    | help => simp [Stop.ending]
    | version => simp [Stop.ending]
    | wrong e => simp [Stop.ending]
  failed_iff := by
    simp only [hread, reduceCtorEq, false_and, exists_false, iff_false]
    cases stop <;> simp [Stop.ending]
  otherwise := by
    cases stop <;> simp [Stop.ending]
  untouched := fun _ => ⟨rfl, fun other => run_of_stop hread other journal⟩
  isReported := isReported_stop stop

/-- A malformed file of settings ends it. -/
theorem isEnding_of_malformed (hread : Options.read arguments = .ok options)
    (hmalformed : HasMalformedSettings host journal.now) {failure : Failure}
    (hconfig : (options.config host).runOn journal = (.error failure, journal)) :
    IsEnding host launch arguments journal (failed 2 "failed to load config" failure) journal where
  rejected_iff := iff_of_true rfl (.inr ⟨⟨options, hread⟩, hmalformed⟩)
  failed_iff := by
    refine iff_of_false (by simp [failed]) ?_
    rintro ⟨_, _, _, -, hsettings, -⟩
    exact hsettings hmalformed
  otherwise := fun hcode => absurd rfl hcode
  untouched := fun _ => ⟨rfl, run_of_error hread hconfig⟩
  isReported := isReported_failed (by decide) _ failure

/-- With the settings, the generation ends it. -/
theorem isEnding_of_settings (hread : Options.read arguments = .ok options)
    (hsettings : ¬ HasMalformedSettings host journal.now)
    (hconfig : (options.config host).runOn journal = (.ok config, journal))
    (h : (run host launch arguments).run journal = (ending, after)) :
    IsEnding host launch arguments journal ending after := by
  -- Neither the arguments nor the settings can be blamed.
  have hblame : ¬ ((∃ e, Options.read arguments = .error (.wrong e)) ∨
      (∃ options, Options.read arguments = .ok options) ∧
        HasMalformedSettings host journal.now) := by
    rintro (⟨e, he⟩ | ⟨-, hmalformed⟩)
    · rw [hread] at he
      cases he
    · exact hsettings hmalformed
  have hstop : ¬ ∃ stop, Options.read arguments = .error stop := by
    rintro ⟨stop, hstop⟩
    rw [hread] at hstop
    cases hstop
  rw [run_of_config hread hconfig] at h
  rcases hgenerate : (generate host launch config).runOn journal with ⟨failure | summary, last⟩
  · rw [hgenerate] at h
    cases h
    refine ⟨iff_of_false (by simp [failed]) hblame, iff_of_true rfl ?_, ?_, ?_, ?_⟩
    · exact ⟨options, config, failure, hread, hsettings, hconfig, hgenerate⟩
    · exact fun _ hcode => absurd rfl hcode
    · rintro (hcode | hread')
      · cases hcode
      · exact absurd hread' hstop
    · exact isReported_failed (by decide) _ failure
  · rw [hgenerate] at h
    cases h
    refine ⟨iff_of_false (by simp) hblame, iff_of_false (by simp) ?_, ?_, ?_, ?_⟩
    · rintro ⟨options', config', failure, hread', -, hconfig', hgenerate'⟩
      -- The settings are the same, and with them the generation does not fail.
      obtain rfl : options = options' := Except.ok.inj (hread.symm.trans hread')
      rw [hconfig] at hconfig'
      cases hconfig'
      rw [hgenerate] at hgenerate'
      cases hgenerate'
    · exact fun _ _ => rfl
    · rintro (hcode | hread')
      · cases hcode
      · exact absurd hread' hstop
    · exact isReported_of_output (report_ne_empty options.json summary)

/-- The command line always ends with a code that says how far it came. -/
theorem isEnding_run (h : (run host launch arguments).run journal = (ending, after)) :
    IsEnding host launch arguments journal ending after := by
  cases hread : Options.read arguments with
  | error stop =>
    rw [run_of_stop hread] at h
    cases h
    exact isEnding_of_stop hread
  | ok options =>
    rcases runOn_config_cases options host journal with
      ⟨hmalformed, failure, hconfig⟩ | ⟨hsettings, config, hconfig⟩
    · rw [run_of_error hread hconfig] at h
      cases h
      exact isEnding_of_malformed hread hmalformed hconfig
    · exact isEnding_of_settings hread hsettings hconfig h

/-- The command line ends with the code, and as it says. -/
def EndsWith (host : Host) (launch : Launch) (arguments : List String) (fs : FileSystem)
    (code : Nat) : Prop :=
  ∃ ending after, (run host launch arguments).run ⟨fs, []⟩ = (ending, after) ∧
    ending.code = code ∧ IsEnding host launch arguments ⟨fs, []⟩ ending after

/-- Arguments are wrong although settings are malformed as well; settings are malformed; help is
asked for; there is no build tool; all is done. -/
theorem isEnding_run_in_each_way :
    let launch := Launch.answering sampleHost sampleAnswers
    let malformed : FileSystem := ⟨[([".bazel-compdb"], .file (Text.Utf8.encode "[]\n") false)]⟩
    EndsWith sampleHost launch ["--json", "--bazel"] malformed 2 ∧
      EndsWith sampleHost launch ["--json"] malformed 2 ∧
      EndsWith sampleHost launch ["--json", "--help"] malformed 0 ∧
      EndsWith sampleHost launch ["--json"] {} 1 ∧
      EndsWith sampleHost launch ["--json"] sampleFiles 0 := by
  refine ⟨⟨_, _, rfl, ?_, isEnding_run rfl⟩, ⟨_, _, rfl, ?_, isEnding_run rfl⟩,
    ⟨_, _, rfl, ?_, isEnding_run rfl⟩, ⟨_, _, rfl, ?_, isEnding_run rfl⟩,
    ⟨_, _, rfl, ?_, isEnding_run rfl⟩⟩ <;> decide +kernel

end CompileCommands.CommandLine
