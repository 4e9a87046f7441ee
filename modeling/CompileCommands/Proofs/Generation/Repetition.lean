import CompileCommands.Proofs.Generation

/-!
# Generating again

After a generation that has succeeded, the workspace is settled: the database is in it, and so is
something where the link is to be. If the same build tool then gives the same answers, another
generation writes the same database once more and leaves the link alone, even if it leads nowhere.

* `Course`: what is asked and answered in the course of a generation that succeeds.
* `runOn_generate_eq_ok_iff`: a generation succeeds exactly when it has a course.
* `IsSettled`: the database and the link of a workspace are in place.
* `Course.isSettled`: so they are after a generation that has succeeded.
* `generate_again`: what another generation does then.
-/

namespace CompileCommands

variable {host host' : Host} {launch launch' : Launch} {config : Config} {spared : Location → Prop}
  {journal after : Journal} {summary : Summary}

/-! ## The course of a generation -/

/-- The course of a generation that succeeds. The build tool is called three times, the database is
written before the last call, and the link is seen to at the end. -/
structure Course (host : Host) (launch : Launch) (config : Config) (journal : Journal)
    (summary : Summary) (after : Journal) where
  /-- The build tool. -/
  bazel : Bazel
  /-- What it writes about the workspace. -/
  onWorkspace : List UInt8
  /-- What it writes about the actions. -/
  onActions : List UInt8
  /-- What it writes about the execution root. -/
  onExecutionRoot : List UInt8
  /-- The actions. -/
  actions : List Action
  /-- The execution root. -/
  executionRoot : String
  /-- The journal once the workspace is known. -/
  asked : Journal
  /-- The journal once the actions are known. -/
  queried : Journal
  /-- The journal once the database is written. -/
  written : Journal
  /-- The journal once the execution root is known. -/
  answered : Journal
  /-- The build tool is located. -/
  locates : (Bazel.locate host config.bazel).runOn journal = (.ok bazel, journal)
  /-- It is asked for the workspace. -/
  givesWorkspace :
    launch.Gives journal ⟨none, bazel.program, ["info", "workspace"]⟩ onWorkspace asked
  /-- The workspace is the answer. -/
  answersWorkspace : Bazel.answer? onWorkspace = some summary.workspace
  /-- It is asked for the actions. -/
  givesActions : launch.Gives asked
    ⟨some summary.workspace, bazel.program, Query.arguments config⟩ onActions queried
  /-- The actions are read from the answer. -/
  decodes : ActionGraph.decode onActions = .ok actions
  /-- The database is written. -/
  writes : (Database.write host summary.workspace
    (Database.assemble summary.workspace actions)).runOn queried = (.ok summary.database, written)
  /-- The build tool is asked for the execution root. -/
  givesExecutionRoot : launch.Gives written
    ⟨some summary.workspace, bazel.program, ["info", "execution_root"]⟩ onExecutionRoot answered
  /-- The execution root is the answer. -/
  answersExecutionRoot : Bazel.answer? onExecutionRoot = some executionRoot
  /-- The link is seen to. -/
  links : (External.link host summary.workspace executionRoot).runOn answered =
    (.ok summary.external, after)
  /-- The actions are counted. -/
  actions_eq : summary.actions = actions.length
  /-- So are the commands. -/
  commands_eq : summary.commands = (Database.assemble summary.workspace actions).length

/-- A generation succeeds exactly when it has a course. -/
theorem runOn_generate_eq_ok_iff : (generate host launch config).runOn journal =
    (.ok summary, after) ↔ Nonempty (Course host launch config journal summary after) := by
  constructor
  · intro h
    -- A result comes from results of all the stages, each going on where the last one ends.
    simp only [generate, Bazel.workspace, Bazel.query, Bazel.executionRoot,
      FileTask.runOn_bind_eq_iff, reduceCtorEq, and_false, exists_false, false_or,
      Bazel.runOn_info_eq_ok_iff, Bazel.runOn_call_eq_ok_iff, FileTask.runOn_ofExcept,
      FileTask.runOn_pure, Prod.mk.injEq, Except.ok.injEq] at h
    obtain ⟨bazel, located, hlocate, workspace, asked, ⟨onWorkspace, hworkspace, hanswer⟩,
      onActions, queried, hactions, actions, decoded, ⟨hdecode, rfl⟩, database, written, hwrite,
      executionRoot, answered, ⟨onExecutionRoot, hroot, hanswer'⟩, external, linked, hlink, rfl,
      rfl⟩ := h
    obtain rfl : located = journal := by
      rw [← Bazel.runOn_locate host config.bazel journal, hlocate]
    exact ⟨{
      bazel, onWorkspace, onActions, onExecutionRoot, actions, executionRoot
      asked, queried, written, answered
      locates := hlocate
      givesWorkspace := hworkspace
      answersWorkspace := hanswer
      givesActions := hactions
      decodes := FileTask.mapError_eq_ok_iff.1 hdecode
      writes := hwrite
      givesExecutionRoot := hroot
      answersExecutionRoot := hanswer'
      links := hlink
      actions_eq := rfl
      commands_eq := rfl }⟩
  · rintro ⟨course⟩
    have hworkspace := Bazel.runOn_info_eq_ok_iff.2
      ⟨_, course.givesWorkspace, course.answersWorkspace⟩
    have hactions := Bazel.runOn_call_eq_ok_iff.2 course.givesActions
    have hroot := Bazel.runOn_info_eq_ok_iff.2
      ⟨_, course.givesExecutionRoot, course.answersExecutionRoot⟩
    simp only [generate, Bazel.workspace, Bazel.query, Bazel.executionRoot, FileTask.runOn_bind,
      course.locates, hworkspace, hactions, course.decodes, Except.mapError,
      FileTask.runOn_ofExcept, course.writes, hroot, course.links, FileTask.runOn_pure,
      ← course.actions_eq, ← course.commands_eq]

/-! ## What is settled -/

/-- The database is in the directory to which the path of the workspace leads, and so is something
where the link is to be. -/
structure Publication.IsSettled (publication : Publication) (here directory : Location)
    (fs : FileSystem) : Prop where
  /-- The path of the workspace leads to the directory. -/
  leadsTo : fs.LeadsTo here publication.workspace directory
  /-- The path of the database names its location. -/
  locates_database : fs.Locates here (Path.database publication.workspace)
    (Database.placeIn directory)
  /-- The path of the link names its location. -/
  locates_link : fs.Locates here (Path.externalLink publication.workspace)
    (External.placeIn directory)
  /-- The database is there. -/
  database : fs.at? (Database.placeIn directory) = some publication.entry
  /-- Something is where the link is to be, whether or not it leads anywhere. -/
  link : ∃ entry, fs.at? (External.placeIn directory) = some entry

namespace Publication.IsSettled

variable {publication : Publication} {here directory : Location} {fs fs' : FileSystem}

/-- What is settled depends on the entries alone. -/
theorem of_forall_at?_eq (h : publication.IsSettled here directory fs)
    (hsame : ∀ l, fs'.at? l = fs.at? l) : publication.IsSettled here directory fs' := by
  have hkeeps := FileSystem.keeps_of_forall_at?_eq hsame
  obtain ⟨entry, hentry⟩ := h.link
  exact {
    leadsTo := h.leadsTo.of_keeps hkeeps
    locates_database := h.locates_database.of_keeps hkeeps
    locates_link := h.locates_link.of_keeps hkeeps
    database := (hsame _).trans h.database
    link := ⟨entry, (hsame _).trans hentry⟩ }

/-- The same database can be written once more, and nothing changes. -/
theorem runOn_write (h : publication.IsSettled host.directory directory journal.now)
    (hallows : host.Allows directory) :
    ∃ after, (Database.write host publication.workspace publication.commands).runOn journal =
        (.ok (Path.database publication.workspace), after) ∧
      ∀ l, after.now.at? l = journal.now.at? l := by
  have hfile : journal.now.isDirectory (Database.placeIn directory) = false := by
    rw [FileSystem.isDirectory, h.database]
    rfl
  obtain ⟨after, hrun, hafter⟩ := Host.runOn_writeWhole_join_of_allows
    (Text.Utf8.encode (Database.render publication.commands))
    Path.isName_databaseName (by decide) hallows h.leadsTo h.locates_database hfile
  refine ⟨after, ?_, fun l => ?_⟩
  · simp only [Database.write, FileTask.runOn_bind, FileTask.orFail, FileTask.runOn_failAs,
      Path.database, hrun, Except.mapError, FileTask.runOn_pure]
  · -- What is written is what was there.
    rw [hafter]
    split
    · next hl =>
      rw [hl]
      exact h.database.symm
    · rfl

end Publication.IsSettled

namespace Course

/-- What is written in the course of a generation. -/
def publication (course : Course host launch config journal summary after) : Publication :=
  ⟨course.bazel, summary.workspace, course.onActions, course.actions⟩

/-- The calls in the course of a generation and what is written in answer. -/
def exchanges (course : Course host launch config journal summary after) :
    List (Call × List UInt8) := [
  (⟨none, course.bazel.program, ["info", "workspace"]⟩, course.onWorkspace),
  (⟨some summary.workspace, course.bazel.program, Query.arguments config⟩, course.onActions),
  (⟨some summary.workspace, course.bazel.program, ["info", "execution_root"]⟩,
    course.onExecutionRoot)]

/-- The summary names the file of the database. -/
theorem database_eq (course : Course host launch config journal summary after) :
    summary.database = Path.database summary.workspace := by
  have hwrites := course.writes
  simp only [Database.write, FileTask.runOn_bind_eq_iff, FileTask.runOn_pure, reduceCtorEq,
    and_false, exists_false, false_or, Prod.mk.injEq, Except.ok.injEq] at hwrites
  obtain ⟨-, -, -, hpath, -⟩ := hwrites
  exact hpath.symm

/-- After a generation the workspace is settled. The build tool is trusted with everything but the
databases. -/
theorem exists_isSettled (course : Course host launch config journal summary after)
    (hlaunch : launch.Spares host spared)
    (hdatabase : ∀ directory, spared (Database.placeIn directory)) :
    ∃ directory, course.publication.IsSettled host.directory directory after.now := by
  -- The build tool has run in the workspace before the database was written and afterwards.
  obtain ⟨directory, -, hqueried⟩ := hlaunch.exists_leadsTo rfl course.givesActions
  obtain ⟨found, hfound, hanswered⟩ := hlaunch.exists_leadsTo rfl course.givesExecutionRoot
  have hwritten : course.publication.IsWritten host course.queried.now course.written.now
      directory := by
    rcases runOn_write_cases course.publication hqueried with
      ⟨e, _, hrun, -⟩ | ⟨path, _, hrun, hwritten⟩
    · cases hrun.symm.trans course.writes
    · cases hrun.symm.trans course.writes
      exact hwritten
  -- Writing the database made no directory and no link, so the path led there before as well.
  obtain rfl := hwritten.leadsTo.unique (hfound.of_keeps hwritten.isReplaced.keeps)
  have hcomplete := hwritten.isComplete (fun _ _ => rfl)
    (course.givesExecutionRoot.agrees (hlaunch.entries _)) hanswered course.links
  refine ⟨directory, ?_, hcomplete.locates "compile_commands.json" (by decide),
    hcomplete.locates "external" (by decide), ?_, ?_⟩
  · exact hanswered.of_keeps (External.keeps_of_runOn_link hanswered course.links)
  · -- Nobody has touched the database since.
    rw [hcomplete.entries _ (hdatabase directory), if_pos rfl]
  · exact Option.isSome_iff_exists.1 hcomplete.link_isSome

end Course

/-! ## Once more -/

/-- After a generation, the same build tool is there and gives the same answers, and the host lets
files be written in the directory of the workspace. -/
structure Course.Recurs (course : Course host launch config journal summary after)
    (directory : Location) (host' : Host) (launch' : Launch) : Prop where
  /-- The current directory is the same. -/
  directory_eq : host'.directory = host.directory
  /-- The host refuses no file in the directory of the workspace. -/
  allows : host'.Allows directory
  /-- The same build tool is located. -/
  locates : (Bazel.locate host' config.bazel).runOn after = (.ok course.bazel, after)
  /-- Its calls change nothing. -/
  spares : ∀ call, (launch' call).Spares fun _ => True
  /-- It gives the same answers. -/
  repeats : ∀ exchange ∈ course.exchanges, launch'.Repeats after.now exchange.1 exchange.2

/-- In a workspace that is settled, a generation has the same course once more. It changes
nothing, and the link is there already. -/
theorem Course.again (course : Course host launch config journal summary after)
    {directory : Location}
    (hsettled : course.publication.IsSettled host.directory directory after.now)
    (hrecurs : course.Recurs directory host' launch') :
    ∃ again, (generate host' launch' config).runOn after =
        (.ok { summary with external := .alreadyPresent }, again) ∧
      ∀ l, again.now.at? l = after.now.at? l := by
  rw [← hrecurs.directory_eq] at hsettled
  obtain ⟨hrepeat, hrepeat', hrepeat'', -⟩ := by
    simpa only [exchanges, List.forall_mem_cons] using hrecurs.repeats
  -- Every stage finds the entries that the first generation has left, and leaves them so.
  obtain ⟨asked, givesWorkspace, hasked⟩ := hrepeat.exists_gives (hrecurs.spares _) fun _ => rfl
  obtain ⟨queried, givesActions, hqueried⟩ := hrepeat'.exists_gives (hrecurs.spares _) hasked
  obtain ⟨written, writes, hwritten⟩ :=
    (hsettled.of_forall_at?_eq hqueried).runOn_write hrecurs.allows
  obtain ⟨answered, givesExecutionRoot, hanswered⟩ :=
    hrepeat''.exists_gives (hrecurs.spares _) fun l => (hwritten l).trans (hqueried l)
  have hsettled' := hsettled.of_forall_at?_eq hanswered
  obtain ⟨entry, hentry⟩ := hsettled'.link
  refine ⟨answered, runOn_generate_eq_ok_iff.2 ⟨{
    bazel := course.bazel
    onWorkspace := course.onWorkspace
    onActions := course.onActions
    onExecutionRoot := course.onExecutionRoot
    actions := course.actions
    executionRoot := course.executionRoot
    asked, queried, written, answered
    locates := hrecurs.locates
    givesWorkspace
    answersWorkspace := course.answersWorkspace
    givesActions
    decodes := course.decodes
    writes := course.database_eq ▸ writes
    givesExecutionRoot
    answersExecutionRoot := course.answersExecutionRoot
    links := External.runOn_link_of_locates hsettled'.locates_link hentry
    actions_eq := course.actions_eq
    commands_eq := course.commands_eq }⟩, hanswered⟩

/-- A generation that succeeds has called the build tool in some course and leaves its workspace
settled. Whenever that build tool then gives the same answers, another generation succeeds as well.
It leaves every entry as it is and has the same summary, except that the link is there already. -/
theorem generate_again (hlaunch : launch.Spares host spared)
    (hdatabase : ∀ directory, spared (Database.placeIn directory))
    (hrun : (generate host launch config).runOn journal = (.ok summary, after)) :
    ∃ (course : Course host launch config journal summary after) (directory : Location),
      after.now.LeadsTo host.directory summary.workspace directory ∧
      ∀ (host' : Host) (launch' : Launch), course.Recurs directory host' launch' →
        ∃ again, (generate host' launch' config).runOn after =
            (.ok { summary with external := .alreadyPresent }, again) ∧
          ∀ l, again.now.at? l = after.now.at? l := by
  obtain ⟨course⟩ := runOn_generate_eq_ok_iff.1 hrun
  obtain ⟨directory, hsettled⟩ := course.exists_isSettled hlaunch hdatabase
  exact ⟨course, directory, hsettled.leadsTo,
    fun host' launch' hrecurs => course.again hsettled hrecurs⟩

/-- The generation in the sample makes the link, and the next one finds it, although it leads
nowhere. -/
theorem generate_again_sample :
    ∃ (after again : Journal) (summary : Summary) (course : Course sampleHost
        (.answering sampleHost sampleAnswers) ⟨"bazel", [], []⟩ ⟨sampleFiles, []⟩ summary after)
      (directory : Location),
      sampleGeneration.runOn ⟨sampleFiles, []⟩ = (.ok summary, after) ∧
        summary.external = .created ∧
        course.Recurs directory sampleHost (.answering sampleHost sampleAnswers) ∧
        sampleGeneration.runOn after = (.ok { summary with external := .alreadyPresent }, again) ∧
        ∀ l, again.now.at? l = after.now.at? l := by
  have hlaunch := Launch.answering_spares sampleHost sampleAnswers fun _ => True
  have hsummary : (sampleGeneration.runOn ⟨sampleFiles, []⟩).1 =
      .ok ⟨"/ws", "/ws/compile_commands.json", 1, 1, .created⟩ := by decide +kernel
  have hlocate : ((Bazel.locate sampleHost "bazel").runOn ⟨sampleFiles, []⟩).1 =
      ((Bazel.locate sampleHost "bazel").runOn (sampleGeneration.runOn ⟨sampleFiles, []⟩).2).1 := by
    decide +kernel
  rcases hrun : sampleGeneration.runOn ⟨sampleFiles, []⟩ with ⟨result, after⟩
  rw [hrun] at hsummary hlocate
  obtain rfl := hsummary
  obtain ⟨course, directory, hdirectory, hagain⟩ := generate_again hlaunch (fun _ => trivial) hrun
  have hthere : ∀ path, some "/ws" = some path →
      ∃ found, after.now.LeadsTo sampleHost.directory path found := by
    rintro path ⟨⟩
    exact ⟨directory, hdirectory⟩
  have hrecurs : course.Recurs directory sampleHost (.answering sampleHost sampleAnswers) := by
    refine ⟨rfl, ⟨fun _ _ => rfl, fun _ _ _ => rfl, fun _ _ _ => rfl⟩, ?_, hlaunch.entries, ?_⟩
    · rw [course.locates] at hlocate
      exact Prod.ext hlocate.symm (Bazel.runOn_locate sampleHost "bazel" after)
    · simp only [Course.exchanges, List.forall_mem_cons, List.not_mem_nil, false_imp_iff,
        implies_true, and_true]
      exact ⟨Launch.repeats_of_answering course.givesWorkspace nofun,
        Launch.repeats_of_answering course.givesActions hthere,
        Launch.repeats_of_answering course.givesExecutionRoot hthere⟩
  obtain ⟨again, hrun', hsame⟩ := hagain sampleHost _ hrecurs
  exact ⟨after, again, _, course, directory, rfl, rfl, hrecurs, hrun', hsame⟩

end CompileCommands
