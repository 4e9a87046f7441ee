import CompileCommands.Generation
import CompileCommands.Proofs.Bazel
import CompileCommands.Proofs.Database
import CompileCommands.Proofs.Database.Rendering
import CompileCommands.Proofs.External
import CompileCommands.Proofs.Host.Atomicity

/-!
# What a generation leaves behind

A generation either writes the whole new database and then sees to the link, or it leaves both as
they were. The only way to fail with the new database in place is to fail after it: when the build
tool does not tell the execution root, or the link cannot be made. What the build tool changes on
its own account stays open, except for the entries that it spares.

The database takes the place of what was there, be it a link. If the path of the workspace goes over
that link, it leads nowhere once the database is written, and the generation fails.

* `generate_eq`: the database comes first, the link afterwards.
* `holdsRecords_entry`: what a reader finds in the database.
* `runOn_publish_cases`: the database is written as a whole, or everything is as before.
* `Publication.IsWritten.locates_iff`: what the two paths name once the database is written.
* `generate_leaves`: what is left in each case.
* `generate_over_replaced_link`: a workspace whose path goes over a link that is replaced.
-/

namespace CompileCommands

variable {host : Host} {launch : Launch} {config : Config} {spared : Location → Prop}
  {journal after : Journal}

/-! ## Stages -/

/-- What is to be written: a build tool, its workspace, what the query for actions wrote, and the
actions. -/
structure Publication where
  /-- The build tool. -/
  bazel : Bazel
  /-- The workspace. -/
  workspace : String
  /-- What the query wrote. -/
  output : List UInt8
  /-- The actions. -/
  actions : List Action
  deriving DecidableEq, Repr

namespace Publication

/-- The commands of the actions. -/
def commands (publication : Publication) : List Command :=
  Database.assemble publication.workspace publication.actions

/-- The file of the database. -/
def entry (publication : Publication) : Entry :=
  .file (Text.Utf8.encode (Database.render publication.commands)) false

end Publication

/-- Find out what is to be written. -/
def prepare (host : Host) (launch : Launch) (config : Config) : FileTask Failure Publication := do
  let bazel ← Bazel.locate host config.bazel
  let workspace ← bazel.workspace launch
  let output ← bazel.query launch workspace (Query.arguments config)
  let actions ← .ofExcept ((ActionGraph.decode output).mapError Failure.undecodable)
  return { bazel, workspace, output, actions }

/-- Find out what is to be written and write it. -/
def publish (host : Host) (launch : Launch) (config : Config) : FileTask Failure Publication := do
  let publication ← prepare host launch config
  let _ ← Database.write host publication.workspace publication.commands
  return publication

/-- See to the link once the database is written. -/
def finish (host : Host) (launch : Launch) (publication : Publication) :
    FileTask Failure Summary := do
  let executionRoot ← publication.bazel.executionRoot launch publication.workspace
  let external ← External.link host publication.workspace executionRoot
  return {
    workspace := publication.workspace
    database := Path.database publication.workspace
    actions := publication.actions.length
    commands := publication.commands.length
    external }

/-- The database comes first, the link afterwards. -/
theorem generate_eq (host : Host) (launch : Launch) (config : Config) :
    generate host launch config = publish host launch config >>= finish host launch := by
  simp only [generate, publish, prepare, finish, Publication.commands, Database.write, bind_assoc,
    pure_bind]

/-! ## Before the database -/

theorem prepare_spares (hlaunch : launch.Spares host spared) :
    (prepare host launch config).Spares spared := by
  -- Every stage spares what the calls spare, and nothing else is done.
  unfold prepare
  refine (Bazel.locate_spares host config.bazel).bind fun bazel => ?_
  refine (Bazel.info_spares hlaunch).bind fun workspace => ?_
  refine (Bazel.call_spares hlaunch).bind fun output => ?_
  refine (FileTask.spares_ofExcept _).bind fun actions => ?_
  exact FileTask.spares_pure _

/-- What is to be written is what the query wrote, and the workspace is there. -/
theorem decode_of_runOn_prepare (hlaunch : launch.Spares host spared) {publication : Publication}
    (h : (prepare host launch config).runOn journal = (.ok publication, after)) :
    ActionGraph.decode publication.output = .ok publication.actions ∧
      ∃ directory, after.now.LeadsTo host.directory publication.workspace directory := by
  simp only [prepare, FileTask.runOn_bind_eq_iff, reduceCtorEq, and_false, exists_false, false_or,
    FileTask.runOn_ofExcept, FileTask.runOn_pure, Prod.mk.injEq, Except.ok.injEq] at h
  obtain ⟨bazel, located, -, workspace, asked, -, output, answered, houtput, actions, decoded,
    ⟨hdecode, rfl⟩, rfl, rfl⟩ := h
  obtain ⟨directory, -, hdirectory⟩ := Bazel.exists_leadsTo_of_call hlaunch houtput
  exact ⟨FileTask.mapError_eq_ok_iff.1 hdecode, directory, hdirectory⟩

/-! ## The database -/

/-- The entry is a file in which a JSON reader finds a list of records. -/
def Entry.HoldsRecords (entry : Entry) (records : List Json.Datum) : Prop :=
  ∃ content text, entry = .file content false ∧ Text.Utf8.decode? content = some text ∧
    Json.parse? text.toList = some (.array records)

/-- The file of the database holds one record for each command. -/
theorem Publication.holdsRecords_entry (publication : Publication) :
    publication.entry.HoldsRecords (publication.commands.map Command.datum) :=
  ⟨_, _, rfl, Text.Utf8.decode?_encode _, Database.parse?_render _⟩

/-- The location of the database in a directory. -/
def Database.placeIn (directory : Location) : Location := directory ++ ["compile_commands.json"]

/-- The database is all that is new, and it is in the directory to which the path of the workspace
leads. -/
structure Publication.IsWritten (publication : Publication) (host : Host)
    (before written : FileSystem) (directory : Location) : Prop where
  /-- The path of the workspace leads to the directory. -/
  leadsTo : before.LeadsTo host.directory publication.workspace directory
  /-- The paths of the database and of the link name their locations. -/
  locates : ∀ name ∈ ["compile_commands.json", "external"],
    before.Locates host.directory (Path.join publication.workspace name) (directory ++ [name])
  /-- No directory is in the place of the database. -/
  not_directory : before.isDirectory (Database.placeIn directory) = false
  /-- The database is new, and everything else is as before. -/
  at?_eq : ∀ l, written.at? l =
    if l = Database.placeIn directory then some publication.entry else before.at? l

/-- The path of the workspace leads to its directory even without what is in the place of the
database. -/
def Publication.Bypasses (publication : Publication) (host : Host) (fs : FileSystem)
    (directory : Location) : Prop :=
  (fs.erase (Database.placeIn directory)).LeadsTo host.directory publication.workspace directory

theorem Publication.isName_of_mem {name : String}
    (h : name ∈ ["compile_commands.json", "external"]) : Path.IsName name := by
  rcases List.mem_pair.1 h with rfl | rfl
  · exact Path.isName_databaseName
  · exact Path.isName_externalName

/-- Where the database has a location, so has the link, whose name is shorter. -/
theorem Publication.locates_join_of_locates_database {fs : FileSystem} {workspace : String}
    {directory : Location} (hdirectory : fs.LeadsTo host.directory workspace directory)
    (hlocates : fs.Locates host.directory (Path.database workspace) (Database.placeIn directory))
    {name : String} (hname : name ∈ ["compile_commands.json", "external"]) :
    fs.Locates host.directory (Path.join workspace name) (directory ++ [name]) := by
  obtain ⟨herror, -, -⟩ := (hdirectory.locates_join_iff Path.isName_databaseName).1 hlocates
  rcases List.mem_pair.1 hname with rfl | rfl
  · exact hlocates
  · refine (hdirectory.locates_join_iff Path.isName_externalName).2 ⟨?_, by decide +kernel, rfl⟩
    exact Path.pathError?_join_of_length_le hdirectory.ne_empty
      Path.isName_databaseName.toIsSegment Path.isName_externalName.toIsSegment (by decide)
      (by decide +kernel) herror

namespace Publication.IsWritten

variable {publication : Publication} {fs before written after : FileSystem} {directory : Location}

/-- The database is a file that has been replaced. -/
theorem isReplaced (h : publication.IsWritten host before written directory) :
    before.IsReplaced host.directory (Path.database publication.workspace)
      (Text.Utf8.encode (Database.render publication.commands)) (Database.placeIn directory)
      written :=
  ⟨h.locates "compile_commands.json" (by decide), h.not_directory, h.at?_eq⟩

/-- The database stays the only spared entry that is new as long as others spare it. -/
theorem at?_of_agrees (h : publication.IsWritten host before written directory)
    (hbefore : fs.Agrees spared before) (hafter : written.Agrees spared after) (l : Location)
    (hl : spared l) : after.at? l =
      if l = Database.placeIn directory then some publication.entry else fs.at? l := by
  rw [hafter l hl, h.at?_eq, hbefore l hl]

/-- Wherever the path of the workspace leads to its directory, the two paths name their
locations. -/
theorem locates_of_leadsTo (h : publication.IsWritten host before written directory)
    (hdirectory : fs.LeadsTo host.directory publication.workspace directory) {name : String}
    (hname : name ∈ ["compile_commands.json", "external"]) :
    fs.Locates host.directory (Path.join publication.workspace name) (directory ++ [name]) :=
  (hdirectory.locates_join_iff (isName_of_mem hname)).2
    ((h.leadsTo.locates_join_iff (isName_of_mem hname)).1 (h.locates name hname))

/-- Unless a link was in the place of the database, the path of the workspace does not need what was
there. -/
theorem bypasses (h : publication.IsWritten host before written directory)
    (hlink : ∀ target, before.at? (Database.placeIn directory) ≠ some (.link target)) :
    publication.Bypasses host before directory := by
  refine h.leadsTo.of_keeps (FileSystem.keeps_of_at?_eq _ h.isReplaced.at?_ne_directory hlink
    fun l hl => ?_)
  rw [FileSystem.at?_erase _ _ h.isReplaced.locates.ne_nil, if_neg hl]

/-- Once the database is written, the two paths name their locations or nothing: they do so exactly
when the path of the workspace does not need what has been replaced. -/
theorem locates_iff (h : publication.IsWritten host before written directory) {name : String}
    (hname : name ∈ ["compile_commands.json", "external"]) {location : Location} :
    written.Locates host.directory (Path.join publication.workspace name) location ↔
      location = directory ++ [name] ∧ publication.Bypasses host before directory := by
  rw [Publication.Bypasses, ← h.isReplaced.leadsTo_iff]
  constructor
  · intro hlocates
    obtain ⟨-, -, found, hfound, rfl⟩ :=
      (FileSystem.locates_join_iff h.leadsTo.ne_empty (isName_of_mem hname)).1 hlocates
    -- Writing the database made no directory and no link, so the path led there before as well.
    obtain rfl := h.leadsTo.unique (hfound.of_keeps h.isReplaced.keeps)
    exact ⟨rfl, hfound⟩
  · rintro ⟨rfl, hleads⟩
    exact h.locates_of_leadsTo hleads hname

end Publication.IsWritten

/-- The database of a workspace that is there is written as a whole, or everything is as before. -/
theorem runOn_write_cases (publication : Publication) {directory : Location}
    (hdirectory : journal.now.LeadsTo host.directory publication.workspace directory) :
    (∃ e after, (Database.write host publication.workspace publication.commands).runOn journal =
      (.error e, after) ∧ ∀ l, after.now.at? l = journal.now.at? l) ∨
    ∃ path after, (Database.write host publication.workspace publication.commands).runOn journal =
      (.ok path, after) ∧ publication.IsWritten host journal.now after.now directory := by
  simp only [Database.write, FileTask.runOn_bind, FileTask.orFail, FileTask.runOn_failAs,
    Path.database, Host.runOn_writeWhole_join Path.isName_databaseName hdirectory]
  rcases Host.runOn_replace_cases host (Path.join publication.workspace Path.databaseName)
    (Text.Utf8.encode (Database.render publication.commands)) journal with
    ⟨e, after, hrun, hafter⟩ | ⟨location, after, hrun, hlocates, hfile, hafter⟩
  · rw [hrun]
    exact .inl ⟨_, after, rfl, hafter⟩
  · rw [hrun]
    obtain ⟨-, -, rfl⟩ := (hdirectory.locates_join_iff Path.isName_databaseName).1 hlocates
    exact .inr ⟨_, after, rfl, hdirectory,
      fun name hname => Publication.locates_join_of_locates_database hdirectory hlocates hname,
      hfile, hafter⟩

/-- The database is written once everything is known, or the spared entries are as before. -/
theorem runOn_publish_cases (hlaunch : launch.Spares host spared) (config : Config)
    (journal : Journal) :
    (∃ e after, (publish host launch config).runOn journal = (.error e, after) ∧
      journal.now.Agrees spared after.now) ∨
    ∃ publication prepared after directory,
      (prepare host launch config).runOn journal = (.ok publication, prepared) ∧
        (publish host launch config).runOn journal = (.ok publication, after) ∧
          ActionGraph.decode publication.output = .ok publication.actions ∧
            journal.now.Agrees spared prepared.now ∧
              publication.IsWritten host prepared.now after.now directory := by
  simp only [publish, FileTask.runOn_bind]
  rcases hprepare : (prepare host launch config).runOn journal with ⟨e | publication, prepared⟩
  · exact .inl ⟨e, prepared, rfl, prepare_spares hlaunch hprepare⟩
  obtain ⟨hdecode, directory, hdirectory⟩ := decode_of_runOn_prepare hlaunch hprepare
  have hprepared := prepare_spares hlaunch hprepare
  dsimp only
  rcases runOn_write_cases publication hdirectory with
    ⟨e, after, hrun, hafter⟩ | ⟨path, after, hrun, hwritten⟩
  · rw [hrun]
    exact .inl ⟨e, after, rfl, hprepared.trans fun l _ => hafter l⟩
  · rw [hrun]
    exact .inr ⟨publication, prepared, after, directory, rfl, rfl, hdecode, hprepared, hwritten⟩

/-! ## After the database -/

/-- The link is seen to in the workspace in which the database is, or the spared entries are as
before. -/
theorem runOn_finish_cases (hlaunch : launch.Spares host spared) {publication : Publication}
    {before : FileSystem} {directory : Location}
    (hwritten : publication.IsWritten host before journal.now directory) :
    (∃ e after, (finish host launch publication).runOn journal = (.error e, after) ∧
      journal.now.Agrees spared after.now) ∨
    ∃ external executionRoot answered after, (finish host launch publication).runOn journal =
        (.ok {
          workspace := publication.workspace
          database := Path.database publication.workspace
          actions := publication.actions.length
          commands := publication.commands.length
          external }, after) ∧
      (publication.bazel.executionRoot launch publication.workspace).runOn journal =
        (.ok executionRoot, answered) ∧
      journal.now.Agrees spared answered.now ∧
        answered.now.LeadsTo host.directory publication.workspace directory ∧
          (External.link host publication.workspace executionRoot).runOn answered =
            (.ok external, after) := by
  simp only [finish, FileTask.runOn_bind]
  rcases hroot : (publication.bazel.executionRoot launch publication.workspace).runOn journal with
    ⟨e | executionRoot, answered⟩
  · exact .inl ⟨e, answered, rfl, Bazel.info_spares hlaunch hroot⟩
  have hanswered : journal.now.Agrees spared answered.now := Bazel.info_spares hlaunch hroot
  obtain ⟨found, hfound, hfound'⟩ := Bazel.exists_leadsTo_of_info hlaunch hroot
  -- Writing the database made no directory and no link, so the path led there before as well.
  obtain rfl := hwritten.leadsTo.unique (hfound.of_keeps hwritten.isReplaced.keeps)
  dsimp only
  rcases External.runOn_link_cases host publication.workspace executionRoot answered with
    ⟨e, hrun⟩ | ⟨_, hrun, -⟩ | ⟨_, _, hrun, -⟩
  · rw [hrun]
    exact .inl ⟨e, answered, rfl, hanswered⟩
  · rw [hrun]
    exact .inr ⟨.alreadyPresent, executionRoot, answered, _, rfl, rfl, hanswered, hfound', hrun⟩
  · rw [hrun]
    exact .inr ⟨.created, executionRoot, answered, _, rfl, rfl, hanswered, hfound', hrun⟩

/-! ## A sample -/

/-- A host on which programs are in one directory. -/
def sampleHost : Host := { searchPath := "/bin" }

/-- The build tool, and a workspace with an old database. -/
def sampleFiles : FileSystem := ⟨[
  (["bin"], .directory), (["bin", "bazel"], .file [] true),
  (["ws"], .directory), (["ws", Path.databaseName], .file [] false)]⟩

/-- One compile action as the build tool writes it. -/
def sampleOutput : List UInt8 :=
  let field (key : UInt8) (text : String) : List UInt8 :=
    key :: text.utf8ByteSize.toUInt8 :: Text.Utf8.encode text
  let action := field 0x22 "CppCompile" ++ field 0x32 "a.cc" ++ field 0x32 "-o" ++ field 0x32 "a.o"
  0x12 :: action.length.toUInt8 :: action

/-- What the build tool answers. -/
def sampleAnswers (call : Call) (_ : FileSystem) : Except OsError Reply :=
  match call.arguments with
  | ["info", "workspace"] => .ok { output := Text.Utf8.encode "/ws\n" }
  | ["info", _] => .ok { output := Text.Utf8.encode "/root\n" }
  | _ => .ok { output := sampleOutput }

/-- The generation in the workspace. -/
def sampleGeneration : FileTask Failure Summary :=
  generate sampleHost (.answering sampleHost sampleAnswers) ⟨"bazel", [], []⟩

/-- What is to be written in the workspace. -/
def samplePublication : Publication :=
  ⟨⟨"/bin/bazel"⟩, "/ws", sampleOutput, [⟨"CppCompile", ["a.cc", "-o", "a.o"]⟩]⟩

/-- What the build tool answers that does not tell the execution root. -/
def sampleAnswersWithoutRoot (call : Call) (fs : FileSystem) : Except OsError Reply :=
  match call.arguments with
  | ["info", "execution_root"] => .ok { status := .exited 1 }
  | _ => sampleAnswers call fs

/-- The generation with that build tool. -/
def sampleInterruption : FileTask Failure Summary :=
  generate sampleHost (.answering sampleHost sampleAnswersWithoutRoot) ⟨"bazel", [], []⟩

/-! ## Generations -/

theorem placeIn_ne (directory : Location) :
    External.placeIn directory ≠ Database.placeIn directory := by
  rw [External.placeIn, Database.placeIn]
  simp

/-- The database is new, and the generation has ended before the link was made. Nothing else among
the spared entries is new. -/
structure Publication.IsInterrupted (publication : Publication) (host : Host)
    (spared : Location → Prop) (fs before written fs' : FileSystem) (directory : Location) :
    Prop where
  /-- The database is all that is new among the spared entries. -/
  entries : ∀ l, spared l → fs'.at? l =
    if l = Database.placeIn directory then some publication.entry else fs.at? l
  /-- They are as they were once the database was written. -/
  agrees : written.Agrees spared fs'
  /-- If no link has been replaced, the path of the workspace does not need what has been. -/
  bypasses : (∀ target, before.at? (Database.placeIn directory) ≠ some (.link target)) →
    publication.Bypasses host before directory
  /-- If it does not, the paths of the database and of the link name their locations, as long as the
  build tool has taken no directory and no link away since. -/
  locates : publication.Bypasses host before directory → FileSystem.Keeps written fs' →
    ∀ name ∈ ["compile_commands.json", "external"],
      fs'.Locates host.directory (Path.join publication.workspace name) (directory ++ [name])
  /-- Otherwise they name nothing, as long as it has made none. -/
  locates_only : FileSystem.Keeps fs' written → ∀ name ∈ ["compile_commands.json", "external"],
    ∀ l, fs'.Locates host.directory (Path.join publication.workspace name) l →
      l = directory ++ [name] ∧ publication.Bypasses host before directory

/-- The database and the link are in the directory, and the summary says so. Nothing else among the
spared entries is new. -/
structure Publication.IsComplete (publication : Publication) (host : Host)
    (spared : Location → Prop) (fs fs' : FileSystem) (directory : Location) (executionRoot : String)
    (summary : Summary) : Prop where
  /-- The summary names the workspace. -/
  workspace : summary.workspace = publication.workspace
  /-- The summary names the file of the database. -/
  database : summary.database = Path.join publication.workspace "compile_commands.json"
  /-- The summary counts the actions. -/
  actions : summary.actions = publication.actions.length
  /-- The summary counts the records that a reader finds in the database. -/
  commands : ∃ records, publication.entry.HoldsRecords records ∧ summary.commands = records.length
  /-- There are at most as many records as actions. -/
  commands_le : summary.commands ≤ summary.actions
  /-- The paths of the database and of the link name their locations. -/
  locates : ∀ name ∈ ["compile_commands.json", "external"],
    fs'.Locates host.directory (Path.join publication.workspace name) (directory ++ [name])
  /-- Something is where the link is to be. -/
  link_isSome : (fs'.at? (External.placeIn directory)).isSome = true
  /-- The link is new if and only if nothing was there before. -/
  created_iff : spared (External.placeIn directory) →
    (summary.external = .created ↔ fs.at? (External.placeIn directory) = none)
  /-- Apart from the database, and the link if it is new, the spared entries are as before. -/
  entries : ∀ l, spared l → fs'.at? l =
    if l = Database.placeIn directory then some publication.entry
    else if l = External.placeIn directory ∧ summary.external = .created then
      some (.link (Path.join executionRoot "external"))
    else fs.at? l

/-- If the spared entries stay as they are once the database is written, it is all that there is to
a generation. -/
theorem Publication.IsWritten.isInterrupted {publication : Publication}
    {fs before written fs' : FileSystem} {directory : Location} (hbefore : fs.Agrees spared before)
    (hwritten : publication.IsWritten host before written directory)
    (hafter : written.Agrees spared fs') :
    publication.IsInterrupted host spared fs before written fs' directory where
  entries := hwritten.at?_of_agrees hbefore hafter
  agrees := hafter
  bypasses := hwritten.bypasses
  locates := by
    intro hbypasses hkeeps name hname
    exact ((hwritten.locates_iff hname).2 ⟨rfl, hbypasses⟩).of_keeps hkeeps
  locates_only := by
    intro hkeeps name hname l hl
    exact (hwritten.locates_iff hname).1 (hl.of_keeps hkeeps)

/-- A database and a link that has been seen to are all that there is to a generation. -/
theorem Publication.IsWritten.isComplete {publication : Publication}
    {fs before written : FileSystem} {directory : Location} {external : External.Outcome}
    {executionRoot : String} (hbefore : fs.Agrees spared before)
    (hwritten : publication.IsWritten host before written directory)
    (hanswered : written.Agrees spared journal.now)
    (hdirectory : journal.now.LeadsTo host.directory publication.workspace directory)
    (hlink : (External.link host publication.workspace executionRoot).runOn journal =
      (.ok external, after)) :
    publication.IsComplete host spared fs after.now directory executionRoot {
      workspace := publication.workspace
      database := Path.database publication.workspace
      actions := publication.actions.length
      commands := publication.commands.length
      external } := by
  obtain ⟨-, hcreated, hafter⟩ := External.runOn_link_of_leadsTo hdirectory hlink
  have hkeeps : FileSystem.Keeps journal.now after.now :=
    External.keeps_of_runOn_link hdirectory hlink
  have hentries := hwritten.at?_of_agrees hbefore hanswered
  refine {
    workspace := rfl
    database := rfl
    actions := rfl
    commands := ⟨_, publication.holdsRecords_entry, (List.length_map _).symm⟩
    commands_le := Database.length_assemble_le ..
    locates := fun name hname => hwritten.locates_of_leadsTo (hdirectory.of_keeps hkeeps) hname
    link_isSome := ?_
    created_iff := fun hspared => ?_
    entries := fun l hl => ?_ }
  · rw [hafter]
    split
    · rfl
    · next hold => exact Option.isSome_iff_ne_none.2 fun h => hold ⟨rfl, hcreated.2 h⟩
  · -- The link is not in the place of the database, so writing that has not changed what is there.
    rw [hcreated, hentries _ hspared, if_neg (placeIn_ne directory)]
  · rw [hafter, hentries l hl]
    by_cases hl : l = Database.placeIn directory
    · rw [if_neg (fun h => placeIn_ne directory (h.1.symm.trans hl)), if_pos hl, if_pos hl]
    · rw [if_neg hl, if_neg hl]
      rfl

/-- Until the database is published, a generation leaves the spared entries as they are. From then
on the whole new database is there, with one record for each command: alone, if the execution root
is not known or the link cannot be made, or else with the link and a summary of both. No temporary
file stays behind. -/
theorem generate_leaves (hlaunch : launch.Spares host spared) {result : Except Failure Summary}
    (h : (generate host launch config).runOn journal = (result, after)) :
    (∃ e, (publish host launch config).runOn journal = (.error e, after) ∧ result = .error e ∧
      journal.now.Agrees spared after.now) ∨
    ∃ publication prepared published directory,
      (prepare host launch config).runOn journal = (.ok publication, prepared) ∧
      (publish host launch config).runOn journal = (.ok publication, published) ∧
      (finish host launch publication).runOn published = (result, after) ∧
      ActionGraph.decode publication.output = .ok publication.actions ∧
      IsDatabase publication.workspace publication.actions publication.commands ∧
      publication.entry.HoldsRecords (publication.commands.map Command.datum) ∧
      journal.now.Agrees spared prepared.now ∧
      publication.IsWritten host prepared.now published.now directory ∧
      ((∃ e, result = .error e ∧ publication.IsInterrupted host spared journal.now prepared.now
          published.now after.now directory) ∨
        ∃ summary executionRoot answered, result = .ok summary ∧
          (publication.bazel.executionRoot launch publication.workspace).runOn published =
            (.ok executionRoot, answered) ∧
          publication.IsComplete host spared journal.now after.now directory executionRoot
            summary) := by
  rw [generate_eq, FileTask.runOn_bind] at h
  rcases runOn_publish_cases hlaunch config journal with
    ⟨e, failed, hrun, hfailed⟩ |
      ⟨publication, prepared, published, directory, hprepare, hrun, hdecode, hprepared, hwritten⟩
  · rw [hrun] at h
    cases h
    exact .inl ⟨e, hrun, rfl, hfailed⟩
  rw [hrun] at h
  dsimp only at h
  refine .inr ⟨publication, prepared, published, directory, hprepare, hrun, h, hdecode,
    Database.isDatabase_assemble _ _, publication.holdsRecords_entry, hprepared, hwritten, ?_⟩
  rcases runOn_finish_cases hlaunch hwritten with
    ⟨e, last, hfinish, hlast⟩ |
      ⟨external, executionRoot, answered, last, hfinish, hroot, hanswered, hdirectory, hlink⟩
  · rw [hfinish] at h
    cases h
    exact .inl ⟨e, rfl, hwritten.isInterrupted hprepared hlast⟩
  · rw [hfinish] at h
    cases h
    exact .inr ⟨_, executionRoot, answered, rfl, hroot,
      hwritten.isComplete hprepared hanswered hdirectory hlink⟩

/-- The generation succeeds with one command and a new link. If the build tool does not tell the
execution root, it fails with the database in place, which its path names. -/
theorem generate_leaves_sample :
    ((Launch.answering sampleHost sampleAnswers).Spares sampleHost (fun _ => True) ∧
      ∃ (publication : Publication) (directory : Location) (executionRoot : String)
        (summary : Summary) (after : Journal),
        sampleGeneration.runOn ⟨sampleFiles, []⟩ = (.ok summary, after) ∧
          summary.commands = 1 ∧ summary.external = .created ∧
            publication.IsComplete sampleHost (fun _ => True) sampleFiles after.now directory
              executionRoot summary) ∧
      ∃ (e : Failure) (published after : Journal),
        sampleInterruption.runOn ⟨sampleFiles, []⟩ = (.error e, after) ∧
          samplePublication.IsInterrupted sampleHost (fun _ => True) sampleFiles sampleFiles
            published.now after.now ["ws"] ∧
          after.now.at? ["ws", "compile_commands.json"] = some samplePublication.entry ∧
          after.now.Locates [] "/ws/compile_commands.json" ["ws", "compile_commands.json"] := by
  constructor
  · have hlaunch := Launch.answering_spares sampleHost sampleAnswers (fun _ => True)
    have hsummary : (sampleGeneration.runOn ⟨sampleFiles, []⟩).1 =
        .ok ⟨"/ws", "/ws/compile_commands.json", 1, 1, .created⟩ := by decide +kernel
    rcases hrun : sampleGeneration.runOn ⟨sampleFiles, []⟩ with ⟨result, after⟩
    rw [hrun] at hsummary
    obtain rfl := hsummary
    rcases generate_leaves hlaunch hrun with
      ⟨e, -, he, -⟩ | ⟨publication, _, _, directory, -, -, -, -, -, -, -, -, h⟩
    · cases he
    · rcases h with ⟨e, he, -⟩ | ⟨summary, executionRoot, _, hsummary, -, hcomplete⟩
      · cases he
      · cases hsummary
        exact ⟨hlaunch, publication, directory, executionRoot, _, after, rfl, rfl, rfl, hcomplete⟩
  · have hlaunch := Launch.answering_spares sampleHost sampleAnswersWithoutRoot (fun _ => True)
    have hprepare : (prepare sampleHost (.answering sampleHost sampleAnswersWithoutRoot)
        ⟨"bazel", [], []⟩).runOn ⟨sampleFiles, []⟩ =
          (.ok samplePublication, ⟨sampleFiles, []⟩) := rfl
    have hpublish : ((publish sampleHost (.answering sampleHost sampleAnswersWithoutRoot)
        ⟨"bazel", [], []⟩).runOn ⟨sampleFiles, []⟩).1 = .ok samplePublication := by decide +kernel
    have hfailure : (sampleInterruption.runOn ⟨sampleFiles, []⟩).1 =
        .error (.commandFailed "bazel info execution_root" (.exited 1) "") := by decide +kernel
    have hold : sampleFiles.at? (Database.placeIn ["ws"]) = some (.file [] false) := by
      decide +kernel
    rcases hrun : sampleInterruption.runOn ⟨sampleFiles, []⟩ with ⟨result, after⟩
    rw [hrun] at hfailure
    obtain rfl := hfailure
    rcases generate_leaves hlaunch hrun with
      ⟨e, hfailed, -, -⟩ |
        ⟨publication, prepared, published, directory, hprepared, -, -, -, -, -, -, hwritten, h⟩
    · rw [hfailed] at hpublish
      cases hpublish
    rw [hprepare] at hprepared
    cases hprepared
    obtain rfl : directory = ["ws"] :=
      hwritten.leadsTo.unique ⟨by decide +kernel, by decide +kernel⟩
    rcases h with ⟨e, -, hinterrupted⟩ | ⟨_, _, _, hsummary, -⟩
    · have hkeeps : FileSystem.Keeps published.now after.now :=
        FileSystem.keeps_of_forall_at?_eq fun l => hinterrupted.agrees l trivial
      refine ⟨_, published, after, rfl, hinterrupted, hinterrupted.entries _ trivial, ?_⟩
      -- What has been replaced was a file.
      have hbypasses := hinterrupted.bypasses fun _ hlink => nomatch hold.symm.trans hlink
      exact hinterrupted.locates hbypasses hkeeps "compile_commands.json" (by decide)
    · cases hsummary

/-- A workspace with a link to itself in the place of the database. -/
def sampleLoop : FileSystem := ⟨[
  (["bin"], .directory), (["bin", "bazel"], .file [] true), (["ws"], .directory),
  (["ws", "compile_commands.json"], .link "."), (["ws", "external"], .directory)]⟩

/-- What the build tool answers that names the workspace by that link and finds no actions. -/
def sampleAnswersOverLink (call : Call) (fs : FileSystem) : Except OsError Reply :=
  match call.arguments with
  | ["info", "workspace"] => .ok { output := Text.Utf8.encode "/ws/compile_commands.json\n" }
  | ["info", _] => sampleAnswers call fs
  | _ => .ok {}

/-- A workspace whose path goes over a link in the place of the database cannot be found once the
database is written there, and the generation fails. The path of the database then leads nowhere.
That of the link, which named a directory, does not either. -/
theorem generate_over_replaced_link :
    let launch := Launch.answering sampleHost sampleAnswersOverLink
    let publication : Publication := ⟨⟨"/bin/bazel"⟩, "/ws/compile_commands.json", [], []⟩
    let left := sampleLoop.set ["ws", "compile_commands.json"] publication.entry
    ((publish sampleHost launch ⟨"bazel", [], []⟩).runFrom sampleLoop).1 = .ok publication ∧
      (generate sampleHost launch ⟨"bazel", [], []⟩).runFrom sampleLoop =
        (.error (.system .notDirectory), left) ∧
      left.read [] (Path.join publication.workspace "compile_commands.json") =
        .error .notDirectory ∧
      sampleLoop.linkStatus [] (Path.join publication.workspace "external") = .ok .directory ∧
      left.linkStatus [] (Path.join publication.workspace "external") = .error .notDirectory := by
  decide +kernel

end CompileCommands
