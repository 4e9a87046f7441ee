import CompileCommands.Host.Operation
import CompileCommands.Proofs.Path

/-!
# Where paths lead when entries change

A path that leads to a directory goes over directories and links alone. It leads to the same
directory in every file system that has the directories and links of this one, whatever files there
are, and it does so without the segments that change nothing.

* `follow_of_keeps`, `slot_of_keeps`: where paths lead in another file system.
* `follow_append`: a path in two parts.
* `follow_undotted`: a path without some of its dots.
* `LeadsTo.normal`: the directory above a name in a directory.
* `Locates`: the location that a path names.
-/

namespace CompileCommands.FileSystem

variable {fs fs' : FileSystem} {here location directory : Location} {path : String}

/-! ## Entries -/

theorem lookup_filter_ne (location l : Location) (entries : List (Location × Entry)) :
    (entries.filter (·.1 ≠ location)).lookup l =
      if l = location then none else entries.lookup l := by
  induction entries with
  | nil => simp
  | cons first rest ih =>
    obtain ⟨place, entry⟩ := first
    by_cases hplace : place = location
    · rw [List.filter_cons_of_neg (by simp [hplace]), ih, List.lookup_cons, hplace]
      grind
    · rw [List.filter_cons_of_pos (by simp [hplace]), List.lookup_cons, List.lookup_cons, ih]
      grind

/-- Nothing is at a location from which what was there has been removed; everything else is as
before. -/
theorem at?_erase (fs : FileSystem) {location : Location} (l : Location) (h : location ≠ []) :
    (fs.erase location).at? l = if l = location then none else fs.at? l := by
  rw [at?, at?, erase, lookup_filter_ne]
  grind

/-- Nothing is at a name that is none of those in the directory. -/
theorem at?_eq_none_of_notMem_namesIn {name : String} (h : name ∉ fs.namesIn directory) :
    fs.at? (directory ++ [name]) = none := by
  rw [at?, if_neg (by simp), List.lookup_eq_none_iff]
  rintro ⟨location, entry⟩ hentry
  rw [bne_iff_ne]
  rintro rfl
  refine h (List.mem_filterMap.2 ⟨_, hentry, ?_⟩)
  simp

theorem isDirectory_iff : fs.isDirectory location = true ↔ fs.at? location = some .directory := by
  rw [isDirectory, beq_iff_eq]

/-- Every directory and every link is also one of the other file system. -/
structure Keeps (fs fs' : FileSystem) : Prop where
  /-- A directory is one there. -/
  directory : ∀ {location}, fs.at? location = some .directory →
    fs'.at? location = some .directory
  /-- A link is one there, with the same target. -/
  link : ∀ {location target}, fs.at? location = some (.link target) →
    fs'.at? location = some (.link target)

/-- Where every entry is the same, so are the directories and the links. -/
theorem keeps_of_forall_at?_eq (h : ∀ l, fs'.at? l = fs.at? l) : Keeps fs fs' :=
  ⟨fun hdirectory => (h _).trans hdirectory, fun hlink => (h _).trans hlink⟩

theorem Keeps.isDirectory (h : Keeps fs fs') (hlocation : fs.isDirectory location = true) :
    fs'.isDirectory location = true :=
  isDirectory_iff.2 (h.directory (isDirectory_iff.1 hlocation))

/-! ## Following names -/

/-- The names lead to a directory or a link. -/
def Walk.Continues (fs : FileSystem) : Walk → Prop
  | .arrived location => fs.isDirectory location = true
  | .link _ _ _ => True

/-- Names that lead on start at a directory. -/
theorem isDirectory_of_walk {names : List String} {walked : Walk}
    (h : fs.walk here names = .ok walked) (hwalked : walked.Continues fs) :
    fs.isDirectory here = true := by
  cases names with
  | nil =>
    cases h
    exact hwalked
  | cons name rest =>
    -- A walk ends at once where a name is to be found in something that is no directory.
    by_contra hhere
    rw [walk, if_pos (by simpa using hhere)] at h
    cases h

/-- Names lead over directories and links alone, so they lead on wherever those are. -/
theorem walk_of_keeps (hkeeps : Keeps fs fs') {names : List String} {walked : Walk}
    (h : fs.walk here names = .ok walked) (hwalked : walked.Continues fs) :
    fs'.walk here names = .ok walked := by
  have hhere := hkeeps.isDirectory (isDirectory_of_walk h hwalked)
  -- One name is followed at a time, from a directory that the other file system has too.
  induction names generalizing here with
  | nil => exact h
  | cons name rest ih =>
    rw [walk] at h ⊢
    rw [hhere]
    split at h
    · cases h
    simp only [Bool.not_true, Bool.false_eq_true, if_false]
    split at h
    · next hdot => rw [if_pos hdot, ih h hhere]
    next hdot =>
    rw [if_neg hdot]
    split at h
    · next hdots =>
      rw [if_pos hdots, ih h (hkeeps.isDirectory (isDirectory_of_walk h hwalked))]
    next hdots =>
    rw [if_neg hdots]
    split at h
    · cases h
    next hlong =>
    rw [if_neg hlong]
    split at h
    · cases h
    · next target hlink =>
      rw [hkeeps.link hlink]
      exact h
    · next entry hlink hentry =>
      -- What leads on from an entry that is no link starts at it, so it is a directory.
      have hdirectory := isDirectory_of_walk h hwalked
      rw [hkeeps.directory (isDirectory_iff.1 hdirectory)]
      exact ih h (hkeeps.isDirectory hdirectory)

/-- A path that leads to a directory leads to it wherever the directories and links are. -/
theorem follow_of_keeps (hkeeps : Keeps fs fs') {links : Nat} {names : List String}
    (h : fs.follow links here names = .ok directory)
    (hdirectory : fs.isDirectory directory = true) :
    fs'.follow links here names = .ok directory := by
  -- One link is followed at a time; up to each of them the walks are the same.
  induction links generalizing here names with
  | zero =>
    rw [follow] at h ⊢
    split at h
    · cases h
    · next location hwalk =>
      cases h
      rw [walk_of_keeps hkeeps hwalk hdirectory]
    · cases h
  | succ links ih =>
    rw [follow] at h ⊢
    split at h
    · cases h
    · next location hwalk =>
      cases h
      rw [walk_of_keeps hkeeps hwalk hdirectory]
    · next directory target rest hwalk =>
      rw [walk_of_keeps hkeeps hwalk trivial]
      exact ih h

/-- The place in a directory that the last component of a path names. -/
def slotIn (path : String) (directory : Location) : Except OsError Slot :=
  match (Path.segments path).getLast? with
  | none => .ok ⟨directory, .special, true⟩
  | some name =>
    if name = "." ∨ name = ".." then .ok ⟨directory, .special, endsInSlash path⟩
    else if isLongName name then .error .nameTooLong
    else .ok ⟨directory, .name name, endsInSlash path⟩

/-- A path names a place in the directory to which its components before the last one lead. -/
theorem slot_eq_ok_iff {slot : Slot} : fs.slot here path = .ok slot ↔
    pathError? path = none ∧ ∃ directory,
      fs.follow maxLinks (origin here path) (Path.segments path).dropLast = .ok directory ∧
        fs.isDirectory directory = true ∧ slotIn path directory = .ok slot := by
  rw [FileSystem.slot]
  cases herror : pathError? path with
  | some e => simp
  | none =>
    cases hfollow : fs.follow maxLinks (origin here path) (Path.segments path).dropLast with
    | error e => simp
    | ok directory =>
      cases hdirectory : fs.isDirectory directory with
      | false => simp [hdirectory]
      | true =>
        simp only [Bool.not_true, Bool.false_eq_true, if_false, true_and, Except.ok.injEq,
          exists_eq_left', hdirectory]
        rfl

/-- The place that a path names is the same wherever the directories and links are. -/
theorem slot_of_keeps (hkeeps : Keeps fs fs') {slot : Slot} (h : fs.slot here path = .ok slot) :
    fs'.slot here path = .ok slot := by
  obtain ⟨herror, directory, hfollow, hdirectory, hlast⟩ := slot_eq_ok_iff.1 h
  exact slot_eq_ok_iff.2 ⟨herror, directory, follow_of_keeps hkeeps hfollow hdirectory,
    hkeeps.isDirectory hdirectory, hlast⟩

/-! ## Paths in parts -/

/-- Names in two parts lead where the second part leads from where the first one does. -/
theorem walk_append {first rest : List String} :
    fs.walk here (first ++ rest) =
      match fs.walk here first with
      | .error e => .error e
      | .ok (.arrived location) => fs.walk location rest
      | .ok (.link directory target left) => .ok (.link directory target (left ++ rest)) := by
  induction first generalizing here with
  | nil => rfl
  | cons name first ih =>
    rw [List.cons_append, walk, walk]
    split
    · rfl
    split
    · exact ih
    split
    · exact ih
    split
    · rfl
    split
    · rfl
    · rfl
    · exact ih

/-- A path in two parts leads where its second part leads from where the first one does, though
fewer links may be left. -/
theorem follow_append {links : Nat} {first rest : List String}
    (h : fs.follow links here first = .ok location) :
    ∃ left, fs.follow links here (first ++ rest) = fs.follow left location rest := by
  -- The second part stays behind the names that a link puts in front.
  induction links generalizing here first with
  | zero =>
    rw [follow] at h
    split at h
    · cases h
    · next location hwalk =>
      cases h
      refine ⟨0, ?_⟩
      rw [follow, follow, walk_append, hwalk]
    · cases h
  | succ links ih =>
    rw [follow] at h
    split at h
    · cases h
    · next location hwalk =>
      cases h
      refine ⟨links + 1, ?_⟩
      rw [follow, follow, walk_append, hwalk]
    · next directory target left hwalk =>
      obtain ⟨rest', hrest⟩ := @ih _ (names target ++ left) h
      refine ⟨rest', ?_⟩
      rw [follow, walk_append, hwalk]
      simp only
      rw [← List.append_assoc, hrest]

theorem follow_of_walk {links : Nat} {names : List String}
    (h : fs.walk here names = .ok (.arrived location)) :
    fs.follow links here names = .ok location := by
  cases links <;> rw [follow, h]

/-- A dot at the end of a path to a directory changes nothing. -/
theorem follow_append_dot {links : Nat} {names : List String}
    (h : fs.follow links here names = .ok directory)
    (hdirectory : fs.isDirectory directory = true) :
    fs.follow links here (names ++ ["."]) = .ok directory := by
  obtain ⟨left, hleft⟩ := @follow_append fs here directory links names ["."] h
  rw [hleft]
  exact follow_of_walk (by simp [walk, hdirectory])

/-! ## Dots -/

/-- The second list is the first one without some of its dots. -/
inductive Undotted : List String → List String → Prop where
  /-- Nothing is left out of nothing. -/
  | nil : Undotted [] []
  /-- A name stays. -/
  | keep {names names' : List String} (name : String) (h : Undotted names names') :
      Undotted (name :: names) (name :: names')
  /-- A dot is left out. -/
  | drop {names names' : List String} (h : Undotted names names') : Undotted ("." :: names) names'

theorem Undotted.refl : (names : List String) → Undotted names names
  | [] => .nil
  | name :: names => .keep name (Undotted.refl names)

theorem Undotted.append {names names' more more' : List String} (h : Undotted names names')
    (hmore : Undotted more more') : Undotted (names ++ more) (names' ++ more') := by
  induction h with
  | nil => exact hmore
  | keep name _ ih => exact .keep name ih
  | drop _ ih => exact .drop ih

theorem undotted_filter : (names : List String) → Undotted names (names.filter (· ≠ "."))
  | [] => .nil
  | name :: names => by
    by_cases hdot : name = "."
    · rw [List.filter_cons_of_neg (by simp [hdot]), hdot]
      exact .drop (undotted_filter names)
    · rw [List.filter_cons_of_pos (by simpa using hdot)]
      exact .keep name (undotted_filter names)

/-- The components of a path are its segments without some dots. -/
theorem undotted_components (path : String) :
    Undotted (Path.segments path) (Path.components path) := by
  unfold Path.components
  split
  · next h => rw [h]; exact .nil
  · next first rest h =>
    rw [h]
    dsimp only
    split
    · next hdot =>
      rw [hdot.1]
      exact .drop (undotted_filter rest)
    · exact .keep first (undotted_filter rest)

/-- The second walk ends where the first one does, with some of the dots left out that remain. -/
inductive Walk.Undotted : Walk → Walk → Prop where
  /-- Both have arrived. -/
  | arrived (location : Location) : Walk.Undotted (.arrived location) (.arrived location)
  /-- Both have come to the same link. -/
  | link (directory : Location) (target : String) {rest rest' : List String}
      (h : FileSystem.Undotted rest rest') :
      Walk.Undotted (.link directory target rest) (.link directory target rest')

theorem walk_undotted {names names' : List String} (hnames : Undotted names names') {walked : Walk}
    (h : fs.walk here names = .ok walked) :
    ∃ walked', walked.Undotted walked' ∧ fs.walk here names' = .ok walked' := by
  -- A dot that is left out would have stayed where it is.
  induction hnames generalizing here with
  | nil =>
    cases h
    exact ⟨_, .arrived here, rfl⟩
  | @keep names names' name hnames ih =>
    rw [walk] at h ⊢
    split at h
    · cases h
    next hhere =>
    rw [if_neg hhere]
    split at h
    · next hdot => simp only [if_pos hdot, ih h]
    next hdot =>
    rw [if_neg hdot]
    split at h
    · next hdots => simp only [if_pos hdots, ih h]
    next hdots =>
    rw [if_neg hdots]
    split at h
    · cases h
    next hlong =>
    rw [if_neg hlong]
    split at h
    · cases h
    · next target hlink =>
      cases h
      exact ⟨_, .link here target hnames, rfl⟩
    · exact ih h
  | drop _ ih =>
    rw [walk] at h
    split at h
    · cases h
    · exact ih (by simpa using h)

/-- A path without some of its dots leads where the path does. -/
theorem follow_undotted {links : Nat} {names names' : List String} (hnames : Undotted names names')
    (h : fs.follow links here names = .ok location) :
    fs.follow links here names' = .ok location := by
  -- One link is followed at a time; the names after it differ by dots alone.
  induction links generalizing here names names' with
  | zero =>
    rw [follow] at h
    split at h
    · cases h
    · next location hwalk =>
      cases h
      obtain ⟨_, ⟨_⟩, hwalk'⟩ := walk_undotted hnames hwalk
      rw [follow, hwalk']
    · cases h
  | succ links ih =>
    rw [follow] at h
    split at h
    · cases h
    · next location hwalk =>
      cases h
      obtain ⟨_, ⟨_⟩, hwalk'⟩ := walk_undotted hnames hwalk
      rw [follow, hwalk']
    · next directory target rest hwalk =>
      obtain ⟨_, hwalked, hwalk'⟩ := walk_undotted hnames hwalk
      cases hwalked with
      | link _ _ hrest =>
        rw [follow, hwalk']
        exact ih ((Undotted.refl (FileSystem.names target)).append hrest) h

/-- A segment in a directory starts where the directory does. -/
theorem origin_join {segment : String} (hpath : path ≠ "") (hsegment : Path.IsSegment segment) :
    origin here (Path.join path segment) = origin here path := by
  rw [origin, origin, Path.isAbsolute_join hpath hsegment]

/-! ## Paths to directories -/

/-- The path leads to the directory. -/
structure LeadsTo (fs : FileSystem) (here : Location) (path : String) (directory : Location) :
    Prop where
  /-- The path leads there. -/
  resolve : fs.resolve here path = .ok directory
  /-- It is a directory. -/
  isDirectory : fs.isDirectory directory = true

theorem leadsTo_iff : fs.LeadsTo here path directory ↔ pathError? path = none ∧
    fs.follow maxLinks (origin here path) (names path) = .ok directory ∧
      fs.isDirectory directory = true := by
  constructor
  · rintro ⟨hresolve, hdirectory⟩
    rw [FileSystem.resolve] at hresolve
    split at hresolve
    · cases hresolve
    · next herror => exact ⟨herror, hresolve, hdirectory⟩
  · rintro ⟨herror, hfollow, hdirectory⟩
    exact ⟨by rw [FileSystem.resolve, herror]; exact hfollow, hdirectory⟩

namespace LeadsTo

theorem leadsToDirectory (h : fs.LeadsTo here path directory) :
    fs.leadsToDirectory here path = true := by
  rw [FileSystem.leadsToDirectory, status, h.resolve]
  dsimp only
  rw [isDirectory_iff.1 h.isDirectory]

theorem ne_empty (h : fs.LeadsTo here path directory) : path ≠ "" :=
  (Path.pathError?_eq_none_iff.1 (leadsTo_iff.1 h).1).1

/-- A path leads to one directory at most. -/
theorem unique {other : Location} (h : fs.LeadsTo here path directory)
    (hother : fs.LeadsTo here path other) : directory = other :=
  Except.ok.inj (h.resolve.symm.trans hother.resolve)

theorem of_keeps (hkeeps : Keeps fs fs') (h : fs.LeadsTo here path directory) :
    fs'.LeadsTo here path directory := by
  obtain ⟨herror, hfollow, hdirectory⟩ := leadsTo_iff.1 h
  exact leadsTo_iff.2
    ⟨herror, follow_of_keeps hkeeps hfollow hdirectory, hkeeps.isDirectory hdirectory⟩

/-- A slash at the end of the path does not count. -/
theorem follow_segments (h : fs.LeadsTo here path directory) :
    fs.follow maxLinks (origin here path) (Path.segments path) = .ok directory := by
  have hundotted : Undotted (names path) (Path.segments path ++ []) := by
    refine (Undotted.refl _).append ?_
    split
    · exact .drop .nil
    · exact .nil
  rw [List.append_nil] at hundotted
  exact follow_undotted hundotted (leadsTo_iff.1 h).2.1

/-- A path leads to the directory to which its segments lead. -/
theorem of_follow_segments (herror : pathError? path = none)
    (hfollow : fs.follow maxLinks (origin here path) (Path.segments path) = .ok directory)
    (hdirectory : fs.isDirectory directory = true) : fs.LeadsTo here path directory := by
  refine leadsTo_iff.2 ⟨herror, ?_, hdirectory⟩
  rw [names]
  -- A slash at the end, as of the root, asks for a dot more.
  split
  · exact follow_append_dot hfollow hdirectory
  · rwa [List.append_nil]

/-- A path that leads to a directory leads to it without the segments that change nothing. -/
theorem normal (h : fs.LeadsTo here path directory) :
    fs.LeadsTo here (Path.normal path) directory := by
  have hcomponents := follow_undotted (undotted_components path) h.follow_segments
  have horigin : origin here (Path.normal path) = origin here path := by
    rw [origin, origin, Path.isAbsolute_normal h.ne_empty]
  refine of_follow_segments (Path.pathError?_normal (leadsTo_iff.1 h).1) ?_ h.isDirectory
  rwa [horigin, Path.segments_normal]

/-- A dot in the directory to which a path leads stands for that directory. -/
theorem join_dot (h : fs.LeadsTo here path directory)
    (herror : pathError? (Path.join path ".") = none) :
    fs.LeadsTo here (Path.join path ".") directory := by
  have hnames : names (Path.join path ".") = Path.segments path ++ ["."] := by
    rw [names, Path.segments_join h.ne_empty Path.isSegment_dot,
      Path.endsInSlash_join h.ne_empty Path.isSegment_dot]
    exact List.append_nil _
  refine leadsTo_iff.2 ⟨herror, ?_, h.isDirectory⟩
  rw [origin_join h.ne_empty Path.isSegment_dot, hnames]
  exact follow_append_dot h.follow_segments h.isDirectory

end LeadsTo

/-! ## Places -/

/-- The place that a path names when its last component is a name. -/
theorem slotIn_eq_name_iff {above : Location} {name : String} {slash : Bool} :
    slotIn path above = .ok ⟨directory, .name name, slash⟩ ↔
      above = directory ∧ (Path.segments path).getLast? = some name ∧
        ¬ (name = "." ∨ name = "..") ∧ isLongName name = false ∧ slash = endsInSlash path := by
  unfold slotIn
  split
  · next h => simp [h]
  next last h =>
  rw [h, Option.some.injEq]
  split
  · next hdots =>
    simp only [Except.ok.injEq, Slot.mk.injEq, reduceCtorEq, false_and, and_false, false_iff]
    rintro ⟨-, rfl, hname, -⟩
    exact hname hdots
  split
  · next hdots hlong =>
    simp only [reduceCtorEq, false_iff]
    rintro ⟨-, rfl, -, hname, -⟩
    rw [hlong] at hname
    cases hname
  · next hdots hlong =>
    simp only [Except.ok.injEq, Slot.mk.injEq, Last.name.injEq]
    constructor
    · rintro ⟨rfl, rfl, rfl⟩
      exact ⟨rfl, rfl, hdots, by simpa using hlong, rfl⟩
    · rintro ⟨rfl, rfl, -, -, rfl⟩
      exact ⟨rfl, rfl, rfl⟩

/-- A path leads nowhere past a name that nothing has. -/
theorem isSome_at?_of_follow_cons {links : Nat} {name : String} {rest : List String}
    (hname : ¬ (name = "." ∨ name = ".."))
    (h : fs.follow links here (name :: rest) = .ok location) :
    (fs.at? (here ++ [name])).isSome = true := by
  by_contra hnone
  rw [Option.not_isSome_iff_eq_none] at hnone
  rw [not_or] at hname
  -- With nothing there, the walk ends in an error before any link is followed.
  have herror : ∃ e, fs.walk here (name :: rest) = .error e := by
    rw [walk]
    split
    · exact ⟨_, rfl⟩
    rw [if_neg hname.1, if_neg hname.2]
    split
    · exact ⟨_, rfl⟩
    rw [hnone]
    exact ⟨_, rfl⟩
  obtain ⟨e, herror⟩ := herror
  cases links <;> simp [follow, herror] at h

/-- The names of a path end in its last segment, up to a dot. -/
theorem names_eq_append {name : String} (hname : (Path.segments path).getLast? = some name) :
    names path = (Path.segments path).dropLast ++
      (name :: if endsInSlash path then ["."] else []) := by
  rw [names, ← List.dropLast_append_getLast? name hname]
  simp

/-- Something is at the place that a path names if the path leads to a directory. -/
theorem LeadsTo.isSome_at? {found : Location} (h : fs.LeadsTo here path found) {name : String}
    {slash : Bool} (hslot : fs.slot here path = .ok ⟨directory, .name name, slash⟩) :
    (fs.at? (directory ++ [name])).isSome = true := by
  obtain ⟨-, hfound, -⟩ := leadsTo_iff.1 h
  obtain ⟨-, above, habove, -, hlast⟩ := slot_eq_ok_iff.1 hslot
  obtain ⟨rfl, hname, hdots, -⟩ := slotIn_eq_name_iff.1 hlast
  -- The name is followed from the directory, whatever comes after it.
  obtain ⟨left, hleft⟩ := follow_append habove
  rw [names_eq_append hname, hleft] at hfound
  exact isSome_at?_of_follow_cons hdots hfound

/-- A path leads to the directory that is at the place that it names. -/
theorem leadsTo_of_slot {name : String} {slash : Bool}
    (hslot : fs.slot here path = .ok ⟨directory, .name name, slash⟩)
    (hplace : fs.at? (directory ++ [name]) = some .directory) :
    fs.LeadsTo here path (directory ++ [name]) := by
  obtain ⟨herror, above, habove, hdirectory, hlast⟩ := slot_eq_ok_iff.1 hslot
  obtain ⟨rfl, hname, hdots, hlong, -⟩ := slotIn_eq_name_iff.1 hlast
  rw [not_or] at hdots
  refine leadsTo_iff.2 ⟨herror, ?_, isDirectory_iff.2 hplace⟩
  obtain ⟨left, hleft⟩ := follow_append habove
  rw [names_eq_append hname, hleft]
  -- After the name there is at most a dot, which stays in the directory.
  refine follow_of_walk ?_
  rw [walk, hdirectory, if_neg hdots.1, if_neg hdots.2, hlong, hplace]
  simp only [Bool.not_true, Bool.false_eq_true, if_false]
  split
  · simp [walk, isDirectory_iff.2 hplace]
  · rfl

/-- The path of a name in a directory names a place in that directory. -/
theorem slotIn_join {name : String} (hpath : path ≠ "") (hname : Path.IsName name)
    (directory : Location) : slotIn (Path.join path name) directory =
      if isLongName name then .error .nameTooLong else .ok ⟨directory, .name name, false⟩ := by
  rw [slotIn, Path.segments_join hpath hname.toIsSegment, List.getLast?_concat,
    Path.endsInSlash_join hpath hname.toIsSegment]
  exact if_neg (not_or.2 ⟨hname.ne_dot, hname.ne_dots⟩)

/-- The place of a name in a directory. -/
theorem slot_join_eq_ok_iff {name : String} (hpath : path ≠ "") (hname : Path.IsName name)
    {slot : Slot} : fs.slot here (Path.join path name) = .ok slot ↔
      pathError? (Path.join path name) = none ∧ isLongName name = false ∧ ∃ directory,
        fs.follow maxLinks (origin here path) (Path.segments path) = .ok directory ∧
          fs.isDirectory directory = true ∧ slot = ⟨directory, .name name, false⟩ := by
  rw [slot_eq_ok_iff, Path.segments_join hpath hname.toIsSegment, List.dropLast_concat,
    origin_join hpath hname.toIsSegment]
  simp only [slotIn_join hpath hname]
  cases isLongName name with
  | true => simp
  | false => simp only [Bool.false_eq_true, if_false, Except.ok.injEq, true_and, eq_comm]

/-! ## The location that a path names -/

/-- The path names the location, whether or not something is there. -/
def Locates (fs : FileSystem) (here : Location) (path : String) (location : Location) : Prop :=
  ∃ directory name, fs.slot here path = .ok ⟨directory, .name name, false⟩ ∧
    location = directory ++ [name]

theorem Locates.ne_nil (h : fs.Locates here path location) : location ≠ [] := by
  obtain ⟨directory, name, -, rfl⟩ := h
  simp

theorem Locates.of_keeps (hkeeps : Keeps fs fs') (h : fs.Locates here path location) :
    fs'.Locates here path location := by
  obtain ⟨directory, name, hslot, hlocation⟩ := h
  exact ⟨directory, name, slot_of_keeps hkeeps hslot, hlocation⟩

/-- What is at the location that a path names is what the path leads to, up to its last
component. -/
theorem Locates.linkStatus_eq_ok_iff {entry : Entry} (h : fs.Locates here path location) :
    fs.linkStatus here path = .ok entry ↔ fs.at? location = some entry := by
  obtain ⟨directory, name, hslot, rfl⟩ := h
  rw [linkStatus, hslot]
  dsimp only
  cases fs.at? (directory ++ [name]) <;> simp

/-- A path leads to one location at most. -/
theorem Locates.unique {other : Location} (h : fs.Locates here path location)
    (hother : fs.Locates here path other) : location = other := by
  obtain ⟨directory, name, hslot, rfl⟩ := h
  obtain ⟨directory', name', hslot', rfl⟩ := hother
  rw [hslot] at hslot'
  cases hslot'
  rfl

/-- The last name of the location that a path names is one of its segments. -/
theorem Locates.exists_mem_segments (h : fs.Locates here path location) :
    ∃ directory, ∃ name ∈ Path.segments path, location = directory ++ [name] := by
  obtain ⟨directory, name, hslot, rfl⟩ := h
  obtain ⟨-, above, -, -, hlast⟩ := slot_eq_ok_iff.1 hslot
  obtain ⟨-, hname, -⟩ := slotIn_eq_name_iff.1 hlast
  exact ⟨directory, name, List.mem_of_getLast? hname, rfl⟩

/-- A file may be moved to the location that a path names, unless a directory is there. -/
theorem destination_eq_ok_iff : fs.destination here path = .ok location ↔
    fs.Locates here path location ∧ fs.isDirectory location = false := by
  rw [destination, Locates]
  cases fs.slot here path with
  | error e => simp
  | ok slot =>
    obtain ⟨directory, last, slash⟩ := slot
    cases last with
    | special => simp
    | name name =>
      simp only [Except.ok.injEq, Slot.mk.injEq, Last.name.injEq]
      constructor
      · intro h
        split at h
        · cases h
        next hslash =>
        split at h
        · cases h
        next hdirectory =>
        cases h
        exact ⟨⟨directory, name, ⟨rfl, rfl, by simpa using hslash⟩, rfl⟩, by simpa using hdirectory⟩
      · rintro ⟨⟨_, _, ⟨rfl, rfl, rfl⟩, rfl⟩, hdirectory⟩
        rw [hdirectory]
        rfl

theorem locates_of_vacancy (h : fs.vacancy here false path = .ok location) :
    fs.Locates here path location ∧ fs.at? location = none := by
  unfold vacancy at h
  split at h
  · cases h
  · cases h
  next directory name slash hslot =>
  split at h
  · cases h
  next hnone =>
  split at h
  · cases h
  next hslash =>
  cases h
  obtain rfl : slash = false := by simpa using hslash
  exact ⟨⟨directory, name, hslot, rfl⟩, by simpa using hnone⟩

/-- The path of a name in a directory names its location there, if it is a path at all. -/
theorem locates_join_iff {name : String} (hpath : path ≠ "") (hname : Path.IsName name) :
    fs.Locates here (Path.join path name) location ↔
      pathError? (Path.join path name) = none ∧ isLongName name = false ∧
        ∃ directory, fs.LeadsTo here path directory ∧ location = directory ++ [name] := by
  simp only [Locates, slot_join_eq_ok_iff hpath hname, Slot.mk.injEq, Last.name.injEq]
  constructor
  · rintro ⟨directory, name, ⟨herror, hlong, _, hfollow, hdirectory, rfl, rfl, -⟩, rfl⟩
    have hleads : fs.LeadsTo here path directory := LeadsTo.of_follow_segments
      (Path.pathError?_of_join hpath hname.toIsSegment herror) hfollow hdirectory
    exact ⟨herror, hlong, directory, hleads, rfl⟩
  · rintro ⟨herror, hlong, directory, hleads, rfl⟩
    exact ⟨directory, name, ⟨herror, hlong, directory, hleads.follow_segments,
      hleads.isDirectory, rfl, rfl, trivial⟩, rfl⟩

/-- Something to which the path of a name in a directory leads is at the location that the path
names. -/
theorem exists_locates_of_linkStatus_join {name : String} (hpath : path ≠ "")
    (hname : Path.IsName name) {entry : Entry}
    (h : fs.linkStatus here (Path.join path name) = .ok entry) :
    ∃ location, fs.Locates here (Path.join path name) location ∧
      fs.at? location = some entry := by
  cases hslot : fs.slot here (Path.join path name) with
  | error e => simp [linkStatus, hslot] at h
  | ok slot =>
    obtain ⟨-, -, directory, -, -, rfl⟩ := (slot_join_eq_ok_iff hpath hname).1 hslot
    have hlocates : fs.Locates here (Path.join path name) (directory ++ [name]) :=
      ⟨directory, name, hslot, rfl⟩
    exact ⟨_, hlocates, hlocates.linkStatus_eq_ok_iff.1 h⟩

/-- A name in a directory has its location there, if its path is one at all. -/
theorem LeadsTo.locates_join_iff {name : String} (hname : Path.IsName name)
    (h : fs.LeadsTo here path directory) : fs.Locates here (Path.join path name) location ↔
      pathError? (Path.join path name) = none ∧ isLongName name = false ∧
        location = directory ++ [name] := by
  rw [FileSystem.locates_join_iff h.ne_empty hname]
  refine and_congr_right fun _ => and_congr_right fun _ => ⟨?_, fun hlocation => ⟨_, h, hlocation⟩⟩
  rintro ⟨found, hfound, rfl⟩
  rw [hfound.unique h]

/-! ## One entry that differs -/

/-- The directories and links here are those there if no directory and no link is at the one place
that differs. -/
theorem keeps_of_at?_eq (place : Location) (hdirectory : fs.at? place ≠ some .directory)
    (hlink : ∀ target, fs.at? place ≠ some (.link target))
    (hothers : ∀ l, l ≠ place → fs.at? l = fs'.at? l) : Keeps fs fs' := by
  constructor
  · intro location h
    have hne : location ≠ place := by
      rintro rfl
      exact hdirectory h
    rw [← hothers location hne, h]
  · intro location target h
    have hne : location ≠ place := by
      rintro rfl
      exact hlink target h
    rw [← hothers location hne, h]

/-- With a file in place of what was at a location, there are the directories and links that there
are without it. -/
theorem keeps_erase_of_file {content : List UInt8} {isProgram : Bool} (hne : location ≠ [])
    (h : ∀ l, fs'.at? l = if l = location then some (.file content isProgram) else fs.at? l) :
    Keeps fs' (fs.erase location) ∧ Keeps (fs.erase location) fs' := by
  have herase (l : Location) := at?_erase fs l hne
  have hothers (l : Location) (hl : l ≠ location) : fs'.at? l = (fs.erase location).at? l := by
    rw [h, herase, if_neg hl, if_neg hl]
  constructor
  · exact keeps_of_at?_eq location (by simp [h]) (by simp [h]) hothers
  · exact keeps_of_at?_eq location (by simp [herase]) (by simp [herase])
      fun l hl => (hothers l hl).symm

/-- Directories and links stay when something is put where nothing was. -/
theorem keeps_set {entry : Entry} (hne : location ≠ []) (hnone : fs.at? location = none) :
    Keeps fs (fs.set location entry) := by
  refine keeps_of_at?_eq location ?_ ?_ fun l hl => ?_
  · simp [hnone]
  · simp [hnone]
  · rw [at?_set fs l entry hne, if_neg hl]

/-- A directory that is made where a path names nothing is one to which the path leads. -/
theorem leadsTo_set_of_vacancy (h : fs.vacancy here true path = .ok location) :
    location ≠ [] ∧ fs.at? location = none ∧
      (fs.set location .directory).LeadsTo here path location := by
  unfold vacancy at h
  split at h
  · cases h
  · cases h
  next directory name slash hslot =>
  split at h
  · cases h
  next hsome =>
  rw [Bool.not_true, Bool.and_false, if_neg Bool.false_ne_true] at h
  cases h
  have hne : directory ++ [name] ≠ [] := by simp
  have hnone : fs.at? (directory ++ [name]) = none := by simpa using hsome
  refine ⟨hne, hnone, leadsTo_of_slot (slot_of_keeps (keeps_set hne hnone) hslot) ?_⟩
  rw [at?_set fs _ _ hne, if_pos rfl]

end CompileCommands.FileSystem
