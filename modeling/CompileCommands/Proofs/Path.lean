import CompileCommands.Host.FileSystem
import CompileCommands.Proofs.Text.Fields
import CompileCommands.Proofs.Text.Utf8
import Mathlib.Data.List.Flatten

/-!
# Paths in a directory

The segments of the path of a name in a directory, and of the path of the directory that holds it,
which is that of the directory without the segments that change nothing.

* `segments_join`: the segments of the path of a name in a directory.
* `parent?_join`: the directory above it.
* `segments_normal`, `pathError?_normal`: the path of the directory above is a path like that of
  the directory.
* `pathError?_join_dot`: so is that path with a dot in the directory, if there is room for the name.
-/

namespace CompileCommands.Path

/-- One segment. -/
structure IsSegment (segment : String) : Prop where
  /-- A segment is not empty. -/
  ne_empty : segment ≠ ""
  /-- A segment holds no slash. -/
  noSlash : '/' ∉ segment.toList

/-- One segment, and no dots. -/
structure IsName (name : String) : Prop extends IsSegment name where
  /-- A name is not the dot of the directory itself. -/
  ne_dot : name ≠ "."
  /-- A name is not the dots of the directory above. -/
  ne_dots : name ≠ ".."

theorem isSegment_dot : IsSegment "." := by
  constructor <;> decide

theorem isName_databaseName : IsName databaseName :=
  ⟨by constructor <;> decide, by decide, by decide⟩

theorem isName_externalName : IsName externalName :=
  ⟨by constructor <;> decide, by decide, by decide⟩

/-- The path without the segments that change nothing. -/
def normal (path : String) : String :=
  let above := "/".intercalate (components path)
  if isAbsolute path then "/" ++ above else above

variable {path name segment : String}

/-! ## Segments -/

theorem isAbsolute_iff : isAbsolute path = true ↔ path.toList.head? = some '/' :=
  Text.startsWith_iff_head? rfl

/-- Segments are not empty and hold no slash. -/
theorem of_mem_segments (h : segment ∈ segments path) : IsSegment segment := by
  obtain ⟨hfield, hne⟩ := List.mem_filter.1 h
  refine ⟨by simpa using hne, ?_⟩
  obtain ⟨field, hmem, rfl⟩ := List.mem_map.1 hfield
  rw [String.toList_ofList]
  exact Text.notMem_of_mem_fieldChars hmem

theorem segments_of_isSegment (h : IsSegment segment) : segments segment = [segment] := by
  rw [segments, Text.fields, Text.fieldChars_of_notMem h.noSlash, List.map_singleton,
    String.ofList_toList, List.filter_cons_of_pos (by simpa using h.ne_empty), List.filter_nil]

/-- The segments of two paths with a slash between them are those of both. -/
theorem segments_append (first second : String) :
    segments (first ++ "/" ++ second) = segments first ++ segments second := by
  rw [segments, Text.fields_append rfl, List.filter_append]
  rfl

/-- A slash at the end adds no segment. -/
theorem segments_append_slash (path : String) : segments (path ++ "/") = segments path := by
  rw [← String.append_empty (s := path ++ "/"), segments_append]
  simp [segments, Text.fields, Text.fieldChars]

/-- The path of a segment in a directory: the directory, one slash and the segment. What stands
before the slash is the same for all segments. -/
theorem exists_forall_join_eq (hpath : path ≠ "") :
    ∃ front, (∀ segment, IsSegment segment → join path segment = front ++ "/" ++ segment) ∧
      (path = front ∨ path = front ++ "/") := by
  have hrelative {segment : String} (hsegment : IsSegment segment) :
      isAbsolute segment = false := by
    rw [← Bool.not_eq_true, isAbsolute_iff]
    exact fun h => hsegment.noSlash (List.mem_of_mem_head? h)
  -- The slash between the two parts may be that at the end of the first one.
  by_cases hslash : path.toList.getLast? = some '/'
  · obtain ⟨front, hfront⟩ := List.getLast?_eq_some_iff.1 hslash
    have hpathFront : path = String.ofList front ++ "/" := by
      rw [← String.toList_inj, hfront]
      simp
    refine ⟨String.ofList front, fun segment hsegment => ?_, .inr hpathFront⟩
    rw [join, hrelative hsegment, if_neg (by simpa using hpath), if_pos hslash, ← hpathFront]
  · refine ⟨path, fun segment hsegment => ?_, .inl rfl⟩
    rw [join, hrelative hsegment, if_neg (by simpa using hpath), if_neg hslash]

theorem exists_join_eq (hpath : path ≠ "") (hsegment : IsSegment segment) :
    ∃ front, join path segment = front ++ "/" ++ segment ∧
      (path = front ∨ path = front ++ "/") := by
  obtain ⟨front, hjoin, hfront⟩ := exists_forall_join_eq hpath
  exact ⟨front, hjoin segment hsegment, hfront⟩

/-- The segments of a segment in a directory. -/
theorem segments_join (hpath : path ≠ "") (hsegment : IsSegment segment) :
    segments (join path segment) = segments path ++ [segment] := by
  obtain ⟨front, hjoin, rfl | rfl⟩ := exists_join_eq hpath hsegment
  · rw [hjoin, segments_append, segments_of_isSegment hsegment]
  · rw [hjoin, segments_append, segments_append_slash, segments_of_isSegment hsegment]

/-- Only the first character decides where a path starts. -/
theorem isAbsolute_append (hpath : path ≠ "") (more : String) :
    isAbsolute (path ++ more) = isAbsolute path := by
  rw [Bool.eq_iff_iff, isAbsolute_iff, isAbsolute_iff, String.toList_append,
    List.head?_append_of_ne_nil _ (by simpa using hpath)]

theorem isAbsolute_join (hpath : path ≠ "") (hsegment : IsSegment segment) :
    isAbsolute (join path segment) = isAbsolute path := by
  obtain ⟨front, hjoin, rfl | rfl⟩ := exists_join_eq hpath hsegment
  · rw [hjoin, String.append_assoc, isAbsolute_append hpath]
  · rw [hjoin, isAbsolute_append hpath]

/-- Whatever is inside a directory with an absolute path has an absolute path. -/
theorem isAbsolute_join_of_isAbsolute (hpath : isAbsolute path = true) (name : String) :
    isAbsolute (join path name) = true := by
  have hne : path ≠ "" := by
    rintro rfl
    cases hpath
  rw [join]
  split
  · next hname =>
    rw [Bool.or_eq_true, decide_eq_true_eq] at hname
    exact hname.resolve_right hne
  · split
    · rw [isAbsolute_append hne, hpath]
    · rw [String.append_assoc, isAbsolute_append hne, hpath]

/-- The path of a location is absolute. -/
theorem isAbsolute_pathOf (location : Location) :
    isAbsolute (FileSystem.pathOf location) = true := by
  rw [FileSystem.pathOf, isAbsolute_append (by decide)]
  decide

theorem slash_mem_of_isAbsolute (h : isAbsolute path = true) : '/' ∈ path.toList :=
  List.mem_of_mem_head? (isAbsolute_iff.1 h)

/-- The path of a segment in a directory does not end in a slash. -/
theorem endsInSlash_join (hpath : path ≠ "") (hsegment : IsSegment segment) :
    FileSystem.endsInSlash (join path segment) = false := by
  obtain ⟨front, hjoin, -⟩ := exists_join_eq hpath hsegment
  rw [FileSystem.endsInSlash, beq_eq_false_iff_ne, hjoin, String.toList_append,
    List.getLast?_append_of_ne_nil _ (by simpa using hsegment.ne_empty)]
  exact fun h => hsegment.noSlash (List.mem_of_getLast? h)

/-! ## The directory above -/

/-- The components of a name in a directory. -/
theorem components_join (hpath : path ≠ "") (hname : IsName name) :
    components (join path name) = components path ++ [name] := by
  have hdot : [name].filter (· ≠ ".") = [name] := by
    rw [List.filter_cons_of_pos (by simpa using hname.ne_dot), List.filter_nil]
  simp only [components, segments_join hpath hname.toIsSegment,
    isAbsolute_join hpath hname.toIsSegment]
  -- Only the first segment may be a dot that counts, and the name is none.
  cases segments path with
  | nil => simp [hname.ne_dot]
  | cons first rest =>
    simp only [List.cons_append, List.filter_append, hdot]
    split
    · rfl
    · rfl

/-- The path of the directory that holds a name. -/
theorem parent?_join (hpath : path ≠ "") (hname : IsName name) :
    parent? (join path name) = some (normal path) := by
  simp only [parent?, components_join hpath hname, isAbsolute_join hpath hname.toIsSegment, normal]
  split
  · next h => simp at h
  · next first rest h =>
    rw [← h, List.dropLast_concat]

/-- The components of a path are some of its segments. -/
theorem components_sublist (path : String) : (components path).Sublist (segments path) := by
  unfold components
  split
  · next h => exact List.nil_sublist _
  · next first rest h =>
    rw [h]
    dsimp only
    split
    · exact List.filter_sublist.cons first
    · exact List.filter_sublist.cons_cons first

/-- The path of the directory above has the components of the directory for its segments. -/
theorem segments_normal (path : String) : segments (normal path) = components path := by
  have habove : segments ("/".intercalate (components path)) = components path := by
    by_cases hne : components path = []
    · rw [hne]
      simp [segments, Text.fields, Text.fieldChars]
    · have hparts : ∀ part ∈ components path, IsSegment part := fun part h =>
        of_mem_segments ((components_sublist path).subset h)
      rw [segments, Text.fields_intercalate rfl (fun part h => (hparts part h).noSlash) hne,
        List.filter_eq_self]
      exact fun part h => by simpa using (hparts part h).ne_empty
  rw [normal]
  split
  · have hslash := segments_append "" ("/".intercalate (components path))
    rw [String.empty_append] at hslash
    rw [hslash, habove]
    rfl
  · exact habove

/-- A relative path has a component. -/
theorem components_ne_nil (hpath : path ≠ "") (hrelative : isAbsolute path = false) :
    components path ≠ [] := by
  obtain ⟨c, cs, hcs⟩ := List.exists_cons_of_ne_nil (mt String.toList_eq_nil_iff.1 hpath)
  -- The first character is in the first segment, which is then a component.
  have hc : c ≠ '/' := by
    rintro rfl
    rw [isAbsolute_iff.2 (by rw [hcs]; rfl)] at hrelative
    cases hrelative
  obtain ⟨field, fields, hfields⟩ := List.exists_cons_of_ne_nil (Text.fieldChars_ne_nil '/' cs)
  have hsegments : segments path = String.ofList (c :: field) ::
      (fields.map String.ofList).filter (· ≠ "") := by
    rw [segments, Text.fields, hcs, Text.fieldChars, if_neg hc, hfields, List.map_cons,
      List.filter_cons_of_pos (by simp)]
  rw [components, hsegments]
  dsimp only
  rw [if_neg (by simp [hrelative])]
  exact List.cons_ne_nil _ _

/-- What is joined starts with the first part. -/
theorem exists_intercalate_eq_append (between part : String) (parts : List String) :
    ∃ more, between.intercalate (part :: parts) = part ++ more := by
  cases parts with
  | nil => exact ⟨"", by rw [String.intercalate_singleton, String.append_empty]⟩
  | cons next parts =>
    exact ⟨between ++ between.intercalate (next :: parts), by
      rw [String.intercalate_cons_cons, String.append_assoc]⟩

theorem isAbsolute_normal (hpath : path ≠ "") : isAbsolute (normal path) = isAbsolute path := by
  cases habsolute : isAbsolute path with
  | true =>
    rw [normal, if_pos habsolute, isAbsolute_append (by decide)]
    decide
  | false =>
    obtain ⟨first, rest, hcomponents⟩ :=
      List.exists_cons_of_ne_nil (components_ne_nil hpath habsolute)
    obtain ⟨more, hmore⟩ := exists_intercalate_eq_append "/" first rest
    have hmem : first ∈ components path := hcomponents ▸ List.mem_cons_self
    obtain ⟨hne, hslash⟩ := of_mem_segments ((components_sublist path).subset hmem)
    rw [normal, if_neg (by simp [habsolute]), hcomponents, hmore, isAbsolute_append hne,
      ← Bool.not_eq_true, isAbsolute_iff]
    exact fun h => hslash (List.mem_of_mem_head? h)

/-- Leaving out fields leaves out characters. -/
theorem intercalate_sublist {α : Type} {separator : List α} {parts fields : List (List α)}
    (h : parts.Sublist fields) :
    (separator.intercalate parts).Sublist (separator.intercalate fields) := by
  -- A field that is left out takes the separator after it along.
  induction h with
  | slnil => exact List.Sublist.refl _
  | @cons parts fields field h ih =>
    cases fields with
    | nil =>
      obtain rfl := List.sublist_nil.1 h
      exact List.nil_sublist _
    | cons next fields =>
      rw [List.intercalate_cons_cons]
      exact ih.trans (List.sublist_append_right _ _)
  | @cons_cons parts fields field h ih =>
    cases parts with
    | nil =>
      rw [List.intercalate_singleton]
      cases fields with
      | nil => rw [List.intercalate_singleton]
      | cons next fields =>
        rw [List.intercalate_cons_cons, List.append_assoc]
        exact List.sublist_append_left _ _
    | cons part parts =>
      cases fields with
      | nil => cases h
      | cons next fields =>
        rw [List.intercalate_cons_cons, List.intercalate_cons_cons]
        exact ih.append_left _

/-- The segments are some of the fields between slashes. -/
theorem map_toList_segments_sublist (path : String) :
    ((segments path).map String.toList).Sublist (Text.fieldChars '/' path.toList) := by
  have hfields : (Text.fields '/' path).map String.toList = Text.fieldChars '/' path.toList := by
    rw [Text.fields, List.map_map]
    exact (List.map_congr_left fun field _ => String.toList_ofList).trans (List.map_id _)
  rw [← hfields]
  exact List.filter_sublist.map _

/-- The path of the directory above is the path of the directory with some characters left out. -/
theorem toList_normal_sublist (path : String) : (normal path).toList.Sublist path.toList := by
  have habove {rest : String} (h : (components path).Sublist (segments rest)) :
      ("/".intercalate (components path)).toList.Sublist rest.toList := by
    have hsublist : (['/'].intercalate ((components path).map String.toList)).Sublist
        (['/'].intercalate (Text.fieldChars '/' rest.toList)) :=
      intercalate_sublist ((h.map String.toList).trans (map_toList_segments_sublist rest))
    rw [Text.intercalate_fieldChars] at hsublist
    rw [String.toList_intercalate]
    exact hsublist
  -- The slash of the root stays in front.
  cases habsolute : isAbsolute path with
  | true =>
    obtain ⟨cs, hcs⟩ := List.head?_eq_some_iff.1 (isAbsolute_iff.1 habsolute)
    have hpath : path = "" ++ "/" ++ String.ofList cs := by
      rw [← String.toList_inj, hcs]
      simp
    have hsegments : segments path = segments (String.ofList cs) := by
      rw [hpath, segments_append]
      rfl
    have hsublist := habove (hsegments ▸ components_sublist path)
    rw [normal, if_pos habsolute, String.toList_append, hcs]
    rw [String.toList_ofList] at hsublist
    exact hsublist.cons_cons '/'
  | false =>
    rw [normal, if_neg (by simp [habsolute])]
    exact habove (components_sublist path)

/-- A path can lead somewhere if it is not empty, holds no null character and is not too long. -/
theorem pathError?_eq_none_iff : FileSystem.pathError? path = none ↔ path ≠ "" ∧
    '\x00' ∉ path.toList ∧ (Text.Utf8.encode path).length ≤ FileSystem.maxPath := by
  simp only [FileSystem.pathError?, List.contains_iff_mem]
  split
  · next hempty => simp [hempty]
  split
  · next hzero => simp [hzero]
  split
  · next hlong => simp only [reduceCtorEq, false_iff, not_and, Nat.not_le, hlong, implies_true]
  · next hempty hzero hlong =>
    exact ⟨fun _ => ⟨hempty, hzero, Nat.le_of_not_lt hlong⟩, fun _ => rfl⟩

/-- The path of a directory can lead somewhere if that of a segment in it can. -/
theorem pathError?_of_join (hpath : path ≠ "") (hsegment : IsSegment segment)
    (h : FileSystem.pathError? (join path segment) = none) : FileSystem.pathError? path = none := by
  obtain ⟨more, hmore⟩ : ∃ more, join path segment = path ++ more := by
    obtain ⟨front, hjoin, hfront | hfront⟩ := exists_join_eq hpath hsegment
    · exact ⟨"/" ++ segment, by rw [hjoin, hfront, String.append_assoc]⟩
    · exact ⟨segment, by rw [hjoin, hfront]⟩
  rw [pathError?_eq_none_iff, hmore, String.toList_append, List.mem_append, not_or,
    Text.Utf8.encode_append, List.length_append] at h
  obtain ⟨-, ⟨hzero, -⟩, hlength⟩ := h
  exact pathError?_eq_none_iff.2 ⟨hpath, hzero, Nat.le_trans (Nat.le_add_right _ _) hlength⟩

/-- Where there is room for a segment in a directory, there is room for a shorter one. -/
theorem pathError?_join_of_length_le {other : String} (hpath : path ≠ "")
    (hsegment : IsSegment segment) (hother : IsSegment other) (hzero : '\x00' ∉ other.toList)
    (hlength : (Text.Utf8.encode other).length ≤ (Text.Utf8.encode segment).length)
    (h : FileSystem.pathError? (join path segment) = none) :
    FileSystem.pathError? (join path other) = none := by
  obtain ⟨front, hjoin, -⟩ := exists_forall_join_eq hpath
  rw [pathError?_eq_none_iff, hjoin segment hsegment, String.toList_append, List.mem_append,
    not_or, Text.Utf8.encode_append, List.length_append] at h
  rw [pathError?_eq_none_iff, hjoin other hother, String.toList_append, List.mem_append, not_or,
    Text.Utf8.encode_append, List.length_append]
  obtain ⟨-, ⟨hfront, -⟩, hroom⟩ := h
  refine ⟨?_, ⟨hfront, hzero⟩, by omega⟩
  simp [hother.ne_empty]

theorem normal_ne_empty (hpath : path ≠ "") : normal path ≠ "" := by
  cases habsolute : isAbsolute path with
  | true =>
    rw [normal, if_pos habsolute]
    simp
  | false =>
    intro hnormal
    refine components_ne_nil hpath habsolute ?_
    rw [← segments_normal, hnormal]
    rfl

/-- A path that can lead somewhere still can without the segments that change nothing. -/
theorem pathError?_normal (hpath : FileSystem.pathError? path = none) :
    FileSystem.pathError? (normal path) = none := by
  rw [pathError?_eq_none_iff] at hpath ⊢
  obtain ⟨hempty, hzero, hlength⟩ := hpath
  have hsublist := toList_normal_sublist path
  exact ⟨normal_ne_empty hempty, fun h => hzero (hsublist.subset h),
    Nat.le_trans (hsublist.flatMap Text.Utf8.encodeChar).length_le hlength⟩

/-- Where a name of two bytes or more can be, the directory can be asked for by a dot. -/
theorem pathError?_join_dot (hpath : path ≠ "") (hname : IsName name)
    (hlength : 2 ≤ (Text.Utf8.encode name).length)
    (hjoin : FileSystem.pathError? (join path name) = none) :
    FileSystem.pathError? (join (normal path) ".") = none := by
  obtain ⟨front, hfront, hpathFront⟩ := exists_join_eq hpath hname.toIsSegment
  obtain ⟨above, habove, hnormal⟩ := exists_join_eq (normal_ne_empty hpath) isSegment_dot
  rw [pathError?_eq_none_iff, hfront] at hjoin
  rw [pathError?_eq_none_iff, habove]
  obtain ⟨-, hzero, hjoin⟩ := hjoin
  -- What stands before the dot is part of the directory, which is at most a slash longer than
  -- what stands before the name.
  have habovePath : above.toList.Sublist path.toList := by
    refine List.Sublist.trans ?_ (toList_normal_sublist path)
    rcases hnormal with h | h
    · rw [h]
    · rw [h, String.toList_append]
      exact List.sublist_append_left _ _
  have hpathSlash : path.toList.Sublist (front ++ "/").toList := by
    rcases hpathFront with h | h
    · rw [h, String.toList_append]
      exact List.sublist_append_left _ _
    · rw [h]
  have haboveSlash : above.toList.Sublist (front ++ "/").toList := habovePath.trans hpathSlash
  refine ⟨by simp, fun hmem => ?_, ?_⟩
  · rw [String.toList_append, String.toList_append, List.append_assoc, List.mem_append] at hmem
    refine hzero ?_
    rw [String.toList_append]
    exact List.mem_append_left _ (haboveSlash.subset (hmem.resolve_right (by decide)))
  · have hle : (Text.Utf8.encode above).length ≤ (Text.Utf8.encode (front ++ "/")).length :=
      (haboveSlash.flatMap Text.Utf8.encodeChar).length_le
    have hdot : (Text.Utf8.encode "/").length + (Text.Utf8.encode ".").length = 2 := by decide
    simp only [Text.Utf8.encode_append, List.length_append] at hle hjoin ⊢
    omega

end CompileCommands.Path
