import CompileCommands.Compile.Source
import CompileCommands.Proofs.Text.Fields
import CompileCommands.Proofs.Text.Lowercase

/-!
# The source that a command line names

An argument names a source when it is no flag and ends in a dot and an extension, the case of
ASCII letters apart. No lowercase form of a character past ASCII is involved.

* `Kind.isSource_iff`: the arguments that end in an extension of a kind.
* `Kind.namesSource_iff`: the arguments that name a source of a kind.
* `Kind.source?_eq_some_iff`: the source is the first of them.
* `Kind.source?_eq_sourceBy?_lowercaseAscii`: folding ASCII capitals alone finds the same source.
-/

namespace CompileCommands

/-- The argument is no flag and ends in a dot and one of the extensions, the case of ASCII letters
apart. -/
def NamesSource (extensions : List String) (argument : String) : Prop :=
  argument ≠ "" ∧ argument.toList.head? ≠ some '-' ∧ ∃ extension ∈ extensions,
    ∃ stem ending, argument.toList = stem ++ ending ∧
      Text.lowercaseAscii ending = '.' :: extension.toList

/-- The first argument that names a source. -/
def IsFirstSource (extensions arguments : List String) (file : String) : Prop :=
  ∃ before after, arguments = before ++ file :: after ∧ NamesSource extensions file ∧
    ∀ argument ∈ before, ¬ NamesSource extensions argument

theorem IsFirstSource.exists_namesSource {extensions arguments : List String} {file : String}
    (h : IsFirstSource extensions arguments file) :
    ∃ argument ∈ arguments, NamesSource extensions argument := by
  obtain ⟨before, after, rfl, hnames, -⟩ := h
  exact ⟨file, List.mem_append_right before List.mem_cons_self, hnames⟩

namespace Text

/-- A text whose ASCII capitals are changed ends in what an ending of the text is changed to. -/
theorem suffix_lowercaseAscii_iff {cs folded : List Char} :
    folded <:+ lowercaseAscii cs ↔
      ∃ stem ending, cs = stem ++ ending ∧ lowercaseAscii ending = folded := by
  constructor
  · rintro ⟨front, h⟩
    obtain ⟨stem, ending, hcs, -, hending⟩ := List.map_eq_append_iff.1 h.symm
    exact ⟨stem, ending, hcs, hending⟩
  · rintro ⟨stem, ending, rfl, rfl⟩
    exact ⟨lowercaseAscii stem, List.map_append.symm⟩

end Text

namespace Kind

variable {kind : Kind} {argument file : String} {arguments : List String}

/-- Neither the dot nor a character of an extension is the lowercase form of anything past
ASCII. -/
theorem isPlain_of_mem_extension : ∀ extension ∈ kind.extensions,
    ∀ c ∈ '.' :: extension.toList, Text.Lowercase.IsPlain c := by
  -- There are only a few extensions, so that all can be looked at.
  have hplain : (kind.extensions.all fun extension => ('.' :: extension.toList).all fun c =>
      decide (Text.Lowercase.IsPlain c)) = true := by
    cases kind <;> decide
  simpa only [List.all_eq_true, decide_eq_true_eq] using hplain

/-- For an ending in an extension only the case of ASCII letters counts. -/
theorem endsInExtension_lowercase_iff {cs : List Char} :
    kind.endsInExtension (Text.lowercase cs) = true ↔
      kind.endsInExtension (Text.lowercaseAscii cs) = true := by
  simp only [endsInExtension, List.any_eq_true, List.isSuffixOf_iff_suffix]
  refine exists_congr fun extension => and_congr_right fun hmem => ?_
  exact Text.suffix_lowercase_iff (isPlain_of_mem_extension extension hmem)

/-- A text whose ASCII capitals are changed ends in an extension exactly when the text does, the
case of ASCII letters apart. -/
theorem endsInExtension_lowercaseAscii_iff {cs : List Char} :
    kind.endsInExtension (Text.lowercaseAscii cs) = true ↔
      ∃ extension ∈ kind.extensions, ∃ stem ending, cs = stem ++ ending ∧
        Text.lowercaseAscii ending = '.' :: extension.toList := by
  simp only [endsInExtension, List.any_eq_true, List.isSuffixOf_iff_suffix,
    Text.suffix_lowercaseAscii_iff]

/-- An argument ends in an extension of the kind exactly when it does so with the case of ASCII
letters apart. -/
theorem isSource_iff : kind.isSource argument = true ↔
    ∃ extension ∈ kind.extensions, ∃ stem ending, argument.toList = stem ++ ending ∧
      Text.lowercaseAscii ending = '.' :: extension.toList := by
  rw [isSource, isSourceBy, endsInExtension_lowercase_iff, endsInExtension_lowercaseAscii_iff]

/-- The arguments that name a source of a kind. -/
theorem namesSource_iff : NamesSource kind.extensions argument ↔
    isOperand argument = true ∧ kind.isSource argument = true := by
  rw [isSource_iff, isOperand, Bool.and_eq_true]
  simp only [NamesSource, @Text.startsWith_iff_head? "-" argument '-' rfl, decide_eq_true_eq,
    Bool.not_eq_true', ← Bool.not_eq_true, and_assoc, ne_eq]

/-- The source is the first argument that names one. -/
theorem source?_eq_some_iff :
    kind.source? arguments = some file ↔ IsFirstSource kind.extensions arguments file := by
  have hnames (argument : String) : isOperand argument = true ∧
      kind.isSourceBy Text.lowercase argument = true ↔ NamesSource kind.extensions argument :=
    namesSource_iff.symm
  rw [source?, sourceBy?, List.find?_filter, List.find?_eq_some_iff_append]
  simp only [hnames, decide_eq_true_eq, Bool.not_eq_true', decide_eq_false_iff_not, IsFirstSource]
  constructor
  · rintro ⟨hfile, before, after, rfl, hbefore⟩
    exact ⟨before, after, rfl, hfile, hbefore⟩
  · rintro ⟨before, after, rfl, hfile, hbefore⟩
    exact ⟨hfile, before, after, rfl, hbefore⟩

/-- The same arguments end in an extension when ASCII capitals alone are folded. -/
theorem isSourceBy_lowercase :
    kind.isSourceBy Text.lowercase = kind.isSourceBy Text.lowercaseAscii := by
  funext argument
  exact Bool.eq_iff_iff.2 endsInExtension_lowercase_iff

/-- An argument ends in an extension of the kind exactly when it does so with the case of ASCII
letters apart. So the first source is found by folding ASCII capitals alone, and it is an argument
of the command line as it stands there. -/
theorem source?_eq_sourceBy?_lowercaseAscii (kind : Kind) :
    (∀ argument : String, kind.isSource argument = true ↔
      ∃ extension ∈ kind.extensions, ∃ stem ending, argument.toList = stem ++ ending ∧
        Text.lowercaseAscii ending = '.' :: extension.toList) ∧
    ∀ arguments : List String,
      kind.source? arguments = kind.sourceBy? Text.lowercaseAscii arguments ∧
        ∀ source, kind.source? arguments = some source ↔
          IsFirstSource kind.extensions arguments source := by
  refine ⟨fun argument => isSource_iff, fun arguments => ⟨?_, fun source => source?_eq_some_iff⟩⟩
  rw [source?, sourceBy?, sourceBy?, isSourceBy_lowercase]

end Kind

end CompileCommands
