import CompileCommands.Proofs.Bazel
import CompileCommands.Proofs.Text.Lossy
import CompileCommands.Proofs.Text.Whitespace

/-!
# What the build tool says of itself

The answer to a question is what the build tool writes, without the white space at either end.
Whatever is no text counts as something that has been said: it is replaced in the answer and never
taken for white space.

* `IsBlank`: output that says nothing.
* `IsAnswer`: output with the answer that it gives.
* `runOn_info_of_gives`: a question to a build tool that ends well.
-/

namespace CompileCommands.Bazel

open Text (isWhite IsTrimmed)
open Text.Utf8 (IsLossy)

/-- The output is the encoding of white space, or there is none. -/
def IsBlank (output : List UInt8) : Prop :=
  ∃ text : String, output = Text.Utf8.encode text ∧ ∀ c ∈ text.toList, isWhite c = true

/-- The answer that some output gives. -/
structure IsAnswer (output : List UInt8) (answer : String) : Prop where
  /-- Something is said. -/
  ne_empty : answer ≠ ""
  /-- What the output decodes to is the answer between white space, and the answer neither starts
  nor ends with any. -/
  trimmed : ∃ text : String, IsLossy output text.toList ∧ IsTrimmed text answer
  /-- What is left out of the output is the encoding of white space. -/
  between : ∃ front middle back, output =
      Text.Utf8.encodeChars front ++ middle ++ Text.Utf8.encodeChars back ∧
    (∀ c ∈ front, isWhite c = true) ∧ (∀ c ∈ back, isWhite c = true) ∧
      IsLossy middle answer.toList
  /-- Of a text, the answer is a part, and so is its encoding. -/
  part : ∀ text : String, output = Text.Utf8.encode text →
    answer.toList <:+: text.toList ∧ Text.Utf8.encode answer <:+: output

variable {launch : Launch} {bazel : Bazel} {directory : Option String} {key answer text : String}
  {journal after : Journal} {output : List UInt8} {cs : List Char}

/-- Nothing is replaced by white space. -/
theorem replacement_notMem (h : ∀ c ∈ cs, isWhite c = true) : '\uFFFD' ∉ cs := by
  intro hmem
  exact absurd (h _ hmem) (by decide)

/-- Output gives no answer exactly when it is blank. -/
theorem answer?_eq_none_iff : answer? output = none ↔ IsBlank output := by
  have hnone : answer? output = none ↔
      ∀ c ∈ (Text.Utf8.decodeLossy output).toList, isWhite c = true := by
    rw [← Text.trim_eq_empty_iff, answer?]
    simp
  rw [hnone]
  constructor
  · intro hwhite
    have hlossy := Text.Utf8.decodeLossy_eq_iff.1 (rfl : Text.Utf8.decodeLossy output = _)
    exact ⟨_, hlossy.eq_encodeChars (replacement_notMem hwhite), hwhite⟩
  · rintro ⟨text, rfl, hwhite⟩
    have hdecode : Text.Utf8.decodeLossy (Text.Utf8.encode text) = text :=
      Text.Utf8.decodeLossy_eq_iff.2 (Text.Utf8.isLossy_encodeChars text.toList)
    rwa [hdecode]

/-- The output around an answer decodes to the text around it. -/
theorem isAnswer_of_isTrimmed (hlossy : IsLossy output text.toList)
    (htrimmed : IsTrimmed text answer) (hne : answer ≠ "") : IsAnswer output answer where
  ne_empty := hne
  trimmed := ⟨text, hlossy, htrimmed⟩
  between := by
    obtain ⟨front, back, htext, hfront, hback⟩ := htrimmed.between
    rw [htext] at hlossy
    obtain ⟨others, last, rfl, hothers, hlast⟩ := hlossy.exists_append
    obtain ⟨first, middle, rfl, hfirst, hmiddle⟩ := hothers.exists_append
    refine ⟨front, middle, back, ?_, hfront, hback, hmiddle⟩
    rw [hfirst.eq_encodeChars (replacement_notMem hfront),
      hlast.eq_encodeChars (replacement_notMem hback)]
  part written houtput := by
    -- A text decodes to itself.
    rw [houtput] at hlossy
    have hwritten := (Text.Utf8.isLossy_encodeChars written.toList).unique hlossy rfl
    obtain ⟨front, back, htext, -⟩ := htrimmed.between
    rw [hwritten, houtput, Text.Utf8.encode, Text.Utf8.encode, hwritten, htext]
    refine ⟨⟨front, back, rfl⟩, Text.Utf8.encodeChars front, Text.Utf8.encodeChars back, ?_⟩
    simp only [Text.Utf8.encodeChars, List.flatMap_append]

theorem isAnswer_of_answer? (h : answer? output = some answer) : IsAnswer output answer := by
  simp only [answer?, Option.ite_none_left_eq_some, Option.some.injEq] at h
  obtain ⟨hne, rfl⟩ := h
  exact isAnswer_of_isTrimmed (Text.Utf8.decodeLossy_eq_iff.1 rfl) (Text.isTrimmed_trim _) hne

/-- A question to a build tool that ends well is answered by what it writes. -/
theorem runOn_info_of_gives
    (h : launch.Gives journal ⟨directory, bazel.program, ["info", key]⟩ output after) :
    (bazel.info launch directory key).runOn journal =
      match answer? output with
      | some answer => (.ok answer, after)
      | none => (.error (.emptyAnswer (bazel.commandLine ["info", key])), after) := by
  rw [info, FileTask.runOn_bind, runOn_call_eq_ok_iff.2 h]
  dsimp only
  cases answer? output with
  | some answer => exact FileTask.runOn_pure _ _
  | none => exact FileTask.runOn_throw _ _

/-- A question to a build tool that ends well fails for want of an answer exactly when nothing but
white space is written. Otherwise it is answered by what is written between the white space at
either end, with a replacement character for every part that is no text. -/
theorem info_answers
    (h : launch.Gives journal ⟨directory, bazel.program, ["info", key]⟩ output after) :
    ((bazel.info launch directory key).runOn journal =
        (.error (.emptyAnswer (bazel.commandLine ["info", key])), after) ↔ IsBlank output) ∧
      (¬ IsBlank output → ∃ answer,
        (bazel.info launch directory key).runOn journal = (.ok answer, after) ∧
          IsAnswer output answer) := by
  rw [runOn_info_of_gives h, ← answer?_eq_none_iff]
  cases hanswer : answer? output with
  | none => exact ⟨iff_of_true rfl rfl, fun hnot => absurd rfl hnot⟩
  | some answer =>
    exact ⟨iff_of_false (by simp) nofun, fun _ => ⟨answer, rfl, isAnswer_of_answer? hanswer⟩⟩

/-- An ideographic space, a currency sign that is cut off, and a space: what is left of the sign is
the answer. -/
theorem info_answers_cut :
    let output : List UInt8 := [0xE3, 0x80, 0x80, 0xE2, 0x82, 0x20, 0x0A]
    let launch : Launch := .answering {} fun _ _ => .ok { output }
    launch.Gives ⟨{}, []⟩ ⟨none, "bazel", ["info", "workspace"]⟩ output ⟨{}, []⟩ ∧
      ¬ IsBlank output ∧
      ((Bazel.mk "bazel").info launch none "workspace").runOn ⟨{}, []⟩ =
        (.ok "\uFFFD", ⟨{}, []⟩) ∧
      IsAnswer output "\uFFFD" := by
  intro output launch
  have hgives : launch.Gives ⟨{}, []⟩ ⟨none, "bazel", ["info", "workspace"]⟩ output ⟨{}, []⟩ :=
    ⟨{ output }, rfl, rfl, rfl⟩
  have hsign : answer? output = some "\uFFFD" := by decide +kernel
  have hblank : ¬ IsBlank output := by
    rw [← answer?_eq_none_iff, hsign]
    exact nofun
  obtain ⟨answer, hrun, hanswer⟩ := (info_answers hgives).2 hblank
  obtain rfl : answer = "\uFFFD" := by
    rw [runOn_info_of_gives hgives, hsign] at hrun
    cases hrun
    rfl
  exact ⟨hgives, hblank, hrun, hanswer⟩

end CompileCommands.Bazel
