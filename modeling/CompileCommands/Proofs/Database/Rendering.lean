import CompileCommands.Database
import CompileCommands.Proofs.Json.Pretty
import CompileCommands.Proofs.Json.Reader

/-!
# The text of a database

The text of a database is JSON, followed by a newline: a list with one object for each command,
which has the four fields of the command as its members, in their order. No two databases have the
same text.

* `means_render`: what the text means.
* `read?_render`: the reader takes everything but the newline.
-/

namespace CompileCommands

open Json (Datum)

namespace Command

/-- The object that records a command. -/
def datum (command : Command) : Datum :=
  .object [
    ("directory", .text command.directory),
    ("arguments", .array (command.arguments.map .text)),
    ("file", .text command.file),
    ("output", .text command.output)]

/-- Commands that differ are recorded differently. -/
theorem datum_injective : Function.Injective datum := by
  intro first second h
  simp only [datum, Datum.object.injEq, List.cons.injEq, Prod.mk.injEq, Datum.text.injEq,
    Datum.array.injEq, true_and, and_true] at h
  obtain ⟨hdirectory, harguments, hfile, houtput⟩ := h
  have harguments := List.map_injective_iff.2 (fun _ _ => Datum.text.inj) harguments
  cases first
  cases second
  simp only at hdirectory harguments hfile houtput
  rw [hdirectory, harguments, hfile, houtput]

end Command

namespace Json

theorem itemData_eq_map (items : List Value) : itemData items = items.map Value.datum := by
  induction items with
  | nil => rfl
  | cons item items ih => rw [itemData, ih, List.map_cons]

end Json

/-- What is written for a command is the object that records it. -/
theorem Command.datum_toJson (command : Command) : command.toJson.datum = command.datum := by
  have htexts (texts : List String) :
      (Json.Value.ofTexts texts).datum = .array (texts.map .text) := by
    rw [Json.Value.ofTexts, Json.Value.datum, Json.itemData_eq_map, List.map_map]
    exact congrArg _ (List.map_congr_left fun s _ => by rw [Function.comp_apply, Json.Value.datum])
  simp only [toJson, Json.Value.datum, Json.memberData, htexts, datum]

namespace Database

/-- The text of a database before its last newline. -/
theorem toList_render (commands : List Command) : (render commands).toList =
    (Json.Value.array (commands.map Command.toJson)).prettyAt 0 ++ ['\n'] := by
  simp [render, Json.Value.pretty]

/-- The text of a database, up to its last newline, means the list of the objects that record its
commands. -/
theorem means_prettyAt (commands : List Command) :
    Json.Means ((Json.Value.array (commands.map Command.toJson)).prettyAt 0)
      (.array (commands.map Command.datum)) := by
  have hmeans := (Json.Value.array (commands.map Command.toJson)).means_prettyAt 0
  rw [Json.Value.datum, Json.itemData_eq_map, List.map_map] at hmeans
  rwa [show Json.Value.datum ∘ Command.toJson = Command.datum from
    funext Command.datum_toJson] at hmeans

/-- The text of a database is a document that means the list of its commands. -/
theorem parse?_render (commands : List Command) :
    Json.parse? (render commands).toList = some (.array (commands.map Command.datum)) := by
  rw [Json.parse?_eq_some_iff, toList_render]
  exact ⟨[], _, ['\n'], .nil, means_prettyAt commands, .singleton rfl, rfl⟩

/-- A JSON reader takes the text of a database up to its last newline, and answers the commands,
field by field and in order. Hence no two databases have the same text. -/
theorem read?_render : (∀ commands : List Command,
    Json.read? (render commands).toList =
        some (.array (commands.map Command.datum), ['\n']) ∧
      Json.parse? (render commands).toList = some (.array (commands.map Command.datum))) ∧
    Function.Injective render := by
  refine ⟨fun commands => ⟨?_, parse?_render commands⟩, fun first second h => ?_⟩
  · obtain ⟨depth, hvalue⟩ := means_prettyAt commands
    rw [toList_render]
    exact Json.read?_of_isValue .nil hvalue (Json.ends_cons (by decide))
  · -- Equal texts are read as equal lists.
    have hparse := parse?_render first
    rw [h, parse?_render, Option.some.injEq, Datum.array.injEq] at hparse
    exact List.map_injective_iff.2 Command.datum_injective hparse.symm

end Database

end CompileCommands
