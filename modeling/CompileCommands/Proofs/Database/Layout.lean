import CompileCommands.Proofs.Database.Rendering
import CompileCommands.Proofs.Json.Lines

/-!
# The layout of a database

The text of a database is made of lines. Between the brackets stand the records of the commands,
one after the other, and the lines of a record depend on its command alone.

* `splitOn_render`: the line breaks of the text are those of the layout.
* `render_eq_intercalate`: the records of a database.
* `layout_render`: two databases in one, and the number of lines.
-/

namespace CompileCommands

open Json (deeper separated)

namespace Command

/-- The lines of the record of a command in a database. -/
def lines (command : Command) : List (List Char) :=
  deeper command.toJson.lines

/-- The text of the record of a command in a database. -/
def written (command : Command) : String :=
  String.ofList (['\n'].intercalate command.lines)

theorem lines_ne_nil (command : Command) : command.lines ≠ [] := by
  rw [lines, deeper, Ne, List.map_eq_nil_iff]
  exact command.toJson.lines_ne_nil

/-- The arguments have lines of their own, unless there are none. -/
theorem length_lines (command : Command) : command.lines.length =
    if command.arguments = [] then 6 else 7 + command.arguments.length := by
  have harguments : (Json.Value.ofTexts command.arguments).lines.length =
      if command.arguments = [] then 1 else 2 + command.arguments.length := by
    rw [Json.Value.ofTexts, Json.Value.lines, Json.length_blockLines, Json.itemLines_eq_map]
    simp [Function.comp_def, Json.Value.lines]
  have hlines : command.lines.length =
      2 + (1 + ((Json.Value.ofTexts command.arguments).lines.length + (1 + 1))) := by
    simp [lines, deeper, toJson, Json.Value.lines, Json.memberLines, Json.length_blockLines]
  rw [hlines, harguments]
  split
  · rfl
  · omega

example : lines ⟨"/ws", ["cc", "\t"], "a.cc", "a.o"⟩ =
    ["  \x7b", "    \"directory\": \"/ws\",", "    \"arguments\": [", "      \"cc\",",
      "      \"\\t\"", "    ],", "    \"file\": \"a.cc\",", "    \"output\": \"a.o\"",
      "  \x7d"].map String.toList := by
  decide

end Command

namespace Database

/-- The lines of a database. -/
def lines (commands : List Command) : List (List Char) :=
  (Json.Value.array (commands.map Command.toJson)).lines

variable {commands : List Command}

theorem lines_of_ne_nil (hcommands : commands ≠ []) :
    lines commands = ['['] :: (separated (commands.map Command.lines) ++ [[']']]) := by
  have hrecords : (Json.itemLines (commands.map Command.toJson)).map deeper =
      commands.map Command.lines := by
    rw [Json.itemLines_eq_map, List.map_map, List.map_map]
    rfl
  rw [lines, Json.Value.lines, Json.blockLines, if_neg, hrecords]
  rwa [Json.itemLines_eq_map, List.map_eq_nil_iff, List.map_eq_nil_iff]

/-- The brackets have a line each, unless there is nothing between them. -/
theorem length_lines (commands : List Command) : (lines commands).length =
    if commands = [] then 1 else 2 + (commands.map fun command => command.lines.length).sum := by
  split
  · next hcommands =>
    subst hcommands
    rfl
  · next hcommands =>
    rw [lines_of_ne_nil hcommands, List.length_cons, List.length_append, Json.length_separated,
      List.map_map, List.length_singleton, Nat.add_comm 2]
    rfl

/-! ## The text -/

theorem isLine_of_mem_lines (commands : List Command) :
    ∀ line ∈ lines commands, Json.IsLine line :=
  Json.Value.isLine_of_mem_lines _

/-- The text of a database is its lines, with nothing behind the last line break. -/
theorem toList_render_eq_intercalate (commands : List Command) :
    (render commands).toList = ['\n'].intercalate (lines commands ++ [[]]) := by
  have hlines : lines commands ≠ [] :=
    Json.Value.lines_ne_nil _
  rw [Json.intercalate_append_of_ne_nil hlines (List.cons_ne_nil _ _), List.intercalate_singleton,
    List.append_nil, toList_render, Json.Value.prettyAt_eq_intercalate_lines]
  rfl

/-- The text of a database is cut at its line breaks into the lines of the database. -/
theorem splitOn_render (commands : List Command) :
    (render commands).toList.splitOn '\n' = lines commands ++ [[]] := by
  have hlines : ∀ line ∈ lines commands ++ [[]], '\n' ∉ line :=
    List.forall_mem_append.2
      ⟨fun line hline => (isLine_of_mem_lines commands line hline).notMem_newline, by decide⟩
  rw [toList_render_eq_intercalate, List.splitOn_intercalate _ hlines]
  exact List.append_ne_nil_of_right_ne_nil _ (List.cons_ne_nil _ _)

/-- The line breaks are the only control characters in the text of a database. -/
theorem eq_newline_or_le_of_mem_render (commands : List Command) :
    ∀ c ∈ (render commands).toList, c = '\n' ∨ 0x20 ≤ c.toNat := by
  rw [toList_render_eq_intercalate, Json.intercalate_concat_nil]
  intro c hc
  obtain ⟨line, hline, hc⟩ := List.mem_flatMap.1 hc
  rcases List.mem_append.1 hc with hc | hc
  · exact .inr (isLine_of_mem_lines commands line hline c hc)
  · exact .inl (List.mem_singleton.1 hc)

/-- The text of a database has as many line breaks as lines. -/
theorem count_newline_render (commands : List Command) :
    (render commands).toList.count '\n' = (lines commands).length := by
  have hline : ∀ line ∈ lines commands, (line ++ ['\n']).count '\n' = 1 := by
    intro line hline
    rw [List.count_append,
      List.count_eq_zero.2 (isLine_of_mem_lines commands line hline).notMem_newline]
    rfl
  rw [toList_render_eq_intercalate, Json.intercalate_concat_nil, List.count_flatMap,
    Function.comp_def, List.map_congr_left hline, List.map_const', List.sum_replicate_nat,
    Nat.mul_one]

/-- The records of a database stand between its brackets, with commas between them. -/
theorem render_eq_intercalate (hcommands : commands ≠ []) :
    render commands = "[\n" ++ ",\n".intercalate (commands.map Command.written) ++ "\n]\n" := by
  have hrecords : ∀ part ∈ commands.map Command.lines, part ≠ [] := by
    rw [List.forall_mem_map]
    exact fun command _ => command.lines_ne_nil
  have hne : separated (commands.map Command.lines) ≠ [] :=
    Json.separated_ne_nil (by rwa [Ne, List.map_eq_nil_iff]) hrecords
  have hwritten : (commands.map Command.written).map String.toList =
      (commands.map Command.lines).map ['\n'].intercalate := by
    simp [Command.written]
  have htext : (render commands).toList =
      '[' :: '\n' :: ([',', '\n'].intercalate
        ((commands.map Command.lines).map ['\n'].intercalate) ++ ['\n', ']', '\n']) := by
    rw [toList_render_eq_intercalate, lines_of_ne_nil hcommands, List.cons_append,
      List.append_assoc, List.intercalate_cons_of_ne_nil (List.append_ne_nil_of_left_ne_nil hne _),
      Json.intercalate_append_of_ne_nil hne (by simp),
      Json.intercalate_separated _ hrecords]
    rfl
  rw [← String.toList_inj, htext, String.toList_append, String.toList_append,
    String.toList_intercalate, hwritten]
  rfl

/-- Two databases are made one by a comma between the last record of the first and the first record
of the second, without the brackets there: a record is written in the same way wherever it stands.
The text is cut at its line breaks into the lines of the database, and no other control character
is in it, so that the number of its lines follows from the numbers of arguments. -/
theorem layout_render :
    (∀ first second : List Command, first ≠ [] → second ≠ [] → ∃ before after : String,
      render first = before ++ "\n]\n" ∧ render second = "[\n" ++ after ∧
        render (first ++ second) = before ++ ",\n" ++ after) ∧
    (∀ commands : List Command, commands ≠ [] →
      render commands = "[\n" ++ ",\n".intercalate (commands.map Command.written) ++ "\n]\n") ∧
    ∀ commands : List Command,
      (render commands).toList.splitOn '\n' = lines commands ++ [[]] ∧
      (∀ c ∈ (render commands).toList, c = '\n' ∨ 0x20 ≤ c.toNat) ∧
      (render commands).toList.count '\n' =
        if commands = [] then 1
        else 2 + (commands.map fun command =>
          if command.arguments = [] then 6 else 7 + command.arguments.length).sum := by
  refine ⟨fun first second hfirst hsecond => ?_, fun commands => render_eq_intercalate,
    fun commands => ⟨splitOn_render commands, eq_newline_or_le_of_mem_render commands, ?_⟩⟩
  · have hboth : first ++ second ≠ [] := List.append_ne_nil_of_left_ne_nil hfirst _
    refine ⟨"[\n" ++ ",\n".intercalate (first.map Command.written),
      ",\n".intercalate (second.map Command.written) ++ "\n]\n",
      render_eq_intercalate hfirst, ?_, ?_⟩
    · rw [render_eq_intercalate hsecond, String.append_assoc]
    · rw [render_eq_intercalate hboth, List.map_append,
        String.intercalate_append_of_ne_nil (by simpa using hfirst) (by simpa using hsecond)]
      simp only [String.append_assoc]
  · rw [count_newline_render, length_lines]
    simp only [Command.length_lines]

/-- A command without arguments, and one whose argument has a quote, a line break and a character
that stays as it is. -/
theorem layout_render_lineBreak :
    let bare : Command := ⟨"/ws", [], "a.cc", "a.o"⟩
    let broken : Command := ⟨"/ws", ["\"\n\x7f"], "b.cc", "b.o"⟩
    [bare] ≠ [] ∧ [broken] ≠ [] ∧
      (∃ before after : String, render [bare] = before ++ "\n]\n" ∧
        render [broken] = "[\n" ++ after ∧ render [bare, broken] = before ++ ",\n" ++ after) ∧
      render [bare] = "[\n" ++ bare.written ++ "\n]\n" ∧
      ((render [broken]).toList.splitOn '\n')[4]? = some "      \"\\\"\\n\x7f\"".toList ∧
      ('\x7f' ∈ (render [broken]).toList ∧ ('\x7f' = '\n' ∨ 0x20 ≤ '\x7f'.toNat)) ∧
      (render [bare, broken]).toList.count '\n' = 2 + (6 + 8) := by
  intro bare broken
  have hbare : [bare] ≠ [] := by decide
  have hbroken : [broken] ≠ [] := by decide
  have hmem : '\x7f' ∈ (render [broken]).toList := by decide +kernel
  obtain ⟨append, records, layout⟩ := layout_render
  refine ⟨hbare, hbroken, append _ _ hbare hbroken, records _ hbare, ?_,
    ⟨hmem, (layout _).2.1 _ hmem⟩, (layout _).2.2⟩
  rw [(layout _).1]
  decide

end Database

end CompileCommands
