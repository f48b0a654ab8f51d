import Mathlib.Data.List.Basic
import RequestScribe.Command.Batch
import RequestScribe.Proofs.Code.Layout
import RequestScribe.Proofs.Text.Chars

/-!
# Batches and their commands

What stands before a blank line has no bearing on what stands behind it, so a batch can be
read one run of lines at a time.  A command whose lines are neither blank nor comments is
one run, and it is not cut again unless all of its several lines could be commands of their own.

Whatever the text is, its runs have just the lines that are neither blank nor comments, and the
commands of a run have the lines of the run.
-/

namespace RequestScribe

/-! ## Lines in front of a line feed -/

namespace Chars

/-- The pieces in front of a line feed are lines, whatever follows it. -/
theorem lines_append_feed (cs rest : List Char) :
    lines (cs ++ '\n' :: rest) = (cs.splitOn '\n').map dropReturn ++ lines rest := by
  have later : rest.splitOn '\n' ≠ [] := List.splitOn_ne_nil '\n' rest
  have last : (cs.splitOn '\n' ++ rest.splitOn '\n').getLastD [] =
      (rest.splitOn '\n').getLastD [] := by
    rw [List.getLastD_eq_getLast?, List.getLastD_eq_getLast?, List.getLast?_append_of_ne_nil _ later]
  unfold lines
  dsimp only
  rw [List.splitOn_append_cons_self, last, List.dropLast_append_of_ne_nil later, List.map_append,
    List.append_assoc]

theorem dropReturn_of_not_mem {line : List Char} (noReturn : '\r' ∉ line) :
    dropReturn line = line := by
  rw [dropReturn, if_neg fun last => noReturn (List.mem_of_getLast? last)]

theorem map_dropReturn_splitOn {cs : List Char} (noReturn : '\r' ∉ cs) :
    (cs.splitOn '\n').map dropReturn = cs.splitOn '\n' := by
  have each : ∀ line ∈ cs.splitOn '\n', dropReturn line = line := fun line mem =>
    dropReturn_of_not_mem fun inside => noReturn (mem_of_mem_splitOn mem inside)
  rw [List.map_congr_left each, List.map_id']

/-- Without carriage returns a text has its pieces as lines if the last one is not empty. -/
theorem lines_eq_splitOn {cs : List Char} (noReturn : '\r' ∉ cs)
    (filled : ∀ line ∈ cs.splitOn '\n', line ≠ []) : lines cs = cs.splitOn '\n' := by
  have some : cs.splitOn '\n' ≠ [] := List.splitOn_ne_nil '\n' cs
  have last : (cs.splitOn '\n').getLastD [] = (cs.splitOn '\n').getLast some := by
    rw [List.getLastD_eq_getLast?, List.getLast?_eq_some_getLast some, Option.getD_some]
  have ends : ((cs.splitOn '\n').getLast some).isEmpty = false := by
    simpa using filled _ (List.getLast_mem some)
  rw [lines, last, List.map_dropLast, map_dropReturn_splitOn noReturn, ends]
  exact List.dropLast_concat_getLast some

/-! ## Lines up to blanks at their ends -/

theorem trimEnd_concat_blank {c : Char} (blank : isBlank c = true) (cs : List Char) :
    trimEnd (cs ++ [c]) = trimEnd cs := by
  rw [trimEnd, List.reverse_concat, List.dropWhile_cons_of_pos blank, trimEnd]

theorem trim_concat_blank {c : Char} (blank : isBlank c = true) (cs : List Char) :
    trim (cs ++ [c]) = trim cs := by
  unfold trim trimStart
  rw [List.dropWhile_append]
  split
  · next empty =>
      rw [List.isEmpty_iff.1 empty, List.dropWhile_cons_of_pos blank]
      rfl
  · exact trimEnd_concat_blank blank _

theorem trim_dropReturn (line : List Char) : trim (dropReturn line) = trim line := by
  unfold dropReturn
  split
  · next last =>
      have whole : line = line.dropLast ++ ['\r'] := (List.dropLast_append_getLast? _ last).symm
      rw [whole, List.dropLast_concat, trim_concat_blank (by decide)]
  · rfl

theorem not_mem_dropReturn {c : Char} {line : List Char} (absent : c ∉ line) :
    c ∉ dropReturn line := by
  unfold dropReturn
  split
  · exact fun mem => absent (List.dropLast_subset _ mem)
  · exact absent

/-- No line has a line feed. -/
theorem not_mem_of_mem_lines {line cs : List Char} (mem : line ∈ lines cs) : '\n' ∉ line := by
  have piece {part : List Char} (held : part ∈ cs.splitOn '\n') : '\n' ∉ part :=
    not_mem_of_mem_splitOn held
  rcases List.mem_append.1 mem with mem | mem
  · obtain ⟨part, held, rfl⟩ := List.mem_map.1 mem
    exact not_mem_dropReturn (piece (List.dropLast_subset _ held))
  · split at mem
    · exact absurd mem List.not_mem_nil
    · obtain rfl := List.mem_singleton.1 mem
      rw [List.getLastD_eq_getLast?, List.getLast?_eq_some_getLast (List.splitOn_ne_nil '\n' cs)]
      exact piece (List.getLast_mem _)

/-- What line feeds join has the joined lines, up to blanks at their ends. -/
theorem map_trim_lines_intercalate {block : List (List Char)} (some : block ≠ [])
    (whole : ∀ line ∈ block, '\n' ∉ line) (filled : ∀ line ∈ block, line ≠ []) :
    (lines (['\n'].intercalate block)).map trim = block.map trim := by
  have last : (block.getLastD []) = block.getLast some := by
    rw [List.getLastD_eq_getLast?, List.getLast?_eq_some_getLast some, Option.getD_some]
  have ends : (block.getLast some).isEmpty = false := by
    simpa using filled _ (List.getLast_mem some)
  have trimmed : block.dropLast.map (trim ∘ dropReturn) = block.dropLast.map trim :=
    List.map_congr_left fun line _ => trim_dropReturn line
  unfold lines
  dsimp only
  rw [List.splitOn_intercalate '\n' whole some, last, ends, List.map_append, List.map_map, trimmed,
    ← List.map_append]
  exact congrArg (List.map trim) (List.dropLast_concat_getLast some)

end Chars

namespace Batch

/-! ## Runs of lines -/

/-- The runs of some lines that are neither blank nor comments. -/
def runs (lines : List String) : List (List String) :=
  ((lines.filter fun line => !isComment line).splitOnP Text.isBlank).filter
    fun block => !block.isEmpty

theorem blocks_eq_runs (text : String) : blocks text = runs (Text.lines text) := rfl

/-- A blank line ends the run before it. -/
theorem runs_append_blank (before after : List String) :
    runs (before ++ "" :: after) = runs before ++ runs after := by
  have stays : (before ++ "" :: after).filter (fun line => !isComment line) =
      before.filter (fun line => !isComment line) ++
        "" :: after.filter fun line => !isComment line := by
    rw [List.filter_append, List.filter_cons_of_pos (by decide)]
  unfold runs
  rw [stays, List.splitOnP_append_cons _ _ (by decide), List.filter_append]

theorem runs_of_shown {lines : List String} (some : lines ≠ [])
    (visible : ∀ line ∈ lines, Text.isBlank line = false)
    (uncommented : ∀ line ∈ lines, isComment line = false) : runs lines = [lines] := by
  have kept : lines.filter (fun line => !isComment line) = lines :=
    List.filter_eq_self.2 fun line mem => by simp [uncommented line mem]
  unfold runs
  rw [kept, List.splitOnP_eq_singleton visible]
  simpa using some

/-- A comment is a line whose first character that is not blank is a number sign. -/
theorem isComment_iff {line : String} :
    isComment line = true ↔ line.toList.find? (fun c => !Chars.isBlank c) = some '#' := by
  have first (cs : List Char) : ['#'].isPrefixOf (cs.dropWhile Chars.isBlank) = true ↔
      cs.find? (fun c => !Chars.isBlank c) = some '#' := by
    induction cs with
    | nil => decide
    | cons c rest ih =>
        cases blank : Chars.isBlank c with
        | true => rwa [List.dropWhile_cons_of_pos blank, List.find?_cons_of_neg (by simp [blank])]
        | false =>
            rw [List.dropWhile_cons_of_neg (by simp [blank]),
              List.find?_cons_of_pos (by simp [blank]), Option.some.injEq, @eq_comm _ c]
            simp
  have text : (Text.trimStart line).toList = line.toList.dropWhile Chars.isBlank := by
    rw [Text.trimStart, String.toList_ofList, Chars.trimStart]
  rw [isComment, Text.startsWith, text]
  exact first line.toList

/-! ## Commands in a batch -/

def namesProgram (line : String) : Bool :=
  ((Text.words line).head?.map Shell.isProgramName).getD false

/--
A command that can stand between two blank lines.  If it has several lines, then one of
them could not be a command of its own or goes on in the next line.
-/
structure IsEntry (command : String) : Prop where
  noReturn : '\r' ∉ command.toList
  trimmed : Text.trim command = command
  visible : ∀ line ∈ Text.splitOn '\n' command, Text.isBlank line = false
  uncommented : ∀ line ∈ Text.splitOn '\n' command,
    line.toList.find? (fun c => !Chars.isBlank c) ≠ some '#'
  joined : '\n' ∉ command.toList ∨ ∃ line ∈ Text.splitOn '\n' command,
    namesProgram line = false ∨ Text.endsWith "\\" line = true

/-- Blanks at the end of a line do not hide a backslash, and where there are none it stays. -/
theorem endsWith_trimEnd {line : String} (continued : Text.endsWith "\\" line = true) :
    Text.endsWith "\\" (Text.trimEnd line) = true := by
  rw [Text.endsWith, List.isSuffixOf_iff_suffix] at continued
  obtain ⟨before, whole⟩ := continued
  have same : Chars.trimEnd line.toList = line.toList := by
    rw [← whole, Chars.trimEnd]
    simp [show Chars.isBlank '\\' = false by decide]
  rw [Text.trimEnd, same, String.ofList_toList, Text.endsWith, List.isSuffixOf_iff_suffix]
  exact ⟨before, whole⟩

theorem isWhole_eq_false {line : String}
    (part : namesProgram line = false ∨ Text.endsWith "\\" line = true) :
    isWhole line = false := by
  have whole : isWhole line =
      (namesProgram line && !Text.endsWith "\\" (Text.trimEnd line)) := rfl
  rcases part with other | continued
  · rw [whole, other, Bool.false_and]
  · rw [whole, endsWith_trimEnd continued, Bool.not_true, Bool.and_false]

theorem intercalate_splitOn (text : String) :
    "\n".intercalate (Text.splitOn '\n' text) = text := by
  rw [← String.toList_inj, String.toList_intercalate, Text.splitOn, List.map_map]
  have same : (String.toList ∘ String.ofList) = id := funext fun _ => String.toList_ofList
  rw [same, List.map_id]
  exact List.intercalate_splitOn '\n'

namespace IsEntry

variable {command : String}

theorem ofBlock_eq (entry : IsEntry command) : ofBlock (Text.splitOn '\n' command) = [command] := by
  unfold ofBlock
  split
  · next whole =>
      have single : '\n' ∉ command.toList := by
        refine entry.joined.resolve_right ?_
        rintro ⟨line, mem, part⟩
        have own := List.all_eq_true.1 whole line mem
        rw [isWhole_eq_false part] at own
        cases own
      rw [Text.splitOn, List.splitOn_eq_singleton single]
      simp [entry.trimmed]
  · rw [intercalate_splitOn]

theorem runs_splitOn (entry : IsEntry command) :
    runs (Text.splitOn '\n' command) = [Text.splitOn '\n' command] := by
  refine runs_of_shown ?_ entry.visible fun line mem => ?_
  · rw [Text.splitOn, ne_eq, List.map_eq_nil_iff]
    exact List.splitOn_ne_nil '\n' command.toList
  · rw [← Bool.not_eq_true, isComment_iff]
    exact entry.uncommented line mem

theorem lines_eq (entry : IsEntry command) : Text.lines command = Text.splitOn '\n' command := by
  refine congrArg (List.map String.ofList) (Chars.lines_eq_splitOn entry.noReturn ?_)
  rintro line mem rfl
  have blank := entry.visible "" (List.mem_map_of_mem mem)
  cases blank

theorem lines_append (entry : IsEntry command) (rest : String) :
    Text.lines (command ++ "\n\n" ++ rest) =
      Text.splitOn '\n' command ++ "" :: Text.lines rest := by
  have text : (command ++ "\n\n" ++ rest).toList =
      command.toList ++ '\n' :: ([] ++ '\n' :: rest.toList) := by simp
  rw [Text.lines, text, Chars.lines_append_feed, Chars.lines_append_feed,
    Chars.map_dropReturn_splitOn entry.noReturn, List.map_append, List.map_append]
  rfl

/-- A command alone is its batch. -/
theorem commands_eq (entry : IsEntry command) : commands command = [command] := by
  rw [commands, blocks_eq_runs, entry.lines_eq, entry.runs_splitOn, List.flatMap_singleton,
    entry.ofBlock_eq]

/-- A command in front of a blank line is the first of its batch. -/
theorem commands_append (entry : IsEntry command) (rest : String) :
    commands (command ++ "\n\n" ++ rest) = command :: commands rest := by
  rw [commands, blocks_eq_runs, entry.lines_append, runs_append_blank, entry.runs_splitOn,
    List.singleton_append, List.flatMap_cons, entry.ofBlock_eq, List.singleton_append, commands,
    blocks_eq_runs]

end IsEntry

/-- Commands with one blank line between each two are the commands of their batch. -/
theorem commands_intercalate {entries : List String} (each : ∀ command ∈ entries, IsEntry command) :
    commands ("\n\n".intercalate entries) = entries := by
  induction entries with
  | nil => rfl
  | cons command rest ih =>
      obtain ⟨entry, later⟩ := List.forall_mem_cons.1 each
      cases rest with
      | nil =>
          rw [String.intercalate_singleton]
          exact entry.commands_eq
      | cons next others =>
          rw [String.intercalate_cons_cons, entry.commands_append, ih later]

/-- A command on one line and one that goes on in a second line. -/
theorem commands_intercalate_continued :
    let entries := ["curl a.test", "curl b.test \\\n  -H 'A: b'"]
    (∀ command ∈ entries, IsEntry command) ∧
      commands ("\n\n".intercalate entries) = entries := by
  intro entries
  have each : ∀ command ∈ entries, IsEntry command := by
    refine List.forall_mem_cons.2
      ⟨⟨by decide, by decide +kernel, by decide, by decide, .inl (by decide)⟩,
      List.forall_mem_singleton.2 ⟨by decide, by decide +kernel, by decide, by decide, .inr ?_⟩⟩
    exact ⟨"curl b.test \\", by decide, .inr (by decide)⟩
  exact ⟨each, commands_intercalate each⟩

/-! ## The lines of all commands -/

/-- A line that is neither blank nor a comment, by the first of its characters that is not blank. -/
def isShown (line : String) : Bool :=
  (line.toList.find? fun c => !Chars.isBlank c).any (· != '#')

theorem isShown_eq (line : String) : isShown line = (!Text.isBlank line && !isComment line) := by
  have comment : isComment line = (line.toList.find? (fun c => !Chars.isBlank c) == some '#') := by
    rw [Bool.eq_iff_iff, isComment_iff, beq_iff_eq]
  have blank : Text.isBlank line = (line.toList.find? fun c => !Chars.isBlank c).isNone := by
    rw [Bool.eq_iff_iff, Option.isNone_iff_eq_none, List.find?_eq_none, Text.isBlank,
      List.all_eq_true]
    simp
  rw [isShown, comment, blank]
  cases line.toList.find? fun c => !Chars.isBlank c <;> rfl

theorem flatten_splitOnP {α : Type} (p : α → Bool) (items : List α) :
    (items.splitOnP p).flatten = items.filter fun a => !p a := by
  induction items with
  | nil => rfl
  | cons a rest ih =>
      rw [List.splitOnP_cons_eq_if_modifyHead]
      cases parts : p a with
      | true => simp [parts, ih]
      | false =>
          obtain ⟨first, more, pieces⟩ := List.exists_cons_of_ne_nil (List.splitOnP_ne_nil p rest)
          rw [pieces] at ih ⊢
          simpa [parts] using ih

/-- The runs have just the lines that are shown. -/
theorem flatten_runs (lines : List String) : (runs lines).flatten = lines.filter isShown := by
  rw [runs, List.flatten_filter_not_isEmpty, flatten_splitOnP, List.filter_filter]
  exact List.filter_congr fun line _ => (isShown_eq line).symm

theorem trimmed_lines_of_trim {line : String} (whole : '\n' ∉ line.toList)
    (visible : Text.isBlank line = false) :
    (Text.lines (Text.trim line)).map Text.trim = [Text.trim line] := by
  have some : (Text.trim line).toList ≠ [] := by
    intro empty
    have blank := Text.trim_eq_empty_iff.1 (String.toList_eq_nil_iff.1 empty)
    rw [visible] at blank
    cases blank
  have single : '\n' ∉ (Text.trim line).toList := by
    rw [Text.trim, String.toList_ofList]
    exact fun mem => whole (Chars.mem_of_mem_trim mem)
  rw [Text.lines, Chars.lines_of_no_break single some, List.map_singleton, String.ofList_toList,
    List.map_singleton, Text.trim_trim]

structure IsRun (block : List String) : Prop where
  some : block ≠ []
  whole : ∀ line ∈ block, '\n' ∉ line.toList
  visible : ∀ line ∈ block, Text.isBlank line = false

theorem isRun_of_mem_blocks {block : List String} {text : String} (mem : block ∈ blocks text) :
    IsRun block := by
  have shown : ∀ line ∈ block, line ∈ Text.lines text ∧ isShown line = true := fun line held =>
    List.mem_filter.1 (flatten_runs _ ▸ List.mem_flatten.2 ⟨block, mem, held⟩)
  refine ⟨?_, fun line held => ?_, fun line held => ?_⟩
  · rintro rfl
    exact absurd (List.mem_filter.1 mem).2 (by simp)
  · obtain ⟨cs, own, rfl⟩ := List.mem_map.1 (shown line held).1
    rw [String.toList_ofList]
    exact Chars.not_mem_of_mem_lines own
  · have both := (shown line held).2
    rw [isShown_eq, Bool.and_eq_true, Bool.not_eq_true'] at both
    exact both.1

namespace IsRun

variable {block : List String}

theorem trimmed_lines_intercalate (run : IsRun block) :
    (Text.lines ("\n".intercalate block)).map Text.trim = block.map Text.trim := by
  have feed : "\n".toList = ['\n'] := rfl
  have some : block.map String.toList ≠ [] := by simpa using run.some
  have filled : ∀ line ∈ block.map String.toList, line ≠ [] := by
    refine List.forall_mem_map.2 fun line mem empty => ?_
    have visible := run.visible line mem
    rw [Text.isBlank, empty] at visible
    cases visible
  have joined := Chars.map_trim_lines_intercalate some (List.forall_mem_map.2 run.whole) filled
  have lifted (lines : List (List Char)) : (lines.map String.ofList).map Text.trim =
      (lines.map Chars.trim).map String.ofList := by
    simp [Text.trim]
  rw [Text.lines, String.toList_intercalate, feed, lifted, joined, List.map_map, List.map_map]
  rfl

/-- The commands of a run have its lines, up to blanks at their ends. -/
theorem trimmed_lines_ofBlock (run : IsRun block) :
    (ofBlock block).flatMap (fun command => (Text.lines command).map Text.trim) =
      block.map Text.trim := by
  unfold ofBlock
  split
  · have each : ∀ line ∈ block,
        (Text.lines (Text.trim line)).map Text.trim = [Text.trim line] := fun line mem =>
      trimmed_lines_of_trim (run.whole line mem) (run.visible line mem)
    rw [List.flatMap_map, List.flatMap_congr each, List.map_eq_flatMap]
  · rw [List.flatMap_singleton]
    exact run.trimmed_lines_intercalate

theorem isBlank_of_mem_ofBlock (run : IsRun block) {command : String}
    (mem : command ∈ ofBlock block) : Text.isBlank command = false := by
  unfold ofBlock at mem
  split at mem
  · obtain ⟨line, held, rfl⟩ := List.mem_map.1 mem
    rw [← Bool.not_eq_true, ← Text.trim_eq_empty_iff, Text.trim_trim, Text.trim_eq_empty_iff,
      run.visible line held]
    exact Bool.false_ne_true
  · obtain rfl := List.mem_singleton.1 mem
    obtain ⟨line, held⟩ := List.exists_mem_of_ne_nil block run.some
    obtain ⟨c, inside, visible⟩ := List.all_eq_false.1 (run.visible line held)
    refine List.all_eq_false.2 ⟨c, ?_, visible⟩
    rw [String.toList_intercalate]
    exact Chars.mem_intercalate inside _ (List.mem_map_of_mem held)

end IsRun

/--
A batch has its commands in order and loses, repeats and moves none of their lines: up to
blanks at their ends, the lines of the commands are those of the text that are neither blank
nor comments.  No command is blank.
-/
theorem lines_commands (text : String) :
    (commands text).flatMap (fun command => (Text.lines command).map Text.trim) =
        ((Text.lines text).filter isShown).map Text.trim ∧
      (commands text).filter Text.isBlank = [] := by
  have run : ∀ block ∈ blocks text, IsRun block := fun block => isRun_of_mem_blocks
  constructor
  · have each : ∀ block ∈ blocks text,
        (ofBlock block).flatMap (fun command => (Text.lines command).map Text.trim) =
          block.map Text.trim := fun block mem => (run block mem).trimmed_lines_ofBlock
    rw [commands, List.flatMap_assoc, List.flatMap_congr each, ← flatten_runs, ← blocks_eq_runs,
      List.map_flatten, List.flatMap_def]
  · refine List.filter_eq_nil_iff.2 fun command mem => ?_
    obtain ⟨block, held, own⟩ := List.mem_flatMap.1 mem
    rw [(run block held).isBlank_of_mem_ofBlock own]
    exact Bool.false_ne_true

/-- A comment ends no run, and a command that goes on keeps its lines together. -/
example : commands "curl a\r\n# b\ncurl c\n\n curl d\\\n-k" =
    ["curl a", "curl c", " curl d\\\n-k"] := by
  decide +kernel

end Batch

end RequestScribe
