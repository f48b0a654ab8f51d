import Mathlib.Data.List.Chain
import RequestScribe.Proofs.Code.Placement

/-!
# Trees of lines

Lines, blank lines, blocks and scopes leave a writer at the level that it had.  Each of their texts
becomes a line, one level deeper for every block or scope around it, and of two lines that are
written one after the other at most one is empty.

Whether a blank line is written is decided by the end of the text so far.  So the rows that steps
add are joined to others by what they ask of the text in front of them and what they leave at its
end.
-/

namespace RequestScribe

namespace Step

/-- A text that makes one line, and not an empty one. -/
structure IsRow (text : Code) : Prop where
  filled : text.text ≠ ""
  whole : '\n' ∉ text.text.toList

/-- Lines, blank lines, blocks and scopes, at any depth. -/
inductive IsTree : Step → Prop where
  | line {text : Code} : IsRow text → IsTree (.line text)
  | blank : IsTree .blank
  | block {opening closing : Code} {body : List Step} : IsRow opening → IsRow closing →
      (∀ step ∈ body, IsTree step) → IsTree (.block opening closing body)
  | scope {opening : Code} {body : List Step} : IsRow opening →
      (∀ step ∈ body, IsTree step) → IsTree (.scope opening body)

mutual

/-- The texts of a step in order, each with the level it is written at. -/
def placed (level : Nat) : Step → List (Nat × String)
  | .line text => [(level, text.text)]
  | .block opening closing body =>
      (level, opening.text) :: (placedAll (level + 1) body ++ [(level, closing.text)])
  | .scope opening body => (level, opening.text) :: placedAll (level + 1) body
  | _ => []

def placedAll (level : Nat) : List Step → List (Nat × String)
  | [] => []
  | step :: rest => placed level step ++ placedAll level rest

end

def row (unit : String) (place : Nat × String) : List Char :=
  (Text.times place.1 unit).toList ++ place.2.toList

end Step

/-! ## Rows behind a text -/

namespace Chars

/-- Whether a text, kept latest first, ends in an empty line behind another line. -/
def IsSpaced (written : List Char) : Prop :=
  ['\n', '\n'] <+: written

/--
One text comes from another, both kept latest first, by rows that each get a line feed.  No two
rows side by side are empty, and an empty one neither follows an empty line nor is forgotten.
-/
structure Adds (before after : List Char) (rows : List (List Char)) : Prop where
  written : after = (rows.flatMap (· ++ ['\n'])).reverse ++ before
  apart : rows.IsChain fun row next => row ≠ [] ∨ next ≠ []
  first : IsSpaced before → rows.head? ≠ some []
  last : rows.getLast? = some [] → IsSpaced after

variable {before middle after : List Char} {rows more : List (List Char)}

theorem adds_nil (written : List Char) : Adds written written [] where
  written := rfl
  apart := .nil
  first _ := by simp
  last empty := by simp at empty

theorem adds_row {row : List Char} (filled : row ≠ []) (written : List Char) :
    Adds written ((row ++ ['\n']).reverse ++ written) [row] where
  written := by simp
  apart := .singleton row
  first _ := by simpa using filled
  last empty := absurd (by simpa using empty) filled

theorem Adds.append (h : Adds before middle rows) (h' : Adds middle after more) :
    Adds before after (rows ++ more) where
  written := by rw [h'.written, h.written]; simp
  apart := by
    refine h.apart.append h'.apart fun row last next first => ?_
    by_contra both
    obtain ⟨rfl, rfl⟩ := not_or.1 both |>.imp not_not.1 not_not.1
    exact h'.first (h.last last) first
  first spaced := by
    cases rows with
    | nil =>
        obtain rfl : middle = before := h.written
        exact h'.first spaced
    | cons row rest => exact h.first spaced
  last empty := by
    cases more with
    | nil =>
        obtain rfl : after = middle := h'.written
        exact h.last (by simpa using empty)
    | cons row rest =>
        refine h'.last ?_
        rwa [List.getLast?_append_of_ne_nil _ (List.cons_ne_nil row rest)] at empty

/-- Rows without line feeds are what line feeds part. -/
theorem splitOn_flatMap_rows (whole : ∀ row ∈ rows, '\n' ∉ row) :
    (rows.flatMap (· ++ ['\n'])).splitOn '\n' = rows ++ [[]] := by
  induction rows with
  | nil => rfl
  | cons row rest ih =>
      obtain ⟨first, others⟩ := List.forall_mem_cons.1 whole
      rw [List.flatMap_cons, List.append_assoc, List.singleton_append,
        List.splitOn_append_cons_self, List.splitOn_eq_singleton first, ih others]
      rfl

end Chars

namespace Writer

open Step Chars

/-- Whether nothing is written or the last line has its line feed, as it has after any steps. -/
def IsEnded (w : Writer) : Prop :=
  ∀ c ∈ w.written.head?, c = '\n'

theorem isEnded_push_feed (w : Writer) : (w.push "\n").IsEnded := by
  rintro c ⟨⟩
  rfl

theorem isEnded_line (w : Writer) (text : String) : (w.line text).IsEnded :=
  isEnded_push_feed _

theorem isEnded_blank {w : Writer} (ended : w.IsEnded) : w.blank.IsEnded := by
  unfold blank
  split
  · exact ended
  · exact ended
  · exact isEnded_push_feed w

theorem isEnded_lines {w : Writer} (ended : w.IsEnded) (text : String) :
    (w.lines text).IsEnded := by
  unfold lines
  induction Text.lines text generalizing w with
  | nil => exact ended
  | cons line rest ih => exact ih (isEnded_line w line)

mutual

theorem isEnded_run : ∀ (step : Step) {w : Writer}, w.IsEnded → (w.run step).IsEnded
  | .line text, w, _ => isEnded_line w text.text
  | .lines text, _, ended => isEnded_lines ended text.text
  | .terminate _, _, _ => isEnded_push_feed _
  | .blank, _, ended => isEnded_blank ended
  | .indent, _, ended => ended
  | .dedent, _, ended => ended
  | .block _ _ _, _, _ => by
      rw [run]
      exact isEnded_line _ _
  | .scope opening body, w, _ => by
      have inner : ((w.line opening.text).indent.runAll body).IsEnded :=
        isEnded_runAll body (isEnded_line w opening.text)
      rw [run]
      exact inner

/-- Whatever steps are run, the last line that is written has its line feed. -/
theorem isEnded_runAll :
    ∀ (steps : List Step) {w : Writer}, w.IsEnded → (w.runAll steps).IsEnded
  | [], _, ended => ended
  | step :: rest, _, ended => isEnded_runAll rest (isEnded_run step ended)

end

/-! ## Texts at their levels -/

/--
From one writer to another texts have been written at their levels, in rows, blank lines aside.
-/
structure Lays (w after : Writer) (texts : List (Nat × String)) (rows : List (List Char)) :
    Prop where
  level : after.level = w.level
  unit : after.unit = w.unit
  adds : Adds w.written after.written rows
  shown : rows.filter (fun row => !row.isEmpty) = texts.map (row w.unit)
  whole : '\n' ∉ w.unit.toList → ∀ row ∈ rows, '\n' ∉ row

variable {w middle after : Writer} {texts others : List (Nat × String)}
  {rows more : List (List Char)}

theorem lays_nil (w : Writer) : w.Lays w [] [] where
  level := rfl
  unit := rfl
  adds := adds_nil w.written
  shown := rfl
  whole _ _ mem := absurd mem List.not_mem_nil

theorem Lays.append (h : w.Lays middle texts rows) (h' : middle.Lays after others more) :
    w.Lays after (texts ++ others) (rows ++ more) where
  level := h'.level.trans h.level
  unit := h'.unit.trans h.unit
  adds := h.adds.append h'.adds
  shown := by rw [List.filter_append, h.shown, h'.shown, h.unit, List.map_append]
  whole plain := List.forall_mem_append.2 ⟨h.whole plain, h'.whole (by rwa [h.unit])⟩

theorem Lays.deeper (h : w.indent.Lays after texts rows) : w.Lays after.dedent texts rows where
  level := by rw [dedent, h.level]; rfl
  unit := h.unit
  adds := h.adds
  shown := h.shown
  whole := h.whole

theorem lays_line (w : Writer) {text : Code} (own : IsRow text) :
    w.Lays (w.line text.text) [(w.level, text.text)] [row w.unit (w.level, text.text)] := by
  have filled : row w.unit (w.level, text.text) ≠ [] := fun empty =>
    own.filled (String.toList_eq_nil_iff.1 (List.append_eq_nil_iff.1 empty).2)
  have indented : Chars.indented w.indentation text.text.toList =
      row w.unit (w.level, text.text) ++ ['\n'] := by
    have some : text.text.toList.isEmpty = false := by simpa using own.filled
    rw [Chars.indented, some]
    rfl
  rw [line_eq, indented]
  refine ⟨rfl, rfl, adds_row filled w.written, ?_, fun plain => List.forall_mem_singleton.2 ?_⟩
  · simpa using filled
  · rw [row, List.mem_append, not_or]
    exact ⟨fun mem => plain (Literal.mem_times mem), own.whole⟩

theorem exists_lays_blank (ended : w.IsEnded) : ∃ rows, w.Lays w.blank [] rows := by
  unfold blank
  split
  · exact ⟨[], lays_nil w⟩
  · exact ⟨[], lays_nil w⟩
  · next some single =>
      refine ⟨[[]], rfl, rfl, ⟨rfl, .singleton [], fun spaced => ?_, fun _ => ?_⟩, rfl, fun _ => ?_⟩
      · obtain ⟨rest, written⟩ := spaced
        exact absurd written.symm (single rest)
      · obtain ⟨c, rest, written⟩ := List.exists_cons_of_ne_nil some
        obtain rfl : c = '\n' := ended c (by rw [written]; rfl)
        exact ⟨rest, by rw [push, written]; rfl⟩
      · simp

theorem exists_lays_runAll {body : List Step} (each : ∀ step ∈ body, ∀ {w : Writer}, w.IsEnded →
      ∃ rows, w.Lays (w.run step) (step.placed w.level) rows) {w : Writer} (ended : w.IsEnded) :
    ∃ rows, w.Lays (w.runAll body) (placedAll w.level body) rows := by
  induction body generalizing w with
  | nil => exact ⟨[], lays_nil w⟩
  | cons step rest ih =>
      obtain ⟨here, later⟩ := List.forall_mem_cons.1 each
      obtain ⟨rows, first⟩ := here ended
      obtain ⟨more, behind⟩ := ih later (isEnded_run step ended)
      rw [first.level] at behind
      exact ⟨rows ++ more, first.append behind⟩

theorem exists_lays_opened {opening : Code} (opens : IsRow opening) {body : List Step}
    (each : ∀ step ∈ body, ∀ {w : Writer}, w.IsEnded →
      ∃ rows, w.Lays (w.run step) (step.placed w.level) rows) (w : Writer) :
    ∃ rows, w.Lays ((w.line opening.text).indent.runAll body).dedent
      ((w.level, opening.text) :: placedAll (w.level + 1) body) rows := by
  have opened := w.lays_line opens
  have deeper : (w.line opening.text).indent.level = w.level + 1 := congrArg (· + 1) opened.level
  have ended : (w.line opening.text).indent.IsEnded := isEnded_line w opening.text
  obtain ⟨rows, inner⟩ := exists_lays_runAll each ended
  rw [deeper] at inner
  exact ⟨_, opened.append inner.deeper⟩

theorem exists_lays_run {step : Step} (tree : step.IsTree) (ended : w.IsEnded) :
    ∃ rows, w.Lays (w.run step) (step.placed w.level) rows := by
  induction tree generalizing w with
  | line own => exact ⟨_, w.lays_line own⟩
  | blank => exact exists_lays_blank ended
  | @block opening closing body opens closes each ih =>
      obtain ⟨rows, opened⟩ := exists_lays_opened opens ih w
      have closed := lays_line ((w.line opening.text).indent.runAll body).dedent closes
      rw [opened.level] at closed
      rw [run]
      exact ⟨_, opened.append closed⟩
  | scope opens each ih =>
      rw [run]
      exact exists_lays_opened opens ih w

/--
Trees of lines leave the level as it was.  Of the lines that they add, those that are not empty
are just their texts in order, each behind the indent of its level, and no two neighbours are empty.
Where the unit has no line feed, these are the lines that the added text is cut into.
-/
theorem runAll_placed (ended : w.IsEnded) {tree : List Step} (each : ∀ step ∈ tree, step.IsTree) :
    (w.runAll tree).level = w.level ∧
      ∃ rows : List (List Char),
        (w.runAll tree).written.reverse =
            w.written.reverse ++ rows.flatMap (· ++ ['\n']) ∧
          rows.filter (fun row => !row.isEmpty) =
            (placedAll w.level tree).map (fun place =>
              (Text.times place.1 w.unit).toList ++ place.2.toList) ∧
          (rows.IsChain fun row next => row ≠ [] ∨ next ≠ []) ∧
          ('\n' ∉ w.unit.toList →
            (rows.flatMap (· ++ ['\n'])).splitOn '\n' = rows ++ [[]]) := by
  obtain ⟨rows, lays⟩ := exists_lays_runAll
    (fun step mem {_} ended => exists_lays_run (each step mem) ended) ended
  refine ⟨lays.level, rows, ?_, lays.shown, lays.adds.apart, fun plain => ?_⟩
  · rw [lays.adds.written, List.reverse_append, List.reverse_reverse]
  · exact splitOn_flatMap_rows (lays.whole plain)

/-- A block with two blank lines in a row and a scope, in a text that has a line. -/
theorem runAll_placed_nested :
    let w : Writer := { unit := "  ", level := 1, written := ['\n', 'a'] }
    let tree : List Step :=
      [.block "do" "end" [.line "b", .blank, .blank, .scope "if" [.line "c"]]]
    w.IsEnded ∧ (∀ step ∈ tree, step.IsTree) ∧
      (w.runAll tree).level = 1 ∧
      ∃ rows : List (List Char),
        (w.runAll tree).written.reverse = ['a', '\n'] ++ rows.flatMap (· ++ ['\n']) ∧
          rows.filter (fun row => !row.isEmpty) =
            ["  do", "    b", "    if", "      c", "  end"].map String.toList ∧
          (rows.IsChain fun row next => row ≠ [] ∨ next ≠ []) ∧
          (rows.flatMap (· ++ ['\n'])).splitOn '\n' = rows ++ [[]] := by
  intro w tree
  have ended : w.IsEnded := by
    rintro c ⟨⟩
    rfl
  have own {text : String} (filled : text ≠ "") (whole : '\n' ∉ text.toList) : IsRow text := by
    have same : (Code.plain text).text = text := Code.text_plain text
    exact ⟨by rwa [same], by rwa [same]⟩
  have scope : IsTree (.scope "if" [.line "c"]) :=
    .scope (own (by decide) (by decide))
      (List.forall_mem_singleton.2 (.line (own (by decide) (by decide))))
  have each : ∀ step ∈ tree, step.IsTree := by
    refine List.forall_mem_singleton.2 (.block (own (by decide) (by decide))
      (own (by decide) (by decide)) ?_)
    simp only [List.forall_mem_cons]
    exact ⟨.line (own (by decide) (by decide)), .blank, .blank, scope, by simp⟩
  obtain ⟨level, rows, written, shown, apart, parted⟩ := runAll_placed ended each
  exact ⟨ended, each, level, rows, written, shown.trans (by decide), apart, parted (by decide)⟩

end Writer

end RequestScribe
