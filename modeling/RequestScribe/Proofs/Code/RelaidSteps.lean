import RequestScribe.Proofs.Code.Literal
import RequestScribe.Proofs.Code.Relaid
import RequestScribe.Proofs.Json.Value

/-!
# Layout with another unit

Two writers with different units of indentation run the same steps, but for texts of several lines
that are laid out again.  Line by line they write the same behind their indents, so they also agree
on which lines are empty.  What comes out in the end has the same lines, up to their indents.

A literal of a JSON value only has the unit at the beginning of the lines of its containers.  With
another unit it is the same text with other indents, whatever its strings hold.
-/

namespace RequestScribe

namespace Writer

structure IsIndentUnit (unit : String) : Prop where
  blank : IsBlankUnit unit
  nonempty : unit ≠ ""

def flat (lines : List (List Char)) : List Char :=
  lines.flatMap fun line => '\n' :: line.reverse

def ofLines (unit : String) (level : Nat) (lines : List (List Char)) : Writer :=
  { unit, level, written := flat lines }

/-- Two writers at the same level that have written the same lines behind their own indents. -/
inductive Relaid : Writer → Writer → Prop
  | intro {unit unit' : String} (h : IsIndentUnit unit) (h' : IsIndentUnit unit') (level : Nat)
      {lines lines' : List (List Char)} (alike : List.Forall₂ Chars.Shifted lines lines') :
      Relaid (ofLines unit level lines) (ofLines unit' level lines')

/-! ## Units -/

theorem IsIndentUnit.times_eq_nil_iff {unit : String} (h : IsIndentUnit unit) (n : Nat) :
    (Text.times n unit).toList = [] ↔ n = 0 := by
  cases n with
  | zero => simp [Text.times]
  | succ n =>
      have some : unit.toList ≠ [] := by simpa using h.nonempty
      simp [Text.times, List.replicate_succ, some]

theorem IsIndentUnit.isIndent {unit : String} (h : IsIndentUnit unit) (n : Nat) :
    ∀ c ∈ (Text.times n unit).toList, Chars.isIndent c = true := by
  intro c mem
  rcases h.blank c (Literal.mem_times mem) with rfl | rfl <;> rfl

theorem IsIndentUnit.indents {unit unit' : String} (h : IsIndentUnit unit)
    (h' : IsIndentUnit unit') (n : Nat) :
    Chars.Indents (Text.times n unit).toList (Text.times n unit').toList where
  left := h.isIndent n
  right := h'.isIndent n
  both := (h.times_eq_nil_iff n).trans (h'.times_eq_nil_iff n).symm

/-! ## Writers that have written lines -/

section Lines

variable (unit : String) (level : Nat) (lines : List (List Char))

@[simp] theorem flat_nil : flat [] = [] := rfl

@[simp] theorem flat_cons (line : List Char) :
    flat (line :: lines) = '\n' :: (line.reverse ++ flat lines) := rfl

def placed (text : List Char) : List Char :=
  if text.isEmpty then [] else (Text.times level unit).toList ++ text

theorem line_ofLines (text : String) :
    (ofLines unit level lines).line text =
      ofLines unit level (placed unit level text.toList :: lines) := by
  rw [line_eq]
  simp [ofLines, Chars.indented, placed, indentation]

theorem terminate_ofLines_nil (ending : String) :
    (ofLines unit level []).terminate ending = ofLines unit level [ending.toList] := by
  simp [terminate, ofLines, push]

theorem terminate_ofLines_cons (line : List Char) (ending : String) :
    (ofLines unit level (line :: lines)).terminate ending =
      ofLines unit level ((line ++ ending.toList) :: lines) := by
  simp [terminate, ofLines, push]

end Lines

/-! ## Blank lines -/

def takesBlank : List (List Char) → Bool
  | [] => false
  | [] :: rest => rest.isEmpty
  | line :: _ => line.getLast? != some '\n'

theorem takesBlank_cons {line : List Char} (nonempty : line ≠ []) (rest : List (List Char)) :
    takesBlank (line :: rest) = (line.getLast? != some '\n') := by
  obtain ⟨c, more, rfl⟩ := List.exists_cons_of_ne_nil nonempty
  rfl

theorem blank_ofLines (unit : String) (level : Nat) (lines : List (List Char)) :
    (ofLines unit level lines).blank =
      ofLines unit level (if takesBlank lines then [] :: lines else lines) := by
  match lines with
  | [] => rfl
  | [[]] => rfl
  | [] :: line :: rest => rfl
  | (c :: line) :: rest =>
      rw [takesBlank_cons (List.cons_ne_nil c line)]
      rcases List.eq_nil_or_concat (c :: line) with empty | ⟨start, last, ends⟩
      · exact absurd empty (List.cons_ne_nil c line)
      · rw [ends]
        by_cases feed : last = '\n'
        · simp [blank, ofLines, feed]
        · simp [blank, ofLines, feed, push]

theorem takesBlank_eq {lines lines' : List (List Char)}
    (alike : List.Forall₂ Chars.Shifted lines lines') : takesBlank lines = takesBlank lines' := by
  cases alike with
  | nil => rfl
  | @cons line line' rest rest' last others =>
      by_cases empty : line = []
      · obtain rfl : line' = [] := last.eq_nil_iff.1 empty
        subst empty
        cases others <;> rfl
      · rw [takesBlank_cons empty, takesBlank_cons fun empty' => empty (last.eq_nil_iff.2 empty')]
        rw [Bool.eq_iff_iff, bne_iff_ne, bne_iff_ne, Ne, Ne, last.getLast?_eq_feed_iff]

/-! ## What comes out -/

theorem dropWhile_flat_cons (line : List Char) (rest : List (List Char)) :
    (flat (line :: rest)).dropWhile Chars.isBlank =
      if Chars.trimEnd line = [] then (flat rest).dropWhile Chars.isBlank
      else (Chars.trimEnd line).reverse ++ flat rest := by
  have feed : Chars.isBlank '\n' = true := by decide
  rw [flat_cons, List.dropWhile_cons_of_pos feed, List.dropWhile_append, Chars.trimEnd,
    List.reverse_reverse]
  simp only [List.isEmpty_iff, List.reverse_eq_nil_iff]

/-- Lines without the blanks at the end of the last ones; there is always a last line. -/
theorem dropWhile_flat {lines lines' : List (List Char)}
    (alike : List.Forall₂ Chars.Shifted lines lines') :
    ∃ kept kept', '\n' :: (flat lines).dropWhile Chars.isBlank = flat kept ∧
      '\n' :: (flat lines').dropWhile Chars.isBlank = flat kept' ∧
      List.Forall₂ Chars.Shifted kept kept' := by
  induction alike with
  | nil => exact ⟨[[]], [[]], rfl, rfl, .cons (.refl []) .nil⟩
  | @cons line line' rest rest' last others ih =>
      have trimmed := last.trimEnd
      rw [dropWhile_flat_cons, dropWhile_flat_cons]
      by_cases empty : Chars.trimEnd line = []
      · rw [if_pos empty, if_pos (trimmed.eq_nil_iff.1 empty)]
        exact ih
      · rw [if_neg empty, if_neg fun empty' => empty (trimmed.eq_nil_iff.2 empty')]
        exact ⟨Chars.trimEnd line :: rest, Chars.trimEnd line' :: rest', rfl, rfl,
          .cons trimmed others⟩

/-- The lines of a text that lines have been written to, up to indents. -/
theorem outdentedLines_flat {lines lines' : List (List Char)}
    (alike : List.Forall₂ Chars.Shifted lines lines') {rest rest' : List Char}
    (same : Chars.outdentedLines rest = Chars.outdentedLines rest') :
    Chars.outdentedLines ((flat lines).reverse ++ rest) =
      Chars.outdentedLines ((flat lines').reverse ++ rest') := by
  induction alike generalizing rest rest' with
  | nil => exact same
  | @cons line line' _ _ last _ ih =>
      simp only [flat_cons, List.reverse_cons, List.reverse_append, List.reverse_reverse,
        List.append_assoc, List.singleton_append]
      refine ih ?_
      rw [Chars.outdentedLines_append_feed, Chars.outdentedLines_append_feed,
        last.outdentedLines_eq, same]

namespace Relaid

variable {w w' : Writer}

theorem start {unit unit' : String} (h : IsIndentUnit unit) (h' : IsIndentUnit unit') :
    Relaid { unit } { unit := unit' } :=
  .intro h h' 0 .nil

/-! ## One step -/

theorem line (h : Relaid w w') {text text' : String}
    (shifted : Chars.Shifted text.toList text'.toList) : Relaid (w.line text) (w'.line text') := by
  obtain ⟨hu, hu', level, alike⟩ := h
  rw [line_ofLines, line_ofLines]
  refine .intro hu hu' level (.cons ?_ alike)
  have empty : text.toList.isEmpty = text'.toList.isEmpty := by
    rw [Bool.eq_iff_iff, List.isEmpty_iff, List.isEmpty_iff, shifted.eq_nil_iff]
  unfold placed
  rw [empty]
  split
  · exact .refl []
  · exact shifted.indent (hu.indents hu' level)

theorem lines (h : Relaid w w') {text text' : String}
    (relaid : Chars.Relaid text.toList text'.toList) : Relaid (w.lines text) (w'.lines text') := by
  unfold Writer.lines Text.lines
  generalize Chars.lines text.toList = ls, Chars.lines text'.toList = ls', relaid.lines = alike
  induction alike generalizing w w' with
  | nil => exact h
  | cons first _ ih =>
      rw [List.map_cons, List.map_cons, List.foldl_cons, List.foldl_cons]
      exact ih (h.line (by simpa using first))

theorem terminate (h : Relaid w w') (ending : String) :
    Relaid (w.terminate ending) (w'.terminate ending) := by
  obtain ⟨hu, hu', level, alike⟩ := h
  cases alike with
  | nil =>
      rw [terminate_ofLines_nil, terminate_ofLines_nil]
      exact .intro hu hu' level (.cons (.refl _) .nil)
  | cons last alike =>
      rw [terminate_ofLines_cons, terminate_ofLines_cons]
      exact .intro hu hu' level (.cons (last.append _) alike)

theorem blank (h : Relaid w w') : Relaid w.blank w'.blank := by
  obtain ⟨hu, hu', level, alike⟩ := h
  rw [blank_ofLines, blank_ofLines, takesBlank_eq alike]
  refine .intro hu hu' level ?_
  split
  · exact .cons (.refl []) alike
  · exact alike

theorem indent (h : Relaid w w') : Relaid w.indent w'.indent := by
  obtain ⟨hu, hu', level, alike⟩ := h
  exact .intro hu hu' (level + 1) alike

theorem dedent (h : Relaid w w') : Relaid w.dedent w'.dedent := by
  obtain ⟨hu, hu', level, alike⟩ := h
  exact .intro hu hu' (level - 1) alike

mutual

theorem run {w w' : Writer} (h : Relaid w w') : (step : Step) → Relaid (w.run step) (w'.run step)
  | .line _ => h.line (.refl _)
  | .lines _ => h.lines (.refl _)
  | .terminate ending => h.terminate ending.text
  | .blank => h.blank
  | .indent => h.indent
  | .dedent => h.dedent
  | .block _ _ body => ((h.line (.refl _)).indent.runAll body).dedent.line (.refl _)
  | .scope _ body => ((h.line (.refl _)).indent.runAll body).dedent

theorem runAll {w w' : Writer} (h : Relaid w w') :
    (steps : List Step) → Relaid (w.runAll steps) (w'.runAll steps)
  | [] => h
  | step :: rest => (h.run step).runAll rest

end

theorem finish (h : Relaid w w') :
    Chars.outdentedLines w.finish.toList = Chars.outdentedLines w'.finish.toList := by
  obtain ⟨-, -, _, alike⟩ := h
  obtain ⟨kept, kept', left, right, alike'⟩ := dropWhile_flat alike
  have same := outdentedLines_flat alike' (Eq.refl (Chars.outdentedLines []))
  simpa [Writer.finish, ofLines, ← left, ← right] using same

end Relaid

end Writer

namespace Step

/-- The same steps, but for texts of several lines that are laid out again. -/
inductive Relaid : List Step → List Step → Prop
  | nil : Relaid [] []
  | cons (step : Step) {rest rest' : List Step} (later : Relaid rest rest') :
      Relaid (step :: rest) (step :: rest')
  | lines {text text' : Code} (relaid : Chars.Relaid text.text.toList text'.text.toList)
      {rest rest' : List Step} (later : Relaid rest rest') :
      Relaid (.lines text :: rest) (.lines text' :: rest')
  | block (opening closing : Code) {body body' : List Step} (inner : Relaid body body')
      {rest rest' : List Step} (later : Relaid rest rest') :
      Relaid (.block opening closing body :: rest) (.block opening closing body' :: rest')
  | scope (opening : Code) {body body' : List Step} (inner : Relaid body body')
      {rest rest' : List Step} (later : Relaid rest rest') :
      Relaid (.scope opening body :: rest) (.scope opening body' :: rest')

namespace Relaid

variable {a b c d : List Step}

theorem refl (steps : List Step) : Relaid steps steps := by
  induction steps with
  | nil => exact .nil
  | cons step rest ih => exact .cons step ih

theorem append (h : Relaid a b) (h' : Relaid c d) : Relaid (a ++ c) (b ++ d) := by
  induction h with
  | nil => exact h'
  | cons step _ ih => exact .cons step ih
  | lines relaid _ ih => exact .lines relaid ih
  | block opening closing inner _ _ ih => exact .block opening closing inner ih
  | scope opening inner _ _ ih => exact .scope opening inner ih

theorem behind (h : Relaid a b) (before : List Step) : Relaid (before ++ a) (before ++ b) :=
  (refl before).append h

theorem andThen (h : Relaid a b) (after : List Step) : Relaid (a ++ after) (b ++ after) :=
  h.append (refl after)

/-- Writers with different units run such steps alike. -/
theorem runAll (h : Relaid a b) {w w' : Writer} (before : Writer.Relaid w w') :
    Writer.Relaid (w.runAll a) (w'.runAll b) := by
  induction h generalizing w w' with
  | nil => exact before
  | cons step _ ih => exact ih (before.run step)
  | lines relaid _ ih => exact ih (before.lines relaid)
  | block opening closing _ _ inner later =>
      exact later ((inner (before.line (.refl _)).indent).dedent.line (.refl _))
  | scope opening _ _ inner later =>
      exact later (inner (before.line (.refl _)).indent).dedent

/-- What such steps lay out has the same lines, up to their indents. -/
theorem outdentedLines_layOut (h : Relaid a b) {unit unit' : String}
    (hu : Writer.IsIndentUnit unit) (hu' : Writer.IsIndentUnit unit') :
    Chars.outdentedLines (layOut unit a).toList = Chars.outdentedLines (layOut unit' b).toList :=
  (h.runAll (.start hu hu')).finish

end Relaid

end Step

/-! ## Literals -/

namespace Code

variable {α : Type}

theorem relaid_append {a b c d : Code} (h : Chars.Relaid a.text.toList b.text.toList)
    (h' : Chars.Relaid c.text.toList d.text.toList) :
    Chars.Relaid (a ++ c).text.toList (b ++ d).text.toList := by
  rw [text_append, text_append, String.toList_append, String.toList_append]
  exact h.append h'

/-- Lines are laid out again if each of them is. -/
theorem relaid_intercalate_lines {part part' : α → Code} {items : List α} (nonempty : items ≠ [])
    (lines : ∀ a ∈ items, Chars.Relaid ('\n' :: (part a).text.toList)
      ('\n' :: (part' a).text.toList)) :
    Chars.Relaid ('\n' :: (intercalate ",\n" (items.map part)).text.toList)
      ('\n' :: (intercalate ",\n" (items.map part')).text.toList) := by
  induction items with
  | nil => exact absurd rfl nonempty
  | cons a rest ih =>
      obtain ⟨first, others⟩ := List.forall_mem_cons.1 lines
      cases rest with
      | nil => simpa [intercalate, join] using first
      | cons b more =>
          have later := (Chars.Relaid.refl [',']).append (ih (List.cons_ne_nil b more) others)
          have whole := first.append later
          simpa [intercalate_cons_cons] using whole

end Code

namespace Literal

variable {unit unit' : String} (hu : Writer.IsIndentUnit unit) (hu' : Writer.IsIndentUnit unit')

include hu hu'

theorem relaid_line (level : Nat) {a b : List Char} (h : Chars.Relaid a b) :
    Chars.Relaid ('\n' :: ((Text.times level unit).toList ++ a))
      ('\n' :: ((Text.times level unit').toList ++ b)) :=
  .feed (hu.indents hu' level) h

theorem relaid_enclosed (opening closing lastElement : String) (level : Nat)
    {lines lines' : List Code}
    (h : Chars.Relaid ('\n' :: (Code.intercalate ",\n" lines).text.toList)
      ('\n' :: (Code.intercalate ",\n" lines').text.toList)) :
    Chars.Relaid (enclosed opening closing lastElement unit level lines).text.toList
      (enclosed opening closing lastElement unit' level lines').text.toList := by
  have bottom := relaid_line hu hu' level (.refl closing.toList)
  have whole := ((Chars.Relaid.refl opening.toList).append h).append
    ((Chars.Relaid.refl lastElement.toList).append bottom)
  simpa [text_enclosed] using whole

theorem relaid_entry (style : LiteralStyle) (level : Nat) (key : String) {value value' : Code}
    (h : Chars.Relaid value.text.toList value'.text.toList) :
    Chars.Relaid ('\n' :: (entry style (Text.times level unit) key value).text.toList)
      ('\n' :: (entry style (Text.times level unit') key value').text.toList) := by
  have before := Chars.Relaid.refl ((style.string key).toList ++ style.keySeparator.toList)
  have whole := relaid_line hu hu' level (before.append h)
  simpa [entry] using whole

theorem relaid_code (style : LiteralStyle) (v : Json.Value) (level : Nat) :
    Chars.Relaid (code style unit level v).text.toList
      (code style unit' level v).text.toList := by
  -- Only the lines of a container begin with the unit, each right after a line feed.
  induction v using Json.Value.induction generalizing level with
  | null => exact .refl _
  | bool b => exact .refl _
  | number n => exact .refl _
  | string s => exact .refl _
  | array items ih =>
      by_cases empty : items = []
      · subst empty
        exact .refl _
      · rw [code_array level empty, code_array level empty]
        refine relaid_enclosed hu hu' _ _ _ level
          (Code.relaid_intercalate_lines empty fun v mem => ?_)
        have line := relaid_line hu hu' (level + 1) (ih v mem (level + 1))
        simpa using line
  | object fields ih =>
      by_cases empty : fields = []
      · subst empty
        exact .refl _
      · rw [code_object level empty, code_object level empty]
        refine relaid_enclosed hu hu' _ _ _ level
          (Code.relaid_intercalate_lines empty fun field mem => ?_)
        exact relaid_entry hu hu' style (level + 1) field.1 (ih field mem (level + 1))

theorem relaid_between (style : LiteralStyle) (v : Json.Value) (start rest : Code) :
    Chars.Relaid (start ++ code style unit 0 v ++ rest).text.toList
      (start ++ code style unit' 0 v ++ rest).text.toList :=
  Code.relaid_append (Code.relaid_append (.refl _) (relaid_code hu hu' style v 0)) (.refl _)

end Literal

end RequestScribe
