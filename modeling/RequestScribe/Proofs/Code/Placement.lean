import Mathlib.Data.List.Basic
import RequestScribe.Proofs.Code.LexemeLayout
import RequestScribe.Proofs.Text.Chars

/-!
# Where the text of steps stands

Steps write at the end of a text.  They may move its last line feed, but all that
can be seen of the text stays as it is, so a program begins with what its first
steps write.
-/

namespace RequestScribe

namespace Writer

variable {c : Char} {cs : List Char}

theorem push_keeps {w : Writer} (held : cs <:+ w.written) (text : String) :
    cs <:+ (w.push text).written :=
  held.trans (List.suffix_append _ _)

theorem line_keeps {w : Writer} (held : cs <:+ w.written) (text : String) :
    cs <:+ (w.line text).written := by
  rw [line_eq]
  exact held.trans (List.suffix_append _ _)

theorem lines_keeps {w : Writer} (held : cs <:+ w.written) (text : String) :
    cs <:+ (w.lines text).written := by
  rw [lines, foldl_line_eq]
  exact held.trans (List.suffix_append _ _)

theorem blank_keeps {w : Writer} (held : cs <:+ w.written) : cs <:+ w.blank.written := by
  unfold blank
  split
  · exact held
  · exact held
  · exact push_keeps held _

/-- A line feed that is moved is not what can be seen last. -/
theorem terminate_keeps (visible : Chars.isBlank c = false) {w : Writer}
    (held : c :: cs <:+ w.written) (ending : String) :
    c :: cs <:+ (w.terminate ending).written := by
  have other : c ≠ '\n' := by
    rintro rfl
    exact absurd visible (by decide)
  unfold terminate
  dsimp only
  split
  · next rest written =>
      rw [written, List.suffix_cons_iff] at held
      refine push_keeps (push_keeps (held.resolve_left fun same => ?_) ending) "\n"
      exact other (List.cons.inj same).1
  · exact push_keeps (push_keeps held ending) "\n"

mutual

theorem run_keeps (visible : Chars.isBlank c = false) :
    ∀ (step : Step) {w : Writer}, c :: cs <:+ w.written → c :: cs <:+ (w.run step).written
  | .line text, _, held => line_keeps held text.text
  | .lines text, _, held => lines_keeps held text.text
  | .terminate ending, _, held => terminate_keeps visible held ending.text
  | .blank, _, held => blank_keeps held
  | .indent, _, held => held
  | .dedent, _, held => held
  | .block opening closing body, w, held => by
      have opened : c :: cs <:+ (w.line opening.text).indent.written := line_keeps held _
      have inner : c :: cs <:+ ((w.line opening.text).indent.runAll body).dedent.written :=
        runAll_keeps visible body opened
      rw [run]
      exact line_keeps inner closing.text
  | .scope opening body, w, held => by
      have opened : c :: cs <:+ (w.line opening.text).indent.written := line_keeps held _
      rw [run]
      exact runAll_keeps visible body opened

/-- What can be seen of a text stays when more is written. -/
theorem runAll_keeps (visible : Chars.isBlank c = false) :
    ∀ (steps : List Step) {w : Writer}, c :: cs <:+ w.written → c :: cs <:+ (w.runAll steps).written
  | [], _, held => held
  | step :: rest, _, held => runAll_keeps visible rest (run_keeps visible step held)

end

theorem runAll_map_line (w : Writer) {code : String → Code} (same : ∀ t, (code t).text = t)
    (texts : List String) :
    w.runAll (texts.map fun text => .line (code text)) = texts.foldl line w := by
  induction texts generalizing w with
  | nil => rfl
  | cons text rest ih => rw [List.map_cons, runAll, run, same, ih, List.foldl_cons]

end Writer

namespace Step

open Writer

/-- The blanks that are dropped at the end of a program are none that can be seen. -/
theorem reverse_prefix_layOut {unit : String} {steps : List Step} {c : Char} {cs : List Char}
    (held : c :: cs <:+ (runAll { unit } steps).written) (visible : Chars.isBlank c = false) :
    (c :: cs).reverse <+: (layOut unit steps).toList := by
  obtain ⟨later, whole⟩ := held
  have stays : c :: cs <:+ ((runAll { unit } steps).written).dropWhile Chars.isBlank := by
    rw [← whole, List.dropWhile_append]
    split
    · simp [visible]
    · exact List.suffix_append _ _
  rw [layOut, finish, String.toList_append, String.toList_ofList]
  exact (List.reverse_prefix.2 stays).trans (List.prefix_append _ _)

/-- A program begins with what its first steps write. -/
theorem prefix_layOut {unit : String} {first : List Step} {shown feeds : List Char} {c : Char}
    (writes : (runAll { unit } first).written = feeds ++ c :: shown.reverse)
    (visible : Chars.isBlank c = false) (rest : List Step) :
    shown ++ [c] <+: (layOut unit (first ++ rest)).toList := by
  have held : c :: shown.reverse <:+ (runAll { unit } (first ++ rest)).written := by
    rw [runAll_append]
    exact runAll_keeps visible rest (writes ▸ List.suffix_append _ _)
  have reversed : (c :: shown.reverse).reverse = shown ++ [c] := by simp
  exact reversed ▸ reverse_prefix_layOut held visible

/-- Lines of their own at the beginning of a program. -/
theorem prefix_plainLines {unit : String} {texts : List String}
    (ends : ∀ text ∈ texts, ∃ shown c, text.toList = shown ++ [c] ∧ Chars.isBlank c = false)
    (rest : List Step) :
    ("\n".intercalate texts).toList <+: (layOut unit (plainLines texts ++ rest)).toList := by
  rcases List.eq_nil_or_concat texts with rfl | ⟨init, last, rfl⟩
  · exact List.nil_prefix
  · obtain ⟨shown, c, text, visible⟩ := ends last (by simp)
    have listed : (init.concat last).flatMap (fun first => Chars.indented [] first.toList) =
        (init.concat last).flatMap fun first => first.toList ++ ['\n'] := by
      refine List.flatMap_congr fun first mem => ?_
      obtain ⟨own, d, spelled, -⟩ := ends first mem
      simp [Chars.indented, spelled]
    have joined : ("\n".intercalate (init.concat last)).toList =
        (init.flatMap (fun first => first.toList ++ ['\n']) ++ shown) ++ [c] := by
      have feed : "\n".toList = ['\n'] := rfl
      have some : (init.concat last).map String.toList ≠ [] := by simp
      rw [String.toList_intercalate, feed]
      refine List.append_cancel_right ((Chars.intercalate_append ['\n'] some).trans ?_)
      simp [List.flatMap_map, text]
    rw [joined]
    have writes : (runAll { unit } (plainLines (init.concat last))).written =
        ['\n'] ++ c :: (init.flatMap (fun first => first.toList ++ ['\n']) ++ shown).reverse := by
      have written (text : String) : (Code.plain text).text = text := Code.text_plain text
      rw [plainLines, runAll_map_line _ written, foldl_line_eq]
      have outer : ({ unit } : Writer).indentation = [] := rfl
      dsimp only
      rw [outer, listed]
      simp [text]
    exact prefix_layOut writes visible rest

end Step

/-! ## Steps within steps

What steps write stands in the text of all steps that they are a part of, at any
depth.  A block of lines writes its opening, its lines and its closing, each behind a
line feed and the indent of its level.
-/

namespace Step

/-- Whether steps have some others among them, one after the other, at any depth. -/
inductive Holds (inner : List Step) : List Step → Prop where
  | refl : Holds inner inner
  | behind {steps : List Step} (before : List Step) :
      Holds inner steps → Holds inner (before ++ steps)
  | andThen {steps : List Step} (after : List Step) :
      Holds inner steps → Holds inner (steps ++ after)
  | scope {body : List Step} (opening : Code) : Holds inner body → Holds inner [.scope opening body]
  | block {body : List Step} (opening closing : Code) :
      Holds inner body → Holds inner [.block opening closing body]

end Step

namespace Writer

open Step (Holds)

mutual

theorem unit_run : ∀ (w : Writer) (step : Step), (w.run step).unit = w.unit
  | w, .line text => by rw [run, line_eq]
  | w, .lines text => by rw [run, lines, foldl_line_eq]
  | w, .terminate ending => by
      rw [run, terminate]
      dsimp only [push]
      split <;> rfl
  | w, .blank => by
      rw [run, blank]
      split <;> rfl
  | w, .indent => rfl
  | w, .dedent => rfl
  | w, .block opening closing body => by
      rw [run, line_eq]
      refine (unit_runAll _ body).trans ?_
      rw [line_eq]
      rfl
  | w, .scope opening body => by
      rw [run]
      refine (unit_runAll _ body).trans ?_
      rw [line_eq]
      rfl

theorem unit_runAll : ∀ (w : Writer) (steps : List Step), (w.runAll steps).unit = w.unit
  | _, [] => rfl
  | w, step :: rest => (unit_runAll (w.run step) rest).trans (unit_run w step)

end

/-- Where some steps are run among others, and that what they write stays. -/
theorem exists_runAll_of_holds {inner steps : List Step} (h : Holds inner steps) (w : Writer) :
    ∃ w' : Writer, w'.unit = w.unit ∧ ∀ {c : Char} {cs : List Char}, Chars.isBlank c = false →
      c :: cs <:+ (w'.runAll inner).written → c :: cs <:+ (w.runAll steps).written := by
  induction h generalizing w with
  | refl => exact ⟨w, rfl, fun _ held => held⟩
  | behind before within ih =>
      obtain ⟨w', unit, keeps⟩ := ih (w.runAll before)
      rw [Step.runAll_append]
      exact ⟨w', unit.trans (unit_runAll w before), keeps⟩
  | andThen after within ih =>
      obtain ⟨w', unit, keeps⟩ := ih w
      rw [Step.runAll_append]
      exact ⟨w', unit, fun visible held => runAll_keeps visible after (keeps visible held)⟩
  | scope opening within ih =>
      obtain ⟨w', unit, keeps⟩ := ih (w.line opening.text).indent
      refine ⟨w', unit.trans ?_, keeps⟩
      rw [line_eq]
      rfl
  | block opening closing within ih =>
      obtain ⟨w', unit, keeps⟩ := ih (w.line opening.text).indent
      refine ⟨w', unit.trans ?_, fun visible held => ?_⟩
      · rw [line_eq]
        rfl
      · have inside : _ <:+ ((w.line opening.text).indent.runAll _).dedent.written :=
          keeps visible held
        rw [runAll, runAll, run]
        exact line_keeps inside closing.text

theorem runAll_lines (w : Writer) (texts : List Code) :
    w.runAll (texts.map .line) =
      { w with written :=
          (texts.flatMap fun text => Chars.indented w.indentation text.text.toList).reverse ++
            w.written } := by
  induction texts generalizing w with
  | nil => rfl
  | cons text rest ih =>
      rw [List.map_cons, runAll, run, line_eq, ih]
      simp [indentation]

end Writer

namespace Step

open Writer

/-- What can be seen of a line stands in the text of a program that has the line. -/
theorem infix_layOut_of_holds {unit : String} {steps : List Step} {line : Code}
    {shown : List Char} {c : Char} (held : Holds [.line line] steps)
    (within : shown ++ [c] <:+: line.text.toList) (visible : Chars.isBlank c = false) :
    shown ++ [c] <:+: (layOut unit steps).toList := by
  obtain ⟨before, after, text⟩ := within
  obtain ⟨w, -, keeps⟩ := exists_runAll_of_holds held { unit }
  have written : (w.runAll [.line line]).written = '\n' :: (after.reverse ++
      c :: (shown.reverse ++ (before.reverse ++ (w.indentation.reverse ++ w.written)))) := by
    rw [runAll, runAll, run, line_eq]
    simp [Chars.indented, ← text]
  have last : c :: (shown.reverse ++ (before.reverse ++ (w.indentation.reverse ++ w.written))) <:+
      (w.runAll [.line line]).written := by
    rw [written]
    exact List.suffix_append ('\n' :: after.reverse) _
  obtain ⟨rest, whole⟩ := reverse_prefix_layOut (keeps visible last) visible
  refine ⟨w.written.reverse ++ (w.indentation ++ before), rest, ?_⟩
  rw [← whole]
  simp

/-! ## Blocks of lines -/

def blockText (unit : String) (level : Nat) (opening closing : String) (lines : List Code) :
    List Char :=
  opening.toList ++
    ((lines.flatMap fun line =>
        '\n' :: ((Text.times (level + 1) unit).toList ++ line.text.toList)) ++
      '\n' :: (Text.times level unit).toList) ++ closing.toList

theorem cons_flatMap_append {α : Type} (c : Char) (f : α → List Char) (items : List α) :
    c :: items.flatMap (fun a => f a ++ [c]) = items.flatMap (fun a => c :: f a) ++ [c] := by
  induction items with
  | nil => rfl
  | cons a rest ih =>
      rw [List.flatMap_cons, List.flatMap_cons, List.append_assoc, List.append_assoc, ← ih]
      rfl

theorem written_block (w : Writer) {opening closing : String} {lines : List Code}
    (opens : opening ≠ "") (closes : closing ≠ "") (some : ∀ line ∈ lines, line.text ≠ "") :
    (w.run (.block opening closing (lines.map .line))).written =
      '\n' :: ((w.indentation ++ blockText w.unit w.level opening closing lines).reverse ++
        w.written) := by
  have indented {text : String} (given : text ≠ "") (indent : List Char) :
      Chars.indented indent text.toList = indent ++ text.toList ++ ['\n'] := by
    rw [Chars.indented, if_neg (by simpa using given)]
  have inside : lines.flatMap (fun line => Chars.indented
      (Text.times (w.level + 1) w.unit).toList line.text.toList) =
        lines.flatMap fun line =>
          (Text.times (w.level + 1) w.unit).toList ++ line.text.toList ++ ['\n'] :=
    List.flatMap_congr fun line mem => indented (some line mem) _
  have feeds := cons_flatMap_append '\n'
    (fun line : Code => (Text.times (w.level + 1) w.unit).toList ++ line.text.toList) lines
  have inner : (w.line opening).indent.indentation = (Text.times (w.level + 1) w.unit).toList := by
    rw [line_eq]
    rfl
  have written : (w.run (.block opening closing (lines.map .line))).written =
      (w.indentation ++ opening.toList ++ ['\n'] ++ (lines.flatMap fun line =>
        (Text.times (w.level + 1) w.unit).toList ++ line.text.toList ++ ['\n']) ++
          (w.indentation ++ closing.toList ++ ['\n'])).reverse ++ w.written := by
    rw [run, runAll_lines, line_eq, Code.text_plain, Code.text_plain, inner, inside, line_eq]
    simp [indentation, Writer.indent, Writer.dedent, indented opens, indented closes]
  rw [written, blockText]
  have text : w.indentation ++ opening.toList ++ ['\n'] ++ (lines.flatMap fun line =>
      (Text.times (w.level + 1) w.unit).toList ++ line.text.toList ++ ['\n']) =
        w.indentation ++ opening.toList ++ ((lines.flatMap fun line =>
          '\n' :: ((Text.times (w.level + 1) w.unit).toList ++ line.text.toList)) ++ ['\n']) := by
    rw [← feeds]
    simp
  rw [text]
  simp [indentation]

/-- A block of lines stands in the text of a program that has it, at some level. -/
theorem exists_blockText_infix {unit opening closing : String} {lines : List Code}
    {steps : List Step} (held : Holds [.block opening closing (lines.map .line)] steps)
    (opens : opening ≠ "") (some : ∀ line ∈ lines, line.text ≠ "")
    (ends : ∃ shown c, closing.toList = shown ++ [c] ∧ Chars.isBlank c = false) :
    ∃ level, blockText unit level opening closing lines <:+: (layOut unit steps).toList := by
  obtain ⟨shown, c, closes, visible⟩ := ends
  obtain ⟨w, same, keeps⟩ := exists_runAll_of_holds held { unit }
  have same : w.unit = unit := same
  have nonempty : closing ≠ "" := by
    rintro rfl
    exact absurd closes (by simp)
  have written := written_block w opens nonempty some
  obtain ⟨front, text⟩ : ∃ front, blockText w.unit w.level opening closing lines = front ++ [c] :=
    ⟨_, by rw [blockText, closes, ← List.append_assoc]⟩
  have last : c :: (front.reverse ++ (w.indentation.reverse ++ w.written)) <:+
      (w.runAll [.block opening closing (lines.map .line)]).written := by
    rw [runAll, runAll, written, text]
    simp
  obtain ⟨rest, whole⟩ := reverse_prefix_layOut (keeps visible last) visible
  refine ⟨w.level, ((w.indentation.reverse ++ w.written).reverse), rest, ?_⟩
  rw [← whole, ← same, text]
  simp

end Step

end RequestScribe
