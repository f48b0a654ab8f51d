import RequestScribe.Program.Program
import RequestScribe.Proofs.Code.Layout
import RequestScribe.Proofs.Code.Lexeme
import RequestScribe.Proofs.Code.Literal

/-!
# Reading what has been laid out

Layout puts blanks at the start of lines and line feeds between them, and neither
makes a difference to what a text reads as.  So the lines of a program are those
of its steps one after the other, wherever the steps stand and whatever the unit
of indentation is.
-/

namespace RequestScribe

open Lexis

/-! ## One line -/

namespace Writer

variable {l : Lexis} {w : Writer}

/-- The reader that has read what has been written. -/
def reader (l : Lexis) (w : Writer) : Reader :=
  Reader.run l {} w.written.reverse

theorem reader_push (text : String) : (w.push text).reader l = (w.reader l).run l text.toList := by
  simp [reader, push, Reader.run_append]

theorem reader_pushed (text : List Char) :
    ({ w with written := text.reverse ++ w.written } : Writer).reader l =
      (w.reader l).run l text := by
  simp [reader, Reader.run_append]

theorem isBlank_of_mem_indentation (blank : IsBlankUnit w.unit) {c : Char}
    (mem : c ∈ w.indentation) : Chars.isBlank c = true := by
  rcases blank c (Literal.mem_times mem) with rfl | rfl <;> decide

theorem run_indented (blank : IsBlankUnit w.unit) {r : Reader} (start : r.AtStart l)
    (text : List Char) :
    r.run l (Chars.indented w.indentation text) = r.run l (text ++ ['\n']) := by
  unfold Chars.indented
  cases text with
  | nil => rfl
  | cons c rest =>
      have skipped := start.run_blank fun _ mem => isBlank_of_mem_indentation blank mem
      simp [Reader.run_append, skipped]

theorem reader_line (blank : IsBlankUnit w.unit) (start : (w.reader l).AtStart l)
    (text : String) : (w.line text).reader l = (w.reader l).run l (text.toList ++ ['\n']) := by
  rw [line_eq, reader_pushed, run_indented blank start]

/-! ## Texts of several lines -/

/-- A carriage return that belongs to the line break makes no difference. -/
theorem run_dropReturn {r : Reader} (sound : r.IsSound) (line : List Char) :
    r.run l (Chars.dropReturn line ++ ['\n']) = r.run l (line ++ ['\n']) := by
  unfold Chars.dropReturn
  split
  · next carriage =>
      obtain ⟨before, ends⟩ := List.getLast?_eq_some_iff.1 carriage
      have within : (r.run l before).IsSound := sound.run before
      have skipped := Reader.step_blank_feed (l := l) within (show Chars.isBlank '\r' by decide)
      rw [ends, List.dropLast_concat, Reader.run_append, Reader.run_append, Reader.run_append,
        Reader.run_singleton, Reader.run_singleton, Reader.run_singleton, skipped]
  · rfl

/-- The lines of a text, each at its indent, read as the text. -/
theorem run_flatMap_lines (blank : IsBlankUnit w.unit) (text : List Char) {r : Reader}
    (start : r.AtStart l) :
    r.run l ((Chars.lines text).flatMap (Chars.indented w.indentation)) =
      r.run l (text ++ ['\n']) := by
  -- One line is split off at a time, so the induction is on the length.
  induction n_eq : text.length using Nat.strongRecOn generalizing text r with
  | _ n ih =>
      by_cases whole : '\n' ∈ text
      · obtain ⟨line, rest, rfl, first⟩ := List.eq_append_cons_of_mem whole
        have shorter : rest.length < n := by
          rw [← n_eq, List.length_append, List.length_cons]
          omega
        have next : (r.run l (line ++ ['\n'])).AtStart l := by
          rw [Reader.run_append]
          exact (start.1.run line).atStart
        have text : line ++ '\n' :: rest ++ ['\n'] = (line ++ ['\n']) ++ (rest ++ ['\n']) := by
          simp
        rw [Chars.lines_append_break first, List.flatMap_cons, Reader.run_append,
          run_indented blank start, run_dropReturn start.1, ih rest.length shorter rest next rfl,
          text, Reader.run_append _ (line ++ ['\n'])]
      · rcases Decidable.em (text = []) with rfl | nonempty
        · exact (start.2 '\n' (by decide)).symm
        · rw [Chars.lines_of_no_break whole nonempty, List.flatMap_singleton,
            run_indented blank start]

theorem reader_lines (blank : IsBlankUnit w.unit) (start : (w.reader l).AtStart l)
    (text : String) : (w.lines text).reader l = (w.reader l).run l (text.toList ++ ['\n']) := by
  have writes : w.lines text =
      { w with
        written := ((Chars.lines text.toList).flatMap (Chars.indented w.indentation)).reverse ++
          w.written } := by
    rw [lines, Text.lines, foldl_line_eq, List.flatMap_map]
    simp only [String.toList_ofList]
  rw [writes, reader_pushed, run_flatMap_lines blank text.toList start]

theorem reader_blank (start : (w.reader l).AtStart l) : w.blank.reader l = w.reader l := by
  have skipped : (w.push "\n").reader l = w.reader l := by
    rw [reader_push]
    exact start.2 '\n' (by decide)
  unfold blank
  split
  · rfl
  · rfl
  · exact skipped

/-! ## The end of a program -/

/-- The blanks that are dropped at the end make no difference. -/
theorem lines_finish (w : Writer) : l.lines w.finish.toList = l.lines w.written.reverse := by
  have ends := List.takeWhile_append_dropWhile (p := Chars.isBlank) (l := w.written)
  have blank : ∀ c ∈ (w.written.takeWhile Chars.isBlank).reverse, Chars.isBlank c = true := by
    intro c mem
    exact List.all_eq_true.1 List.all_takeWhile c (List.mem_reverse.1 mem)
  have feed : ∀ c ∈ ['\n'], Chars.isBlank c = true := List.forall_mem_singleton.2 (by decide)
  have text : w.finish.toList = (w.written.dropWhile Chars.isBlank).reverse ++ ['\n'] := by
    simp [finish]
  rw [text, lines_append_blank _ feed, ← lines_append_blank _ blank, ← List.reverse_append, ends]

end Writer

/-! ## Steps -/

namespace Step

open Writer

variable {l : Lexis} {a b : List Step} {x y : List (List Lexeme)}

/-- Steps that add lines with the given lexemes, wherever they are laid out. -/
def Reads (l : Lexis) (steps : List Step) (added : List (List Lexeme)) : Prop :=
  ∀ w : Writer, IsBlankUnit w.unit → (w.reader l).IsClear →
    IsBlankUnit (w.runAll steps).unit ∧ ((w.runAll steps).reader l).IsClear ∧
      ((w.runAll steps).reader l).done = added.reverse ++ (w.reader l).done

theorem runAll_append (w : Writer) (a b : List Step) :
    w.runAll (a ++ b) = (w.runAll a).runAll b := by
  induction a generalizing w with
  | nil => rfl
  | cons step rest ih => exact ih (w.run step)

theorem runAll_line_terminate (w : Writer) {text : Code} (some : text.text ≠ "") (ending : Code) :
    w.runAll [.line text, .terminate ending] = w.runAll [.line (text ++ ending)] := by
  have both : text.text ++ ending.text ≠ "" := by simp [some]
  simp [runAll, run, Writer.line, Writer.terminate, push, some, both, Code.text_append]

theorem runAll_block_terminate (w : Writer) {opening closing : Code} (some : closing.text ≠ "")
    (body : List Step) (ending : Code) :
    w.runAll [.block opening closing body, .dedent, .terminate ending] =
      w.runAll [.block opening (closing ++ ending) body, .dedent] := by
  have both : closing.text ++ ending.text ≠ "" := by simp [some]
  simp [runAll, run, Writer.line, Writer.terminate, Writer.dedent, push, some, both,
    Code.text_append]

namespace Reads

theorem nil : Reads l [] [] :=
  fun _ unit clear => ⟨unit, clear, rfl⟩

theorem append (first : Reads l a x) (second : Reads l b y) : Reads l (a ++ b) (x ++ y) := by
  intro w unit clear
  obtain ⟨unit₁, clear₁, done₁⟩ := first w unit clear
  obtain ⟨unit₂, clear₂, done₂⟩ := second _ unit₁ clear₁
  rw [runAll_append]
  refine ⟨unit₂, clear₂, ?_⟩
  rw [done₂, done₁, List.reverse_append, List.append_assoc]

theorem congr (same : ∀ w : Writer, w.runAll a = w.runAll b) (reads : Reads l b x) :
    Reads l a x := by
  intro w
  rw [same w]
  exact reads w

theorem line {text : Code} (closes : l.Closes text.text.toList) :
    Reads l [.line text] (l.lines text.text.toList) := by
  intro w unit clear
  have read := reader_line unit (clear.atStart (l := l)) text.text
  have both := clear.run_feed closes
  rw [← read] at both
  exact ⟨by rwa [runAll, run, runAll, line_eq], both⟩

theorem lines {text : Code} (closes : l.Closes text.text.toList) :
    Reads l [.lines text] (l.lines text.text.toList) := by
  intro w unit clear
  have read := reader_lines unit (clear.atStart (l := l)) text.text
  have both := clear.run_feed closes
  rw [← read] at both
  refine ⟨?_, both⟩
  rwa [runAll, run, runAll, Writer.lines, foldl_line_eq]

/-- A line comment is no code as long as it is one line. -/
theorem remark {marker text : String}
    (opens : Reader.run l {} marker.toList = { place := .remark })
    (whole : ∀ c ∈ text.toList, c ≠ '\n' ∧ c ∉ l.breaks) :
    Reads l [Step.remark marker text] [] := by
  have stays : ∀ cs : List Char, (∀ c ∈ cs, c ≠ '\n' ∧ c ∉ l.breaks) →
      Reader.run l { place := .remark } cs = { place := .remark } := by
    intro cs whole
    induction cs with
    | nil => rfl
    | cons c rest ih =>
        obtain ⟨⟨feed, breaks⟩, later⟩ := List.forall_mem_cons.1 whole
        have still : Reader.step l { place := .remark } c = { place := .remark } := by
          simp [Reader.step, feed, breaks]
        rw [Reader.run_cons, still, ih later]
  have written : (Code.remark (marker ++ text)).text.toList = marker.toList ++ text.toList := by
    simp [Code.remark, Code.text, Piece.text, String.join_cons]
  have ends : Reader.run l {} ((Code.remark (marker ++ text)).text.toList ++ ['\n']) = {} := by
    rw [written, Reader.run_append, Reader.run_append, opens, stays _ whole]
    rfl
  have closes : l.Closes (Code.remark (marker ++ text)).text.toList := by
    rw [Closes, ends]
    exact Reader.isClear_initial
  have reads := line closes
  rwa [Lexis.lines, ends] at reads

theorem blank : Reads l [.blank] [] := by
  intro w unit clear
  have read := reader_blank (clear.atStart (l := l))
  refine ⟨?_, ?_, ?_⟩
  · rw [runAll, run, runAll, Writer.blank]
    split <;> exact unit
  · rwa [runAll, run, runAll, read]
  · rw [runAll, run, runAll, read]
    rfl

theorem indent : Reads l [.indent] [] :=
  fun _ unit clear => ⟨unit, clear, rfl⟩

theorem dedent : Reads l [.dedent] [] :=
  fun _ unit clear => ⟨unit, clear, rfl⟩

theorem scope {opening : Code} {body : List Step} (head : Reads l [.line opening] x)
    (inner : Reads l body y) : Reads l [.scope opening body] (x ++ y) := by
  have flat : Reads l ([Step.line opening] ++ [Step.indent] ++ body ++ [Step.dedent])
      (x ++ [] ++ y ++ []) :=
    ((head.append indent).append inner).append dedent
  have same (w : Writer) : w.runAll [.scope opening body] =
      w.runAll ([Step.line opening] ++ [Step.indent] ++ body ++ [Step.dedent]) := by
    simp only [runAll_append, Writer.runAll, Writer.run]
  simpa only [List.append_nil] using congr same flat

theorem block {opening closing : Code} {body : List Step} {z : List (List Lexeme)}
    (head : Reads l [.line opening] x) (inner : Reads l body y) (foot : Reads l [.line closing] z) :
    Reads l [.block opening closing body] (x ++ y ++ z) := by
  have same (w : Writer) : w.runAll [.block opening closing body] =
      w.runAll ([Step.scope opening body] ++ [Step.line closing]) := by
    simp only [runAll_append, Writer.runAll, Writer.run]
  exact congr same ((scope head inner).append foot)

/-- What steps add is all that can be read in a program of theirs. -/
theorem layOut {unit : String} (reads : Reads l a x) (blank : IsBlankUnit unit) :
    l.lines (Step.layOut unit a).toList = x := by
  have initial : (({ unit } : Writer).reader l).IsClear := Reader.isClear_initial
  obtain ⟨-, clear, done⟩ := reads { unit } blank initial
  have last := clear.atStart (l := l)
  have feed : Chars.isBlank '\n' = true := by decide
  rw [Step.layOut, lines_finish, Lexis.lines, Reader.run_append, Reader.run_singleton,
    ← Writer.reader, last.2 '\n' feed, done]
  simp [Writer.reader, Reader.run]

end Reads

end Step

end RequestScribe
