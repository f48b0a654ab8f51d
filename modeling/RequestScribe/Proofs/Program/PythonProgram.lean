import RequestScribe.Proofs.Code.Placement
import RequestScribe.Proofs.Program.PythonCall

/-!
# What a Python program uses

A Python program is read as what stands in front of its declarations, the declarations and what
stands behind them.  Nothing in front uses a module, and the summary between triple quotes is read
as three literals side by side.
-/

namespace RequestScribe

open Lexis

namespace Python

open Step Code

variable {client : PythonClient} {b : Brief}

abbrev Opens (steps : List Step) (found : List (Use × String)) : Prop :=
  Uses .python naming modules steps found

/-! ## In front of the declarations -/

def signature (client : PythonClient) (b : Brief) : Code :=
  Code.plain (if isAsync client b then "async def make_request():" else "def make_request():")

def head (client : PythonClient) (b : Brief) : List Step :=
  Step.plainLines (imports client b) ++ [blank] ++ headComments client b ++ [blank]

def summary (b : Brief) : List Step :=
  Step.when b.comments [line (docstring b)]

theorem opens_imports : Opens (Step.plainLines (imports client b)) [] := by
  have asyncio : Opens [.line "import asyncio"] [] := .text rfl
  have os : Opens [.line "import os"] [] := .text rfl
  have path : Opens [.line "from pathlib import Path"] [] := .text rfl
  have library : Opens [.line (Code.plain ("import " ++ moduleName client))] [] := by
    cases client <;> exact .line (hasMask_plain_append (hasMask_text _) (hasMask_text _)) rfl
  have each : ∀ text ∈ imports client b, Opens [.line (Code.plain text)] [] := by
    unfold imports
    simp only [List.forall_mem_append]
    refine ⟨⟨⟨?_, ?_⟩, ?_⟩, List.forall_mem_singleton.2 library⟩ <;> split
    · exact List.forall_mem_singleton.2 asyncio
    · exact List.forall_mem_nil _
    · exact List.forall_mem_nil _
    · exact List.forall_mem_singleton.2 os
    · exact List.forall_mem_singleton.2 path
    · exact List.forall_mem_nil _
  exact .map_nil each

theorem isUnbroken_notes : ∀ note ∈ notes client b, IsUnbroken note := by
  unfold notes
  dsimp only
  simp only [List.forall_mem_append]
  refine ⟨?_, ?_⟩
  · split
    · refine List.forall_mem_append.2 ⟨?_, ?_⟩ <;> split
      all_goals first
        | exact List.forall_mem_singleton.2 (isUnbroken_ofList (by decide))
        | exact List.forall_mem_nil _
    · exact List.forall_mem_nil _
  · split
    · exact List.forall_mem_singleton.2 (isUnbroken_ofList (by decide))
    · exact List.forall_mem_nil _

/-- The comments at the head say nothing of the request, so that they are one line each. -/
theorem reads_headComments : Reads .python (headComments client b) [] := by
  have opens : Reader.run .python {} "# ".toList = { place := .remark } := by decide
  have known : ∀ c ∈ python.breaks, c ∈ lineBreaks := List.all_iff_forall_prop.1 (by decide)
  have retry : Reads .python (b.retryLines.map (Step.remark "# ")) [] :=
    .remarks opens known Brief.isUnbroken_retryLines
  have noted : ∀ note ∈ (notes client b).map ("Note: " ++ ·), IsUnbroken note :=
    List.forall_mem_map.2 fun note mem =>
      isUnbroken_append_iff.2 ⟨isUnbroken_ofList (by decide), isUnbroken_notes note mem⟩
  have texts := Reads.remarks opens known noted
  rw [List.map_map] at texts
  unfold headComments
  cases b.comments with
  | false => exact retry
  | true => exact texts.append retry

theorem opens_head : Opens (head client b) [] := by
  have comments : Opens (headComments client b) [] := .silent reads_headComments
  exact (((opens_imports.append .blank).append comments).append .blank).of_same (by simp)

theorem opens_signature : Opens [line (signature client b)] [] := by
  unfold signature
  split <;> exact .text rfl

/-- Between triple quotes neither a quote nor a backslash stands by itself. -/
theorem kept_summary (text : String) :
    Kept '"' (Text.replaceChar '"' "\\\"" (Text.replaceChar '\\' "\\\\" text)).toList := by
  have backslash (c : Char) : Kept '"'
      ((if c = '\\' then "\\\\".toList else [c]).flatMap fun d =>
        if d = '"' then "\\\"".toList else [d]) := by
    rcases Decidable.em (c = '\\') with rfl | other
    · exact .escaped '\\' .nil
    · rw [if_neg other, List.flatMap_singleton]
      split
      · exact .escaped '"' .nil
      · next quote => exact .plain quote other .nil
  have escaped : (Text.replaceChar '"' "\\\"" (Text.replaceChar '\\' "\\\\" text)).toList =
      text.toList.flatMap fun c => (if c = '\\' then "\\\\".toList else [c]).flatMap fun d =>
        if d = '"' then "\\\"".toList else [d] := by
    simp only [Text.replaceChar, String.toList_ofList, List.flatMap_assoc]
  rw [escaped]
  exact .flatMap backslash _

theorem opens_summary : Opens (summary b) [] := by
  have quotes : python.IsLiteral ('"' :: ([] ++ ['"'])) :=
    isLiteral_escaping (by decide) (by decide) .nil
  have inner : python.IsLiteral ('"' :: (_ ++ ['"'])) :=
    isLiteral_escaping (by decide) (by decide) (kept_summary b.summary)
  have mask : (docstring b).HasMask .python
      ([Glyph.literal] ++ ([Glyph.literal] ++ [Glyph.literal])) := by
    have whole := Masks.append (.literal quotes) (.append (.literal inner) (.literal quotes))
    rw [HasMask, docstring, text_quoted, String.toList_append, String.toList_append]
    simpa using whole
  have line : Opens [.line (docstring b)] [] := .line mask rfl
  exact line.when.of_same (by simp)

/-! ## Whole programs -/

/-- The steps of a program, which is only written where blocks can be indented. -/
def steps (client : PythonClient) (b : Brief) : List Step :=
  head client b ++ [scope (signature client b) (summary b ++ preamble b ++ [blank] ++
    call client b)] ++ usage client b

theorem exists_program (some : b.unit.isEmpty = false) :
    ∃ p, program client b = .ok p ∧ p.steps = steps client b ∧ p.imports = imports client b := by
  unfold program
  rw [some]
  exact ⟨_, rfl, rfl, rfl⟩

theorem mem_valueUses_iff {f : Fragment} {y : Use × String} :
    y ∈ valueUses f ↔ f.var?.isSome = true ∧ y = (.opened, "os") := by
  unfold valueUses
  split <;> simp_all

/-- The call names the parts that are declared. -/
theorem named_mem_callUses_iff {part : String} :
    (.named, part) ∈ callUses b ↔ (.declared, part) ∈ preambleUses b := by
  unfold preambleUses callUses
  cases b.basicAuth? with
  | none => simp [mem_valueUses_iff]
  | some pair =>
      simp [mem_valueUses_iff]
      grind

theorem namesDeclared (sound : b.IsSound) :
    naming.NamesDeclared (Lexis.python.lines (layOut b.unit (preamble b)).toList)
      (Lexis.python.lines (layOut b.unit (closing client b)).toList) := by
  have blank : Writer.IsBlankUnit b.unit := b.settings.isBlankUnit_indentUnit
  have named {part : String} : (.named, part) ∈ callUses b ++ usageUses client b ↔
      (.declared, part) ∈ preambleUses b := by
    rw [List.mem_append, named_mem_callUses_iff]
    unfold usageUses
    split <;> simp
  have unnamed : (.named, "params") ∉ preambleUses b := by
    unfold preambleUses
    cases b.basicAuth? <;> simp [mem_valueUses_iff]
  exact (declares_preamble sound).namesDeclared blank refers_closing (by decide) (by decide)
    (fun part _ => named.1) (fun mem => absurd mem unnamed) fun part _ mem => .inl (named.2 mem)

/-! ## Modules -/

/-- What uses a module, and the line that imports it. -/
def importLines : List ((Use × String) × String) :=
  [((.opened, "os"), "import os"), ((.opened, "asyncio"), "import asyncio"),
    ((.called, "Path"), "from pathlib import Path")]

def programUses (client : PythonClient) (b : Brief) : List (Use × String) :=
  preambleUses b ++ (callUses b ++ usageUses client b)

/-- Variables are read by headers and by credentials. -/
theorem opened_os_iff (sound : b.IsSound) :
    (.opened, "os") ∈ programUses client b ↔ b.envNames ≠ [] := by
  rw [sound.envNames_ne_nil_iff]
  unfold programUses preambleUses
  cases b.basicAuth? with
  | none => simp [mem_valueUses_iff, callUses, usageUses]
  | some pair =>
      obtain ⟨user, password⟩ := pair
      simp [mem_valueUses_iff, callUses, usageUses]

theorem called_path_iff : (.called, "Path") ∈ programUses client b ↔ b.sendsFiles = true := by
  unfold programUses preambleUses
  cases b.basicAuth? <;> simp [mem_valueUses_iff, callUses, usageUses]

theorem opened_asyncio_iff : (.opened, "asyncio") ∈ programUses client b ↔
    b.comments = true ∧ isAsync client b = true := by
  unfold programUses preambleUses
  cases b.basicAuth? <;> simp [mem_valueUses_iff, callUses, usageUses]

theorem imported (sound : b.IsSound) : ∀ entry ∈ importLines,
    entry.1 ∈ programUses client b → entry.2 ∈ imports client b := by
  have os : (.opened, "os") ∈ programUses client b → "import os" ∈ imports client b := by
    rw [opened_os_iff sound]
    intro some
    simp [imports, some]
  have asyncio : (.opened, "asyncio") ∈ programUses client b →
      "import asyncio" ∈ imports client b := by
    rw [opened_asyncio_iff]
    rintro ⟨-, waits⟩
    simp [imports, waits]
  have path : (.called, "Path") ∈ programUses client b →
      "from pathlib import Path" ∈ imports client b := by
    rw [called_path_iff, Brief.sendsFiles]
    intro sends
    unfold imports
    rw [sends]
    simp
  exact List.forall_mem_cons.2 ⟨os, List.forall_mem_cons.2 ⟨asyncio,
    List.forall_mem_singleton.2 path⟩⟩

/-- A program is read as its head, its declarations and what stands behind them. -/
theorem lines_steps (sound : b.IsSound) :
    Lexis.python.lines (layOut b.unit (steps client b)).toList =
      Lexis.python.lines (layOut b.unit
        (head client b ++ [line (signature client b)] ++ summary b)).toList ++
        Lexis.python.lines (layOut b.unit (preamble b)).toList ++
        Lexis.python.lines (layOut b.unit (closing client b)).toList := by
  have blank : Writer.IsBlankUnit b.unit := b.settings.isBlankUnit_indentUnit
  obtain ⟨x, head⟩ : ∃ x, Reads .python (Python.head client b) x := opens_head.reads
  obtain ⟨y, signature⟩ : ∃ y, Reads .python [line (signature client b)] y := opens_signature.reads
  obtain ⟨z, summary⟩ : ∃ z, Reads .python (summary b) z := opens_summary.reads
  obtain ⟨u, preamble⟩ := (declares_preamble sound).reads
  obtain ⟨v, call⟩ : ∃ v, Reads .python (call client b) v := refers_call.reads
  obtain ⟨w, usage⟩ : ∃ w, Reads .python (usage client b) w := refers_usage.reads
  have whole := (head.append (signature.scope (((summary.append preamble).append .blank).append
    call))).append usage
  rw [steps, whole.layOut blank, ((head.append signature).append summary).layOut blank,
    preamble.layOut blank, closing, (call.append usage).layOut blank]
  simp only [List.append_assoc, List.nil_append]

/-- A program uses the modules that its declarations, its call and its usage use. -/
theorem mem_ask_iff (sound : b.IsSound) {use : Use} {name : String} (known : (use, name) ∈ modules) :
    name ∈ (Lexis.python.lines (layOut b.unit (steps client b)).toList).flatMap (naming.ask use) ↔
      (use, name) ∈ programUses client b := by
  have blank : Writer.IsBlankUnit b.unit := b.settings.isBlankUnit_indentUnit
  have silent : Opens (head client b ++ [line (signature client b)] ++ summary b) [] :=
    (opens_head.append opens_signature).append opens_summary
  have refers : Refers (closing client b) (callUses b ++ usageUses client b) := refers_closing
  have head := silent.mem_iff blank known
  have declared := (declares_preamble sound).mem_iff blank
    (List.mem_cons_of_mem _ (List.mem_append_right _ known))
  have called := refers.mem_iff blank (List.mem_append_right _ known)
  rw [lines_steps sound, List.flatMap_append, List.flatMap_append, List.mem_append,
    List.mem_append, head, declared, called, programUses, List.mem_append]
  simp

/-- A program begins with its imports. -/
theorem prefix_steps : ("\n".intercalate (imports client b)).toList <+:
    (layOut b.unit (steps client b)).toList := by
  have ends : ∀ text ∈ imports client b, ∃ shown c, text.toList = shown ++ [c] ∧
      Chars.isBlank c = false := by
    unfold imports
    simp only [List.forall_mem_append]
    refine ⟨⟨⟨?_, ?_⟩, ?_⟩, List.forall_mem_singleton.2 ?_⟩
    · split
      · exact List.forall_mem_singleton.2 ⟨"import asynci".toList, 'o', rfl, rfl⟩
      · exact List.forall_mem_nil _
    · split
      · exact List.forall_mem_nil _
      · exact List.forall_mem_singleton.2 ⟨"import o".toList, 's', rfl, rfl⟩
    · split
      · exact List.forall_mem_singleton.2 ⟨"from pathlib import Pat".toList, 'h', rfl, rfl⟩
      · exact List.forall_mem_nil _
    · cases client with
      | requests => exact ⟨"import request".toList, 's', rfl, rfl⟩
      | httpx => exact ⟨"import http".toList, 'x', rfl, rfl⟩
  have parts : steps client b = Step.plainLines (imports client b) ++ ([Step.blank] ++
      headComments client b ++ [Step.blank] ++ [scope (signature client b) (summary b ++
        preamble b ++ [Step.blank] ++ call client b)] ++ usage client b) := by
    simp [steps, head]
  rw [parts]
  exact prefix_plainLines ends _

end Python

end RequestScribe
