import RequestScribe.Proofs.Code.Placement
import RequestScribe.Proofs.Program.DeclaredTypes
import RequestScribe.Proofs.Program.ScriptCall
import RequestScribe.Proofs.Shape.TypeText

/-!
# What a script uses

A script is read as what stands in front of its declarations, the declarations and what stands
behind them.  Nothing in front uses a module.
-/

namespace RequestScribe

open Lexis

/-- Types look nothing up. -/
theorem Code.IsTypeCode.uses {l : Lexis} {n : Naming} {known : List (Use × String)} {c : Code}
    (h : c.IsTypeCode l) (opens : ∀ d ∈ typeMarks, Mask.isPlain l d = true)
    (opened : ∀ y ∈ known, y.1 = .opened) : Step.Uses l n known [.lines c] [] := by
  refine (Step.Mentions.ofLines h.read.hasMask (h.isPlain opens)).iff fun y => ?_
  refine iff_of_false (fun mem => ?_) List.not_mem_nil
  obtain ⟨line, held, used⟩ := List.mem_flatMap.1 mem
  have asked := Naming.mem_uses_iff.1 used
  rw [opened y.1 y.2] at asked
  have dot := (Lexeme.mem_of_mem_before asked).2 '.' List.mem_cons_self
  exact absurd (h.characters '.' (Mask.mem_of_mark held dot)) (by decide)

namespace Script

open Step Code

variable {s : Script} {b : Brief}

abbrev Opens (steps : List Step) (found : List (Use × String)) : Prop :=
  Uses .script naming modules steps found

def signature (s : Script) (b : Brief) : Code :=
  Code.plain ((if b.settings.awaiting then "export async function" else "export function") ++
    " makeRequest()" ++ s.returnType b ++ " \x7b")

def head (s : Script) (b : Brief) : List Step :=
  Step.plainLines (s.imports b) ++ [blank] ++ b.headComments "// " (s.notes b) ++ [blank] ++
    if s.typed then b.typeSteps .typeScript else []

/-- An import has the path of its module in a literal. -/
theorem opens_import {text : String} (start path : String)
    (spelled : text = start ++ path ++ ";") (enclosed : isEnclosed '\'' path.toList = true)
    (kept : Mask.used .script naming modules
      (Mask.text start ++ [Glyph.literal] ++ Mask.text ";") = some []) :
    Opens [.line (Code.plain text)] [] := by
  have literal : Lexis.script.IsLiteral path.toList :=
    isLiteral_of_isEnclosed '\'' (by decide) (by decide) enclosed
  have mask : Masks .script (start.toList ++ path.toList ++ ";".toList)
      (Mask.text start ++ [Glyph.literal] ++ Mask.text ";") :=
    ((Masks.text start).append (.literal literal)).append (.text ";")
  rw [← String.toList_append, ← String.toList_append, ← spelled, ← Code.text_plain text] at mask
  exact .line mask kept

theorem opens_imports : Opens (Step.plainLines (s.imports b)) [] := by
  have axios : Opens [.line "import axios from 'axios';"] [] :=
    opens_import "import axios from " "'axios'" rfl rfl rfl
  have fs : Opens [.line "import fs from 'node:fs';"] [] :=
    opens_import "import fs from " "'node:fs'" rfl rfl rfl
  have https : Opens [.line "import https from 'node:https';"] [] :=
    opens_import "import https from " "'node:https'" rfl rfl rfl
  have each : ∀ text ∈ s.imports b, Opens [.line (Code.plain text)] [] := by
    unfold imports
    simp only [List.forall_mem_append]
    refine ⟨⟨?_, ?_⟩, ?_⟩ <;> split
    · exact List.forall_mem_singleton.2 axios
    · exact List.forall_mem_nil _
    · exact List.forall_mem_singleton.2 fs
    · exact List.forall_mem_nil _
    · exact List.forall_mem_singleton.2 https
    · exact List.forall_mem_nil _
  exact .map_nil each

theorem isUnbroken_notes
    (whole : ∀ proxy, b.transport.proxy? = some proxy → IsUnbroken proxy) :
    ∀ note ∈ s.notes b, IsUnbroken note := by
  unfold notes
  dsimp only
  split
  · simp only [List.forall_mem_append]
    refine ⟨⟨⟨?_, ?_⟩, ?_⟩, ?_⟩ <;> split
    all_goals first
      | exact List.forall_mem_singleton.2 (isUnbroken_ofList (by decide))
      | exact List.forall_mem_nil _
  · split
    · next proxy given =>
        split
        · exact List.forall_mem_singleton.2 (isUnbroken_append_iff.2 ⟨isUnbroken_append_iff.2
            ⟨isUnbroken_ofList (by decide), whole proxy given⟩, isUnbroken_ofList (by decide)⟩)
        · exact List.forall_mem_nil _
    · exact List.forall_mem_nil _

/-- The comments at the head are no code as long as the address and the proxy are one line. -/
theorem reads_headComments (address : b.comments = true → IsUnbroken b.url)
    (proxy : b.comments = true →
      ∀ proxy, b.transport.proxy? = some proxy → IsUnbroken proxy) :
    Reads .script (b.headComments "// " (s.notes b)) [] := by
  have opens : Reader.run .script {} "// ".toList = { place := .remark } := by decide
  have known : ∀ c ∈ script.breaks, c ∈ lineBreaks := List.all_iff_forall_prop.1 (by decide)
  have retry : Reads .script (b.retryLines.map (Step.remark "// ")) [] :=
    .remarks opens known Brief.isUnbroken_retryLines
  unfold Brief.headComments
  cases commented : b.comments with
  | false => exact retry
  | true =>
      have summary : IsUnbroken b.summary := fun c mem breaks =>
        address commented c ((Brief.mem_summary_iff breaks).1 mem) breaks
      have noted : ∀ note ∈ (s.notes b).map ("Note: " ++ ·), IsUnbroken note :=
        List.forall_mem_map.2 fun note mem => isUnbroken_append_iff.2
          ⟨isUnbroken_ofList (by decide), isUnbroken_notes (proxy commented) note mem⟩
      have texts := Reads.remarks opens known (List.forall_mem_cons.2 ⟨summary, noted⟩)
      rw [List.map_cons, List.map_map] at texts
      exact texts.append retry

theorem opens_typeSteps : Opens (b.typeSteps .typeScript) [] := by
  have types : (TypeSet.writeBlocks .typeScript b.unit b.typeBlocks).IsTypeCode .script := by
    have feeds : (Code.plain "\n\n").IsTypeCode .script := isTypeCode_plain (by decide)
    refine feeds.intercalate (List.forall_mem_map.2 fun block mem => ?_)
    obtain ⟨name, refers⟩ := Brief.isTypeName_typeBlocks block mem
    exact block.isTypeCode_typeScript b.settings.isBlankUnit_indentUnit name refers
  unfold Brief.typeSteps Brief.types?
  split
  · next given =>
      split at given
      · cases given
      · cases given
        exact (types.uses (List.all_eq_true.1 (by decide)) (by decide)).cons .blank
  · exact .nil

theorem opens_signature : Opens [line (s.signature b)] [] := by
  unfold signature returnType
  split <;> split <;> try split
  all_goals exact .line (hasMask_plain_append (hasMask_plain_append (hasMask_plain_append
    (hasMask_text _) (hasMask_text _)) (hasMask_text _)) (hasMask_text _)) rfl

theorem opens_head (address : b.comments = true → IsUnbroken b.url)
    (proxy : b.comments = true →
      ∀ proxy, b.transport.proxy? = some proxy → IsUnbroken proxy) : Opens (s.head b) [] := by
  have types : Opens (if s.typed then b.typeSteps .typeScript else []) [] := by
    split
    · exact opens_typeSteps
    · exact .nil
  have comments : Opens (b.headComments "// " (s.notes b)) [] :=
    .silent (reads_headComments address proxy)
  exact ((((opens_imports.append .blank).append comments).append .blank).append types).of_same
    (by simp)

/-! ## Whole programs -/

/-- With `fetch` the address has the parameters of the query in it. -/
theorem namesInAddress (sound : b.IsSound) (query : b.hasQuery = true) (client : s.client = .fetch) :
    naming.NamesInAddress (Lexis.script.lines (layOut b.unit (s.preamble b)).toList) "params" := by
  have blank : Writer.IsBlankUnit b.unit := b.settings.isBlankUnit_indentUnit
  have parameters : Declares [block "const params = new URLSearchParams(\x7b" "\x7d);"
      (b.query.map fun pair => property pair.1 (string pair.2))] _ :=
    .block (.text rfl) (.map_nil fun pair _ => declares_property pair.1 pair.2) (.text rfl)
  have url : Reads .script [line ("const url = " ++ string (b.url ++ "?") ++
      " + params.toString();")]
      [[.name "const", .name "url", .mark '=', .literal, .mark '+', .name "params", .mark '.',
        .name "toString", .mark '(', .mark ')', .mark ';']] :=
    Mentions.reads_of_mask (((hasMask_text _).append (hasMask_string _)).append (hasMask_text _)) rfl
  obtain ⟨x, before⟩ := parameters.reads
  obtain ⟨y, after⟩ :=
    ((declares_headers (s := s) sound).append (declares_body (s := s) sound)).reads
  have steps : s.preamble b = [block "const params = new URLSearchParams(\x7b" "\x7d);"
      (b.query.map fun pair => property pair.1 (string pair.2))] ++
        [line ("const url = " ++ string (b.url ++ "?") ++ " + params.toString();")] ++
          (s.headers b ++ s.body b) := by
    rw [preamble, address, query, client, List.append_assoc]
    rfl
  rw [steps, ((before.append url).append after).layOut blank]
  exact ⟨_, List.mem_append_left y (List.mem_append_right x List.mem_cons_self), by decide,
    by decide⟩

/-- The parts that a call names: those of its address where it takes them, headers and a body. -/
theorem named_mem_callUses_iff {part : String} : (.named, part) ∈ s.callUses b ↔
    (b.hasQuery = true ∧ s.client = .axios) ∧ part = "params" ∨
      s.hasHeaders b = true ∧ part = "headers" ∨ b.body?.isSome = true ∧ part = "body" := by
  unfold callUses hasHeaders encodesCredentials
  cases client : s.client with
  | fetch => simp
  | axios => simp [axiosUses, agentUses]

theorem declared_mem_preambleUses_iff {part : String} : (.declared, part) ∈ s.preambleUses b ↔
    b.hasQuery = true ∧ part = "params" ∨ s.hasHeaders b = true ∧ part = "headers" ∨
      b.body?.isSome = true ∧ part = "body" := by
  simp [preambleUses]

/-- What follows the declarations names just the parts that are declared. -/
theorem namesDeclared (sound : b.IsSound) :
    naming.NamesDeclared (Lexis.script.lines (layOut b.unit (s.preamble b)).toList)
      (Lexis.script.lines (layOut b.unit (s.closing b)).toList) := by
  have blank : Writer.IsBlankUnit b.unit := b.settings.isBlankUnit_indentUnit
  refine (declares_preamble sound).namesDeclared blank (refers_closing sound) (by decide) (by decide)
    (fun part _ named => ?_) (fun params => ?_) fun part _ declared => ?_
  · rw [named_mem_callUses_iff] at named
    rw [declared_mem_preambleUses_iff]
    grind
  · rw [declared_mem_preambleUses_iff]
    simpa [preambleUses] using params
  · rw [named_mem_callUses_iff]
    rcases declared_mem_preambleUses_iff.1 declared with ⟨query, rfl⟩ | other
    · cases client : s.client with
      | fetch => exact .inr ⟨rfl, namesInAddress sound query client⟩
      | axios => exact .inl (.inl ⟨⟨query, rfl⟩, rfl⟩)
    · exact .inl (.inr other)

/-- What uses a module, and the line that imports it. -/
def importLines : List ((Use × String) × String) :=
  [((.opened, "axios"), "import axios from 'axios';"),
    ((.opened, "fs"), "import fs from 'node:fs';"),
    ((.opened, "https"), "import https from 'node:https';")]

def programUses (s : Script) (b : Brief) : List (Use × String) :=
  s.preambleUses b ++ s.callUses b

/-- Files are read for a body and for the certificates of an agent. -/
theorem opened_fs_iff : (.opened, "fs") ∈ s.programUses b ↔ s.readsFiles b = true := by
  unfold programUses callUses readsFiles needsAgent isAxios
  cases client : s.client with
  | fetch => simp [preambleUses, Brief.sendsFiles]
  | axios => simp [preambleUses, Brief.sendsFiles, axiosUses, agentUses, needsAgent, isAxios, client]

theorem opened_https_iff : (.opened, "https") ∈ s.programUses b ↔ s.needsAgent b = true := by
  unfold programUses callUses
  cases client : s.client with
  | fetch => simp [preambleUses, needsAgent, isAxios, client]
  | axios => simp [preambleUses, axiosUses, agentUses]

theorem opened_axios_iff : (.opened, "axios") ∈ s.programUses b ↔ s.isAxios = true := by
  unfold programUses callUses
  cases client : s.client with
  | fetch => simp [preambleUses, isAxios, client]
  | axios => simp [preambleUses, isAxios, client]

/-- What is used is imported, and nothing else is. -/
theorem imported_iff : ∀ entry ∈ importLines,
    entry.1 ∈ s.programUses b ↔ entry.2 ∈ s.imports b := by
  have axios : (.opened, "axios") ∈ s.programUses b ↔
      "import axios from 'axios';" ∈ s.imports b := by
    rw [opened_axios_iff]
    simp [imports]
  have fs : (.opened, "fs") ∈ s.programUses b ↔ "import fs from 'node:fs';" ∈ s.imports b := by
    rw [opened_fs_iff]
    simp [imports]
  have https : (.opened, "https") ∈ s.programUses b ↔
      "import https from 'node:https';" ∈ s.imports b := by
    rw [opened_https_iff]
    simp [imports]
  exact List.forall_mem_cons.2 ⟨axios, List.forall_mem_cons.2 ⟨fs,
    List.forall_mem_singleton.2 https⟩⟩

section

variable (address : b.comments = true → IsUnbroken b.url)
  (proxy : b.comments = true → ∀ proxy, b.transport.proxy? = some proxy → IsUnbroken proxy)

include address proxy

/-- A program is read as its head, its declarations and what stands behind them. -/
theorem lines_program (sound : b.IsSound) :
    Lexis.script.lines (layOut b.unit (s.program b).steps).toList =
      Lexis.script.lines (layOut b.unit (s.head b ++ [line (s.signature b)])).toList ++
        Lexis.script.lines (layOut b.unit (s.preamble b)).toList ++
        Lexis.script.lines (layOut b.unit (s.closing b)).toList := by
  have blank : Writer.IsBlankUnit b.unit := b.settings.isBlankUnit_indentUnit
  obtain ⟨x, head⟩ := (opens_head (s := s) address proxy).reads
  obtain ⟨y, signature⟩ := (opens_signature (s := s) (b := b)).reads
  obtain ⟨z, preamble⟩ := (declares_preamble (s := s) sound).reads
  obtain ⟨u, call⟩ := (refers_sending (s := s) sound).reads
  obtain ⟨v, brace⟩ := refers_brace.reads
  obtain ⟨w, usage⟩ := (refers_usage (b := b)).reads
  have whole := (head.append (signature.block ((preamble.append .blank).append call) brace)).append
    usage
  have steps : (s.program b).steps = s.head b ++ [block (s.signature b) "\x7d" (s.preamble b ++
      [Step.blank] ++ if b.settings.awaiting then s.guardedCall b else s.chainedCall b)] ++
        Script.usage b := rfl
  rw [steps, whole.layOut blank, (head.append signature).layOut blank, preamble.layOut blank,
    closing, ((call.append brace).append usage).layOut blank]
  simp only [List.append_assoc, List.nil_append]

/-- A program uses the modules that its declarations and its call use. -/
theorem mem_ask_iff (sound : b.IsSound) {use : Use} {name : String} (known : (use, name) ∈ modules) :
    name ∈ (Lexis.script.lines (layOut b.unit (s.program b).steps).toList).flatMap
        (naming.ask use) ↔
      (use, name) ∈ s.programUses b := by
  have blank : Writer.IsBlankUnit b.unit := b.settings.isBlankUnit_indentUnit
  have silent : Opens (s.head b ++ [line (s.signature b)]) [] :=
    (opens_head address proxy).append opens_signature
  have head := silent.mem_iff blank known
  have declared := (declares_preamble (s := s) sound).mem_iff blank
    (List.mem_cons_of_mem _ (List.mem_append_right _ known))
  have called := (refers_closing (s := s) sound).mem_iff blank (List.mem_append_right _ known)
  rw [lines_program address proxy sound, List.flatMap_append, List.flatMap_append, List.mem_append,
    List.mem_append, head, declared, called, programUses, List.mem_append]
  simp

end

theorem prefix_program : ("\n".intercalate (s.imports b)).toList <+:
    (layOut b.unit (s.program b).steps).toList := by
  have ends : ∀ text ∈ s.imports b, ∃ shown c, text.toList = shown ++ [c] ∧
      Chars.isBlank c = false := by
    unfold imports
    simp only [List.forall_mem_append]
    refine ⟨⟨?_, ?_⟩, ?_⟩ <;> split
    · exact List.forall_mem_singleton.2 ⟨"import axios from 'axios'".toList, ';', rfl, rfl⟩
    · exact List.forall_mem_nil _
    · exact List.forall_mem_singleton.2 ⟨"import fs from 'node:fs'".toList, ';', rfl, rfl⟩
    · exact List.forall_mem_nil _
    · exact List.forall_mem_singleton.2 ⟨"import https from 'node:https'".toList, ';', rfl, rfl⟩
    · exact List.forall_mem_nil _
  have steps : (s.program b).steps = Step.plainLines (s.imports b) ++ ([Step.blank] ++
      b.headComments "// " (s.notes b) ++ [Step.blank] ++
      (if s.typed then b.typeSteps .typeScript else []) ++ [s.makeRequest b] ++ Script.usage b) := by
    simp [program]
  rw [steps]
  exact prefix_plainLines ends _

end Script

end RequestScribe
