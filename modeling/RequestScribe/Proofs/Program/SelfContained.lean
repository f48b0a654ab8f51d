import RequestScribe.Proofs.Program.PythonProgram
import RequestScribe.Proofs.Program.ScriptProgram

/-!
# Programs that use only what they declare

JavaScript, TypeScript and Python programs declare the parts of a request before they send it, and
they begin with the imports of the modules that they use.  Read without knowing how it was written,
such a program names just the parts that it declares, and every module that it uses is imported.
-/

namespace RequestScribe

open Lexis

/-- A language of programs that declare the parts of their request. -/
structure Declaring where
  lexis : Lexis
  naming : Naming
  /-- What uses a module, and the line that imports it. -/
  importLines : List ((Use × String) × String)

namespace Script

def declaring : Declaring :=
  ⟨.script, naming, importLines⟩

def declarations (s : Script) (b : Brief) : List (List Lexeme) :=
  Lexis.script.lines (Step.layOut b.unit (s.preamble b)).toList

def target (s : Script) : Target :=
  if s.typed then .typeScript s.client else .javaScript s.client

theorem program_target (s : Script) (b : Brief) : s.target.program b = .ok (s.program b) := by
  obtain ⟨typed, client⟩ := s
  cases typed <;> rfl

end Script

namespace Python

def declaring : Declaring :=
  ⟨.python, naming, importLines⟩

def declarations (b : Brief) : List (List Lexeme) :=
  Lexis.python.lines (Step.layOut b.unit (preamble b)).toList

end Python

namespace Generated

def Uses (g : Generated) (d : Declaring) (y : Use × String) : Prop :=
  y.2 ∈ (d.lexis.lines g.code.toList).flatMap (d.naming.ask y.1)

/-- A program that uses only what it declares and imports. -/
structure IsSelfContained (g : Generated) (d : Declaring) (declarations : List (List Lexeme)) :
    Prop where
  begins : ("\n".intercalate g.imports).toList <+: g.code.toList
  declared : ∃ before following,
    d.lexis.lines g.code.toList = before ++ declarations ++ following ∧
      d.naming.NamesDeclared declarations following
  imported : ∀ entry ∈ d.importLines, g.Uses d entry.1 → entry.2 ∈ g.imports

variable {command : String} {outcome : Command.Outcome} {settings : Settings}

/-- For scripts, which also import nothing that they do not use. -/
theorem exists_script (parsed : Command.parse command = .ok outcome)
    (address : IsUnbroken outcome.request.url)
    (proxy : ∀ proxy, outcome.request.transport.proxy? = some proxy → IsUnbroken proxy)
    (s : Script) : ∃ g, ofRequest s.target settings outcome.request = .ok g ∧
      g.IsSelfContained Script.declaring (s.declarations (.ofRequest settings outcome.request)) ∧
      ∀ entry ∈ Script.importLines, entry.2 ∈ g.imports → g.Uses Script.declaring entry.1 := by
  obtain ⟨b, brief⟩ : ∃ b, b = Brief.ofRequest settings outcome.request := ⟨_, rfl⟩
  have sound : b.IsSound := brief ▸ Brief.isSound_ofRequest parsed settings
  have oneLine : b.comments = true → IsUnbroken b.url := fun _ => by rwa [brief]
  have oneLineProxy : b.comments = true →
      ∀ proxy, b.transport.proxy? = some proxy → IsUnbroken proxy := fun _ => by rwa [brief]
  obtain ⟨g, made, code, listed⟩ : ∃ g, ofRequest s.target settings outcome.request = .ok g ∧
      g.code = Step.layOut b.unit (s.program b).steps ∧ g.imports = s.imports b := by
    rw [brief]
    exact ⟨_, ofRequest_eq_ok (s.program_target _), rfl, rfl⟩
  have asked : ∀ entry ∈ Script.importLines, entry.1 ∈ Script.modules := by decide
  have used (entry : (Use × String) × String) (mem : entry ∈ Script.importLines) :
      g.Uses Script.declaring entry.1 ↔ entry.2 ∈ g.imports := by
    rw [listed, Uses, code]
    exact (Script.mem_ask_iff oneLine oneLineProxy sound (asked entry mem)).trans
      (Script.imported_iff entry mem)
  rw [← brief]
  refine ⟨g, made, ⟨?_, ?_, fun entry mem => (used entry mem).1⟩, fun entry mem => (used entry mem).2⟩
  · rw [code, listed]
    exact Script.prefix_program
  · rw [code]
    exact ⟨_, _, Script.lines_program oneLine oneLineProxy sound, Script.namesDeclared sound⟩

theorem exists_python (parsed : Command.parse command = .ok outcome)
    (indents : settings.indentUnit.isEmpty = false) (client : PythonClient) :
    ∃ g, ofRequest (.python client) settings outcome.request = .ok g ∧
      g.IsSelfContained Python.declaring
        (Python.declarations (.ofRequest settings outcome.request)) := by
  obtain ⟨b, brief⟩ : ∃ b, b = Brief.ofRequest settings outcome.request := ⟨_, rfl⟩
  have sound : b.IsSound := brief ▸ Brief.isSound_ofRequest parsed settings
  obtain ⟨g, made, code, listed⟩ : ∃ g,
      ofRequest (.python client) settings outcome.request = .ok g ∧
        g.code = Step.layOut b.unit (Python.steps client b) ∧
          g.imports = Python.imports client b := by
    obtain ⟨p, made, steps, listed⟩ : ∃ p, Python.program client b = .ok p ∧
        p.steps = Python.steps client b ∧ p.imports = Python.imports client b :=
      Python.exists_program (by rwa [brief])
    rw [brief] at made
    exact ⟨_, ofRequest_eq_ok made, by rw [← steps, brief]; rfl, listed⟩
  have asked : ∀ entry ∈ Python.importLines, entry.1 ∈ Python.modules := by decide
  rw [← brief]
  refine ⟨g, made, ⟨?_, ?_, fun entry mem uses => ?_⟩⟩
  · rw [code, listed]
    exact Python.prefix_steps
  · rw [code]
    exact ⟨_, _, Python.lines_steps sound, Python.namesDeclared sound⟩
  · rw [Uses, code] at uses
    rw [listed]
    exact Python.imported sound entry mem ((Python.mem_ask_iff sound (asked entry mem)).1 uses)

/--
JavaScript, TypeScript and Python programs use only what they declare and import.  In Python there
is only a program where blocks can be indented.
-/
theorem ofRequest_selfContained (settings : Settings)
    (parsed : Command.parse command = .ok outcome)
    (address : IsUnbroken outcome.request.url)
    (proxy : ∀ proxy, outcome.request.transport.proxy? = some proxy → IsUnbroken proxy) :
    (∀ s : Script, ∃ g, ofRequest s.target settings outcome.request = .ok g ∧
      g.IsSelfContained Script.declaring (s.declarations (.ofRequest settings outcome.request)) ∧
      ∀ entry ∈ Script.importLines, entry.2 ∈ g.imports → g.Uses Script.declaring entry.1) ∧
    ∀ client : PythonClient,
      if settings.indentUnit.isEmpty then
        ofRequest (.python client) settings outcome.request =
          .error (.generation "Python blocks need indentation; indent size must be at least 1")
      else
        ∃ g, ofRequest (.python client) settings outcome.request = .ok g ∧
          g.IsSelfContained Python.declaring
            (Python.declarations (.ofRequest settings outcome.request)) := by
  refine ⟨exists_script parsed address proxy, fun client => ?_⟩
  cases indents : settings.indentUnit.isEmpty with
  | false => exact exists_python parsed indents client
  | true =>
      have none : (Brief.ofRequest settings outcome.request).unit.isEmpty = true := indents
      have fails : (Target.python client).program (.ofRequest settings outcome.request) =
          .error (.generation "Python blocks need indentation; indent size must be at least 1") := by
        rw [Target.program, Python.program, if_pos none]
      rw [ofRequest, ← Brief.ofRequest, fails]
      rfl

/-- A request that sends a file and does not check certificates. -/
theorem ofRequest_selfContained_file :
    let command := "curl -k --data-binary @a.bin 'https://x.test/?q=1'"
    let r : Request :=
      { method := .post
        url := "https://x.test/"
        headers := [("Content-Type", "application/octet-stream")]
        body? := some (.file "a.bin")
        rawBody? := some "@a.bin"
        authorization? := none
        cookies := []
        files := []
        query := [("q", "1")]
        transport := { insecure := true, userAgent? := some "curl/8.5.0" } }
    Command.parse command = .ok ⟨r, [.bodyFromFile "a.bin"]⟩ ∧ IsUnbroken r.url ∧
      (∀ proxy, r.transport.proxy? = some proxy → IsUnbroken proxy) ∧
      (∃ g, ofRequest (.javaScript .axios) {} r = .ok g ∧
        g.Uses Script.declaring (.opened, "fs") ∧ g.Uses Script.declaring (.opened, "https")) ∧
      ∃ g, ofRequest (.python .requests) {} r = .ok g ∧
        g.imports = ["from pathlib import Path", "import requests"] ∧
        ¬g.Uses Python.declaring (.opened, "os") := by
  intro command r
  have letters : command.toList = _ := String.toList_ofList
  have words : Shell.arguments command =
      .ok ["-k", "--data-binary", "@a.bin", "https://x.test/?q=1"] := by
    rw [Shell.arguments, Text.isBlank, Shell.tokenize, letters]
    decide +kernel
  have parsed : Command.parse command = .ok ⟨r, [.bodyFromFile "a.bin"]⟩ := by
    rw [Command.parse, words]
    decide +kernel
  have address : IsUnbroken r.url := by decide
  have proxy : ∀ proxy, r.transport.proxy? = some proxy → IsUnbroken proxy := by simp [r]
  obtain ⟨scripts, python⟩ := ofRequest_selfContained {} parsed address proxy
  refine ⟨parsed, address, proxy, ?_, ?_⟩
  · obtain ⟨g, made, -, used⟩ := scripts ⟨false, .axios⟩
    have listed : g.imports = ["import axios from 'axios';", "import fs from 'node:fs';",
        "import https from 'node:https';"] := by
      have same := made.symm.trans (ofRequest_eq_ok (Script.program_target ⟨false, .axios⟩ _))
      rw [Except.ok.inj same]
      rfl
    refine ⟨g, made, used ((.opened, "fs"), "import fs from 'node:fs';") (by decide) ?_,
      used ((.opened, "https"), "import https from 'node:https';") (by decide) ?_⟩
    all_goals
      rw [listed]
      decide
  · obtain ⟨g, made, closed⟩ := python .requests
    have listed : g.imports = ["from pathlib import Path", "import requests"] := by
      have same := made.symm.trans (ofRequest_eq_ok (t := .python .requests) rfl)
      rw [Except.ok.inj same]
      rfl
    refine ⟨g, made, listed, fun uses => ?_⟩
    have present := closed.imported ((.opened, "os"), "import os") (by decide) uses
    rw [listed] at present
    exact absurd present (by decide)

end Generated

end RequestScribe
