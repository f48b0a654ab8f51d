import Mathlib.Data.List.Infix
import RequestScribe.Conversion.Basic
import RequestScribe.Proofs.Text.Chars

/-!
# When a conversion succeeds

A conversion goes through a check, the reading of the command, the choice of a target and the
generating of a program.  It succeeds if the command names the program it calls, can be read, and
is to be written in one of the frameworks of a language; only a Python program needs indentation
besides.  Failures up to the reading leave nothing behind, later ones keep the request.
-/

namespace RequestScribe

/-! ## Targets -/

namespace Language

theorem mem_all (l : Language) : l ∈ all := by
  cases l <;> decide

theorem isSome_ofId?_iff {s : String} : (ofId? s).isSome = true ↔ ∃ l ∈ all, l.id = s := by
  simp only [ofId?, List.find?_isSome, beq_iff_eq]

/-- The frameworks of a language are those of its targets. -/
theorem mem_frameworks_iff {l : Language} {framework : String} :
    framework ∈ l.frameworks ↔ ∃ t ∈ Target.all, t.language = l ∧ t.framework = framework := by
  constructor
  · intro listed
    cases l with
    | javaScript | typeScript | python =>
        obtain rfl | rfl : framework = _ ∨ framework = _ := by simpa [frameworks] using listed
        · decide
        · decide
    | go | rust | php | ruby =>
        obtain rfl : framework = _ := by simpa [frameworks] using listed
        decide
  · rintro ⟨t, -, rfl, rfl⟩
    cases t with
    | javaScript client | typeScript client | python client => cases client <;> decide
    | go | rust | php | ruby => decide

theorem eq_python_of_id {l : Language} (h : l.id = "python") : l = .python := by
  cases l <;> first | rfl | exact absurd h (by decide)

theorem not_isBlank_of_mem_frameworks {l : Language} {framework : String}
    (listed : framework ∈ l.frameworks) : Text.isBlank framework = false := by
  have all : ∀ framework ∈ l.frameworks, Text.isBlank framework = false := by
    cases l <;> decide
  exact all framework listed

end Language

theorem Target.find?_eq_some_iff {language framework : String} :
    (∃ t, find? language framework = some t) ↔
      ∃ l ∈ Language.all, l.id = language ∧ framework ∈ l.frameworks := by
  rw [← Option.isSome_iff_exists, find?, List.find?_isSome]
  constructor
  · rintro ⟨t, known, same⟩
    rw [Bool.and_eq_true, beq_iff_eq, beq_iff_eq] at same
    exact ⟨t.language, t.language.mem_all, same.1,
      Language.mem_frameworks_iff.2 ⟨t, known, rfl, same.2⟩⟩
  · rintro ⟨l, -, rfl, listed⟩
    obtain ⟨t, known, rfl, rfl⟩ := Language.mem_frameworks_iff.1 listed
    exact ⟨t, known, by simp⟩

theorem Target.language_of_find? {language framework : String} {t : Target}
    (found : find? language framework = some t) : t.language.id = language := by
  have same := List.find?_some found
  rw [Bool.and_eq_true, beq_iff_eq] at same
  exact same.1

/-! ## Programs -/

theorem Settings.isEmpty_indentUnit_iff (s : Settings) :
    s.indentUnit.isEmpty = true ↔ s.indentType = .spaces ∧ s.indentSize = 0 := by
  unfold indentUnit
  cases s.indentType with
  | tabs => simp
  | spaces =>
      rw [String.isEmpty_iff, ← String.toList_inj, Text.times]
      cases s.indentSize <;> simp [List.replicate_succ]

/-- A program can be written in any target, but in Python only with indentation. -/
theorem Target.program_eq_ok_iff (t : Target) (b : Brief) :
    (∃ p, t.program b = .ok p) ↔ ¬ (t.language = .python ∧ b.unit.isEmpty = true) := by
  cases t with
  | python client =>
      rw [program, Python.program]
      cases b.unit.isEmpty <;> simp [language]
  | _ => simp [program, language]

theorem Generated.ofRequest_eq_ok_iff (t : Target) (settings : Settings) (r : Request) :
    (∃ g, ofRequest t settings r = .ok g) ↔
      ¬ (t.language = .python ∧ settings.indentUnit.isEmpty = true) := by
  refine Iff.trans ?_ (t.program_eq_ok_iff (Brief.ofRequest settings r))
  rw [ofRequest, ← Brief.ofRequest]
  cases t.program (Brief.ofRequest settings r) <;> simp

/-! ## Stages of a conversion -/

/-- A text that names the program is not blank. -/
theorem Text.not_isBlank_of_contains {command : String}
    (named : contains "curl" (lower command) = true) : isBlank command = false := by
  obtain ⟨before, after, text⟩ := Chars.hasPart_iff.1 named
  have letter : 'c' ∈ Chars.lower command.toList := by
    simp only [lower, String.toList_ofList] at text
    rw [← text]
    simp
  obtain ⟨c, mem, low⟩ := List.mem_map.1 letter
  rw [← Bool.not_eq_true]
  intro blank
  have here : Chars.isBlank c = true := List.all_eq_true.1 blank c mem
  rw [Chars.toLower_of_isBlank here] at low
  exact absurd here (by rw [low]; decide)

namespace Conversion

theorem validate_eq_ok_iff {command : String} {settings : Settings} :
    validate command settings = .ok () ↔
      Text.contains "curl" (Text.lower command) = true ∧
        (∃ l ∈ Language.all, l.id = settings.language) ∧
        Text.isBlank settings.framework = false := by
  rw [← Language.isSome_ofId?_iff]
  unfold validate
  cases named : Text.contains "curl" (Text.lower command) with
  | false => cases Text.isBlank command <;> simp
  | true =>
      rw [Text.not_isBlank_of_contains named]
      cases Language.ofId? settings.language with
      | none => simp
      | some l => cases Text.isBlank settings.framework <;> simp

theorem target_eq_ok_iff {settings : Settings} {t : Target} :
    target settings = .ok t ↔ Target.find? settings.language settings.framework = some t := by
  unfold target
  cases Target.find? settings.language settings.framework <;> simp

section Generate

variable (settings : Settings) (o : Command.Outcome)

/-- What is generated, or not, keeps the request that was read. -/
theorem generate_request? : (generate settings o).request? = some o.request := by
  unfold generate
  dsimp only
  split
  · rfl
  · split <;> rfl

/-- What was noticed about the command comes first. -/
theorem generate_warnings :
    o.warnings.map Command.Warning.message <+: (generate settings o).warnings := by
  have noticed : (o.warnings.map Notice.command).map Notice.message =
      o.warnings.map Command.Warning.message := by
    rw [List.map_map]
    rfl
  rw [← noticed]
  unfold generate warnings
  dsimp only
  split
  · exact List.prefix_refl _
  · split <;>
    · simp only [List.append_assoc, List.map_append]
      exact List.prefix_append _ _

theorem generate_succeeded_iff :
    (generate settings o).succeeded = true ↔
      ∃ t, Target.find? settings.language settings.framework = some t ∧
        ∃ g, Generated.ofRequest t settings o.request = .ok g := by
  simp only [← target_eq_ok_iff]
  unfold generate
  dsimp only
  cases target settings with
  | error failure => simp [succeeded]
  | ok t =>
      dsimp only
      cases written : Generated.ofRequest t settings o.request <;> simp [succeeded, written]

end Generate

/-- Success, code and failure of a conversion go together. -/
theorem succeeded_iff (c : Conversion) :
    (c.succeeded = true ↔ c.code?.isSome = true) ∧ (c.succeeded = true ↔ c.failure? = none) := by
  obtain ⟨outcome, notices⟩ := c
  cases outcome <;> simp [succeeded, code?, failure?]

theorem read_eq_ok_iff {command : String} {settings : Settings} {o : Command.Outcome} :
    read command settings = .ok o ↔
      validate command settings = .ok () ∧ Command.parse command = .ok o := by
  unfold read
  cases validate command settings <;> simp

end Conversion

section Stages

variable {command : String} {settings : Settings}

theorem convert_of_read {o : Command.Outcome} (h : Conversion.read command settings = .ok o) :
    convert command settings = Conversion.generate settings o := by
  rw [convert, h]

theorem convert_of_error {failure : Failure}
    (h : Conversion.read command settings = .error failure) :
    convert command settings = ⟨.notRead failure, []⟩ := by
  rw [convert, h]

theorem convert_succeeded_iff_generate :
    (convert command settings).succeeded = true ↔
      ∃ o, Conversion.read command settings = .ok o ∧
        (Conversion.generate settings o).succeeded = true := by
  cases read : Conversion.read command settings with
  | error failure => simp [convert_of_error read, Conversion.succeeded]
  | ok o => simp [convert_of_read read]

/-- What is refused or cannot be read is not converted. -/
theorem exists_read_error {failure : Failure}
    (h : Conversion.validate command settings = .error failure ∨
      Command.parse command = .error failure) :
    ∃ failure', Conversion.read command settings = .error failure' := by
  cases read : Conversion.read command settings with
  | error failure' => exact ⟨failure', rfl⟩
  | ok o =>
      obtain ⟨valid, parsed⟩ := Conversion.read_eq_ok_iff.1 read
      rw [valid, parsed] at h
      exact absurd h (by simp)

/-- The exact condition of success. -/
theorem convert_succeeded_iff :
    (convert command settings).succeeded = true ↔
      Text.contains "curl" (Text.lower command) = true ∧
      (∃ o, Command.parse command = .ok o) ∧
      (∃ l ∈ Language.all, l.id = settings.language ∧ settings.framework ∈ l.frameworks) ∧
      ¬ (settings.language = "python" ∧ settings.indentType = .spaces ∧
        settings.indentSize = 0) := by
  rw [convert_succeeded_iff_generate]
  simp only [Conversion.read_eq_ok_iff, Conversion.validate_eq_ok_iff,
    Conversion.generate_succeeded_iff, Generated.ofRequest_eq_ok_iff,
    Settings.isEmpty_indentUnit_iff]
  constructor
  · rintro ⟨o, ⟨⟨named, -⟩, parsed⟩, t, found, indented⟩
    refine ⟨named, ⟨o, parsed⟩, Target.find?_eq_some_iff.1 ⟨t, found⟩, ?_⟩
    rintro ⟨python, bare⟩
    have own : t.language.id = "python" := (Target.language_of_find? found).trans python
    exact indented ⟨Language.eq_python_of_id own, bare⟩
  · rintro ⟨named, ⟨o, parsed⟩, ⟨l, known, id, listed⟩, indented⟩
    obtain ⟨t, found⟩ := Target.find?_eq_some_iff.2 ⟨l, known, id, listed⟩
    have written := Language.not_isBlank_of_mem_frameworks listed
    refine ⟨o, ⟨⟨named, ⟨l, known, id⟩, written⟩, parsed⟩, t, found, ?_⟩
    rintro ⟨python, bare⟩
    have own := Target.language_of_find? found
    rw [python] at own
    exact indented ⟨own.symm, bare⟩

/-- A request that a result carries is the one that was read, and its warnings come first. -/
theorem exists_parse_of_request? {r : Request}
    (kept : (convert command settings).request? = some r) :
    ∃ o, Command.parse command = .ok o ∧ o.request = r ∧
      o.warnings.map Command.Warning.message <+: (convert command settings).warnings := by
  cases read : Conversion.read command settings with
  | error failure =>
      rw [convert_of_error read] at kept
      exact absurd kept (by simp [Conversion.request?])
  | ok o =>
      rw [convert_of_read read] at kept ⊢
      rw [Conversion.generate_request?] at kept
      exact ⟨o, (Conversion.read_eq_ok_iff.1 read).2, Option.some.inj kept,
        Conversion.generate_warnings settings o⟩

end Stages

/--
A conversion succeeds just if the command names the program, can be read, and is to be written in
a framework of a language, and not in Python without indentation.  With success comes code, and
without it a failure.  A command that is refused or cannot be read leaves neither a request nor
warnings; of any other the request is kept, and what was noticed about it comes first.
-/
theorem convert_succeeded (command : String) (settings : Settings) :
    let c := convert command settings
    (c.succeeded = true ↔
      Text.contains "curl" (Text.lower command) = true ∧
      (∃ o, Command.parse command = .ok o) ∧
      (∃ l ∈ Language.all, l.id = settings.language ∧ settings.framework ∈ l.frameworks) ∧
      ¬ (settings.language = "python" ∧ settings.indentType = .spaces ∧
        settings.indentSize = 0)) ∧
    (c.succeeded = true ↔ c.code?.isSome = true) ∧
    (c.succeeded = true ↔ c.failure? = none) ∧
    (∀ failure, Conversion.validate command settings = .error failure ∨
      Command.parse command = .error failure → c.request? = none ∧ c.warnings = []) ∧
    (Conversion.validate command settings = .ok () →
      ∀ o, Command.parse command = .ok o → c.request? = some o.request) ∧
    (∀ r, c.request? = some r → ∃ o, Command.parse command = .ok o ∧ o.request = r ∧
      o.warnings.map Command.Warning.message <+: c.warnings) := by
  intro c
  obtain ⟨code, failed⟩ := c.succeeded_iff
  refine ⟨convert_succeeded_iff, code, failed, ?_, ?_, fun _ kept => exists_parse_of_request? kept⟩
  · intro failure refused
    obtain ⟨failure', read⟩ := exists_read_error refused
    rw [show c = _ from convert_of_error read]
    exact ⟨rfl, rfl⟩
  · intro valid o parsed
    rw [show c = _ from convert_of_read (Conversion.read_eq_ok_iff.2 ⟨valid, parsed⟩)]
    exact Conversion.generate_request? settings o

end RequestScribe
