import RequestScribe.CommandLine.Arguments
import RequestScribe.Proofs.Conversion.Success
import RequestScribe.Settings.Configuration

/-!
# The target of a command line

Three sources choose the target one after the other: the usual settings, a
configuration and the arguments.  Each may give a language without a framework,
and then the framework of the source before it stays, unless the arguments
bring the usual one along.
-/

namespace RequestScribe

/-! ## What assignments leave alone -/

namespace Settings

/-- Whether none of some assignments gives a certain setting. -/
def Spares (settings : List Setting) (name : SettingName) : Prop :=
  ∀ x ∈ settings, x.name ≠ name

variable {settings : List Setting} {name : SettingName}

theorem Spares.nil : Spares [] name :=
  nofun

theorem Spares.cons {x : Setting} (other : x.name ≠ name) (rest : Spares settings name) :
    Spares (x :: settings) name := by
  intro y given
  rcases List.mem_cons.1 given with rfl | later
  · exact other
  · exact rest y later

theorem Spares.ofOption {α : Type} {given? : Option α} {f : α → Setting}
    (other : ∀ v, (f v).name ≠ name) : Spares (given?.map f).toList name := by
  intro y given
  obtain ⟨v, -, rfl⟩ : ∃ v, given? = some v ∧ f v = y := by simpa using given
  exact other v

theorem Spares.append {more : List Setting} (first : Spares settings name)
    (second : Spares more name) : Spares (settings ++ more) name := by
  intro x given
  exact (List.mem_append.1 given).elim (first x) (second x)

theorem Spares.tail {x : Setting} (spared : Spares (x :: settings) name) :
    Spares settings name :=
  fun y given => spared y (List.mem_cons_of_mem x given)

theorem framework_assign {s : Settings} {x : Setting} (other : x.name ≠ .framework) :
    (s.assign x).framework = s.framework := by
  cases x with
  | framework => exact absurd rfl other
  | _ => rfl

theorem language_assign {s : Settings} {x : Setting} (other : x.name ≠ .language) :
    (s.assign x).language = s.language := by
  cases x with
  | language => exact absurd rfl other
  | _ => rfl

theorem framework_assignAll {s : Settings} (spared : Spares settings .framework) :
    (s.assignAll settings).framework = s.framework := by
  induction settings generalizing s with
  | nil => rfl
  | cons x rest ih =>
      have first := framework_assign (s := s) (spared x List.mem_cons_self)
      exact (ih spared.tail).trans first

theorem language_assignAll {s : Settings} (spared : Spares settings .language) :
    (s.assignAll settings).language = s.language := by
  induction settings generalizing s with
  | nil => rfl
  | cons x rest ih =>
      have first := language_assign (s := s) (spared x List.mem_cons_self)
      exact (ih spared.tail).trans first

theorem assignAll_append {s : Settings} {first second : List Setting} :
    s.assignAll (first ++ second) = (s.assignAll first).assignAll second :=
  List.foldl_append

end Settings

/-! ## Configurations -/

namespace Configuration

/-- Whether a configuration that can be read gives a framework. -/
def NamesFramework (text? : Option String) : Prop :=
  ∃ text ∈ text?, ∃ settings ∈ read? text, ∃ name, Setting.framework name ∈ settings

/-- Without a framework of its own, a configuration leaves the usual one. -/
theorem framework_of_load {text? : Option String} {base : Settings}
    (loaded : load text? = .ok base) (unnamed : ¬NamesFramework text?) :
    base.framework = "fetch" := by
  cases text? with
  | none =>
      cases loaded
      rfl
  | some text =>
      cases given : read? text with
      | none => simp [load, given] at loaded
      | some settings =>
          obtain rfl : Settings.assignAll {} settings = base := by
            simpa [load, given] using loaded
          have spared : Settings.Spares settings .framework := by
            intro x hx named
            cases x with
            | framework name => exact unnamed ⟨text, rfl, settings, given, name, hx⟩
            | _ => nomatch named
          exact Settings.framework_assignAll spared

end Configuration

/-! ## Arguments -/

namespace Language

theorem ofId?_id (l : Language) : ofId? l.id = some l := by
  cases l <;> rfl

theorem eq_id_of_ofId? {s : String} {l : Language} (known : ofId? s = some l) : s = l.id := by
  have same := List.find?_some known
  exact (beq_iff_eq.1 same).symm

/-- The framework of the usual settings is one for scripts only. -/
theorem fetch_mem_frameworks_iff (l : Language) :
    "fetch" ∈ l.frameworks ↔ l = .javaScript ∨ l = .typeScript := by
  cases l <;> decide

end Language

namespace CommandLine.Arguments

variable {a : Arguments} {base : Settings}

/-- A language brings one of its frameworks along. -/
theorem usualFramework_mem (l : Language) : usualFramework l.id ∈ l.frameworks := by
  rw [usualFramework, Language.ofId?_id]
  cases l <;> decide

theorem spares_switchSetting {s : Switch} {name : SettingName} (x : Setting)
    (other : x.name ≠ name) : Settings.Spares (a.switchSetting s x) name := by
  intro y given
  obtain ⟨-, rfl⟩ : a.has s = true ∧ y = x := by simpa [switchSetting] using given
  exact other

/-- The other settings say nothing about the target. -/
theorem spares_otherSettings {name : SettingName}
    (target : name = .language ∨ name = .framework) :
    Settings.Spares a.otherSettings name := by
  have apart : ∀ n : SettingName, n ≠ .language → n ≠ .framework → n ≠ name := by
    intro n notLanguage notFramework
    rcases target with rfl | rfl
    · exact notLanguage
    · exact notFramework
  have level : Settings.Spares (a.errorHandling?.map Setting.errorHandling).toList name :=
    .ofOption fun _ => apart .errorHandling nofun nofun
  have repeated : Settings.Spares
      ((a.retry?.map fun n => [Setting.retryLogic true, .retryAttempts n]).getD []) name := by
    cases a.retry? with
    | none => exact Settings.Spares.nil
    | some n =>
        exact .cons (apart .retryLogic nofun nofun)
          (.cons (apart .retryAttempts nofun nofun) .nil)
  have indented : Settings.Spares
      ((a.indent?.map fun n => [Setting.indentSize n, .indentType .spaces]).getD []) name := by
    cases a.indent? with
    | none => exact Settings.Spares.nil
    | some n =>
        exact .cons (apart .indentSize nofun nofun) (.cons (apart .indentType nofun nofun) .nil)
  have timed : Settings.Spares (a.timeout?.map fun ms => Setting.timeout (some ms)).toList name :=
    .ofOption fun _ => apart .timeout nofun nofun
  exact level
    |>.append (spares_switchSetting (.awaiting false) (apart .awaiting nofun nofun))
    |>.append (spares_switchSetting (.extractEnvVars false) (apart .extractEnvVars nofun nofun))
    |>.append (spares_switchSetting (.includeTypes false) (apart .includeTypes nofun nofun))
    |>.append (spares_switchSetting (.includeComments false) (apart .includeComments nofun nofun))
    |>.append repeated
    |>.append indented
    |>.append (spares_switchSetting (.indentType .tabs) (apart .indentType nofun nofun))
    |>.append timed
    |>.append (spares_switchSetting (.includeTests true) (apart .includeTests nofun nofun))

/-- Language and framework are settled by the target settings alone. -/
theorem target_settings :
    (a.settings base).language = (base.assignAll (a.targetSettings base)).language ∧
      (a.settings base).framework = (base.assignAll (a.targetSettings base)).framework := by
  rw [settings, Settings.assignAll_append]
  exact ⟨Settings.language_assignAll (spares_otherSettings (.inl rfl)),
    Settings.framework_assignAll (spares_otherSettings (.inr rfl))⟩

/-- Arguments that keep the language of the settings below them, or give none. -/
theorem framework_settings_of_same (unnamed : a.framework? = none)
    (same : ∀ id ∈ a.language?, id = base.language) :
    (a.settings base).language = base.language ∧
      (a.settings base).framework = base.framework := by
  rw [target_settings.1, target_settings.2]
  cases chosen : a.language? with
  | none => simp [targetSettings, unnamed, chosen, Settings.assignAll]
  | some id =>
      obtain rfl := same id chosen
      simp [targetSettings, unnamed, chosen, Settings.assignAll, Settings.assign]

/-- Arguments that change the language bring its usual framework along. -/
theorem framework_settings_of_changed {id : String} (unnamed : a.framework? = none)
    (chosen : a.language? = some id) (changed : id ≠ base.language) :
    (a.settings base).language = id ∧ (a.settings base).framework = usualFramework id := by
  rw [target_settings.1, target_settings.2]
  simp [targetSettings, unnamed, chosen, changed, Settings.assignAll, Settings.assign]

/--
When a target that is chosen by its language alone can be used: the framework
that stays is one of the language of scripts, so the language has to be one of
these, or to come from the arguments as another one than is configured.
-/
theorem framework_settings_mem_iff {text? : Option String} {l : Language}
    (loaded : Configuration.load text? = .ok base)
    (unconfigured : ¬Configuration.NamesFramework text?) (unnamed : a.framework? = none)
    (effective : Language.ofId? (a.settings base).language = some l) :
    (a.settings base).framework ∈ l.frameworks ↔
      l = .javaScript ∨ l = .typeScript ∨ ∃ id ∈ a.language?, id ≠ base.language := by
  have known := Language.eq_id_of_ofId? effective
  by_cases changed : ∃ id ∈ a.language?, id ≠ base.language
  · obtain ⟨id, chosen, other⟩ := changed
    obtain ⟨language, framework⟩ := framework_settings_of_changed unnamed chosen other
    have usual : (a.settings base).framework ∈ l.frameworks := by
      rw [framework, ← language, known]
      exact usualFramework_mem l
    exact iff_of_true usual (.inr (.inr ⟨id, chosen, other⟩))
  · have same : ∀ id ∈ a.language?, id = base.language := by
      intro id chosen
      exact Classical.byContradiction fun other => changed ⟨id, chosen, other⟩
    have kept := (framework_settings_of_same unnamed same).2
    rw [kept, Configuration.framework_of_load loaded unconfigured,
      Language.fetch_mem_frameworks_iff]
    simp only [changed, or_false]

/-- Another language than the usual one, given by the arguments. -/
theorem framework_settings_mem_go :
    Configuration.load none = .ok {} ∧
      Language.ofId? (Arguments.settings { language? := some "go" } {}).language = some .go ∧
      (Arguments.settings { language? := some "go" } {}).framework ∈ Language.go.frameworks := by
  have unconfigured : ¬Configuration.NamesFramework none := fun ⟨_, given, _⟩ => nomatch given
  exact ⟨rfl, rfl, (framework_settings_mem_iff rfl unconfigured rfl rfl).2
    (.inr (.inr ⟨"go", rfl, by decide⟩))⟩

/-- A configuration that gives a language by itself keeps the usual framework, one for scripts. -/
theorem framework_settings_configured :
    ∃ base, Configuration.load (some "[defaults]\nlanguage = \"python\"\n") = .ok base ∧
      ¬Configuration.NamesFramework (some "[defaults]\nlanguage = \"python\"\n") ∧
      Language.ofId? (Arguments.settings {} base).language = some .python ∧
      (Arguments.settings {} base).framework ∉ Language.python.frameworks := by
  have read : Configuration.read? "[defaults]\nlanguage = \"python\"\n" =
      some [.language "python"] := by decide +kernel
  refine ⟨{ language := "python" }, ?_, ?_, by decide, by decide⟩
  · simp [Configuration.load, read, Settings.assignAll, Settings.assign]
  · rintro ⟨text, given, settings, own, name, named⟩
    cases given
    cases read.symm.trans own
    simp at named

end CommandLine.Arguments

end RequestScribe
