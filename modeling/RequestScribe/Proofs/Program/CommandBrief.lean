import RequestScribe.Command.Parse
import RequestScribe.Proofs.Capture.Form
import RequestScribe.Proofs.Code.Masked
import RequestScribe.Proofs.Program.WrittenOut
import RequestScribe.Proofs.Shape.TypeNames

/-!
# Briefs of commands

The brief of a request that a command describes is consistent: the environment
variables in it have proper names and are those that its fragments read, and if
there are uploads, then the body refers to one of them.
-/

namespace RequestScribe

open Lexis

/-! ## Names of variables -/

theorem Lexis.isNameCharacter_of_isAlphanumeric {c : Char} (h : Chars.isAlphanumeric c = true) :
    isNameCharacter c = true := by
  simp [isNameCharacter, h]

namespace Fresh

theorem isName_toString (n : Nat) : IsName (toString n) := by
  have digits : (toString n).toList = Nat.toDigits 10 n := by
    rw [Nat.toString_eq_repr, Nat.toList_repr]
  refine ⟨fun empty => ?_, fun c mem => ?_⟩
  · have none : (toString n).toList = [] := by rw [empty]; rfl
    exact Nat.toDigits_ne_nil (digits.symm.trans none)
  · rw [digits] at mem
    have digit := Nat.isDigit_of_mem_toDigits (by decide) (by decide) mem
    exact isNameCharacter_of_isAlphanumeric (Chars.isAlphanumeric_of_isDigit digit)

theorem isName_underscored {wished : String} (h : IsName wished) (taken : List String) :
    IsName (name taken wished (underscored wished)) := by
  have numbered (n : Nat) : IsName (underscored wished n) := by
    refine ⟨?_, fun c mem => ?_⟩
    · simp [underscored, h.nonempty]
    · simp only [underscored, String.toList_append, List.mem_append] at mem
      rcases mem with (mem | mem) | mem
      · exact h.letters c mem
      · obtain rfl : c = '_' := by simpa using mem
        decide
      · exact (isName_toString n).letters c mem
  unfold name
  split
  · cases found : (variants (underscored wished) taken.length).find?
      fun candidate => !taken.contains candidate with
    | none => exact h
    | some chosen =>
        obtain ⟨i, -, rfl⟩ := List.mem_map.1 (List.mem_of_find?_eq_some found)
        exact numbered (i + 2)
  · exact h

end Fresh

theorem isName_envName {header : String} (some : header ≠ "") : IsName (envName header) := by
  have text : (envName header).toList =
      header.toList.map fun c => if Chars.isAlphanumeric c then c.toUpper else '_' := by
    rw [envName, String.toList_ofList]
  refine ⟨fun empty => ?_, fun c mem => ?_⟩
  · have none : (envName header).toList = [] := by rw [empty]; rfl
    rw [text] at none
    exact some (by simpa using none)
  · rw [text] at mem
    obtain ⟨d, -, rfl⟩ := List.mem_map.1 mem
    split
    · next letter =>
        exact isNameCharacter_of_isAlphanumeric (Chars.isAlphanumeric_toUpper letter)
    · rfl

namespace EnvVars

def IsNamed (vars : EnvVars) : Prop :=
  ∀ var ∈ vars.map Prod.fst, IsName var

theorem IsNamed.secret {vars : EnvVars} (h : vars.IsNamed) (extract : Bool) {wished : String}
    (proper : IsName wished) (value lead : String) :
    (secret extract vars wished value lead).2.IsNamed := by
  unfold EnvVars.secret
  split
  · intro var mem
    rw [List.map_append, List.mem_append] at mem
    rcases mem with mem | mem
    · exact h var mem
    · obtain rfl := List.mem_singleton.1 mem
      exact Fresh.isName_underscored proper _
  · exact h

end EnvVars

namespace Extraction

theorem isNamed_credentials (extract : Bool) (r : Request) :
    (credentials extract r).envVars.IsNamed := by
  have none : EnvVars.IsNamed [] := by simp [EnvVars.IsNamed]
  unfold credentials
  split
  · exact (none.secret extract (isName_of_all (by decide) (by decide)) _ "").secret extract
      (isName_of_all (by decide) (by decide)) _ ""
  · exact none.secret extract (isName_of_all (by decide) (by decide)) _ _
  · exact none.secret extract (isName_of_all (by decide) (by decide)) _ _
  · exact none
  · exact none

/-- A header with a secret has a name. -/
theorem ne_empty_of_isSecretHeader {name : String} (secret : isSecretHeader name = true) :
    name ≠ "" := by
  rintro rfl
  exact absurd secret (by decide)

theorem Pass.isNamed_step {extract : Bool} {r : Request} {p : Pass} (h : p.envVars.IsNamed)
    (header : String × String) : (p.step extract r header).envVars.IsNamed := by
  obtain ⟨name, value⟩ := header
  unfold Pass.step
  dsimp only
  split
  · exact h
  · split
    · split
      · exact h
      · split
        · exact h
        · exact h
    · split
      · next secret =>
          exact h.secret extract (isName_envName (ne_empty_of_isSecretHeader secret)) value ""
      · exact h

theorem isNamed_ofRequest (extract : Bool) (r : Request) :
    (ofRequest extract r).envVars.IsNamed := by
  have run (headers : Headers) (p : Pass) (h : p.envVars.IsNamed) :
      (headers.foldl (Pass.step extract r) p).envVars.IsNamed := by
    induction headers generalizing p with
    | nil => exact h
    | cons header rest ih => exact ih _ (Pass.isNamed_step h header)
  exact run r.headers _ (isNamed_credentials extract r)

/-- The variables are those that the fragments read. -/
theorem mem_envVars_iff (extract : Bool) (r : Request) (var : String) :
    var ∈ (ofRequest extract r).envVars.map Prod.fst ↔
      ∃ f ∈ (ofRequest extract r).fragments, f.var? = some var := by
  have mirrors := mirrors_ofRequest r
  cases extract with
  | true =>
      rw [← mirrors.used.used.mem_iff, List.mem_filterMap]
      rfl
  | false =>
      have none : (ofRequest false r).envVars = [] := mirrors.noVars
      have literal : ∀ f ∈ (ofRequest false r).fragments, ∃ text, f = .literal text :=
        literal_of_mem_fragments mirrors.basicAuth mirrors.headers
      rw [none]
      refine ⟨fun mem => absurd mem List.not_mem_nil, ?_⟩
      rintro ⟨f, mem, reads⟩
      obtain ⟨text, rfl⟩ := literal f mem
      exact absurd reads (by simp [Fragment.var?])

end Extraction

/-! ## Uploads -/

namespace Command

/-- If there are uploads, then a form field refers to one. -/
theorem exists_file_of_ofWords {words : List String} {outcome : Outcome}
    (parsed : ofWords words = .ok outcome) (some : outcome.request.files ≠ []) :
    ∃ fields index upload, outcome.request.body? = .some (.multipart fields) ∧
      .file index ∈ fields ∧ outcome.request.files[index]? = .some upload := by
  rw [Draft.files_of_finish parsed, ne_eq, List.reverse_eq_nil_iff] at some
  obtain ⟨index, upload, mem, found⟩ := (Draft.isOf_form_ofItems (Item.ofWords words)).exists_file some
  have body := Draft.body?_of_form parsed (List.ne_nil_of_mem (List.mem_reverse.1 mem))
  exact ⟨_, index, upload, body, mem, by rw [Draft.files_of_finish parsed]; exact found⟩

end Command

namespace Brief

/-- All values that are written into a program or read by it. -/
def fragments (b : Brief) : List Fragment :=
  (b.basicAuth?.map fun (user, password) => [user, password]).getD [] ++ b.headers.map Prod.snd

/-- A brief that is consistent. -/
structure IsSound (b : Brief) : Prop where
  named : ∀ var ∈ b.envNames, IsName var
  used : ∀ var, var ∈ b.envNames ↔ ∃ f ∈ b.fragments, f.var? = some var
  uploads : b.files ≠ [] → ∃ fields index upload, b.body? = some (.multipart fields) ∧
    .file index ∈ fields ∧ b.upload? index = some upload

theorem isSound_ofRequest {command : String} {outcome : Command.Outcome}
    (parsed : Command.parse command = .ok outcome) (settings : Settings) :
    (ofRequest settings outcome.request).IsSound where
  named := Extraction.isNamed_ofRequest settings.extractEnvVars outcome.request
  used := Extraction.mem_envVars_iff settings.extractEnvVars outcome.request
  uploads some := by
    unfold Command.parse at parsed
    split at parsed
    · exact Command.exists_file_of_ofWords parsed some
    · cases parsed

def isUpload (b : Brief) : MultipartField → Bool
  | .text .. => false
  | .file index => (b.upload? index).isSome

def sendsFiles (b : Brief) : Bool :=
  !b.files.isEmpty || b.bodyFile?.isSome

variable {b : Brief}

theorem IsSound.files_eq_nil (sound : b.IsSound) (other : b.isMultipart = false) :
    b.files = [] := by
  by_contra some
  obtain ⟨fields, -, -, given, -⟩ := sound.uploads some
  simp [isMultipart, given] at other

theorem IsSound.exists_isUpload_iff (sound : b.IsSound) {fields : List MultipartField}
    (given : b.body? = some (.multipart fields)) :
    (∃ field ∈ fields, b.isUpload field = true) ↔ b.files ≠ [] := by
  constructor
  · rintro ⟨field, -, found⟩ empty
    cases field <;> simp [isUpload, upload?, empty] at found
  · intro some
    obtain ⟨fields', index, upload, same, mem, found⟩ := sound.uploads some
    obtain rfl : fields = fields' := by
      rw [given] at same
      injection same with same
      injection same
    exact ⟨_, mem, by simp [isUpload, found]⟩

end Brief

end RequestScribe
