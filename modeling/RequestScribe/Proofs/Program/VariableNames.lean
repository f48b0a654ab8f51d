import RequestScribe.Program.Generated
import RequestScribe.Proofs.Program.CommandBrief
import RequestScribe.Proofs.Program.HeaderStep

/-!
# Names of environment variables

A program can read a variable, and a shell can assign one, if its name is a word of letters,
digits and underscores that does not begin with a digit.  The names for credentials are such
words.  What a header gives its variable is one unless the header itself begins with a digit,
and a number that keeps two names apart changes nothing about that.
-/

namespace RequestScribe

namespace EnvVars

def isInitial (c : Char) : Bool :=
  Chars.isLetter c || c == '_'

theorem isInitial_iff {c : Char} :
    isInitial c = true ↔
      (0x61 ≤ c.toNat ∧ c.toNat ≤ 0x7A) ∨ (0x41 ≤ c.toNat ∧ c.toNat ≤ 0x5A) ∨ c.toNat = 0x5F := by
  have underscore : c = '_' ↔ c.toNat = 0x5F := by
    rw [← Char.toNat_inj]
    rfl
  rw [isInitial, Bool.or_eq_true, Chars.isLetter_iff, beq_iff_eq, underscore]
  exact or_assoc

def isNameCharacter (c : Char) : Bool :=
  isInitial c || Chars.isDigit c

/-- Whether a program and a shell take a text for the name of a variable. -/
def isVariable (name : String) : Bool :=
  match name.toList with
  | [] => false
  | c :: rest => isInitial c && rest.all isNameCharacter

theorem isVariable_append {name : String} (some : name ≠ "") {added : String}
    (proper : added.toList.all isNameCharacter = true) :
    isVariable (name ++ added) = isVariable name := by
  unfold isVariable
  rw [String.toList_append]
  cases letters : name.toList with
  | nil => exact absurd (String.toList_inj.1 letters) some
  | cons c rest => simp [proper]

/-- A number behind a name changes nothing about it. -/
theorem isVariable_fresh {wished : String} (some : wished ≠ "") (taken : List String) :
    isVariable (Fresh.name taken wished (Fresh.underscored wished)) = isVariable wished := by
  have numbered (n : Nat) : isVariable (Fresh.underscored wished n) = isVariable wished := by
    rw [Fresh.underscored, String.append_assoc]
    refine isVariable_append some ?_
    rw [String.toList_append, List.all_append, Bool.and_eq_true]
    refine ⟨by decide, List.all_eq_true.2 fun c mem => ?_⟩
    rw [Nat.toString_eq_repr, Nat.toList_repr] at mem
    have digit : Chars.isDigit c = true :=
      Nat.isDigit_of_mem_toDigits (by decide) (by decide) mem
    rw [isNameCharacter, digit, Bool.or_true]
  unfold Fresh.name
  split
  · cases found : (Fresh.variants (Fresh.underscored wished) taken.length).find?
      fun candidate => !taken.contains candidate with
    | none => rfl
    | some chosen =>
        obtain ⟨i, -, rfl⟩ := List.mem_map.1 (List.mem_of_find?_eq_some found)
        exact numbered (i + 2)
  · rfl

/-- Of the characters of a header only a digit gives one that no name begins with. -/
theorem isInitial_envCharacter (c : Char) :
    isInitial (if Chars.isAlphanumeric c then c.toUpper else '_') = !Chars.isDigit c := by
  split
  · next letter =>
      rw [Chars.isAlphanumeric_iff] at letter
      rw [Bool.eq_iff_iff, isInitial_iff, Bool.not_eq_true', ← Bool.not_eq_true,
        Chars.isDigit_iff]
      rcases Chars.toUpper_cases c with ⟨low, high, moved⟩ | ⟨other, same⟩
      · omega
      · rw [same]
        omega
  · next other =>
      have digit : Chars.isDigit c = false := by
        rw [Chars.isAlphanumeric, Bool.or_eq_true, not_or] at other
        exact Bool.not_eq_true _ ▸ other.2
      rw [digit]
      decide

theorem isNameCharacter_envCharacter (c : Char) :
    isNameCharacter (if Chars.isAlphanumeric c then c.toUpper else '_') = true := by
  split
  · next letter =>
      have kept := Chars.isAlphanumeric_toUpper letter
      rw [Chars.isAlphanumeric, Bool.or_eq_true] at kept
      rcases kept with letter | digit
      · simp [isNameCharacter, isInitial, letter]
      · simp [isNameCharacter, digit]
  · decide

def beginsWithDigit (text : String) : Bool :=
  text.toList.head?.any Chars.isDigit

theorem isVariable_envName {header : String} (some : header ≠ "") :
    isVariable (envName header) = !beginsWithDigit header := by
  unfold isVariable beginsWithDigit
  rw [envName, String.toList_ofList]
  cases letters : header.toList with
  | nil => exact absurd (String.toList_inj.1 letters) some
  | cons c rest =>
      have proper : (rest.map fun d => if Chars.isAlphanumeric d then d.toUpper else '_').all
          isNameCharacter = true := by
        rw [List.all_map, List.all_eq_true]
        exact fun d _ => isNameCharacter_envCharacter d
      rw [List.map_cons]
      dsimp only
      rw [isInitial_envCharacter, proper, Bool.and_true]
      rfl

/-! ## The variables of a request -/

/-- Whether all variables have names that can be read and assigned. -/
def AreNamed (vars : EnvVars) : Prop :=
  ∀ var ∈ vars.map Prod.fst, isVariable var = true

theorem areNamed_secret_iff {vars : EnvVars} {extract : Bool} {wished : String}
    (some : wished ≠ "") (value lead : String) :
    (secret extract vars wished value lead).2.AreNamed ↔
      vars.AreNamed ∧ (extract = true → isVariable wished = true) := by
  cases extract with
  | true =>
      simp [secret, AreNamed, isVariable_fresh some, or_imp, forall_and]
  | false => simp [secret]

end EnvVars

namespace Extraction

open EnvVars

theorem areNamed_credentials (extract : Bool) (r : Request) :
    (credentials extract r).envVars.AreNamed := by
  have none : EnvVars.AreNamed [] := by simp [AreNamed]
  have one {vars : EnvVars} (named : vars.AreNamed) {wished : String}
      (proper : isVariable wished = true) (value lead : String) :
      (secret extract vars wished value lead).2.AreNamed := by
    refine (areNamed_secret_iff ?_ value lead).2 ⟨named, fun _ => proper⟩
    rintro rfl
    exact absurd proper (by decide)
  unfold credentials
  split
  · exact one (one none (by decide) _ "") (by decide) _ ""
  · exact one none (by decide) _ _
  · exact one none (by decide) _ _
  · exact none
  · exact none

theorem isLeftOut_of_isSecretHeader {name : String} (secret : isSecretHeader name = true)
    (r : Request) : isLeftOut r (Text.lower name) = false := by
  refine isLeftOut_of_ne (fun length => ?_) fun type => ?_
  · rw [isSecretHeader, length] at secret
    exact absurd secret (by decide)
  · rw [isSecretHeader, type] at secret
    exact absurd secret (by decide)

theorem ne_authorization_of_isSecretHeader {name : String} (secret : isSecretHeader name = true) :
    Text.lower name ≠ "authorization" := by
  intro auth
  rw [isSecretHeader, auth] at secret
  exact absurd secret (by decide)

/-- A header adds a variable without a proper name only if it begins with a digit. -/
theorem Pass.areNamed_step_iff {extract : Bool} {r : Request} {p : Pass}
    (header : String × String) :
    (p.step extract r header).envVars.AreNamed ↔
      p.envVars.AreNamed ∧ (extract = true → isSecretHeader header.1 = true →
        beginsWithDigit header.1 = false) := by
  obtain ⟨name, value⟩ := header
  cases secret : isSecretHeader name with
  | true =>
      have some := ne_empty_of_isSecretHeader secret
      rw [Pass.step_of_secret (isLeftOut_of_isSecretHeader secret r)
        (ne_authorization_of_isSecretHeader secret) secret,
        areNamed_secret_iff (isName_envName some).nonempty, isVariable_envName some, Bool.not_eq_true']
      simp
  | false =>
      have same : (p.step extract r (name, value)).envVars = p.envVars := by
        unfold Pass.step
        dsimp only
        split
        · rfl
        · split
          · split
            · rfl
            · split <;> rfl
          · rw [secret]
            rfl
      rw [same]
      simp

theorem Pass.areNamed_foldl_step_iff {extract : Bool} {r : Request} (headers : Headers) (p : Pass) :
    (headers.foldl (Pass.step extract r) p).envVars.AreNamed ↔
      p.envVars.AreNamed ∧ (extract = true → ∀ header ∈ headers, isSecretHeader header.1 = true →
        beginsWithDigit header.1 = false) := by
  induction headers generalizing p with
  | nil => simp
  | cons header rest ih =>
      rw [List.foldl_cons, ih, areNamed_step_iff, List.forall_mem_cons, imp_and, and_assoc]

theorem areNamed_ofRequest_iff (extract : Bool) (r : Request) :
    (ofRequest extract r).envVars.AreNamed ↔
      (extract = true → ∀ header ∈ r.headers, isSecretHeader header.1 = true →
        beginsWithDigit header.1 = false) :=
  (Pass.areNamed_foldl_step_iff r.headers _).trans
    (and_iff_right (areNamed_credentials extract r))

end Extraction

namespace Generated

/--
The variables of a program have names that it can read and a shell can assign, unless secrets are
extracted and a header with one begins with a digit.
-/
theorem ofRequest_envVars_iff (t : Target) {settings : Settings} {r : Request} {g : Generated}
    (generated : ofRequest t settings r = .ok g) :
    (∀ var ∈ g.envVars.map Prod.fst, EnvVars.isVariable var = true) ↔
      (settings.extractEnvVars = true → ∀ header ∈ r.headers,
        Extraction.isSecretHeader header.1 = true → EnvVars.beginsWithDigit header.1 = false) := by
  have extracted : g.envVars = (Brief.extraction settings r).envVars := by
    unfold ofRequest at generated
    dsimp only at generated
    split at generated
    · obtain rfl := Except.ok.inj generated
      rfl
    · exact absurd generated (by simp)
  rw [extracted]
  exact Extraction.areNamed_ofRequest_iff settings.extractEnvVars r

/-- A token and two keys whose headers differ by a character that no name has. -/
theorem ofRequest_envVars_iff_keys :
    let r : Request :=
      { method := .get
        url := "https://x.test"
        headers := [("Authorization", "Bearer t"), ("X-Key", "1"), ("X.Key", "2")]
        body? := none
        rawBody? := none
        authorization? := some (.bearer "t")
        cookies := []
        files := []
        query := []
        transport := {} }
    ∃ g, ofRequest (.javaScript .fetch) {} r = .ok g ∧
      ∀ var ∈ g.envVars.map Prod.fst, EnvVars.isVariable var = true := by
  intro r
  refine ⟨_, rfl, (ofRequest_envVars_iff (.javaScript .fetch) (r := r) rfl).2 fun _ => ?_⟩
  decide

/-- A header that begins with a digit gives its variable a name that is none. -/
theorem ofRequest_envVars_digit :
    let words := ["-H", "2fa-token: x", "https://x.test"]
    ∃ outcome g, Command.ofWords words = .ok outcome ∧
      ofRequest (.javaScript .fetch) {} outcome.request = .ok g ∧
      g.envVars = [("2FA_TOKEN", "x")] ∧ EnvVars.isVariable "2FA_TOKEN" = false := by
  intro words
  let r : Request :=
    { method := .get
      url := "https://x.test"
      headers := [("2fa-token", "x")]
      body? := none
      rawBody? := none
      authorization? := none
      cookies := []
      files := []
      query := []
      transport := { userAgent? := some "curl/8.5.0" } }
  have parsed : Command.ofWords words = .ok ⟨r, []⟩ := by decide +kernel
  exact ⟨_, _, parsed, rfl, by decide, by decide⟩

end Generated

end RequestScribe
