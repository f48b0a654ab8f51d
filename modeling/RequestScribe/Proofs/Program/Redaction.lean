import RequestScribe.Program.Generated
import RequestScribe.Proofs.Program.HeaderStep

/-!
# Secrets stay out of programs

Redaction blanks the secrets of a request, and the values of the environment
variables that they are moved to.  Where secrets are extracted, generating
commutes with redaction: whether secrets are blanked before or after makes no
difference.  So two requests that differ in their secrets only have programs
that differ in the values of their environment variables only.

The proof follows the extraction: one secret, one header, all headers, and then
the brief, which keeps no value of a variable.
-/

namespace RequestScribe

def EnvVars.redacted (vars : EnvVars) : EnvVars :=
  vars.map fun (name, _) => (name, "")

/-- Blank credentials of a known kind; the scheme stays. -/
def Authorization.redacted : Authorization → Authorization
  | .basic _ _ => .basic "" ""
  | .bearer _ => .bearer ""
  | .apiKey scheme _ => .apiKey scheme ""
  | .custom scheme credentials => .custom scheme credentials

namespace Request

/-- Whether the credentials are of a known kind, and the Authorization header secret with them. -/
def hasSecretCredentials (r : Request) : Bool :=
  match r.authorization? with
  | some (.basic ..) | some (.bearer _) | some (.apiKey ..) => true
  | some (.custom ..) | none => false

def hidesHeader (r : Request) (name : String) : Bool :=
  Text.contains "key" (Text.lower name) || Text.contains "token" (Text.lower name) ||
    (Text.sameIgnoringCase name "Authorization" && r.hasSecretCredentials)

def shownValue (r : Request) (name value : String) : String :=
  if r.hidesHeader name then "" else value

def redacted (r : Request) : Request :=
  { r with
    headers := r.headers.map fun (name, value) => (name, r.shownValue name value)
    authorization? := r.authorization?.map Authorization.redacted }

theorem shownValue_of_shown {r : Request} {name : String} (h : r.hidesHeader name = false)
    (value : String) : r.shownValue name value = value := by
  simp [shownValue, h]

theorem shownValue_of_hidden {r : Request} {name : String} (h : r.hidesHeader name = true)
    (value : String) : r.shownValue name value = "" := by
  simp [shownValue, h]

/-- Header names that are the same up to case are secret alike. -/
theorem hidesHeader_congr (r : Request) {a b : String} (h : Text.sameIgnoringCase a b = true) :
    r.hidesHeader a = r.hidesHeader b := by
  have lower : Text.lower a = Text.lower b := eq_of_beq h
  simp only [hidesHeader, Text.sameIgnoringCase, lower]

/-- Only secret headers change. -/
theorem header?_redacted {r : Request} {name : String} (h : r.hidesHeader name = false) :
    r.redacted.header? name = r.header? name := by
  have find (headers : Headers) :
      Headers.find? (headers.map fun (name, value) => (name, r.shownValue name value)) name =
        headers.find? name := by
    induction headers with
    | nil => rfl
    | cons header rest ih =>
        obtain ⟨key, value⟩ := header
        simp only [Headers.find?, List.map_cons, Ordered.find?] at ih ⊢
        split
        · next same => rw [shownValue_of_shown ((r.hidesHeader_congr same).trans h)]
        · exact ih
  exact find r.headers

theorem hasHeader_redacted {r : Request} {name : String} (h : r.hidesHeader name = false) :
    r.redacted.hasHeader name = r.hasHeader name := by
  rw [hasHeader, hasHeader, header?_redacted h]

end Request

/-- The variable of a secret is chosen without its value. -/
theorem EnvVars.secret_redacted (vars : EnvVars) (wished value lead : String) :
    EnvVars.secret true vars.redacted wished "" lead =
      ((EnvVars.secret true vars wished value lead).1,
        (EnvVars.secret true vars wished value lead).2.redacted) := by
  simp [EnvVars.secret, EnvVars.redacted, List.map_map, Function.comp_def]

namespace Extraction

def Credentials.redacted (c : Credentials) : Credentials :=
  { c with envVars := c.envVars.redacted }

def Pass.redacted (p : Pass) : Pass :=
  { p with envVars := p.envVars.redacted }

def redacted (e : Extraction) : Extraction :=
  { e with envVars := e.envVars.redacted }

/-- The Authorization header is secret just if the credentials are. -/
theorem hidesHeader_of_authorization (r : Request) {name : String}
    (auth : Text.lower name = "authorization") : r.hidesHeader name = r.hasSecretCredentials := by
  have plain : (Text.contains "key" "authorization" ||
    Text.contains "token" "authorization") = false := by decide
  have same : Text.sameIgnoringCase name "Authorization" = true := by
    rw [Text.sameIgnoringCase, auth]
    decide
  simp only [Request.hidesHeader, auth, plain, same, Bool.false_or, Bool.true_and]

/-- Other headers are secret just if they are moved to a variable. -/
theorem hidesHeader_of_other (r : Request) {name : String}
    (other : Text.lower name ≠ "authorization") : r.hidesHeader name = isSecretHeader name := by
  have lower : Text.lower "Authorization" = "authorization" := by decide
  have differs : Text.sameIgnoringCase name "Authorization" = false := by
    rw [Text.sameIgnoringCase, lower]
    exact beq_false_of_ne other
  simp only [Request.hidesHeader, differs, Bool.false_and, Bool.or_false, isSecretHeader,
    bne_iff_ne.2 other, Bool.true_and]

/-- The header of a scheme that is not known is written out as it stands. -/
theorem customHeader_redacted {r : Request} (h : r.hasSecretCredentials = false)
    (scheme credentials : String) :
    customHeader r.redacted scheme credentials = customHeader r scheme credentials := by
  have shown : r.hidesHeader "Authorization" = false := by
    rw [hidesHeader_of_authorization r (by decide), h]
  rw [customHeader, customHeader, Request.header?_redacted shown]

theorem credentials_redacted (r : Request) :
    credentials true r.redacted = (credentials true r).redacted := by
  have auth : r.redacted.authorization? = r.authorization?.map Authorization.redacted := rfl
  unfold credentials
  rw [auth]
  cases h : r.authorization? with
  | none => rfl
  | some a =>
      cases a with
      | basic username password => rfl
      | bearer token => rfl
      | apiKey scheme key => rfl
      | custom scheme credentials =>
          have known : r.hasSecretCredentials = false := by simp [Request.hasSecretCredentials, h]
          simp only [Option.map_some, Authorization.redacted,
            customHeader_redacted known scheme credentials]
          rfl

/-- Taking over one header: a value that is blanked is one that goes to a variable or is dropped. -/
theorem step_redacted (r : Request) (p : Pass) (name value : String) :
    p.redacted.step true r.redacted (name, r.shownValue name value) =
      (p.step true r (name, value)).redacted := by
  have present : r.redacted.authorization?.isSome = r.authorization?.isSome := Option.isSome_map ..
  have leftOut : isLeftOut r.redacted (Text.lower name) = isLeftOut r (Text.lower name) := rfl
  -- Of the blanked request only these two facts are used; kept folded, it is not compared with `r`.
  generalize r.redacted = r' at present leftOut ⊢
  cases left : isLeftOut r (Text.lower name) with
  | true =>
      rw [left] at leftOut
      rw [Pass.step_of_leftOut left, Pass.step_of_leftOut leftOut]
  | false =>
      rw [left] at leftOut
      by_cases auth : Text.lower name = "authorization"
      · cases given : r.authorization? with
        | none =>
            have absent : r'.authorization? = none := by simpa [given] using present
            have shown : r.hidesHeader name = false := by
              rw [hidesHeader_of_authorization r auth]
              simp [Request.hasSecretCredentials, given]
            rw [Request.shownValue_of_shown shown, Pass.step_of_no_credentials left auth given,
              Pass.step_of_no_credentials leftOut auth absent]
            rfl
        | some a =>
            have given' : r.authorization?.isSome = true := by rw [given]; rfl
            rw [given'] at present
            rw [Pass.step_of_credentials left auth given',
              Pass.step_of_credentials leftOut auth present]
            have pending : p.redacted.pending? = p.pending? := rfl
            rw [pending]
            cases p.pending? <;> rfl
      · have hides := hidesHeader_of_other r auth
        cases secret : isSecretHeader name with
        | true =>
            rw [Request.shownValue_of_hidden (hides.trans secret),
              Pass.step_of_secret left auth secret, Pass.step_of_secret leftOut auth secret]
            have moved := EnvVars.secret_redacted p.envVars (envName name) value ""
            simp only [Pass.redacted, moved]
            rfl
        | false =>
            rw [Request.shownValue_of_shown (hides.trans secret),
              Pass.step_of_plain left auth secret, Pass.step_of_plain leftOut auth secret]
            rfl

/-- Taking over all headers, by one header after the other. -/
theorem foldl_step_redacted (r : Request) (p : Pass) (headers : Headers) :
    (headers.map fun (name, value) => (name, r.shownValue name value)).foldl
        (Pass.step true r.redacted) p.redacted =
      (headers.foldl (Pass.step true r) p).redacted := by
  induction headers generalizing p with
  | nil => rfl
  | cons header rest ih =>
      rw [List.map_cons, List.foldl_cons, List.foldl_cons, step_redacted, ih]

theorem closing_redacted (r : Request) (p : Pass) :
    closing r.redacted p.redacted = closing r p := by
  have shown : r.hidesHeader "Cookie" = false := by
    rw [hidesHeader_of_other r (by decide)]
    decide
  simp only [closing, Request.hasHeader_redacted shown]
  rfl

/-- Extracting from a blanked request is extracting and blanking the variables. -/
theorem ofRequest_redacted (r : Request) :
    ofRequest true r.redacted = (ofRequest true r).redacted := by
  have pass := foldl_step_redacted r
    { pending? := (credentials true r).header?, envVars := (credentials true r).envVars } r.headers
  have fold : r.redacted.headers.foldl (Pass.step true r.redacted)
      { pending? := (credentials true r).redacted.header?,
        envVars := (credentials true r).redacted.envVars } =
      (r.headers.foldl (Pass.step true r)
        { pending? := (credentials true r).header?,
          envVars := (credentials true r).envVars }).redacted := pass
  unfold ofRequest
  rw [credentials_redacted]
  simp only [fold, closing_redacted]
  rfl

end Extraction

namespace Brief

/-- A brief holds no value of an environment variable and no secret of the request. -/
theorem ofExtraction_redacted (settings : Settings) (r : Request) (e : Extraction) :
    ofExtraction settings r.redacted e.redacted = ofExtraction settings r e := by
  have shown : r.hidesHeader "Accept" = false := by
    rw [Extraction.hidesHeader_of_other r (by decide)]
    decide
  have names : e.redacted.envVars.map Prod.fst = e.envVars.map Prod.fst := by
    simp [Extraction.redacted, EnvVars.redacted, List.map_map, Function.comp_def]
  unfold ofExtraction
  rw [Request.header?_redacted shown, names]
  rfl

theorem ofRequest_redacted {settings : Settings} (extract : settings.extractEnvVars = true)
    (r : Request) : ofRequest settings r.redacted = ofRequest settings r := by
  unfold ofRequest extraction
  rw [extract, Extraction.ofRequest_redacted, ofExtraction_redacted]

end Brief

namespace Generated

def redacted (g : Generated) : Generated :=
  { g with envVars := g.envVars.redacted }

/-- Generating for a blanked request is generating and blanking the variables. -/
theorem ofRequest_redacted (t : Target) {settings : Settings}
    (extract : settings.extractEnvVars = true) (r : Request) :
    ofRequest t settings r.redacted = (ofRequest t settings r).map redacted := by
  have extracted : Brief.extraction settings r.redacted =
      (Brief.extraction settings r).redacted := by
    unfold Brief.extraction
    rw [extract, Extraction.ofRequest_redacted]
  simp only [ofRequest, extracted, Brief.ofExtraction_redacted]
  cases t.program (Brief.ofExtraction settings r (Brief.extraction settings r)) <;> rfl

/--
Where secrets are extracted, two requests that differ in secrets only have the
same program in every target, with the same types, test, imports, dependencies
and documentation, and the same notes.  Only the values of the environment
variables may differ.
-/
theorem ofRequest_eq_up_to_secrets (t : Target) {settings : Settings}
    (extract : settings.extractEnvVars = true) {r₁ r₂ : Request}
    (same : r₁.redacted = r₂.redacted) :
    (ofRequest t settings r₁).map redacted = (ofRequest t settings r₂).map redacted ∧
      t.notes (Brief.ofRequest settings r₁) = t.notes (Brief.ofRequest settings r₂) := by
  constructor
  · rw [← ofRequest_redacted t extract r₁, ← ofRequest_redacted t extract r₂, same]
  · rw [← Brief.ofRequest_redacted extract r₁, ← Brief.ofRequest_redacted extract r₂, same]

/-- Two requests that differ in their token, in the header that shows it, and in a key. -/
theorem ofRequest_eq_up_to_secrets_bearer :
    let request (token key : String) : Request :=
      { method := .post
        url := "https://api.test/items"
        headers :=
          [("Authorization", "Bearer " ++ token), ("X-Api-Key", key), ("Accept", "text/plain")]
        body? := some (.raw "text")
        rawBody? := some "text"
        authorization? := some (.bearer token)
        cookies := []
        files := []
        query := [("page", "2")]
        transport := {} }
    let r₁ := request "first" "one"
    let r₂ := request "second" "two"
    let settings : Settings := {}
    settings.extractEnvVars = true ∧ r₁.redacted = r₂.redacted ∧ r₁ ≠ r₂ ∧
      (ofRequest .go settings r₁).map redacted = (ofRequest .go settings r₂).map redacted ∧
      Target.go.notes (Brief.ofRequest settings r₁) =
        Target.go.notes (Brief.ofRequest settings r₂) := by
  intro request r₁ r₂ settings
  have extract : settings.extractEnvVars = true := rfl
  have same : r₁.redacted = r₂.redacted := by decide
  have differ : r₁ ≠ r₂ := by decide
  exact ⟨extract, same, differ, ofRequest_eq_up_to_secrets .go extract same⟩

end Generated

end RequestScribe
