import RequestScribe.Conversion.Basic
import RequestScribe.Proofs.Command.HeaderTable
import RequestScribe.Proofs.Program.HeaderStep

/-!
# Requests without their Authorization header

User and password are written by means of the library, or into a header of their own.  So where a
request has them its Authorization header is not looked at: what is generated for the request, and
noticed about it, is the same without that header.
-/

namespace RequestScribe

/-- The headers other than Authorization. -/
def Headers.bare (headers : Headers) : Headers :=
  headers.filter fun header => !Text.sameIgnoringCase header.1 "Authorization"

def Request.bare (r : Request) : Request :=
  { r with headers := r.headers.bare }

def Command.Outcome.bare (o : Command.Outcome) : Command.Outcome :=
  { o with request := o.request.bare }

namespace Headers

theorem bare_cons_of_own {name : String} (own : Text.sameIgnoringCase name "Authorization" = true)
    (value : String) (rest : Headers) : bare ((name, value) :: rest) = rest.bare := by
  simp [bare, own]

theorem bare_cons_of_other {name : String}
    (other : Text.sameIgnoringCase name "Authorization" = false) (value : String)
    (rest : Headers) : bare ((name, value) :: rest) = (name, value) :: rest.bare := by
  simp [bare, other]

theorem find?_bare {name : String} (other : Text.sameIgnoringCase name "Authorization" = false)
    (headers : Headers) : headers.bare.find? name = headers.find? name := by
  refine Ordered.find?_filter fun header _ same => ?_
  rw [Text.sameIgnoringCase_iff] at same
  rw [Text.sameIgnoringCase, same, ← Text.sameIgnoringCase, other]
  rfl

theorem bare_set (headers : Headers) (name value : String) :
    (headers.set name value).bare =
      if Text.sameIgnoringCase name "Authorization" then headers.bare
      else headers.bare.set name value := by
  unfold set
  induction headers with
  | nil => cases own : Text.sameIgnoringCase name "Authorization" <;> simp [Ordered.set, bare, own]
  | cons header rest ih =>
      obtain ⟨key, old⟩ := header
      cases same : Text.sameIgnoringCase key name with
      | true =>
          have alike : Text.sameIgnoringCase key "Authorization" =
              Text.sameIgnoringCase name "Authorization" := by
            rw [Text.sameIgnoringCase_iff] at same
            simp only [Text.sameIgnoringCase, same]
          rw [Ordered.set, if_pos same]
          cases own : Text.sameIgnoringCase name "Authorization" with
          | true =>
              rw [own] at alike
              rw [bare_cons_of_own alike, bare_cons_of_own alike, if_pos rfl]
          | false =>
              rw [own] at alike
              rw [bare_cons_of_other alike, bare_cons_of_other alike, if_neg (by simp),
                Ordered.set, if_pos same]
      | false =>
          have apart : ¬ Text.sameIgnoringCase key name = true := by simp [same]
          rw [Ordered.set, if_neg apart]
          cases own : Text.sameIgnoringCase key "Authorization" with
          | true => rw [bare_cons_of_own own, bare_cons_of_own own, ih]
          | false =>
              rw [bare_cons_of_other own, bare_cons_of_other own, ih, Ordered.set, if_neg apart]
              split <;> rfl

theorem bare_erase {name : String} (other : Text.sameIgnoringCase name "Authorization" = false)
    (headers : Headers) : (headers.erase name).bare = headers.bare.erase name := by
  unfold erase
  induction headers with
  | nil => rfl
  | cons header rest ih =>
      obtain ⟨key, value⟩ := header
      cases same : Text.sameIgnoringCase key name with
      | true =>
          have alike : Text.sameIgnoringCase key "Authorization" = false := by
            rw [Text.sameIgnoringCase_iff] at same
            rw [← other, Text.sameIgnoringCase, Text.sameIgnoringCase, same]
          rw [Ordered.erase, if_pos same, bare_cons_of_other alike, Ordered.erase, if_pos same]
      | false =>
          have apart : ¬ Text.sameIgnoringCase key name = true := by simp [same]
          rw [Ordered.erase, if_neg apart]
          cases own : Text.sameIgnoringCase key "Authorization" with
          | true => rw [bare_cons_of_own own, bare_cons_of_own own, ih]
          | false =>
              rw [bare_cons_of_other own, bare_cons_of_other own, ih, Ordered.erase, if_neg apart]

theorem bare_setDefault {name : String}
    (other : Text.sameIgnoringCase name "Authorization" = false) (headers : Headers)
    (value : String) :
    (headers.setDefault name value).bare = headers.bare.setDefault name value := by
  have known : Ordered.has Text.sameIgnoringCase name headers.bare =
      Ordered.has Text.sameIgnoringCase name headers :=
    congrArg Option.isSome (find?_bare other headers)
  unfold setDefault Ordered.setDefault
  rw [known]
  split
  · rfl
  · simp [bare, other]

end Headers

theorem Request.header?_bare {name : String}
    (other : Text.sameIgnoringCase name "Authorization" = false) (r : Request) :
    r.bare.header? name = r.header? name :=
  Headers.find?_bare other r.headers

/-! ## Generating -/

section Basic

variable {r : Request} {username password : String}
  (basic : r.authorization? = some (.basic username password))

include basic

namespace Extraction

theorem credentials_bare (extract : Bool) : credentials extract r.bare = credentials extract r := by
  have same : r.bare.authorization? = r.authorization? := rfl
  simp only [credentials, same, basic]

/-- No Authorization value waits for a place among the headers. -/
theorem pending?_credentials (extract : Bool) : (credentials extract r).header? = none := by
  simp only [credentials, basic]

/-- Without a value that waits for its place an Authorization header is passed over. -/
theorem Pass.step_of_own {p : Pass} (idle : p.pending? = none) (extract : Bool) {name : String}
    (own : Text.sameIgnoringCase name "Authorization" = true) (value : String) :
    p.step extract r (name, value) = p := by
  cases left : isLeftOut r (Text.lower name) with
  | true => exact step_of_leftOut left value
  | false =>
      have lower : Text.lower "Authorization" = "authorization" := by decide
      have auth : Text.lower name = "authorization" :=
        (Text.sameIgnoringCase_iff.1 own).trans lower
      rw [step_of_credentials left auth (by rw [basic]; rfl), idle]

theorem foldl_step_bare (extract : Bool) (headers : Headers) {p : Pass}
    (idle : p.pending? = none) :
    headers.bare.foldl (Pass.step extract r) p = headers.foldl (Pass.step extract r) p := by
  induction headers generalizing p with
  | nil => rfl
  | cons header rest ih =>
      obtain ⟨name, value⟩ := header
      cases own : Text.sameIgnoringCase name "Authorization" with
      | true =>
          rw [Headers.bare_cons_of_own own, List.foldl_cons,
            Pass.step_of_own basic idle extract own, ih idle]
      | false =>
          rw [Headers.bare_cons_of_other own, List.foldl_cons, List.foldl_cons,
            ih (by rw [Pass.pending?_step, idle, ite_self])]

theorem ofRequest_bare (extract : Bool) : ofRequest extract r.bare = ofRequest extract r := by
  have steps (p : Pass) (idle : p.pending? = none) :
      r.bare.headers.foldl (Pass.step extract r.bare) p =
        r.headers.foldl (Pass.step extract r) p :=
    foldl_step_bare basic extract r.headers idle
  have closed (p : Pass) : closing r.bare p = closing r p := by
    have cookie : r.bare.hasHeader "Cookie" = r.hasHeader "Cookie" :=
      congrArg Option.isSome (Request.header?_bare (by decide) r)
    have cookies : r.bare.cookies = r.cookies := rfl
    rw [closing, closing, cookie, cookies]
  unfold ofRequest
  dsimp only
  rw [credentials_bare basic, steps _ (pending?_credentials basic extract), closed]

end Extraction

theorem Brief.ofRequest_bare (settings : Settings) :
    ofRequest settings r.bare = ofRequest settings r := by
  have accept : r.bare.header? "Accept" = r.header? "Accept" :=
    Request.header?_bare (by decide) r
  rw [ofRequest, ofRequest, extraction, extraction, Extraction.ofRequest_bare basic, ofExtraction,
    ofExtraction, accept]
  rfl

theorem Generated.ofRequest_bare (t : Target) (settings : Settings) :
    ofRequest t settings r.bare = ofRequest t settings r := by
  have brief := Brief.ofRequest_bare basic settings
  have extraction : Brief.extraction settings r.bare = Brief.extraction settings r :=
    Extraction.ofRequest_bare basic settings.extractEnvVars
  rw [Brief.ofRequest, Brief.ofRequest] at brief
  rw [ofRequest, ofRequest, brief, extraction]

end Basic

namespace Conversion

theorem typeNotices_bare (r : Request) : typeNotices r.bare = typeNotices r := by
  have type : r.bare.header? "Content-Type" = r.header? "Content-Type" :=
    Request.header?_bare (by decide) r
  have kind : r.bare.dataType? = r.dataType? := rfl
  rw [typeNotices, typeNotices, type, kind]

/-- What is generated for a request with user and password, and noticed about it. -/
theorem generate_bare {o : Command.Outcome} {username password : String}
    (basic : o.request.authorization? = some (.basic username password)) (settings : Settings) :
    (generate settings o.bare).code? = (generate settings o).code? ∧
      (generate settings o.bare).failure? = (generate settings o).failure? ∧
      (generate settings o.bare).notices = (generate settings o).notices := by
  have size : sizeNotices o.request.bare = sizeNotices o.request := rfl
  unfold generate Command.Outcome.bare
  dsimp only
  cases target settings with
  | error failure => exact ⟨rfl, rfl, rfl⟩
  | ok t =>
      dsimp only
      rw [Generated.ofRequest_bare basic, Brief.ofRequest_bare basic, typeNotices_bare, size]
      cases Generated.ofRequest t settings o.request <;> exact ⟨rfl, rfl, rfl⟩

end Conversion

end RequestScribe
