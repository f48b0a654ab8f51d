import RequestScribe.Program.Extraction

/-!
# Taking over one header

The five things that can happen to a header on its way into a program, each
with the condition under which it happens.  Whatever is shown of the headers of
a program goes through these.
-/

namespace RequestScribe

namespace Extraction

theorem isLeftOut_of_ne {r : Request} {lowerName : String} (length : lowerName ≠ "content-length")
    (type : lowerName ≠ "content-type") : isLeftOut r lowerName = false := by
  simp [isLeftOut, length, type]

namespace Pass

variable {extract : Bool} {r : Request} {p : Pass} {name : String}

theorem step_of_leftOut (left : isLeftOut r (Text.lower name) = true) (value : String) :
    p.step extract r (name, value) = p := by
  simp only [step, left, if_true]

theorem step_of_no_credentials (left : isLeftOut r (Text.lower name) = false)
    (auth : Text.lower name = "authorization") (absent : r.authorization? = none)
    (value : String) : p.step extract r (name, value) = p.add name (.literal value) := by
  simp [step, left, if_pos auth, absent]

/-- An Authorization header gives its place to the credentials that wait for one. -/
theorem step_of_credentials (left : isLeftOut r (Text.lower name) = false)
    (auth : Text.lower name = "authorization") (present : r.authorization?.isSome = true)
    (value : String) :
    p.step extract r (name, value) =
      match p.pending? with
      | some fragment => { p.add name fragment with pending? := none }
      | none => p := by
  obtain ⟨a, ha⟩ := Option.isSome_iff_exists.1 present
  simp only [step, left, if_pos auth, ha]
  rfl

theorem step_of_secret (left : isLeftOut r (Text.lower name) = false)
    (other : Text.lower name ≠ "authorization") (secret : isSecretHeader name = true)
    (value : String) :
    p.step extract r (name, value) =
      { p.add name (EnvVars.secret extract p.envVars (envName name) value "").1 with
        envVars := (EnvVars.secret extract p.envVars (envName name) value "").2 } := by
  simp only [step, left, if_neg other, secret]
  rfl

theorem step_of_plain (left : isLeftOut r (Text.lower name) = false)
    (other : Text.lower name ≠ "authorization") (plain : isSecretHeader name = false)
    (value : String) : p.step extract r (name, value) = p.add name (.literal value) := by
  simp only [step, left, if_neg other, plain]
  rfl

/-- A value that waits is taken by an Authorization header, and by no other. -/
theorem pending?_step (p : Pass) (name value : String) :
    (p.step extract r (name, value)).pending? =
      if Text.lower name = "authorization" ∧ r.authorization?.isSome = true then none
      else p.pending? := by
  cases left : isLeftOut r (Text.lower name) with
  | true =>
      have other : Text.lower name ≠ "authorization" := by
        intro auth
        rw [auth] at left
        revert left
        cases r.isMultipart <;> simp [isLeftOut]
      rw [step_of_leftOut left, if_neg fun both => other both.1]
  | false =>
      by_cases auth : Text.lower name = "authorization"
      · cases given : r.authorization? with
        | none =>
            rw [step_of_no_credentials left auth given, if_neg fun both => by simp at both]
            rfl
        | some credentials =>
            rw [step_of_credentials left auth (by rw [given]; rfl), if_pos ⟨auth, rfl⟩]
            cases waiting : p.pending? with
            | none => exact waiting
            | some fragment => rfl
      · rw [if_neg fun both => auth both.1]
        cases secret : isSecretHeader name with
        | true =>
            rw [step_of_secret left auth secret]
            rfl
        | false =>
            rw [step_of_plain left auth secret]
            rfl

end Pass

end Extraction

end RequestScribe
