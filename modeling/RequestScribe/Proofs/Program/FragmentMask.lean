import RequestScribe.Proofs.Code.MaskedLiteral
import RequestScribe.Proofs.Code.Mentions
import RequestScribe.Proofs.Program.CommandBrief

/-!
# Values in masks

A value that is written out is a literal, and one that is read from a variable is
a look-up, with a literal in front of it where there is a lead.
-/

namespace RequestScribe

open Lexis

/-- The mask of a value, given that of looking up a variable. -/
def Fragment.mask (lookup : String → Mask) : Fragment → Mask
  | .literal _ => [Glyph.literal]
  | .env var lead =>
      if lead.isEmpty then lookup var
      else Glyph.literal :: (Mask.text " + " ++ lookup var)

theorem Fragment.mask_cases (lookup : String → Mask) (f : Fragment) :
    f.var?.isSome = false ∧ f.mask lookup = [Glyph.literal] ∨
      f.var?.isSome = true ∧ ∃ var, f.mask lookup = lookup var ∨
        f.mask lookup = Glyph.literal :: (Mask.text " + " ++ lookup var) := by
  cases f with
  | literal text => exact .inl ⟨rfl, rfl⟩
  | env var lead =>
      refine .inr ⟨rfl, var, ?_⟩
      unfold mask
      dsimp only
      split
      · exact .inl rfl
      · exact .inr rfl

/-- Where looking up a variable has the same mask for all variables, a value has one of three. -/
theorem Fragment.mask_cases_const (look : Mask) (f : Fragment) :
    f.var?.isSome = false ∧ f.mask (fun _ => look) = [Glyph.literal] ∨
      f.var?.isSome = true ∧ f.mask (fun _ => look) = look ∨
      f.var?.isSome = true ∧
        f.mask (fun _ => look) = Glyph.literal :: (Mask.text " + " ++ look) := by
  rcases f.mask_cases fun _ => look with literal | ⟨reads, var, mask | mask⟩
  · exact .inl literal
  · exact .inr (.inl ⟨reads, mask⟩)
  · exact .inr (.inr ⟨reads, mask⟩)

namespace FragmentSyntax

/-- A language that joins a lead and a variable with a plus. -/
structure Joins (s : FragmentSyntax) (l : Lexis) (lookup : String → Mask) : Prop where
  string : ∀ text, (s.string text).HasMask l [Glyph.literal]
  env : ∀ var, IsName var → (s.env var).HasMask l (lookup var)
  joined : ∀ lead var, s.joined lead var = s.string lead ++ " + " ++ s.env var

theorem Joins.hasMask_code {s : FragmentSyntax} {l : Lexis} {lookup : String → Mask}
    (joins : s.Joins l lookup) {f : Fragment} (named : ∀ var, f.var? = some var → IsName var) :
    (s.code f).HasMask l (f.mask lookup) := by
  cases f with
  | literal text => exact joins.string text
  | env var lead =>
      have look := joins.env var (named var rfl)
      unfold code Fragment.mask
      dsimp only
      split
      · exact look
      · rw [joins.joined]
        exact ((joins.string lead).append (Code.hasMask_text _)).append look

end FragmentSyntax

namespace Brief

variable {b : Brief}

theorem IsSound.named_header (sound : b.IsSound) {header : String × Fragment}
    (mem : header ∈ b.headers) {var : String} (reads : header.2.var? = some var) : IsName var := by
  refine sound.named var ((sound.used var).2 ⟨header.2, ?_, reads⟩)
  exact List.mem_append_right _ (List.mem_map_of_mem mem)

theorem IsSound.named_basicAuth (sound : b.IsSound) {user password : Fragment}
    (given : b.basicAuth? = some (user, password)) {var : String}
    (reads : user.var? = some var ∨ password.var? = some var) : IsName var := by
  refine sound.named var ((sound.used var).2 ?_)
  have both : b.fragments = user :: password :: b.headers.map Prod.snd := by
    simp [fragments, given]
  rw [both]
  rcases reads with reads | reads
  · exact ⟨user, by simp, reads⟩
  · exact ⟨password, by simp, reads⟩

/-- Whether the program reads a variable. -/
theorem IsSound.envNames_ne_nil_iff (sound : b.IsSound) :
    b.envNames ≠ [] ↔ (∃ header ∈ b.headers, header.2.var?.isSome = true) ∨
      ∃ user password, b.basicAuth? = some (user, password) ∧
        (user.var?.isSome = true ∨ password.var?.isSome = true) := by
  have read : b.envNames ≠ [] ↔ ∃ f ∈ b.fragments, f.var?.isSome = true := by
    constructor
    · intro some
      obtain ⟨var, mem⟩ := List.exists_mem_of_ne_nil _ some
      obtain ⟨f, held, reads⟩ := (sound.used var).1 mem
      exact ⟨f, held, by simp [reads]⟩
    · rintro ⟨f, held, reads⟩
      obtain ⟨var, same⟩ := Option.isSome_iff_exists.1 reads
      exact List.ne_nil_of_mem ((sound.used var).2 ⟨f, held, same⟩)
  have inHeaders : (∃ f ∈ b.headers.map Prod.snd, f.var?.isSome = true) ↔
      ∃ header ∈ b.headers, header.2.var?.isSome = true := by
    constructor
    · rintro ⟨f, mem, reads⟩
      obtain ⟨header, held, rfl⟩ := List.mem_map.1 mem
      exact ⟨header, held, reads⟩
    · rintro ⟨header, held, reads⟩
      exact ⟨header.2, List.mem_map_of_mem held, reads⟩
  rw [read, fragments, ← inHeaders]
  cases b.basicAuth? with
  | none => simp
  | some pair =>
      obtain ⟨user, password⟩ := pair
      simp only [Option.map_some, Option.getD_some, List.cons_append, List.nil_append]
      simp [or_assoc, or_comm]

end Brief

end RequestScribe
