/-!
# Shapes of JSON values

What a sample value says about the values like it.  Objects are described by
named declarations, to which shapes refer.
-/

namespace RequestScribe

inductive Shape where
  /-- Nothing is known: the sample was null. -/
  | any
  | bool
  | integer
  | float
  | string
  | list (element : Shape)
  /-- A list with elements of different shapes. -/
  | unionList (variants : List Shape)
  /-- The object declared under a name. -/
  | ref (name : String)
  deriving Repr

namespace Shape

mutual

def beq : Shape → Shape → Bool
  | .any, .any => true
  | .bool, .bool => true
  | .integer, .integer => true
  | .float, .float => true
  | .string, .string => true
  | .list s, .list t => beq s t
  | .unionList ss, .unionList ts => beqAll ss ts
  | .ref a, .ref b => a == b
  | _, _ => false

def beqAll : List Shape → List Shape → Bool
  | [], [] => true
  | s :: ss, t :: ts => beq s t && beqAll ss ts
  | _, _ => false

end

mutual

theorem eq_of_beq : ∀ {s t : Shape}, beq s t = true → s = t
  | .any, t, h => by cases t <;> simp_all [beq]
  | .bool, t, h => by cases t <;> simp_all [beq]
  | .integer, t, h => by cases t <;> simp_all [beq]
  | .float, t, h => by cases t <;> simp_all [beq]
  | .string, t, h => by cases t <;> simp_all [beq]
  | .list s, t, h => by
      cases t <;> simp only [beq, Bool.false_eq_true] at h
      rw [eq_of_beq h]
  | .unionList ss, t, h => by
      cases t <;> simp only [beq, Bool.false_eq_true] at h
      rw [eq_of_beqAll h]
  | .ref _, t, h => by cases t <;> simp_all [beq]

theorem eq_of_beqAll : ∀ {ss ts : List Shape}, beqAll ss ts = true → ss = ts
  | [], ts, h => by cases ts <;> simp_all [beqAll]
  | s :: ss, ts, h => by
      cases ts <;> simp only [beqAll, Bool.false_eq_true, Bool.and_eq_true] at h
      rw [eq_of_beq h.1, eq_of_beqAll h.2]

end

mutual

theorem beq_refl : ∀ s : Shape, beq s s = true
  | .any => rfl
  | .bool => rfl
  | .integer => rfl
  | .float => rfl
  | .string => rfl
  | .list s => by simp [beq, beq_refl s]
  | .unionList ss => by simp [beq, beqAll_refl ss]
  | .ref _ => by simp [beq]

theorem beqAll_refl : ∀ ss : List Shape, beqAll ss ss = true
  | [] => rfl
  | s :: ss => by simp [beqAll, beq_refl s, beqAll_refl ss]

end

instance : DecidableEq Shape := fun s t =>
  decidable_of_iff (beq s t = true) ⟨eq_of_beq, fun h => h ▸ beq_refl s⟩

end Shape

structure Field where
  /-- The key exactly as it stands in the sample. -/
  key : String
  shape : Shape
  optional : Bool
  deriving DecidableEq, Repr

/-- A named object shape. -/
structure Declaration where
  name : String
  fields : List Field
  deriving DecidableEq, Repr

/-- The shape of a sample and the declarations it refers to, parents first. -/
structure TypeSet where
  name : String
  root : Shape
  declarations : List Declaration
  deriving DecidableEq, Repr

def TypeSet.declaration? (set : TypeSet) (name : String) : Option Declaration :=
  set.declarations.find? fun d => d.name == name

end RequestScribe
