import RequestScribe.Json.Lexeme
import RequestScribe.Json.Printer

/-!
# JSON values by their parts

Induction over values, how deeply they are nested, and which of them a document
can stand for: integers of the range that stays integral, and no key of an
object twice.  Floating-point numbers count if they are read back from their
digits.
-/

namespace RequestScribe

namespace Json

/-- An integer of 64 bits, or a floating-point number that its digits give back. -/
def Number.isReadable : Number → Bool
  | .integer n => -(negativeBound : Int) ≤ n && n < naturalBound
  | .float x => (numberText? (floatText x).toList).bind NumberText.value? == some (.float x)

namespace Value

/-- Induction with the hypotheses for all members of a container. -/
@[elab_as_elim]
theorem induction {motive : Value → Prop} (null : motive .null) (bool : ∀ b, motive (.bool b))
    (number : ∀ n, motive (.number n)) (string : ∀ s, motive (.string s))
    (array : ∀ items, (∀ v ∈ items, motive v) → motive (.array items))
    (object : ∀ fields, (∀ field ∈ fields, motive field.2) → motive (.object fields))
    (v : Value) : motive v :=
  @Value.rec motive (fun items => ∀ v ∈ items, motive v)
    (fun fields => ∀ field ∈ fields, motive field.2) (fun field => motive field.2)
    null bool number string array object
    (List.forall_mem_nil _) (fun _ _ here later => List.forall_mem_cons.2 ⟨here, later⟩)
    (List.forall_mem_nil _) (fun _ _ here later => List.forall_mem_cons.2 ⟨here, later⟩)
    (fun _ _ here => here) v

mutual

/-- How many containers stand around the innermost part, the container itself included. -/
def depth : Value → Nat
  | .array items => itemsDepth items + 1
  | .object fields => fieldsDepth fields + 1
  | _ => 0

def itemsDepth : List Value → Nat
  | [] => 0
  | item :: rest => max (depth item) (itemsDepth rest)

def fieldsDepth : List (String × Value) → Nat
  | [] => 0
  | (_, value) :: rest => max (depth value) (fieldsDepth rest)

end

theorem depth_item_lt {items : List Value} {v : Value} (h : v ∈ items) :
    v.depth < (Value.array items).depth := by
  have inner : v.depth ≤ itemsDepth items := by
    induction items with
    | nil => exact absurd h List.not_mem_nil
    | cons item rest ih =>
        rw [itemsDepth]
        rcases List.mem_cons.1 h with rfl | later
        · omega
        · have bound := ih later
          omega
  rw [depth]
  omega

theorem depth_field_lt {fields : List (String × Value)} {field : String × Value}
    (h : field ∈ fields) : field.2.depth < (Value.object fields).depth := by
  have inner : field.2.depth ≤ fieldsDepth fields := by
    induction fields with
    | nil => exact absurd h List.not_mem_nil
    | cons first rest ih =>
        rw [fieldsDepth]
        rcases List.mem_cons.1 h with rfl | later
        · omega
        · have bound := ih later
          omega
  rw [depth]
  omega

mutual

def isReadable : Value → Bool
  | .number n => n.isReadable
  | .array items => itemsReadable items
  | .object fields => decide (fields.map Prod.fst).Nodup && fieldsReadable fields
  | _ => true

def itemsReadable : List Value → Bool
  | [] => true
  | item :: rest => isReadable item && itemsReadable rest

def fieldsReadable : List (String × Value) → Bool
  | [] => true
  | (_, value) :: rest => isReadable value && fieldsReadable rest

end

theorem isReadable_array {items : List Value} :
    isReadable (.array items) = true ↔ ∀ v ∈ items, v.isReadable = true := by
  rw [isReadable]
  induction items with
  | nil => simp [itemsReadable]
  | cons item rest ih => rw [itemsReadable, Bool.and_eq_true, ih, List.forall_mem_cons]

theorem isReadable_object {fields : List (String × Value)} :
    isReadable (.object fields) = true ↔
      (fields.map Prod.fst).Nodup ∧ ∀ field ∈ fields, field.2.isReadable = true := by
  have all : fieldsReadable fields = true ↔ ∀ field ∈ fields, field.2.isReadable = true := by
    induction fields with
    | nil => simp [fieldsReadable]
    | cons field rest ih => rw [fieldsReadable, Bool.and_eq_true, ih, List.forall_mem_cons]
  rw [isReadable, Bool.and_eq_true, all, decide_eq_true_iff]

end Value

end Json

end RequestScribe
