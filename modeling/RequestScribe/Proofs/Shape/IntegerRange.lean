import Mathlib.Data.List.Forall2
import RequestScribe.Proofs.Json.Invariant
import RequestScribe.Proofs.Json.Value
import RequestScribe.Proofs.Shape.Conformance

/-!
# Integers and the range of their type

Which shape a number of a sample gets is said by following the inferred shapes into
the sample.  Numbers get the integer shape just if they are written as integers and
do not stand in a list of numbers with a floating-point number.

Documents have integers of up to 64 bits without a sign, but the shape is printed as
a type of 64 bits with one.  So it is only as to the upper half that an integer can
miss the range of its type.
-/

namespace RequestScribe

namespace Shape

/-! ## The shape of a number -/

/-- The elements of a list that inference looks at: of objects, only the first. -/
def sampled (seen : Bool) : List Json.Value → List Json.Value
  | [] => []
  | item :: rest =>
      if isObject item && seen then sampled seen rest
      else item :: sampled (seen || isObject item) rest

/-- Whether inference gives a value some shape, with declarations that are found in a set. -/
def IsInferred (set : TypeSet) (v : Json.Value) (s : Shape) : Prop :=
  ∃ taken name, (infer taken name v).1 = s ∧ Declares set (infer taken name v).2

/-- `Given set v s n t`: as `v` has the shape `s`, the number `n` in it has the shape `t`. -/
inductive Given (set : TypeSet) : Json.Value → Shape → Json.Number → Shape → Prop where
  | number (n : Json.Number) (s : Shape) : Given set (.number n) s n s
  | item {items : List Json.Value} {v : Json.Value} {s t : Shape} {n : Json.Number} :
      v ∈ sampled false items → Given set v s n t → Given set (.array items) (.list s) n t
  | variant {items : List Json.Value} {v : Json.Value} {variants : List Shape} {s t : Shape}
      {n : Json.Number} :
      v ∈ sampled false items → s ∈ variants → IsInferred set v s → Given set v s n t →
        Given set (.array items) (.unionList variants) n t
  | field {name : String} {d : Declaration} {entries : List (String × Json.Value)}
      {entry : String × Json.Value} {f : Field} {n : Json.Number} {t : Shape} :
      set.declaration? name = some d → (entry, f) ∈ entries.zip d.fields →
        Given set entry.2 f.shape n t → Given set (.object entries) (.ref name) n t

def isNumber : Json.Value → Bool
  | .number _ => true
  | _ => false

def isFloat : Json.Value → Bool
  | .number (.float _) => true
  | _ => false

theorem isObject_of_isNumber {v : Json.Value} (number : isNumber v = true) :
    isObject v = false := by
  cases v with
  | object entries => cases number
  | _ => rfl

/-- Whether a list has nothing but numbers, with a floating-point number among them. -/
def areFloats (items : List Json.Value) : Bool :=
  items.all isNumber && items.any isFloat

mutual

/-- The integers of a sample, but for those in lists of floating-point numbers. -/
def exposed : Json.Value → List Int
  | .number (.integer i) => [i]
  | .array items => if areFloats items then [] else exposedItems false items
  | .object entries => exposedEntries entries
  | _ => []

def exposedItems (seen : Bool) : List Json.Value → List Int
  | [] => []
  | item :: rest =>
      if isObject item && seen then exposedItems seen rest
      else exposed item ++ exposedItems (seen || isObject item) rest

def exposedEntries : List (String × Json.Value) → List Int
  | [] => []
  | (_, value) :: rest => exposed value ++ exposedEntries rest

end

theorem exposedItems_eq (seen : Bool) (items : List Json.Value) :
    exposedItems seen items = (sampled seen items).flatMap exposed := by
  induction items generalizing seen with
  | nil => rfl
  | cons item rest ih =>
      rw [exposedItems, sampled]
      split
      · exact ih seen
      · rw [List.flatMap_cons, ih]

theorem exposed_object (entries : List (String × Json.Value)) :
    exposed (.object entries) = entries.flatMap fun entry => exposed entry.2 := by
  rw [exposed]
  induction entries with
  | nil => rfl
  | cons entry rest ih => rw [exposedEntries, ih, List.flatMap_cons]

theorem sampled_subset (seen : Bool) (items : List Json.Value) : sampled seen items ⊆ items := by
  induction items generalizing seen with
  | nil => exact List.Subset.refl []
  | cons item rest ih =>
      rw [sampled]
      split
      · exact fun v mem => List.mem_cons_of_mem item (ih seen mem)
      · exact List.cons_subset_cons item (ih _)

/-- The first object of a list is looked at, so without an object there is nothing left out. -/
theorem sampled_eq_self {items : List Json.Value}
    (scalar : ∀ v ∈ sampled false items, isObject v = false) : sampled false items = items := by
  induction items with
  | nil => rfl
  | cons item rest ih =>
      have whole : sampled false (item :: rest) = item :: sampled (isObject item) rest := by
        rw [sampled, Bool.and_false, Bool.false_or]
        rfl
      rw [whole] at scalar ⊢
      have here := scalar item List.mem_cons_self
      rw [here] at scalar ⊢
      rw [ih (List.forall_mem_cons.1 scalar).2]

/-! ## Shapes of lists -/

theorem ofVariants_cases (variants : List Shape) :
    (variants = [] ∧ ofVariants variants = .list .any) ∨
      (∃ s, variants = [s] ∧ ofVariants variants = .list s) ∨
      ((variants = [.integer, .float] ∨ variants = [.float, .integer]) ∧
        ofVariants variants = .list .float) ∨
      ofVariants variants = .unionList variants := by
  unfold ofVariants
  split
  · exact .inl ⟨rfl, rfl⟩
  · next s => exact .inr (.inl ⟨s, rfl, rfl⟩)
  · exact .inr (.inr (.inl ⟨.inl rfl, rfl⟩))
  · exact .inr (.inr (.inl ⟨.inr rfl, rfl⟩))
  · exact .inr (.inr (.inr rfl))

/-- Different shapes of numbers, one of them that of floating-point numbers, are one shape. -/
theorem ofVariants_of_numbers {variants : List Shape} (distinct : variants.Nodup)
    (numbers : ∀ s ∈ variants, s = .integer ∨ s = .float) (float : .float ∈ variants) :
    ofVariants variants = .list .float := by
  rcases variants with _ | ⟨s, _ | ⟨t, _ | ⟨u, rest⟩⟩⟩
  · exact absurd float List.not_mem_nil
  · obtain rfl := List.mem_singleton.1 float
    rfl
  · have other : s ≠ t := by simpa using distinct
    rcases numbers s (by simp) with rfl | rfl
    · rcases numbers t (by simp) with rfl | rfl
      · exact absurd rfl other
      · rfl
    · rcases numbers t (by simp) with rfl | rfl
      · rfl
      · exact absurd rfl other
  · -- There are no three different shapes of numbers.
    simp only [List.nodup_cons, List.mem_cons, not_or] at distinct
    rcases numbers s (by simp) with rfl | rfl <;> rcases numbers t (by simp) with rfl | rfl <;>
      rcases numbers u (by simp) with rfl | rfl <;> simp at distinct

theorem ofVariants_ne_number (variants : List Shape) :
    ¬(ofVariants variants = .integer ∨ ofVariants variants = .float) := by
  unfold ofVariants
  split <;> simp

theorem infer_array (taken : List String) (name : String) (items : List Json.Value) :
    infer taken name (.array items) =
      (ofVariants (inferItems taken (name ++ "Item") none [] [] items).1,
        (inferItems taken (name ++ "Item") none [] [] items).2) :=
  rfl

theorem isNumber_of_infer {taken : List String} {name : String} {v : Json.Value}
    (number : (infer taken name v).1 = .integer ∨ (infer taken name v).1 = .float) :
    isNumber v = true := by
  cases v with
  | number n => rfl
  | array items => exact absurd number (ofVariants_ne_number _)
  | _ => simp [infer] at number

theorem infer_of_isNumber {v : Json.Value} (number : isNumber v = true) (taken : List String)
    (name : String) : (infer taken name v).1 = if isFloat v then .float else .integer := by
  cases v with
  | number n => cases n <;> rfl
  | _ => cases number

/-! ## What inference gives to the parts of a value -/

section Items

variable {set : TypeSet} {taken : List String} {name : String} {object? : Option Shape}
  {variants : List Shape} {declarations : List Declaration} {items : List Json.Value}

theorem nodup_addVariant (distinct : variants.Nodup) (s : Shape) : (addVariant variants s).Nodup := by
  unfold addVariant
  split
  · exact distinct
  · next new =>
      have absent : s ∉ variants := fun mem => new (List.contains_iff_mem.2 mem)
      exact List.nodup_append.2 ⟨distinct, List.nodup_singleton s, fun a ha b hb same =>
        absent (List.mem_singleton.1 hb ▸ same ▸ ha)⟩

theorem nodup_inferItems (distinct : variants.Nodup) :
    (inferItems taken name object? variants declarations items).1.Nodup := by
  induction items generalizing taken object? variants declarations with
  | nil => exact distinct
  | cons item rest ih =>
      unfold inferItems
      split
      · exact ih (nodup_addVariant distinct _)
      · exact ih (nodup_addVariant distinct _)

/-- Every variant is the shape of an element, if it was not there before. -/
theorem of_mem_inferItems {s : Shape}
    (mem : s ∈ (inferItems taken name object? variants declarations items).1) :
    s ∈ variants ∨ object? = some s ∨
      ∃ v ∈ items, ∃ taken' name', (infer taken' name' v).1 = s := by
  induction items generalizing taken object? variants declarations with
  | nil => exact .inl mem
  | cons item rest ih =>
      unfold inferItems at mem
      split at mem
      · next shared =>
          rcases ih mem with known | same | ⟨v, later, found⟩
          · rcases mem_of_mem_addVariant known with old | rfl
            · exact .inl old
            · exact .inr (.inl rfl)
          · exact .inr (.inl same)
          · exact .inr (.inr ⟨v, List.mem_cons_of_mem item later, found⟩)
      · have here : ∃ v ∈ item :: rest, ∃ taken' name', (infer taken' name' v).1 =
            (infer taken name item).1 := ⟨item, List.mem_cons_self, taken, name, rfl⟩
        rcases ih mem with known | same | ⟨v, later, found⟩
        · rcases mem_of_mem_addVariant known with old | rfl
          · exact .inl old
          · exact .inr (.inr here)
        · split at same
          · exact .inr (.inr (Option.some.inj same ▸ here))
          · exact .inr (.inl same)
        · exact .inr (.inr ⟨v, List.mem_cons_of_mem item later, found⟩)

/-- Every element that inference looks at has one of the variants. -/
theorem isInferred_of_mem_sampled
    (declared : Declares set (inferItems taken name object? variants declarations items).2)
    {v : Json.Value} (mem : v ∈ sampled object?.isSome items) :
    ∃ s ∈ (inferItems taken name object? variants declarations items).1, IsInferred set v s := by
  induction items generalizing taken object? variants declarations with
  | nil => exact absurd mem List.not_mem_nil
  | cons item rest ih =>
      by_cases shared : isObject item = true ∧ object?.isSome = true
      · obtain ⟨object, some⟩ := shared
        obtain ⟨s, rfl⟩ := Option.isSome_iff_exists.1 some
        have skipped : inferItems taken name (.some s) variants declarations (item :: rest) =
            inferItems taken name (.some s) (addVariant variants s) declarations rest := by
          simp only [inferItems, object]
        rw [sampled, object, some, Bool.and_self, if_pos rfl] at mem
        rw [skipped] at declared ⊢
        exact ih declared mem
      · have unshared : isObject item = true → object? = none := fun object =>
          Option.not_isSome_iff_eq_none.1 fun some => shared ⟨object, some⟩
        rw [inferItems_cons unshared] at declared ⊢
        rw [sampled, if_neg (by simpa using shared)] at mem
        rcases List.mem_cons.1 mem with rfl | later
        · obtain ⟨new, made, -⟩ := inferItems_fresh (taking (infer taken name v).2 taken) name
            (if isObject v then some (infer taken name v).1 else object?)
            (addVariant variants (infer taken name v).1)
            (declarations ++ (infer taken name v).2) rest
          rw [made] at declared
          exact ⟨_, subset_inferItems _ _ _ _ _ _ (mem_addVariant variants _), taken, name, rfl,
            declared.left.right⟩
        · refine ih declared ?_
          cases object : isObject item with
          | true => simpa [object] using later
          | false => simpa [object] using later

end Items

/-- The fields of a declaration have the shapes of the values that are declared, in order. -/
theorem forall₂_inferFields (set : TypeSet) (taken : List String) (own : String)
    (done : List Field) (declarations : List Declaration)
    (entries : List (String × Json.Value)) :
    ∃ fields, (inferFields taken own done declarations entries).1 = done.reverse ++ fields ∧
      (Declares set (inferFields taken own done declarations entries).2 →
        List.Forall₂ (fun entry f => IsInferred set entry.2 f.shape) entries fields) := by
  induction entries generalizing taken done declarations with
  | nil => exact ⟨[], (List.append_nil _).symm, fun _ => .nil⟩
  | cons entry rest ih =>
      obtain ⟨key, value⟩ := entry
      let child := infer taken (own ++ namePart key) value
      let field : Field := ⟨key, child.1, value == .null⟩
      obtain ⟨fields, made, each⟩ :=
        ih (taking child.2 taken) (field :: done) (declarations ++ child.2)
      obtain ⟨new, added, -⟩ := inferFields_fresh (taking child.2 taken) own (field :: done)
        (declarations ++ child.2) rest
      have step : inferFields taken own done declarations ((key, value) :: rest) =
          inferFields (taking child.2 taken) own (field :: done) (declarations ++ child.2) rest :=
        rfl
      rw [step]
      refine ⟨field :: fields, ?_, fun declared => .cons ?_ (each declared)⟩
      · rw [made, List.reverse_cons, List.append_assoc, List.singleton_append]
      · rw [added] at declared
        exact ⟨taken, own ++ namePart key, rfl, declared.left.right⟩

/-! ## Integers among the numbers -/

section Given

variable {set : TypeSet} {items : List Json.Value} {n : Json.Number} {t : Shape}

theorem given_list_iff {s : Shape} :
    Given set (.array items) (.list s) n t ↔ ∃ v ∈ sampled false items, Given set v s n t := by
  constructor
  · rintro (_ | ⟨mem, given⟩)
    exact ⟨_, mem, given⟩
  · rintro ⟨v, mem, given⟩
    exact .item mem given

theorem given_unionList_iff {variants : List Shape} :
    Given set (.array items) (.unionList variants) n t ↔
      ∃ v ∈ sampled false items, ∃ s ∈ variants, IsInferred set v s ∧ Given set v s n t := by
  constructor
  · rintro (_ | _ | ⟨mem, one, inferred, given⟩)
    exact ⟨_, mem, _, one, inferred, given⟩
  · rintro ⟨v, mem, s, one, inferred, given⟩
    exact .variant mem one inferred given

theorem given_ref_iff {name : String} {d : Declaration} {entries : List (String × Json.Value)}
    (found : set.declaration? name = some d) :
    Given set (.object entries) (.ref name) n t ↔
      ∃ entry f, (entry, f) ∈ entries.zip d.fields ∧ Given set entry.2 f.shape n t := by
  constructor
  · rintro (_ | _ | _ | ⟨other, mem, given⟩)
    obtain rfl := Option.some.inj (found.symm.trans other)
    exact ⟨_, _, mem, given⟩
  · rintro ⟨entry, f, mem, given⟩
    exact .field found mem given

end Given

/-- Whether the numbers of a value that have the integer shape are the exposed integers. -/
def Exposes (set : TypeSet) (v : Json.Value) : Prop :=
  ∀ s, IsInferred set v s → ∀ n, Given set v s n .integer ↔ ∃ i ∈ exposed v, n = .integer i

section Lists

variable {set : TypeSet} {items : List Json.Value} {variants : List Shape}

/-- In a list of floating-point numbers no number has the integer shape. -/
theorem not_given_of_areFloats (floats : areFloats items = true) (distinct : variants.Nodup)
    (each : ∀ v ∈ sampled false items, ∃ s ∈ variants, IsInferred set v s)
    (found : ∀ s ∈ variants, ∃ v ∈ items, ∃ taken name, (infer taken name v).1 = s)
    (n : Json.Number) : ¬ Given set (.array items) (ofVariants variants) n .integer := by
  rw [areFloats, Bool.and_eq_true, List.all_eq_true, List.any_eq_true] at floats
  obtain ⟨numbers, x, inside, float⟩ := floats
  have whole : sampled false items = items := sampled_eq_self fun v mem =>
    isObject_of_isNumber (numbers v (sampled_subset false items mem))
  have shape : ofVariants variants = .list .float := by
    refine ofVariants_of_numbers distinct (fun s mem => ?_) ?_
    · obtain ⟨v, held, taken, name, rfl⟩ := found s mem
      rw [infer_of_isNumber (numbers v held)]
      cases isFloat v
      · exact .inl rfl
      · exact .inr rfl
    · obtain ⟨s, mem, taken, name, rfl, -⟩ := each x (whole.symm ▸ inside)
      rwa [infer_of_isNumber (numbers x inside), float, if_pos rfl] at mem
  rw [shape, given_list_iff]
  rintro ⟨v, mem, given⟩
  have number := numbers v (sampled_subset false items mem)
  cases v with
  | number m => cases given
  | _ => cases number

/-- Variants that are those of numbers of both kinds are of a list of floating-point numbers. -/
theorem areFloats_of_variants (mixed : ∀ s ∈ variants, s = .integer ∨ s = .float)
    (float : .float ∈ variants)
    (each : ∀ v ∈ sampled false items, ∃ s ∈ variants, IsInferred set v s)
    (found : ∀ s ∈ variants, ∃ v ∈ items, ∃ taken name, (infer taken name v).1 = s) :
    areFloats items = true := by
  have numbers : ∀ v ∈ sampled false items, isNumber v = true := by
    intro v mem
    obtain ⟨s, one, taken, name, rfl, -⟩ := each v mem
    exact isNumber_of_infer (mixed _ one)
  have whole : sampled false items = items :=
    sampled_eq_self fun v mem => isObject_of_isNumber (numbers v mem)
  rw [whole] at numbers
  obtain ⟨v, mem, taken, name, shape⟩ := found .float float
  rw [infer_of_isNumber (numbers v mem)] at shape
  have isFloating : isFloat v = true := by
    cases kind : isFloat v with
    | true => rfl
    | false => simp [kind] at shape
  rw [areFloats, Bool.and_eq_true, List.all_eq_true, List.any_eq_true]
  exact ⟨numbers, v, mem, isFloating⟩

/-- In any other list the integers are those of its elements. -/
theorem given_integer_iff_of_not_areFloats (other : areFloats items = false)
    (each : ∀ v ∈ sampled false items, ∃ s ∈ variants, IsInferred set v s)
    (found : ∀ s ∈ variants, ∃ v ∈ items, ∃ taken name, (infer taken name v).1 = s)
    (exposes : ∀ v ∈ items, Exposes set v) (n : Json.Number) :
    Given set (.array items) (ofVariants variants) n .integer ↔
      ∃ v ∈ sampled false items, ∃ i ∈ exposed v, n = .integer i := by
  have inside : ∀ v ∈ sampled false items, Exposes set v := fun v mem =>
    exposes v (sampled_subset false items mem)
  rcases ofVariants_cases variants with
    ⟨rfl, shape⟩ | ⟨s, rfl, shape⟩ | ⟨mixed, shape⟩ | shape
  · have none : sampled false items = [] := by
      refine List.eq_nil_iff_forall_not_mem.2 fun v mem => ?_
      obtain ⟨s, one, -⟩ := each v mem
      exact List.not_mem_nil one
    rw [shape, given_list_iff, none]
    simp
  · rw [shape, given_list_iff]
    refine exists_congr fun v => and_congr_right fun mem => ?_
    obtain ⟨t, one, inferred⟩ := each v mem
    obtain rfl := List.mem_singleton.1 one
    exact inside v mem t inferred n
  · have floats : areFloats items = true := by
      have both : (∀ s ∈ variants, s = .integer ∨ s = .float) ∧ .float ∈ variants := by
        rcases mixed with rfl | rfl <;> simp
      exact areFloats_of_variants both.1 both.2 each found
    rw [floats] at other
    cases other
  · rw [shape, given_unionList_iff]
    refine exists_congr fun v => and_congr_right fun mem => ?_
    constructor
    · rintro ⟨s, -, inferred, given⟩
      exact (inside v mem s inferred n).1 given
    · intro integers
      obtain ⟨s, one, inferred⟩ := each v mem
      exact ⟨s, one, inferred, (inside v mem s inferred n).2 integers⟩

end Lists

theorem exposes_array {set : TypeSet} {items : List Json.Value}
    (exposes : ∀ v ∈ items, Exposes set v) : Exposes set (.array items) := by
  rintro s ⟨taken, name, rfl, declared⟩ n
  rw [infer_array] at declared ⊢
  have distinct : (inferItems taken (name ++ "Item") none [] [] items).1.Nodup :=
    nodup_inferItems List.nodup_nil
  have each := fun v mem => isInferred_of_mem_sampled (v := v) declared mem
  have found : ∀ s ∈ (inferItems taken (name ++ "Item") none [] [] items).1,
      ∃ v ∈ items, ∃ taken' name', (infer taken' name' v).1 = s := by
    intro s mem
    rcases of_mem_inferItems mem with old | old | found
    · exact absurd old List.not_mem_nil
    · cases old
    · exact found
  rw [exposed]
  cases floats : areFloats items with
  | true =>
      refine iff_of_false (not_given_of_areFloats floats distinct each found n) ?_
      rintro ⟨i, mem, -⟩
      exact absurd mem List.not_mem_nil
  | false =>
      refine (given_integer_iff_of_not_areFloats floats each found exposes n).trans ?_
      rw [if_neg Bool.false_ne_true, exposedItems_eq]
      simp only [List.mem_flatMap]
      constructor
      · rintro ⟨v, mem, i, held, rfl⟩
        exact ⟨i, ⟨v, mem, held⟩, rfl⟩
      · rintro ⟨i, ⟨v, mem, held⟩, rfl⟩
        exact ⟨v, mem, i, held, rfl⟩

theorem exposes_object {set : TypeSet} {entries : List (String × Json.Value)}
    (exposes : ∀ entry ∈ entries, Exposes set entry.2) : Exposes set (.object entries) := by
  rintro s ⟨taken, name, rfl, declared⟩ n
  let own := Fresh.name taken name (Fresh.plain name)
  obtain ⟨fields, made, each⟩ := forall₂_inferFields set (own :: taken) own [] [] entries
  change Declares set (⟨own, (inferFields (own :: taken) own [] [] entries).1⟩ ::
    (inferFields (own :: taken) own [] [] entries).2) at declared
  have found := declared _ List.mem_cons_self
  have shapes := each fun d mem => declared d (List.mem_cons_of_mem _ mem)
  rw [made] at found
  obtain ⟨lengths, pairs⟩ := List.forall₂_iff_zip.1 shapes
  refine (given_ref_iff found).trans ?_
  rw [exposed_object]
  simp only [List.reverse_nil, List.nil_append, List.mem_flatMap]
  constructor
  · rintro ⟨entry, f, mem, given⟩
    have inside := (List.of_mem_zip mem).1
    obtain ⟨i, held, rfl⟩ := (exposes entry inside f.shape (pairs mem) n).1 given
    exact ⟨i, ⟨entry, inside, held⟩, rfl⟩
  · rintro ⟨i, ⟨entry, inside, held⟩, rfl⟩
    have whole : (entries.zip fields).map Prod.fst = entries := List.map_fst_zip lengths.le
    obtain ⟨⟨e, f⟩, mem, rfl⟩ := List.mem_map.1 (whole.symm ▸ inside)
    exact ⟨e, f, mem, (exposes e inside f.shape (pairs mem) _).2 ⟨i, held, rfl⟩⟩

/-- The integer shape is given to the exposed integers, wherever they stand. -/
theorem exposes (set : TypeSet) (v : Json.Value) : Exposes set v := by
  induction v using Json.Value.induction with
  | null =>
      rintro s ⟨taken, name, rfl, -⟩ n
      exact iff_of_false (by rintro ⟨⟩) (by simp [exposed])
  | bool b =>
      rintro s ⟨taken, name, rfl, -⟩ n
      exact iff_of_false (by rintro ⟨⟩) (by simp [exposed])
  | string b =>
      rintro s ⟨taken, name, rfl, -⟩ n
      exact iff_of_false (by rintro ⟨⟩) (by simp [exposed])
  | number m =>
      rintro s ⟨taken, name, rfl, -⟩ n
      cases m with
      | integer i =>
          rw [exposed]
          constructor
          · rintro ⟨⟩
            exact ⟨i, List.mem_singleton_self i, rfl⟩
          · rintro ⟨j, mem, rfl⟩
            obtain rfl := List.mem_singleton.1 mem
            exact .number _ _
      | float x => exact iff_of_false (by rintro ⟨⟩) (by simp [exposed])
  | array items each => exact exposes_array each
  | object entries each => exact exposes_object each

/-! ## The range of the integer types -/

def leastInt64 : Int := -9223372036854775808
def greatestInt64 : Int := 9223372036854775807

/-- Whether a number is an integer of 64 bits with a sign. -/
def FitsInt64 : Json.Number → Prop
  | .integer i => leastInt64 ≤ i ∧ i ≤ greatestInt64
  | .float _ => False

theorem mem_numbers_of_mem_exposed {v : Json.Value} {i : Int} (mem : i ∈ exposed v) :
    .integer i ∈ v.numbers := by
  induction v using Json.Value.induction with
  | number n =>
      cases n with
      | integer j =>
          obtain rfl := List.mem_singleton.1 mem
          exact List.mem_singleton_self _
      | float x => exact absurd mem List.not_mem_nil
  | array items each =>
      rw [exposed] at mem
      split at mem
      · exact absurd mem List.not_mem_nil
      · rw [exposedItems_eq] at mem
        obtain ⟨v, inside, held⟩ := List.mem_flatMap.1 mem
        have item := sampled_subset false items inside
        rw [Json.Value.numbers_array]
        exact List.mem_flatMap.2 ⟨v, item, each v item held⟩
  | object entries each =>
      rw [exposed_object] at mem
      obtain ⟨entry, inside, held⟩ := List.mem_flatMap.1 mem
      rw [Json.Value.numbers_object]
      exact List.mem_flatMap.2 ⟨entry, inside, each entry inside held⟩
  | _ => exact absurd mem List.not_mem_nil

/-- Integers that are read go down to the least of 64 bits with a sign, and up to that without. -/
theorem bounds_of_value? {t : Json.NumberText} {i : Int} (value : t.value? = some (.integer i)) :
    leastInt64 ≤ i ∧ i ≤ 18446744073709551615 := by
  have negative : Json.negativeBound = 9223372036854775808 := rfl
  have natural : Json.naturalBound = 18446744073709551616 := rfl
  have integer : Json.integer? t.numeral = some i := by
    unfold Json.NumberText.value? at value
    split at value
    · next n read =>
        obtain rfl : n = i := by simpa using value
        split at read
        · exact read
        · cases read
    · obtain ⟨x, -, other⟩ := Option.map_eq_some_iff.1 value
      cases other
  unfold Json.integer? at integer
  rw [leastInt64]
  split at integer
  · cases integer
  · dsimp only at integer
    split at integer
    · split at integer
      · obtain rfl := Option.some.inj integer
        omega
      · cases integer
    · split at integer
      · obtain rfl := Option.some.inj integer
        omega
      · cases integer

theorem bounds_of_mem_exposed {text : String} {v : Json.Value}
    (read : Json.Value.read? text = some v) {i : Int} (mem : i ∈ exposed v) :
    leastInt64 ≤ i ∧ i ≤ 18446744073709551615 := by
  let InBounds : Json.Number → Prop := fun n =>
    ∀ j, n = .integer j → leastInt64 ≤ j ∧ j ≤ 18446744073709551615
  have keeps : Json.Value.builder.Keeps fun v => ∀ n ∈ v.numbers, InBounds n :=
    Json.Value.keeps_numbers fun t n value j integer => bounds_of_value? (integer ▸ value)
  exact keeps.holds_of_read? read _ (mem_numbers_of_mem_exposed mem) i rfl

/--
Numbers of a document that get the integer shape are integers of 64 bits, with a sign
or without.  All of them fit into the type that the shape is printed as just if no
integer outside of lists of floating-point numbers is greater than that type's
greatest.
-/
theorem ofSample_integers {text : String} {v : Json.Value}
    (read : Json.Value.read? text = some v) (name : String) :
    let set := TypeSet.ofSample name v
    (∀ n, Given set v set.root n .integer →
      ∃ i : Int, n = .integer i ∧ leastInt64 ≤ i ∧ i ≤ 18446744073709551615) ∧
    ((∀ n, Given set v set.root n .integer → FitsInt64 n) ↔
      ∀ i ∈ exposed v, i ≤ greatestInt64) := by
  intro set
  have fresh := infer_fresh [] name v
  have inferred : IsInferred set v set.root :=
    ⟨[], name, rfl, declares_of_nodup fresh.distinct⟩
  have given := exposes set v set.root inferred
  refine ⟨fun n integer => ?_, fun fits i mem => ?_, fun small n integer => ?_⟩
  · obtain ⟨i, mem, rfl⟩ := (given n).1 integer
    exact ⟨i, rfl, bounds_of_mem_exposed read mem⟩
  · exact (fits _ ((given _).2 ⟨i, mem, rfl⟩)).2
  · obtain ⟨i, mem, rfl⟩ := (given n).1 integer
    exact ⟨(bounds_of_mem_exposed read mem).1, small i mem⟩

/-- A great integer does no harm in a list with a floating-point number. -/
theorem ofSample_integers_mixed :
    let text := "\x7b\"n\": [1.5, 18446744073709551615], \"m\": [\x7b\"k\": -7\x7d]\x7d"
    ∃ v, Json.Value.read? text = some v ∧ exposed v = [-7] ∧
      ∀ n, Given (TypeSet.ofSample "Root" v) v (TypeSet.ofSample "Root" v).root n .integer →
        FitsInt64 n := by
  intro text
  let v := (Json.Value.read? text).getD .null
  have letters : text.toList = _ := String.toList_ofList
  have read : Json.Value.read? text = some v := by
    simp only [v, Json.Value.read?, Json.read?, letters]
    decide +kernel
  have integers : exposed v = [-7] := by
    simp only [v, Json.Value.read?, Json.read?, letters]
    decide +kernel
  refine ⟨v, read, integers, (ofSample_integers read "Root").2.2 fun i mem => ?_⟩
  obtain rfl := List.mem_singleton.1 (integers ▸ mem)
  decide

/-- The greatest integer without a sign gets the integer shape. -/
theorem ofSample_integers_unsigned :
    ∃ v n, Json.Value.read? "18446744073709551615" = some v ∧
      Given (TypeSet.ofSample "RequestBody" v) v (TypeSet.ofSample "RequestBody" v).root n
        .integer ∧ ¬ FitsInt64 n := by
  refine ⟨.number (.integer 18446744073709551615), .integer 18446744073709551615,
    by decide +kernel, .number _ _, ?_⟩
  rintro ⟨-, most⟩
  exact absurd most (by decide)

end Shape

end RequestScribe
