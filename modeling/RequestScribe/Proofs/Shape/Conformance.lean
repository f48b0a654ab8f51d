import RequestScribe.Proofs.Shape.TypeNames

/-!
# Samples conform to their types

What it means for a value to conform to a shape is said without reference to
inference: shapes of scalars stand for scalars, lists are judged by their
elements, and a reference is followed to the declaration found under its name.

Inference is sound for its own sample.  The proof goes through any set of
declarations in which those of the value are the ones found under their names;
distinct names make the inferred set such a set.
-/

namespace RequestScribe

namespace Shape

mutual

/-- Whether a value has a shape, in a set of declarations. -/
inductive Conforms (set : TypeSet) : Json.Value → Shape → Prop where
  | any (v : Json.Value) : Conforms set v .any
  | bool (b : Bool) : Conforms set (.bool b) .bool
  | integer (n : Int) : Conforms set (.number (.integer n)) .integer
  | float (n : Json.Number) : Conforms set (.number n) .float
  | string (s : String) : Conforms set (.string s) .string
  | list {items : List Json.Value} {element : Shape} :
      (∀ v ∈ items, Conforms set v element) → Conforms set (.array items) (.list element)
  | unionList {items : List Json.Value} {variants : List Shape} :
      (∀ v ∈ items, ConformsToOne set v variants) →
        Conforms set (.array items) (.unionList variants)
  | ref {name : String} {d : Declaration} {entries : List (String × Json.Value)} :
      set.declaration? name = some d → ConformsToFields set entries d.fields →
        Conforms set (.object entries) (.ref name)

inductive ConformsToOne (set : TypeSet) : Json.Value → List Shape → Prop where
  | intro {v : Json.Value} {s : Shape} {variants : List Shape} :
      s ∈ variants → Conforms set v s → ConformsToOne set v variants

/-- Whether the entries of an object have just the keys of some fields, and their shapes. -/
inductive ConformsToFields (set : TypeSet) : List (String × Json.Value) → List Field → Prop where
  | nil : ConformsToFields set [] []
  | cons {v : Json.Value} {f : Field} {entries : List (String × Json.Value)}
      {fields : List Field} :
      Conforms set v f.shape → ConformsToFields set entries fields →
        ConformsToFields set ((f.key, v) :: entries) (f :: fields)

end

def atMostOneObject (items : List Json.Value) : Bool :=
  items.countP isObject ≤ 1

mutual

/-- Whether every list in a value, at any depth, has at most one object as an element. -/
def hasLoneObjects : Json.Value → Bool
  | .array items => atMostOneObject items && itemsHaveLoneObjects items
  | .object entries => entriesHaveLoneObjects entries
  | _ => true

def itemsHaveLoneObjects : List Json.Value → Bool
  | [] => true
  | v :: rest => hasLoneObjects v && itemsHaveLoneObjects rest

def entriesHaveLoneObjects : List (String × Json.Value) → Bool
  | [] => true
  | (_, v) :: rest => hasLoneObjects v && entriesHaveLoneObjects rest

end

def Declares (set : TypeSet) (declarations : List Declaration) : Prop :=
  ∀ d ∈ declarations, set.declaration? d.name = some d

theorem Declares.left {set : TypeSet} {a b : List Declaration} (h : Declares set (a ++ b)) :
    Declares set a :=
  fun d hd => h d (List.mem_append_left b hd)

theorem Declares.right {set : TypeSet} {a b : List Declaration} (h : Declares set (a ++ b)) :
    Declares set b :=
  fun d hd => h d (List.mem_append_right a hd)

/-- With distinct names every declaration of a set is found under its name. -/
theorem declares_of_nodup {set : TypeSet}
    (distinct : (set.declarations.map Declaration.name).Nodup) :
    Declares set set.declarations := by
  intro d hd
  unfold TypeSet.declaration?
  generalize set.declarations = ds at distinct hd
  induction ds with
  | nil => exact absurd hd List.not_mem_nil
  | cons e ds ih =>
      rw [List.map_cons, List.nodup_cons] at distinct
      by_cases hname : e.name = d.name
      · rcases List.mem_cons.1 hd with rfl | hd
        · simp
        · exact absurd (hname ▸ List.mem_map.2 ⟨d, hd, rfl⟩) distinct.1
      · have hd' : d ∈ ds := by
          rcases List.mem_cons.1 hd with rfl | hd
          · exact absurd rfl hname
          · exact hd
        rw [List.find?_cons_of_neg (by simpa using hname)]
        exact ih distinct.2 hd'

/-- A list conforms to the shape made of its variants, also where numbers are widened. -/
theorem conforms_ofVariants {set : TypeSet} {items : List Json.Value} {variants : List Shape}
    (h : ∀ v ∈ items, ConformsToOne set v variants) :
    Conforms set (.array items) (ofVariants variants) := by
  have number : ∀ {v : Json.Value} {s : Shape}, s = .integer ∨ s = .float →
      Conforms set v s → Conforms set v .float := by
    intro v s hs hv
    rcases hs with rfl | rfl <;> cases hv <;> exact .float _
  unfold ofVariants
  split
  · exact .list fun v _ => .any v
  · refine .list fun v hv => ?_
    obtain ⟨hs, hconf⟩ := h v hv
    exact List.mem_singleton.1 hs ▸ hconf
  · refine .list fun v hv => ?_
    obtain ⟨hs, hconf⟩ := h v hv
    exact number (by simpa using hs) hconf
  · refine .list fun v hv => ?_
    obtain ⟨hs, hconf⟩ := h v hv
    exact number (by simpa using Or.symm (by simpa using hs)) hconf
  · exact .unionList h

theorem subset_addVariant (variants : List Shape) (s : Shape) :
    variants ⊆ addVariant variants s := by
  intro t ht
  unfold addVariant
  split
  · exact ht
  · exact List.mem_append_left [s] ht

theorem mem_addVariant (variants : List Shape) (s : Shape) : s ∈ addVariant variants s := by
  unfold addVariant
  split
  · next h => exact List.contains_iff_mem.1 h
  · exact List.mem_append_right variants List.mem_cons_self

theorem mem_of_mem_addVariant {variants : List Shape} {s t : Shape}
    (h : t ∈ addVariant variants s) : t ∈ variants ∨ t = s := by
  unfold addVariant at h
  split at h
  · exact .inl h
  · simpa using h

/-- Variants are only ever added. -/
theorem subset_inferItems (taken : List String) (name : String) (object? : Option Shape)
    (variants : List Shape) (declarations : List Declaration) (items : List Json.Value) :
    variants ⊆ (inferItems taken name object? variants declarations items).1 := by
  induction items generalizing taken object? variants declarations with
  | nil => exact fun _ h => h
  | cons item rest ih =>
      unfold inferItems
      split
      · exact fun t ht => ih _ _ _ _ (subset_addVariant variants _ ht)
      · exact fun t ht => ih _ _ _ _ (subset_addVariant variants _ ht)

/-- An element that cannot share the declaration of an earlier object is inferred anew. -/
theorem inferItems_cons {item : Json.Value} {object? : Option Shape}
    (h : isObject item = true → object? = none) (taken : List String) (name : String)
    (variants : List Shape) (declarations : List Declaration) (rest : List Json.Value) :
    inferItems taken name object? variants declarations (item :: rest) =
      inferItems (taking (infer taken name item).2 taken) name
        (if isObject item then some (infer taken name item).1 else object?)
        (addVariant variants (infer taken name item).1)
        (declarations ++ (infer taken name item).2) rest := by
  cases hitem : isObject item with
  | false => simp [inferItems, hitem]
  | true => simp [inferItems, hitem, h hitem]

mutual

/-- A value conforms to its shape wherever its declarations are found under their names. -/
theorem infer_conforms (set : TypeSet) (taken : List String) (name : String) :
    ∀ v : Json.Value, hasLoneObjects v = true → Declares set (infer taken name v).2 →
      Conforms set v (infer taken name v).1
  | .null, _, _ => .any _
  | .bool _, _, _ => .bool _
  | .number (.integer _), _, _ => .integer _
  | .number (.float _), _, _ => .float _
  | .string _, _, _ => .string _
  | .array items, lone, declared => by
      rw [hasLoneObjects, Bool.and_eq_true] at lone
      have few : items.countP isObject ≤ 1 := by simpa [atMostOneObject] using lone.1
      exact conforms_ofVariants
        (inferItems_conform set taken (name ++ "Item") none [] [] items lone.2 few declared)
  | .object entries, lone, declared => by
      rw [hasLoneObjects] at lone
      let own := Fresh.name taken name (Fresh.plain name)
      obtain ⟨fields, hfields, conform⟩ :=
        inferFields_conform set (own :: taken) own [] [] entries lone
      change Declares set (⟨own, (inferFields (own :: taken) own [] [] entries).1⟩ ::
        (inferFields (own :: taken) own [] [] entries).2) at declared
      have found := declared _ List.mem_cons_self
      have below := fun d hd => declared d (List.mem_cons_of_mem _ hd)
      refine .ref found ?_
      rw [hfields]
      exact conform below

/--
Every element of a list conforms to one of the variants.  An object is never
given the shape of an earlier one, since there is at most one: `object?` counts
the one that may have been met before.
-/
theorem inferItems_conform (set : TypeSet) (taken : List String) (name : String)
    (object? : Option Shape) (variants : List Shape) (declarations : List Declaration) :
    ∀ items : List Json.Value, itemsHaveLoneObjects items = true →
      items.countP isObject + (if object?.isSome then 1 else 0) ≤ 1 →
        Declares set (inferItems taken name object? variants declarations items).2 →
          ∀ v ∈ items, ConformsToOne set v
            (inferItems taken name object? variants declarations items).1
  | [], _, _, _ => fun _ h => absurd h List.not_mem_nil
  | item :: rest, lone, few, declared => by
      rw [itemsHaveLoneObjects, Bool.and_eq_true] at lone
      have unshared : isObject item = true → object? = none := by
        intro hitem
        rw [List.countP_cons_of_pos hitem] at few
        cases object? with
        | none => rfl
        | some s => simp at few
      have few' : rest.countP isObject +
          (if (if isObject item then some (infer taken name item).1 else object?).isSome
            then 1 else 0) ≤ 1 := by
        cases hitem : isObject item with
        | true =>
            rw [List.countP_cons_of_pos hitem] at few
            simp only [if_true, Option.isSome_some]
            omega
        | false => simpa [List.countP_cons_of_neg, hitem] using few
      rw [inferItems_cons unshared] at declared ⊢
      obtain ⟨new, hnew, -⟩ := inferItems_fresh (taking (infer taken name item).2 taken) name
        (if isObject item then some (infer taken name item).1 else object?)
        (addVariant variants (infer taken name item).1)
        (declarations ++ (infer taken name item).2) rest
      have declaredHere : Declares set (infer taken name item).2 := by
        rw [hnew] at declared
        exact declared.left.right
      have here := infer_conforms set taken name item lone.1 declaredHere
      have later := inferItems_conform set _ name _ _ _ rest lone.2 few' declared
      intro v hv
      rcases List.mem_cons.1 hv with rfl | hv
      · exact .intro (subset_inferItems _ _ _ _ _ _ (mem_addVariant variants _)) here
      · exact later v hv

/-- The entries of an object conform to the fields inferred for them, in order. -/
theorem inferFields_conform (set : TypeSet) (taken : List String) (own : String)
    (done : List Field) (declarations : List Declaration) :
    ∀ entries : List (String × Json.Value), entriesHaveLoneObjects entries = true →
      ∃ fields, (inferFields taken own done declarations entries).1 = done.reverse ++ fields ∧
        (Declares set (inferFields taken own done declarations entries).2 →
          ConformsToFields set entries fields)
  | [], _ => ⟨[], (List.append_nil _).symm, fun _ => .nil⟩
  | (key, value) :: rest, lone => by
      rw [entriesHaveLoneObjects, Bool.and_eq_true] at lone
      let child := infer taken (own ++ namePart key) value
      let field : Field := ⟨key, child.1, value == .null⟩
      obtain ⟨fields, hfields, conform⟩ := inferFields_conform set (taking child.2 taken) own
        (field :: done) (declarations ++ child.2) rest lone.2
      obtain ⟨new, hnew, -⟩ := inferFields_fresh (taking child.2 taken) own (field :: done)
        (declarations ++ child.2) rest
      refine ⟨field :: fields, ?_, ?_⟩
      · change (inferFields (taking child.2 taken) own (field :: done)
          (declarations ++ child.2) rest).1 = _
        rw [hfields, List.reverse_cons, List.append_assoc, List.singleton_append]
      · intro declared
        change Declares set (inferFields (taking child.2 taken) own (field :: done)
          (declarations ++ child.2) rest).2 at declared
        have declaredHere : Declares set child.2 := by
          rw [hnew] at declared
          exact declared.left.right
        have here : Conforms set value field.shape :=
          infer_conforms set taken (own ++ namePart key) value lone.1 declaredHere
        exact .cons here (conform declared)

end

/--
A sample conforms to the types inferred from it, whatever name they are given,
if no list in it has two objects.
-/
theorem sample_conforms (name : String) (sample : Json.Value)
    (lone : hasLoneObjects sample = true) :
    Conforms (TypeSet.ofSample name sample) sample (TypeSet.ofSample name sample).root := by
  have fresh := infer_fresh [] name sample
  have declared : Declares (TypeSet.ofSample name sample)
      (TypeSet.ofSample name sample).declarations := declares_of_nodup fresh.distinct
  exact infer_conforms _ [] name sample lone declared

/-- Two objects whose names collide, and a list with an object, numbers of both kinds and a list. -/
theorem sample_conforms_colliding :
    let zero : Json.Value := .number (.float .zero)
    let sample : Json.Value := .object
      [ ("a", .object [("b", .object [("x", .ofNat 1)])]),
        ("aB", .object [("y", .null)]),
        ("list", .array [.ofNat 1, zero, .object [("z", .bool true)], .array [zero, .ofNat 2]]) ]
    hasLoneObjects sample = true ∧
      (TypeSet.ofSample "Root" sample).declarations.map Declaration.name =
        ["Root", "RootA", "RootAB", "RootAB2", "RootListItem"] ∧
      Conforms (TypeSet.ofSample "Root" sample) sample (TypeSet.ofSample "Root" sample).root := by
  intro zero sample
  have lone : hasLoneObjects sample = true := by decide
  exact ⟨lone, by decide +kernel, sample_conforms "Root" sample lone⟩

end Shape

end RequestScribe
