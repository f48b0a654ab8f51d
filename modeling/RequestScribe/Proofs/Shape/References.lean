import RequestScribe.Proofs.Shape.Conformance

/-!
# References between declarations

The declarations of a type set form a tree: the root shape and the fields of the
declarations refer to every declaration just once, to nothing else, and to a
declaration only before it comes.  All names begin with the name of the root.

What the recursion carries is this: the declarations that a value adds grow from
the references in its shape.  They and the references among them are, up to
order, each other's names, so nothing refers beyond them.
-/

namespace RequestScribe

namespace Shape

mutual

/-- The names that a shape refers to, as often as it does. -/
def references : Shape → List String
  | .list element => references element
  | .unionList variants => allReferences variants
  | .ref name => [name]
  | _ => []

def allReferences : List Shape → List String
  | [] => []
  | s :: rest => references s ++ allReferences rest

end

theorem allReferences_eq (shapes : List Shape) :
    allReferences shapes = shapes.flatMap references := by
  induction shapes with
  | nil => rfl
  | cons s rest ih => rw [allReferences, ih, List.flatMap_cons]

/-- Widening integers to floats loses no reference. -/
theorem references_ofVariants (variants : List Shape) :
    (ofVariants variants).references = variants.flatMap references := by
  unfold ofVariants
  split
  · rfl
  · simp [references]
  · simp [references]
  · simp [references]
  · rw [references, allReferences_eq]

end Shape

def Declaration.references (d : Declaration) : List String :=
  d.fields.flatMap fun f => f.shape.references

def TypeSet.references (set : TypeSet) : List String :=
  set.root.references ++ set.declarations.flatMap Declaration.references

namespace Shape

/-- Whether every declaration is among the names known before it, from fields or to begin with. -/
def ParentsFirst (known : List String) : List Declaration → Prop
  | [] => True
  | d :: rest => d.name ∈ known ∧ ParentsFirst (known ++ d.references) rest

theorem ParentsFirst.mono {known more : List String} {declarations : List Declaration}
    (h : ParentsFirst known declarations) (subset : known ⊆ more) :
    ParentsFirst more declarations := by
  induction declarations generalizing known more with
  | nil => exact h
  | cons d rest ih =>
      refine ⟨subset h.1, ih h.2 ?_⟩
      intro name mem
      rcases List.mem_append.1 mem with mem | mem
      · exact List.mem_append_left _ (subset mem)
      · exact List.mem_append_right _ mem

theorem ParentsFirst.append {known : List String} {first second : List Declaration}
    (h₁ : ParentsFirst known first) (h₂ : ParentsFirst known second) :
    ParentsFirst known (first ++ second) := by
  induction first generalizing known with
  | nil => exact h₂
  | cons d rest ih => exact ⟨h₁.1, ih h₁.2 (h₂.mono (List.subset_append_left _ _))⟩

theorem ParentsFirst.exists_parent {known : List String} {before after : List Declaration}
    {d : Declaration} (h : ParentsFirst known (before ++ d :: after)) :
    d.name ∈ known ∨ ∃ e ∈ before, d.name ∈ e.references := by
  induction before generalizing known with
  | nil => exact .inl h.1
  | cons e before ih =>
      rcases ih h.2 with mem | ⟨parent, hparent, mem⟩
      · rcases List.mem_append.1 mem with mem | mem
        · exact .inl mem
        · exact .inr ⟨e, List.mem_cons_self, mem⟩
      · exact .inr ⟨parent, List.mem_cons_of_mem e hparent, mem⟩

/-- Declarations that some references need, with all that they need in turn. -/
structure GrowsFrom (name : String) (roots : List String) (declarations : List Declaration) :
    Prop where
  named : ∀ d ∈ declarations, name.toList <+: d.name.toList
  once : (roots ++ declarations.flatMap Declaration.references).Perm
    (declarations.map Declaration.name)
  ordered : ParentsFirst roots declarations

theorem growsFrom_nil (name : String) : GrowsFrom name [] [] :=
  ⟨fun _ mem => absurd mem List.not_mem_nil, .nil, trivial⟩

theorem GrowsFrom.weaken {name longer : String} {roots : List String}
    {declarations : List Declaration} (h : GrowsFrom longer roots declarations)
    (start : name.toList <+: longer.toList) : GrowsFrom name roots declarations :=
  ⟨fun d mem => start.trans (h.named d mem), h.once, h.ordered⟩

theorem GrowsFrom.append {name : String} {roots₁ roots₂ : List String}
    {first second : List Declaration} (h₁ : GrowsFrom name roots₁ first)
    (h₂ : GrowsFrom name roots₂ second) :
    GrowsFrom name (roots₁ ++ roots₂) (first ++ second) where
  named d mem := (List.mem_append.1 mem).elim (h₁.named d) (h₂.named d)
  once := by
    have both := h₁.once.append h₂.once
    rw [List.flatMap_append, List.map_append]
    refine List.Perm.trans ?_ both
    simp only [List.append_assoc]
    refine List.Perm.append_left roots₁ ?_
    rw [← List.append_assoc, ← List.append_assoc]
    exact List.perm_append_comm.append_right _
  ordered := (h₁.ordered.mono (List.subset_append_left _ _)).append
    (h₂.ordered.mono (List.subset_append_right _ _))

/-- An object is declared in front of what its fields need. -/
theorem GrowsFrom.declare {name own : String} (start : name.toList <+: own.toList)
    {fields : List Field} {declarations : List Declaration}
    (h : GrowsFrom own (fields.flatMap fun f => f.shape.references) declarations) :
    GrowsFrom name [own] (⟨own, fields⟩ :: declarations) where
  named := List.forall_mem_cons.2 ⟨start, (h.weaken start).named⟩
  once := h.once.cons own
  ordered := ⟨List.mem_singleton_self own, h.ordered.mono (List.subset_append_right _ _)⟩

/-- A value refers to its own declarations only. -/
theorem GrowsFrom.mem_names {name : String} {roots : List String}
    {declarations : List Declaration} (h : GrowsFrom name roots declarations) {n : String}
    (mem : n ∈ roots) : n ∈ declarations.map Declaration.name :=
  h.once.subset (List.mem_append_left _ mem)

theorem prefix_name (taken : List String) (name : String) :
    name.toList <+: (Fresh.name taken name (Fresh.plain name)).toList := by
  obtain ⟨digits, named, -⟩ := Fresh.exists_name_eq taken name
  rw [named, String.toList_append]
  exact List.prefix_append _ _

theorem prefix_append (a b : String) : a.toList <+: (a ++ b).toList := by
  rw [String.toList_append]
  exact List.prefix_append _ _

/-- A shape that refers to new names only adds its references, or has none and is there. -/
theorem exists_addVariant_eq {taken : List String} {variants : List Shape} {s : Shape}
    (known : ∀ t ∈ variants, ∀ n ∈ t.references, n ∈ taken)
    (new : ∀ n ∈ s.references, n ∉ taken) :
    ∃ added, addVariant variants s = variants ++ added ∧
      added.flatMap references = s.references := by
  unfold addVariant
  split
  · next there =>
      have old := known s (List.contains_iff_mem.1 there)
      have none : s.references = [] :=
        List.eq_nil_iff_forall_not_mem.2 fun n mem => new n mem (old n mem)
      exact ⟨[], (List.append_nil _).symm, none.symm⟩
  · exact ⟨[s], rfl, by simp⟩

mutual

/-- The declarations of a value grow from the references in its shape. -/
theorem infer_growsFrom (taken : List String) (name : String) :
    ∀ v : Json.Value, GrowsFrom name (infer taken name v).1.references (infer taken name v).2
  | .null => growsFrom_nil name
  | .bool _ => growsFrom_nil name
  | .number (.integer _) => growsFrom_nil name
  | .number (.float _) => growsFrom_nil name
  | .string _ => growsFrom_nil name
  | .array items => by
      obtain ⟨variants, new, hvariants, hnew, grown⟩ :=
        inferItems_growsFrom taken (name ++ "Item") none [] []
          (fun _ mem => absurd mem List.not_mem_nil) (fun _ none => nomatch none) items
      rw [List.nil_append] at hvariants hnew
      simp only [infer, hvariants, hnew, references_ofVariants]
      exact grown.weaken (prefix_append name "Item")
  | .object fields => by
      let own := Fresh.name taken name (Fresh.plain name)
      obtain ⟨own_fields, new, hfields, hnew, grown⟩ :=
        inferFields_growsFrom (own :: taken) own [] [] fields
      rw [List.reverse_nil, List.nil_append] at hfields
      rw [List.nil_append] at hnew
      change GrowsFrom name [own] (⟨own, (inferFields (own :: taken) own [] [] fields).1⟩ ::
        (inferFields (own :: taken) own [] [] fields).2)
      rw [hfields, hnew]
      exact grown.declare (prefix_name taken name)

/--
What the elements of a list add.  The variants that are there refer to names
that are taken, and the shape of the first object is among them, so sharing it
adds no reference.
-/
theorem inferItems_growsFrom (taken : List String) (name : String) (object? : Option Shape)
    (variants : List Shape) (declarations : List Declaration)
    (known : ∀ t ∈ variants, ∀ n ∈ t.references, n ∈ taken)
    (shared : ∀ s, object? = some s → s ∈ variants) :
    ∀ items : List Json.Value, ∃ more new,
      (inferItems taken name object? variants declarations items).1 = variants ++ more ∧
        (inferItems taken name object? variants declarations items).2 = declarations ++ new ∧
        GrowsFrom name (more.flatMap references) new
  | [] => ⟨[], [], (List.append_nil _).symm, (List.append_nil _).symm, growsFrom_nil name⟩
  | item :: rest => by
      by_cases share : isObject item = true ∧ object?.isSome
      · obtain ⟨s, rfl⟩ := Option.isSome_iff_exists.1 share.2
        have there : addVariant variants s = variants :=
          if_pos (List.contains_iff_mem.2 (shared s rfl))
        have later := inferItems_growsFrom taken name (some s) variants declarations known shared
          rest
        simp only [inferItems, share.1, there]
        exact later
      · have anew : isObject item = true → object? = none := fun hitem =>
          Option.not_isSome_iff_eq_none.1 fun hsome => share ⟨hitem, hsome⟩
        rw [inferItems_cons anew]
        have first := infer_growsFrom taken name item
        have fresh := infer_fresh taken name item
        generalize infer taken name item = child at first fresh ⊢
        -- The names of the element's declarations are new, and its shape refers to those only.
        have own : ∀ n ∈ child.1.references, n ∈ taking child.2 taken := fun n mem =>
          mem_taking.2 (.inl (List.mem_map.1 (first.mem_names mem)))
        have new : ∀ n ∈ child.1.references, n ∉ taken := by
          intro n mem
          obtain ⟨d, hd, rfl⟩ := List.mem_map.1 (first.mem_names mem)
          exact fresh.free d hd
        obtain ⟨added, hadded, added_references⟩ := exists_addVariant_eq known new
        have known' : ∀ t ∈ addVariant variants child.1, ∀ n ∈ t.references,
            n ∈ taking child.2 taken := by
          intro t mem n hn
          rcases mem_of_mem_addVariant mem with mem | rfl
          · exact mem_taking.2 (.inr (known t mem n hn))
          · exact own n hn
        have shared' : ∀ s, (if isObject item then some child.1 else object?) = some s →
            s ∈ addVariant variants child.1 := by
          intro s hs
          split at hs
          · obtain rfl := Option.some.inj hs
            exact mem_addVariant variants _
          · exact subset_addVariant variants _ (shared s hs)
        obtain ⟨more, rest_new, hmore, hrest, grown⟩ := inferItems_growsFrom
          (taking child.2 taken) name _ _ (declarations ++ child.2) known' shared' rest
        refine ⟨added ++ more, child.2 ++ rest_new, ?_, ?_, ?_⟩
        · rw [hmore, hadded, List.append_assoc]
        · rw [hrest, List.append_assoc]
        · rw [List.flatMap_append, added_references]
          exact first.append grown

/-- What the fields of an object add. -/
theorem inferFields_growsFrom (taken : List String) (own : String) (done : List Field)
    (declarations : List Declaration) :
    ∀ entries : List (String × Json.Value), ∃ fields new,
      (inferFields taken own done declarations entries).1 = done.reverse ++ fields ∧
        (inferFields taken own done declarations entries).2 = declarations ++ new ∧
        GrowsFrom own (fields.flatMap fun f => f.shape.references) new
  | [] => ⟨[], [], (List.append_nil _).symm, (List.append_nil _).symm, growsFrom_nil own⟩
  | (key, value) :: rest => by
      let child := infer taken (own ++ namePart key) value
      let field : Field := ⟨key, child.1, value == .null⟩
      have first : GrowsFrom own child.1.references child.2 :=
        (infer_growsFrom taken (own ++ namePart key) value).weaken (prefix_append own _)
      obtain ⟨fields, new, hfields, hnew, grown⟩ := inferFields_growsFrom (taking child.2 taken)
        own (field :: done) (declarations ++ child.2) rest
      refine ⟨field :: fields, child.2 ++ new, ?_, ?_, first.append grown⟩
      · change (inferFields (taking child.2 taken) own (field :: done)
          (declarations ++ child.2) rest).1 = _
        rw [hfields, List.reverse_cons, List.append_assoc, List.singleton_append]
      · change (inferFields (taking child.2 taken) own (field :: done)
          (declarations ++ child.2) rest).2 = _
        rw [hnew, List.append_assoc]

end

end Shape

namespace TypeSet

/--
A type set whose declarations have names of their own that begin with the name
of the set, and in which every declaration is referred to just once: by the root
or by a field of an earlier declaration.
-/
structure IsTree (set : TypeSet) : Prop where
  distinct : (set.declarations.map Declaration.name).Nodup
  named : ∀ d ∈ set.declarations, set.name.toList <+: d.name.toList
  closed : ∀ name ∈ set.references, ∃ d, set.declaration? name = some d ∧ d ∈ set.declarations
  once : ∀ d ∈ set.declarations, set.references.count d.name = 1
  parentsFirst : ∀ before d after, set.declarations = before ++ d :: after →
    d.name ∈ set.root.references ∨ ∃ parent ∈ before, d.name ∈ parent.references

/-- The types inferred from a sample form a tree, whatever the sample and the name. -/
theorem ofSample_isTree (name : String) (sample : Json.Value) :
    (ofSample name sample).name = name ∧ (ofSample name sample).IsTree := by
  have grown := Shape.infer_growsFrom [] name sample
  have fresh := Shape.infer_fresh [] name sample
  have declared : Shape.Declares (ofSample name sample) (ofSample name sample).declarations :=
    Shape.declares_of_nodup fresh.distinct
  refine ⟨rfl, fresh.distinct, grown.named, ?_, ?_, ?_⟩
  · intro n mem
    obtain ⟨d, hd, rfl⟩ := List.mem_map.1 (grown.once.subset mem)
    exact ⟨d, declared d hd, hd⟩
  · intro d hd
    have there : d.name ∈ (Shape.infer [] name sample).2.map Declaration.name :=
      List.mem_map_of_mem hd
    have counted := grown.once.count_eq d.name
    rw [fresh.distinct.count, if_pos there] at counted
    exact counted
  · intro before d after split
    have ordered := grown.ordered
    change (Shape.infer [] name sample).2 = _ at split
    rw [split] at ordered
    exact ordered.exists_parent

end TypeSet

end RequestScribe
