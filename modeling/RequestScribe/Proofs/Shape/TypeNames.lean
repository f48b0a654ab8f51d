import RequestScribe.Proofs.Name.Fresh
import RequestScribe.Proofs.Text.Chars
import RequestScribe.Shape.Infer

/-!
# Names of inferred declarations

Every declaration gets a name that no earlier one has.  What is carried through
the recursion is a list of names that are taken; the declarations that a value
adds have names of their own, which differ from each other and from those.

A place whose name is made of letters and digits and begins with a capital gives
only such names to the declarations that are inferred there: what keys and
numbers add are letters and digits.
-/

namespace RequestScribe

/-! ## Different names -/

namespace Shape

structure FreshFor (taken : List String) (declarations : List Declaration) : Prop where
  distinct : (declarations.map Declaration.name).Nodup
  free : ∀ d ∈ declarations, d.name ∉ taken

theorem freshFor_nil (taken : List String) : FreshFor taken [] :=
  ⟨List.nodup_nil, fun _ h => absurd h List.not_mem_nil⟩

theorem mem_taking {declarations : List Declaration} {taken : List String} {name : String} :
    name ∈ taking declarations taken ↔ (∃ d ∈ declarations, d.name = name) ∨ name ∈ taken := by
  simp [taking]

/-- Later declarations only have to avoid the names that the earlier ones took as well. -/
theorem FreshFor.append {taken : List String} {first second : List Declaration}
    (h₁ : FreshFor taken first) (h₂ : FreshFor (taking first taken) second) :
    FreshFor taken (first ++ second) where
  distinct := by
    rw [List.map_append, List.nodup_append]
    refine ⟨h₁.distinct, h₂.distinct, ?_⟩
    intro a ha b hb hab
    obtain ⟨d, hd, rfl⟩ := List.mem_map.1 ha
    obtain ⟨e, he, rfl⟩ := List.mem_map.1 hb
    exact h₂.free e he (mem_taking.2 (.inl ⟨d, hd, hab⟩))
  free d hd := by
    rcases List.mem_append.1 hd with hd | hd
    · exact h₁.free d hd
    · exact fun htaken => h₂.free d hd (mem_taking.2 (.inr htaken))

theorem FreshFor.cons {taken : List String} {own : String} {fields : List Field}
    {declarations : List Declaration} (hown : own ∉ taken)
    (h : FreshFor (own :: taken) declarations) :
    FreshFor taken (⟨own, fields⟩ :: declarations) where
  distinct := by
    refine List.nodup_cons.2 ⟨?_, h.distinct⟩
    intro hmem
    obtain ⟨d, hd, hname⟩ := List.mem_map.1 hmem
    exact h.free d hd (hname ▸ List.mem_cons_self)
  free d hd := by
    rcases List.mem_cons.1 hd with rfl | hd
    · exact hown
    · exact fun htaken => h.free d hd (List.mem_cons_of_mem own htaken)

mutual

theorem infer_fresh (taken : List String) (name : String) :
    ∀ v : Json.Value, FreshFor taken (infer taken name v).2
  | .null => freshFor_nil taken
  | .bool _ => freshFor_nil taken
  | .number (.integer _) => freshFor_nil taken
  | .number (.float _) => freshFor_nil taken
  | .string _ => freshFor_nil taken
  | .array items => by
      obtain ⟨new, hnew, fresh⟩ := inferItems_fresh taken (name ++ "Item") none [] [] items
      rw [List.nil_append] at hnew
      simpa only [infer, hnew] using fresh
  | .object fields => by
      let own := Fresh.name taken name (Fresh.plain name)
      obtain ⟨new, hnew, fresh⟩ := inferFields_fresh (own :: taken) own [] [] fields
      rw [List.nil_append] at hnew
      have hown : own ∉ taken := Fresh.name_not_mem taken (Fresh.numbering_plain name)
      change FreshFor taken (⟨own, _⟩ :: (inferFields (own :: taken) own [] [] fields).2)
      rw [hnew]
      exact fresh.cons hown

/-- The elements of a list add their declarations after those that are there. -/
theorem inferItems_fresh (taken : List String) (name : String) (object? : Option Shape)
    (variants : List Shape) (declarations : List Declaration) :
    ∀ items : List Json.Value, ∃ new,
      (inferItems taken name object? variants declarations items).2 = declarations ++ new ∧
        FreshFor taken new
  | [] => ⟨[], (List.append_nil declarations).symm, freshFor_nil taken⟩
  | item :: rest => by
      unfold inferItems
      split
      · exact inferItems_fresh taken name _ _ declarations rest
      · have first := infer_fresh taken name item
        obtain ⟨new, hnew, fresh⟩ := inferItems_fresh (taking (infer taken name item).2 taken)
          name _ (addVariant variants (infer taken name item).1)
          (declarations ++ (infer taken name item).2) rest
        exact ⟨_, hnew.trans (List.append_assoc ..), first.append fresh⟩

/-- The fields of an object add their declarations after those that are there. -/
theorem inferFields_fresh (taken : List String) (own : String) (done : List Field)
    (declarations : List Declaration) :
    ∀ fields : List (String × Json.Value), ∃ new,
      (inferFields taken own done declarations fields).2 = declarations ++ new ∧
        FreshFor taken new
  | [] => ⟨[], (List.append_nil declarations).symm, freshFor_nil taken⟩
  | (key, value) :: rest => by
      unfold inferFields
      have first := infer_fresh taken (own ++ namePart key) value
      obtain ⟨new, hnew, fresh⟩ := inferFields_fresh
        (taking (infer taken (own ++ namePart key) value).2 taken) own
        (⟨key, (infer taken (own ++ namePart key) value).1, value == .null⟩ :: done)
        (declarations ++ (infer taken (own ++ namePart key) value).2) rest
      exact ⟨_, hnew.trans (List.append_assoc ..), first.append fresh⟩

end

end Shape

/-! ## Names of types -/

namespace WordCase

def Cut.Holds (p : Char → Prop) (cut : Cut) : Prop :=
  (∀ w ∈ cut.words, ∀ c ∈ w, p c) ∧ ∀ cluster ∈ cut.word, ∀ c ∈ cluster, p c

theorem Cut.Holds.endWord {p : Char → Prop} {cut : Cut} (h : cut.Holds p) :
    cut.endWord.Holds p := by
  unfold Cut.endWord
  split
  · exact h
  · refine ⟨List.forall_mem_cons.2 ⟨fun c mem => ?_, h.1⟩,
      fun cluster mem => absurd mem List.not_mem_nil⟩
    obtain ⟨cluster, held, inside⟩ := List.mem_flatten.1 mem
    exact h.2 cluster (List.mem_reverse.1 held) c inside

theorem Cut.Holds.feed {p : Char → Prop} {cut : Cut} (h : cut.Holds p) {cluster : List Char}
    (hc : isSeparator cluster = false → ∀ c ∈ cluster, p c) (next? : Option (List Char)) :
    (cut.feed cluster next?).Holds p := by
  unfold Cut.feed
  dsimp only
  split
  · exact h.endWord
  · next inside =>
      have push {cut : Cut} (h : cut.Holds p) :
          Cut.Holds p { cut with word := cluster :: cut.word, previous? := some cluster } :=
        ⟨h.1, List.forall_mem_cons.2 ⟨hc (by simpa using inside), h.2⟩⟩
      have before (starts : Bool) : Cut.Holds p (if starts then cut.endWord else cut) := by
        cases starts with
        | false => exact h
        | true => exact h.endWord
      exact push (before _)

/-- The words of a name consist of its clusters, without the separators. -/
theorem forall_mem_words {p : Char → Prop} {name : List Char}
    (h : ∀ cluster ∈ Chars.clusters name, isSeparator cluster = false → ∀ c ∈ cluster, p c) :
    ∀ w ∈ words name, ∀ c ∈ w, p c := by
  have run (cut : Cut) (clusters : List (List Char)) (start : cut.Holds p)
      (h : ∀ cluster ∈ clusters, isSeparator cluster = false → ∀ c ∈ cluster, p c) :
      (cut.run clusters).Holds p := by
    induction clusters generalizing cut with
    | nil => exact start.endWord
    | cons cluster rest ih =>
        obtain ⟨first, later⟩ := List.forall_mem_cons.1 h
        exact ih _ (start.feed first rest.head?) later
  have empty : Cut.Holds p {} := ⟨by simp, by simp⟩
  intro w mem
  exact (run {} _ empty h).1 w (List.mem_reverse.1 mem)

/-- Of letters and digits between spaces nothing but letters and digits is made. -/
theorem isAlphanumeric_of_mem_pascal {name : List Char}
    (h : ∀ c ∈ name, Chars.isAlphanumeric c = true ∨ c = ' ') :
    ∀ c ∈ pascal name, Chars.isAlphanumeric c = true := by
  have upper {cs : List Char} (hc : ∀ c ∈ cs, Chars.isAlphanumeric c = true) :
      ∀ d ∈ LetterCase.upperText cs, Chars.isAlphanumeric d = true := by
    refine List.forall_mem_flatMap.2 fun c mem => ?_
    simpa [LetterCase.upper, Chars.ascii_of_isAlphanumeric (hc c mem)] using
      Chars.isAlphanumeric_toUpper (hc c mem)
  have lower {cs : List Char} (hc : ∀ c ∈ cs, Chars.isAlphanumeric c = true) :
      ∀ d ∈ LetterCase.lowerText cs, Chars.isAlphanumeric d = true := by
    refine List.forall_mem_flatMap.2 fun c mem => ?_
    simpa [LetterCase.lower, Chars.ascii_of_isAlphanumeric (hc c mem)] using
      Chars.isAlphanumeric_toLower (hc c mem)
  have plain : ∀ c ∈ name, Cluster.isPlain c = true := by
    intro c mem
    rcases h c mem with letter | rfl
    · exact Chars.isPlain_of_isAlphanumeric letter
    · rfl
  have inWords : ∀ w ∈ words name, ∀ c ∈ w, Chars.isAlphanumeric c = true := by
    refine forall_mem_words ?_
    rw [Chars.clusters_of_isPlain plain]
    refine List.forall_mem_map.2 fun c mem inside => List.forall_mem_singleton.2 ?_
    rcases h c mem with letter | rfl
    · exact letter
    · exact absurd inside (by decide)
  refine List.forall_mem_flatMap.2 fun w hw => ?_
  have whole := Chars.flatten_clusters w
  unfold capitalizedWord
  split
  · exact fun c mem => absurd mem List.not_mem_nil
  · next first rest cut =>
      rw [cut, List.flatten_cons] at whole
      have letters := inWords w hw
      rw [← whole, List.forall_mem_append] at letters
      exact List.forall_mem_append.2 ⟨upper letters.1, lower letters.2⟩

end WordCase

/-- A capital, with letters and digits behind it. -/
def IsTypeName (name : String) : Prop :=
  ∃ first rest, name.toList = first :: rest ∧ first.isUpper = true ∧
    ∀ c ∈ rest, Chars.isAlphanumeric c = true

theorem IsTypeName.append {name suffix : String} (h : IsTypeName name)
    (more : ∀ c ∈ suffix.toList, Chars.isAlphanumeric c = true) : IsTypeName (name ++ suffix) := by
  obtain ⟨first, rest, text, capital, plain⟩ := h
  refine ⟨first, rest ++ suffix.toList, ?_, capital, ?_⟩
  · rw [String.toList_append, text, List.cons_append]
  · exact List.forall_mem_append.2 ⟨plain, more⟩

namespace Shape

theorem isAlphanumeric_of_mem_namePart (key : String) :
    ∀ c ∈ (namePart key).toList, Chars.isAlphanumeric c = true := by
  let spaced := key.toList.map fun c => if Chars.isAlphanumeric c then c else ' '
  have spaces : ∀ c ∈ Chars.trim spaced, Chars.isAlphanumeric c = true ∨ c = ' ' := by
    intro c mem
    obtain ⟨d, -, rfl⟩ := List.mem_map.1 (Chars.mem_of_mem_trim mem)
    by_cases hd : Chars.isAlphanumeric d = true
    · simp [hd]
    · exact .inr (if_neg hd)
  unfold namePart
  dsimp only
  split
  · exact List.all_eq_true.1 (by decide)
  · rw [String.toList_ofList]
    exact WordCase.isAlphanumeric_of_mem_pascal spaces

theorem isTypeName_fresh {name : String} (h : IsTypeName name) (taken : List String) :
    IsTypeName (Fresh.name taken name (Fresh.plain name)) := by
  obtain ⟨digits, named, numeric⟩ := Fresh.exists_name_eq taken name
  rw [named]
  exact h.append fun c mem => Chars.isAlphanumeric_of_isDigit (numeric c mem)

mutual

/-- A value at a place with the name of a type needs only declarations with such names. -/
theorem infer_isTypeName (taken : List String) {name : String} (h : IsTypeName name) :
    ∀ v : Json.Value, ∀ d ∈ (infer taken name v).2, IsTypeName d.name
  | .null | .bool _ | .number (.integer _) | .number (.float _) | .string _ => by simp [infer]
  | .array items =>
      inferItems_isTypeName taken (h.append (List.all_eq_true.1 (by decide))) none [] (by simp) items
  | .object fields => by
      let own := Fresh.name taken name (Fresh.plain name)
      have hown : IsTypeName own := isTypeName_fresh h taken
      exact List.forall_mem_cons.2
        ⟨hown, inferFields_isTypeName (own :: taken) hown [] (by simp) fields⟩

theorem inferItems_isTypeName (taken : List String) {name : String} (h : IsTypeName name)
    (object? : Option Shape) (variants : List Shape) {declarations : List Declaration}
    (there : ∀ d ∈ declarations, IsTypeName d.name) : ∀ items : List Json.Value,
    ∀ d ∈ (inferItems taken name object? variants declarations items).2, IsTypeName d.name
  | [] => there
  | item :: rest => by
      unfold inferItems
      split
      · exact inferItems_isTypeName taken h _ _ there rest
      · have first := infer_isTypeName taken h item
        exact inferItems_isTypeName _ h _ _ (List.forall_mem_append.2 ⟨there, first⟩) rest

theorem inferFields_isTypeName (taken : List String) {own : String} (h : IsTypeName own)
    (done : List Field) {declarations : List Declaration}
    (there : ∀ d ∈ declarations, IsTypeName d.name) : ∀ fields : List (String × Json.Value),
    ∀ d ∈ (inferFields taken own done declarations fields).2, IsTypeName d.name
  | [] => there
  | (key, value) :: rest => by
      have named : IsTypeName (own ++ namePart key) := h.append (isAlphanumeric_of_mem_namePart key)
      have first := infer_isTypeName taken named value
      exact inferFields_isTypeName _ h _ (List.forall_mem_append.2 ⟨there, first⟩) rest

end

end Shape

end RequestScribe
