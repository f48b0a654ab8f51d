import Mathlib.Data.List.Dedup
import Mathlib.Data.List.Forall2
import Mathlib.Data.Nat.Find
import RequestScribe.Name.Fresh
import RequestScribe.Program.Fragment
import RequestScribe.Shape.Go
import RequestScribe.Shape.Infer
import RequestScribe.Shape.Rust

/-!
# Names that are not taken

A name is sought among one more candidate than names are taken, so one of the
candidates is free.  All that is asked of the numbering is that it gives
different names to different numbers and never the wished name itself.

So a search without a bound ends too, and ends at the same name: the first candidate that is not
taken.
-/

namespace RequestScribe

namespace Fresh

/-- A numbering all of whose names differ, also from the wished one. -/
structure Numbering (wished : String) (numbered : Nat → String) : Prop where
  injective : ∀ i j, numbered i = numbered j → i = j
  other : ∀ i, numbered i ≠ wished

theorem toString_injective {i j : Nat} (h : toString i = toString j) : i = j := by
  have digits : Nat.toDigits 10 i = Nat.toDigits 10 j := by
    simpa only [Nat.toString_eq_repr, Nat.toList_repr] using congrArg String.toList h
  simpa using congrArg (fun ds => Nat.ofDigitChars 10 ds 0) digits

theorem numbering_plain (wished : String) : Numbering wished (plain wished) where
  injective i j h := by
    have lists := congrArg String.toList h
    simp only [plain, String.toList_append] at lists
    exact toString_injective (String.toList_inj.1 (List.append_cancel_left lists))
  other i h := by
    have lists := congrArg String.toList h
    simp [plain] at lists

theorem numbering_underscored (wished : String) : Numbering wished (underscored wished) where
  injective i j h := by
    have lists := congrArg String.toList h
    simp only [underscored, String.toList_append, List.append_assoc] at lists
    have tails := List.append_cancel_left (List.append_cancel_left lists)
    exact toString_injective (String.toList_inj.1 tails)
  other i h := by
    have lists := congrArg String.toList h
    simp [underscored] at lists

/-- As many variants as names are taken cannot all be taken beside the wished name. -/
theorem exists_variant {taken : List String} {wished : String} {numbered : Nat → String}
    (numbering : Numbering wished numbered) (h : wished ∈ taken) :
    ∃ name ∈ variants numbered taken.length, name ∉ taken := by
  by_cases full : ∃ name ∈ variants numbered taken.length, name ∉ taken
  · exact full
  · have subset : wished :: variants numbered taken.length ⊆ taken := by
      intro name hname
      rcases List.mem_cons.1 hname with rfl | hvariant
      · exact h
      · by_cases hname : name ∈ taken
        · exact hname
        · exact absurd ⟨name, hvariant, hname⟩ full
    have nodup : (wished :: variants numbered taken.length).Nodup := by
      refine List.nodup_cons.2 ⟨?_, ?_⟩
      · intro hmem
        obtain ⟨i, -, hi⟩ := List.mem_map.1 hmem
        exact numbering.other _ hi
      · refine List.Pairwise.map _ (fun i j hij => ?_) List.nodup_range
        intro heq
        exact hij (by have := numbering.injective _ _ heq; omega)
    have bound := nodup.length_le_of_subset subset
    simp only [List.length_cons, variants, List.length_map, List.length_range] at bound
    omega

theorem name_not_mem (taken : List String) {wished : String} {numbered : Nat → String}
    (numbering : Numbering wished numbered) : name taken wished numbered ∉ taken := by
  unfold name
  by_cases h : wished ∈ taken
  · rw [if_pos (List.contains_iff_mem.2 h)]
    obtain ⟨free, hfree, hnot⟩ := exists_variant numbering h
    have found : ((variants numbered taken.length).find?
        fun candidate => !taken.contains candidate).isSome := by
      rw [List.find?_isSome]
      exact ⟨free, hfree, by simpa using hnot⟩
    obtain ⟨chosen, hchosen⟩ := Option.isSome_iff_exists.1 found
    have free := List.find?_some hchosen
    rw [hchosen, Option.getD_some]
    simpa using free
  · rw [if_neg (fun hc => h (List.contains_iff_mem.1 hc))]
    exact h

/-- A name that is not taken is the wished one, perhaps with digits behind it. -/
theorem exists_name_eq (taken : List String) (wished : String) :
    ∃ digits, name taken wished (plain wished) = wished ++ digits ∧
      ∀ c ∈ digits.toList, c.isDigit = true := by
  have itself : ∃ digits, wished = wished ++ digits ∧ ∀ c ∈ digits.toList, c.isDigit = true :=
    ⟨"", String.append_empty.symm, by simp⟩
  unfold name
  split
  · cases found : (variants (plain wished) taken.length).find?
      fun candidate => !taken.contains candidate with
    | none => exact itself
    | some chosen =>
        obtain ⟨i, -, rfl⟩ := List.mem_map.1 (List.mem_of_find?_eq_some found)
        refine ⟨toString (i + 2), rfl, fun c mem => ?_⟩
        rw [Nat.toString_eq_repr, Nat.toList_repr] at mem
        exact Nat.isDigit_of_mem_toDigits (by decide) (by decide) mem
  · exact itself

/-! ## Several names -/

/-- Names for several wishes, each of them given up if an earlier wish has the name. -/
def names (taken : List String) : List String → List String
  | [] => []
  | wished :: rest =>
      let own := name taken wished (plain wished)
      own :: names (own :: taken) rest

theorem not_mem_of_mem_names {taken wishes : List String} {n : String}
    (mem : n ∈ names taken wishes) : n ∉ taken := by
  induction wishes generalizing taken with
  | nil => exact absurd mem List.not_mem_nil
  | cons wished rest ih =>
      rcases List.mem_cons.1 mem with rfl | later
      · exact name_not_mem taken (numbering_plain wished)
      · exact fun held => ih later (List.mem_cons_of_mem _ held)

theorem nodup_names (taken wishes : List String) : (names taken wishes).Nodup := by
  induction wishes generalizing taken with
  | nil => exact List.nodup_nil
  | cons wished rest ih =>
      refine List.nodup_cons.2 ⟨fun later => ?_, ih _⟩
      exact not_mem_of_mem_names later List.mem_cons_self

/-- A wish that no name is in the way of is granted to one of those who have it. -/
theorem mem_names {taken wishes : List String} {wished : String} (free : wished ∉ taken)
    (mem : wished ∈ wishes) : wished ∈ names taken wishes := by
  induction wishes generalizing taken with
  | nil => exact absurd mem List.not_mem_nil
  | cons first rest ih =>
      by_cases own : wished = name taken first (plain first)
      · exact own ▸ List.mem_cons_self
      · have other : wished ≠ first := by
          rintro rfl
          exact own (if_neg fun held => free (List.contains_iff_mem.1 held)).symm
        have still : wished ∉ name taken first (plain first) :: taken := by
          rw [List.mem_cons, not_or]
          exact ⟨own, free⟩
        exact List.mem_cons_of_mem _ (ih still ((List.mem_cons.1 mem).resolve_left other))

/-- Every name is a wish, perhaps with digits behind it. -/
theorem exists_wish {taken wishes : List String} {n : String} (mem : n ∈ names taken wishes) :
    ∃ wished ∈ wishes, ∃ digits, n = wished ++ digits ∧
      ∀ c ∈ digits.toList, c.isDigit = true := by
  induction wishes generalizing taken with
  | nil => exact absurd mem List.not_mem_nil
  | cons wished rest ih =>
      rcases List.mem_cons.1 mem with rfl | later
      · exact ⟨wished, List.mem_cons_self, exists_name_eq taken wished⟩
      · obtain ⟨other, held, granted⟩ := ih later
        exact ⟨other, List.mem_cons_of_mem wished held, granted⟩

/-- Each wish is granted, perhaps with digits behind it. -/
theorem forall₂_names (taken wishes : List String) :
    List.Forall₂ (fun wished n => ∃ digits, n = wished ++ digits ∧
      ∀ c ∈ digits.toList, c.isDigit = true) wishes (names taken wishes) := by
  induction wishes generalizing taken with
  | nil => exact .nil
  | cons wished rest ih => exact .cons (exists_name_eq taken wished) (ih _)

/-! ## The search -/

/-- What is tried: the wished name, and then its variants numbered from two. -/
def candidate (wished : String) (numbered : Nat → String) : Nat → String
  | 0 => wished
  | i + 1 => numbered (i + 2)

/--
A search without a bound: from some candidate on they are tried in order, and the first that is
not taken ends the search after so many tries.
-/
inductive Search (taken : List String) (candidate : Nat → String) : Nat → Nat → String → Prop where
  | found {i : Nat} : candidate i ∉ taken → Search taken candidate i 1 (candidate i)
  | next {i tries : Nat} {name : String} : candidate i ∈ taken →
      Search taken candidate (i + 1) tries name → Search taken candidate i (tries + 1) name

theorem search_of_first {taken : List String} {candidate : Nat → String} {i k : Nat}
    (before : ∀ j, i ≤ j → j < i + k → candidate j ∈ taken) (free : candidate (i + k) ∉ taken) :
    Search taken candidate i (k + 1) (candidate (i + k)) := by
  induction k generalizing i with
  | zero => exact .found free
  | succ k ih =>
      have shifted : i + 1 + k = i + (k + 1) := by omega
      have later := ih (i := i + 1) (fun j low high => before j (by omega) (by omega))
        (shifted ▸ free)
      exact .next (before i (Nat.le_refl i) (by omega)) (shifted ▸ later)

section

variable {wished : String} {numbered : Nat → String}

/-- The first candidate that is not taken comes after at most as many as there are taken names. -/
theorem exists_first (numbering : Numbering wished numbered) (taken : List String) :
    ∃ k ≤ taken.dedup.length, candidate wished numbered k ∉ taken ∧
      ∀ j < k, candidate wished numbered j ∈ taken := by
  have free : ∃ k ≤ taken.dedup.length, candidate wished numbered k ∉ taken := by
    by_cases held : wished ∈ taken
    · obtain ⟨name, variant, absent⟩ := exists_variant numbering (List.mem_dedup.2 held)
      obtain ⟨i, low, rfl⟩ := List.mem_map.1 variant
      exact ⟨i + 1, List.mem_range.1 low, fun mem => absent (List.mem_dedup.2 mem)⟩
    · exact ⟨0, Nat.zero_le _, held⟩
  have some : ∃ k, candidate wished numbered k ∉ taken := free.imp fun _ both => both.2
  obtain ⟨bound, low, absent⟩ := free
  have least := Nat.le_trans (Nat.find_min' some absent) low
  exact ⟨Nat.find some, least, Nat.find_spec some, fun j early =>
    not_not.1 (Nat.find_min some early)⟩

/-- The tries that `name` is given suffice to reach the first candidate that is not taken. -/
theorem name_eq_candidate {taken : List String} {k : Nat} (bound : k ≤ taken.length)
    (free : candidate wished numbered k ∉ taken)
    (before : ∀ j < k, candidate wished numbered j ∈ taken) :
    name taken wished numbered = candidate wished numbered k := by
  cases k with
  | zero => exact if_neg fun held => free (List.contains_iff_mem.1 held)
  | succ k =>
      have first : (List.range taken.length).find? (fun i => !taken.contains (numbered (i + 2))) =
          some k := by
        refine List.find?_range_eq_some.2 ⟨?_, List.mem_range.2 bound, fun j early => ?_⟩
        · simpa [candidate] using free
        · simpa [candidate] using before (j + 1) (Nat.succ_lt_succ early)
      have held : taken.contains wished = true := List.contains_iff_mem.2 (before 0 k.succ_pos)
      rw [name, if_pos held, variants, List.find?_map, Function.comp_def, first]
      rfl

/-- The name that the search for a wished name ends at, and which of the candidates it is. -/
structure IsGiven (taken : List String) (wished : String) (numbered : Nat → String)
    (name : String) : Prop where
  /-- There is at most one try more than there are different names taken. -/
  ends : ∃ tries ≤ taken.dedup.length + 1, Search taken (candidate wished numbered) 0 tries name
  fresh : name ∉ taken
  own : wished ∉ taken → name = wished
  least : wished ∈ taken →
    ∃ n, 2 ≤ n ∧ name = numbered n ∧ ∀ m, 2 ≤ m → m < n → numbered m ∈ taken

theorem isGiven_name (numbering : Numbering wished numbered) (taken : List String) :
    IsGiven taken wished numbered (name taken wished numbered) := by
  obtain ⟨k, bound, free, before⟩ := exists_first numbering taken
  have short : k ≤ taken.length := Nat.le_trans bound (List.dedup_sublist taken).length_le
  rw [name_eq_candidate short free before]
  refine ⟨⟨k + 1, Nat.succ_le_succ bound, ?_⟩, free, fun absent => ?_, fun held => ?_⟩
  · have search := search_of_first (i := 0) (k := k)
      (fun j _ early => before j (by omega)) (by rwa [Nat.zero_add])
    rwa [Nat.zero_add] at search
  · cases k with
    | zero => rfl
    | succ k => exact absurd (before 0 k.succ_pos) absent
  · cases k with
    | zero => exact absurd held free
    | succ k =>
        refine ⟨k + 2, by omega, rfl, fun m low high => ?_⟩
        obtain ⟨i, rfl⟩ := Nat.exists_eq_add_of_le' low
        exact before (i + 1) (by omega)

end

/--
Whatever names are taken, the search for another ends at one that is not, which is the wished name
or its variant with the least number.  The names of inferred declarations, of the fields of structs
and of environment variables are found so.
-/
theorem names_given (taken : List String) (wished : String) :
    (∀ fields, ∃ own, (Shape.infer taken wished (.object fields)).1 = .ref own ∧
        IsGiven taken wished (plain wished) own) ∧
      IsGiven taken wished (plain wished) (name taken wished (plain wished)) ∧
      (∀ (f : Field) (rest : List Field), ∃ own,
        Go.structFields taken (f :: rest) =
            ⟨own, Go.fieldType f, Go.fieldTag f⟩ :: Go.structFields (own :: taken) rest ∧
          IsGiven taken (Go.wishedName f.key) (plain (Go.wishedName f.key)) own) ∧
      (∀ (f : Field) (rest : List Field), ∃ own,
        Rust.structFields taken (f :: rest) =
            ⟨Rust.identifier own, if own = f.key then none else some f.key, Rust.fieldType f⟩ ::
              Rust.structFields (own :: taken) rest ∧
          IsGiven taken (Rust.wishedName f.key) (plain (Rust.wishedName f.key)) own) ∧
      ∀ (vars : EnvVars) (value lead : String), ∃ var,
        vars.secret true wished value lead = (.env var lead, vars ++ [(var, value)]) ∧
          IsGiven (vars.map Prod.fst) wished (underscored wished) var := by
  have given (wished : String) := isGiven_name (numbering_plain wished) taken
  refine ⟨fun fields => ⟨_, ?_, given wished⟩, given wished, fun f rest => ⟨_, rfl, given _⟩,
    fun f rest => ⟨_, rfl, given _⟩, fun vars value lead => ⟨_, rfl, ?_⟩⟩
  · rw [Shape.infer]
  · exact isGiven_name (numbering_underscored wished) (vars.map Prod.fst)

end Fresh

end RequestScribe
