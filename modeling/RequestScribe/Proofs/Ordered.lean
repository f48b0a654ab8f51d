import Mathlib.Data.List.Perm.Subperm
import RequestScribe.Ordered

/-!
# Ordered maps and the keys they have

A key that no entry has is not found, and setting it appends.  So entries whose
keys are all different are entered as they stand.
-/

namespace RequestScribe

namespace Ordered

variable {κ α : Type} {same : κ → κ → Bool}

def Absent (same : κ → κ → Bool) (key : κ) (entries : List (κ × α)) : Prop :=
  ∀ entry ∈ entries, same entry.1 key = false

/-- Whether no two entries have the same key, the earlier one compared with the later. -/
def Distinct (same : κ → κ → Bool) (entries : List (κ × α)) : Prop :=
  entries.Pairwise fun a b => same a.1 b.1 = false

theorem absent_iff_find? {key : κ} {entries : List (κ × α)} :
    Absent same key entries ↔ find? same key entries = none := by
  induction entries with
  | nil => simp [Absent, find?]
  | cons entry rest ih =>
      obtain ⟨k, v⟩ := entry
      unfold Absent at ih ⊢
      rw [List.forall_mem_cons, ih, find?]
      cases same k key <;> simp

/-- Keys that are the same as the same keys are found alike. -/
theorem find?_congr {key key' : κ} (h : ∀ k, same k key = same k key')
    (entries : List (κ × α)) : find? same key entries = find? same key' entries := by
  induction entries with
  | nil => rfl
  | cons entry rest ih => simp only [find?, h, ih]

theorem find?_append (key : κ) (a b : List (κ × α)) :
    find? same key (a ++ b) = (find? same key a).or (find? same key b) := by
  induction a with
  | nil => rfl
  | cons entry rest ih =>
      obtain ⟨k, v⟩ := entry
      rw [List.cons_append, find?, find?, ih]
      cases same k key <;> rfl

/-- A key that no entry has goes to the end. -/
theorem set_of_absent {key : κ} {entries : List (κ × α)} (absent : Absent same key entries)
    (value : α) : set same key value entries = entries ++ [(key, value)] := by
  induction entries with
  | nil => rfl
  | cons entry rest ih =>
      obtain ⟨k, v⟩ := entry
      have here : same k key = false := absent (k, v) List.mem_cons_self
      have later := ih (fun e he => absent e (List.mem_cons_of_mem (k, v) he))
      simp [set, here, later]

theorem setDefault_of_found {key : κ} {entries : List (κ × α)} {v : α}
    (found : find? same key entries = some v) (value : α) :
    setDefault same key value entries = entries := by
  simp [setDefault, has, found]

theorem setDefault_of_absent {key : κ} {entries : List (κ × α)}
    (absent : find? same key entries = none) (value : α) :
    setDefault same key value entries = entries ++ [(key, value)] := by
  simp [setDefault, has, absent]

theorem enter_of_distinct {entries pairs : List (κ × α)}
    (distinct : Distinct same (entries ++ pairs)) :
    enter same entries pairs = entries ++ pairs := by
  induction pairs generalizing entries with
  | nil => simp [enter]
  | cons pair rest ih =>
      have absent : Absent same pair.1 entries := by
        intro entry hentry
        exact (List.pairwise_append.1 distinct).2.2 entry hentry pair List.mem_cons_self
      have later : Distinct same ((entries ++ [pair]) ++ rest) := by
        rw [List.append_assoc]
        exact distinct
      calc
        enter same entries (pair :: rest)
            = enter same (set same pair.1 pair.2 entries) rest := rfl
        _ = enter same (entries ++ [pair]) rest := by rw [set_of_absent absent]
        _ = entries ++ pair :: rest := by rw [ih later, List.append_assoc]; rfl

/-- A key is found among chosen entries as among all, if its own entries are all chosen. -/
theorem find?_filter {key : κ} {entries : List (κ × α)} {keep : κ × α → Bool}
    (kept : ∀ entry ∈ entries, same entry.1 key = true → keep entry = true) :
    find? same key (entries.filter keep) = find? same key entries := by
  induction entries with
  | nil => rfl
  | cons entry rest ih =>
      obtain ⟨k, v⟩ := entry
      have later := ih (fun e he => kept e (List.mem_cons_of_mem (k, v) he))
      cases hkey : same k key with
      | true =>
          have here := kept (k, v) List.mem_cons_self hkey
          simp [here, find?, hkey]
      | false => cases hkeep : keep (k, v) <;> simp [hkeep, find?, hkey, later]

/-! ## One entry for a key -/

section OneEntry

variable (joins : ∀ a b key, same a key = true → same b key = true → same a b = true)

include joins

theorem absent_tail {key : κ} {entry : κ × α} {rest : List (κ × α)}
    (distinct : Distinct same (entry :: rest)) (here : same entry.1 key = true) :
    Absent same key rest := by
  intro other mem
  cases found : same other.1 key with
  | false => rfl
  | true =>
      have apart : same entry.1 other.1 = false := (List.pairwise_cons.1 distinct).1 other mem
      rw [joins _ _ key here found] at apart
      exact absurd apart (by decide)

/-- The entry of a key is the only one that setting the key changes. -/
theorem set_of_present {key : κ} {entries : List (κ × α)} (distinct : Distinct same entries)
    (present : ∃ entry ∈ entries, same entry.1 key = true) (value : α) :
    set same key value entries =
      entries.map fun entry => if same entry.1 key then (entry.1, value) else entry := by
  induction entries with
  | nil =>
      obtain ⟨entry, mem, -⟩ := present
      exact absurd mem List.not_mem_nil
  | cons first rest ih =>
      obtain ⟨k, v⟩ := first
      cases here : same k key with
      | true =>
          have absent := absent_tail joins distinct here
          have others : rest.map (fun entry => if same entry.1 key then (entry.1, value) else entry) =
              rest := by
            refine (List.map_congr_left (g := id) fun entry mem => ?_).trans (List.map_id rest)
            rw [absent entry mem]
            rfl
          rw [set, if_pos here, List.map_cons, others]
          simp [here]
      | false =>
          have later : ∃ entry ∈ rest, same entry.1 key = true := by
            obtain ⟨entry, mem, found⟩ := present
            rcases List.mem_cons.1 mem with rfl | mem
            · rw [here] at found
              exact absurd found (by decide)
            · exact ⟨entry, mem, found⟩
          rw [set, ih (List.pairwise_cons.1 distinct).2 later]
          simp [here]

/-- The entry of a key is the only one to remove. -/
theorem erase_of_distinct {entries : List (κ × α)} (distinct : Distinct same entries) (key : κ) :
    erase same key entries = entries.filter fun entry => !same entry.1 key := by
  induction entries with
  | nil => rfl
  | cons first rest ih =>
      obtain ⟨k, v⟩ := first
      cases here : same k key with
      | true =>
          have absent := absent_tail joins distinct here
          have others : rest.filter (fun entry => !same entry.1 key) = rest := by
            refine List.filter_eq_self.2 fun entry mem => ?_
            rw [absent entry mem]
            rfl
          rw [List.filter_cons_of_neg (by simp [here]), others]
          simp [erase, here]
      | false =>
          rw [List.filter_cons_of_pos (by simp [here]), ← ih (List.pairwise_cons.1 distinct).2]
          simp [erase, here]

end OneEntry

theorem set_ne_nil (key : κ) (value : α) (entries : List (κ × α)) :
    set same key value entries ≠ [] := by
  cases entries with
  | nil => simp [set]
  | cons first rest =>
      simp only [set]
      split <;> simp

/-- Nothing is entered only if there is nothing to enter. -/
theorem enter_eq_nil_iff {entries pairs : List (κ × α)} :
    enter same entries pairs = [] ↔ entries = [] ∧ pairs = [] := by
  induction pairs generalizing entries with
  | nil => simp [enter]
  | cons pair rest ih =>
      have entered : enter same entries (pair :: rest) =
          enter same (set same pair.1 pair.2 entries) rest := rfl
      rw [entered, ih]
      simp [set_ne_nil]

theorem forall_mem_set {p : α → Prop} {entries : List (κ × α)} (held : ∀ entry ∈ entries, p entry.2)
    (key : κ) {value : α} (new : p value) : ∀ entry ∈ set same key value entries, p entry.2 := by
  induction entries with
  | nil => exact List.forall_mem_singleton.2 new
  | cons first rest ih =>
      obtain ⟨here, later⟩ := List.forall_mem_cons.1 held
      rw [set]
      split
      · exact List.forall_mem_cons.2 ⟨new, later⟩
      · exact List.forall_mem_cons.2 ⟨here, ih later⟩

/-- What holds of all values that are entered holds of the values there are. -/
theorem forall_mem_enter {p : α → Prop} {entries pairs : List (κ × α)}
    (held : ∀ entry ∈ entries, p entry.2) (entered : ∀ pair ∈ pairs, p pair.2) :
    ∀ entry ∈ enter same entries pairs, p entry.2 := by
  induction pairs generalizing entries with
  | nil => exact held
  | cons pair rest ih =>
      obtain ⟨here, later⟩ := List.forall_mem_cons.1 entered
      exact ih (forall_mem_set held pair.1 here) later

/-! ## What a list of pairs comes to -/

section Collapse

variable [BEq κ] [LawfulBEq κ]

/-- Every key of the pairs once, in the place of its first pair and with the value of its last. -/
structure Collapses (pairs entries : List (κ × α)) : Prop where
  keys : entries.map Prod.fst = (pairs.map Prod.fst).eraseDups
  values : ∀ key, entries.lookup key = pairs.reverse.lookup key

theorem keys_set (key : κ) (value : α) (entries : List (κ × α)) :
    (set (· == ·) key value entries).map Prod.fst =
      if key ∈ entries.map Prod.fst then entries.map Prod.fst
      else entries.map Prod.fst ++ [key] := by
  induction entries with
  | nil => simp [set]
  | cons entry rest ih =>
      obtain ⟨k, v⟩ := entry
      by_cases here : k = key
      · simp [set, here]
      · have elsewhere : key ≠ k := Ne.symm here
        simp only [set, beq_false_of_ne here, Bool.false_eq_true, if_false, List.map_cons, ih,
          List.mem_cons, elsewhere, false_or]
        split <;> rfl

theorem lookup_set (key : κ) (value : α) (entries : List (κ × α)) (k : κ) :
    (set (· == ·) key value entries).lookup k = ((key, value) :: entries).lookup k := by
  induction entries with
  | nil => rfl
  | cons entry rest ih =>
      obtain ⟨k', v⟩ := entry
      by_cases here : k' = key
      · subst here
        simp only [set, BEq.rfl, if_true, List.lookup_cons]
        cases k == k' <;> rfl
      · simp only [set, beq_false_of_ne here, Bool.false_eq_true, if_false, List.lookup_cons,
          ih]
        by_cases found : k = k'
        · subst found
          simp [beq_false_of_ne here]
        · simp [beq_false_of_ne found]

/-- One more pair takes over the value of its key, which goes to the end if it is new. -/
theorem Collapses.set {pairs entries : List (κ × α)} (h : Collapses pairs entries) (key : κ)
    (value : α) : Collapses (pairs ++ [(key, value)]) (set (· == ·) key value entries) where
  keys := by
    rw [keys_set, h.keys, List.map_append, List.eraseDups_append]
    by_cases known : key ∈ pairs.map Prod.fst
    · rw [if_pos (List.mem_eraseDups.2 known)]
      simp [List.removeAll, known]
    · rw [if_neg (fun mem => known (List.mem_eraseDups.1 mem))]
      simp [List.removeAll, known, List.eraseDups_cons]
  values k := by
    rw [lookup_set, List.reverse_append]
    simp only [List.reverse_singleton, List.singleton_append, List.lookup_cons, h.values]

theorem Collapses.enter {done entries : List (κ × α)} (h : Collapses done entries)
    (pairs : List (κ × α)) : Collapses (done ++ pairs) (enter (· == ·) entries pairs) := by
  induction pairs generalizing done entries with
  | nil => simpa [Ordered.enter] using h
  | cons pair rest ih =>
      have later := ih (h.set pair.1 pair.2)
      rw [List.append_assoc] at later
      exact later

theorem collapses_ofPairs (pairs : List (κ × α)) : Collapses pairs (ofPairs (· == ·) pairs) :=
  have empty : Collapses ([] : List (κ × α)) [] := ⟨rfl, fun _ => rfl⟩
  empty.enter pairs

theorem nodup_enter {entries : List (κ × α)} (distinct : (entries.map Prod.fst).Nodup)
    (pairs : List (κ × α)) : ((enter (· == ·) entries pairs).map Prod.fst).Nodup := by
  induction pairs generalizing entries with
  | nil => exact distinct
  | cons pair rest ih =>
      apply ih
      rw [keys_set]
      split
      · exact distinct
      · next new =>
          refine List.nodup_append.2 ⟨distinct, List.pairwise_singleton _ _, ?_⟩
          intro key mem last hlast
          obtain rfl := List.mem_singleton.1 hlast
          exact fun same => new (same ▸ mem)

theorem nodup_ofPairs (pairs : List (κ × α)) :
    ((ofPairs (· == ·) pairs).map Prod.fst).Nodup :=
  have empty : (([] : List (κ × α)).map Prod.fst).Nodup := List.nodup_nil
  nodup_enter empty pairs

/-- Pairs are kept as they are just if no key is repeated. -/
theorem ofPairs_eq_self_iff {pairs : List (κ × α)} :
    ofPairs (· == ·) pairs = pairs ↔ (pairs.map Prod.fst).Nodup := by
  constructor
  · intro same
    have distinct := nodup_ofPairs pairs
    rwa [same] at distinct
  · intro distinct
    apply enter_of_distinct
    have apart := List.pairwise_map.1 distinct
    exact apart.imp beq_false_of_ne

theorem nodup_eraseDups (keys : List κ) : keys.eraseDups.Nodup := by
  have distinct := nodup_ofPairs (keys.map fun key => (key, ()))
  rw [(collapses_ofPairs (keys.map fun key => (key, ()))).keys, List.map_map] at distinct
  simpa [Function.comp_def] using distinct

theorem eraseDups_of_nodup {keys : List κ} (distinct : keys.Nodup) : keys.eraseDups = keys := by
  have pairs : (keys.map fun key => (key, ())).map Prod.fst = keys := by simp [Function.comp_def]
  have same := ofPairs_eq_self_iff.2 (pairs.symm ▸ distinct)
  have entries := (collapses_ofPairs (keys.map fun key => (key, ()))).keys
  rw [same, pairs] at entries
  exact entries.symm

/-- Repetitions are dropped just if there are any. -/
theorem length_eraseDups_eq_iff {keys : List κ} :
    keys.eraseDups.length = keys.length ↔ keys.Nodup := by
  constructor
  · intro length
    have within : keys.eraseDups.Subperm keys :=
      (nodup_eraseDups keys).subperm fun key mem => List.mem_eraseDups.1 mem
    exact (within.perm_of_length_le (Nat.le_of_eq length.symm)).nodup (nodup_eraseDups keys)
  · exact fun distinct => congrArg List.length (eraseDups_of_nodup distinct)

end Collapse

/-! ## Groups -/

section Groups

variable [BEq κ]

def valuesUnder (key : κ) (pairs : List (κ × α)) : List α :=
  (pairs.filter fun pair => pair.1 == key).map Prod.snd

theorem valuesUnder_concat (key : κ) (pairs : List (κ × α)) (pair : κ × α) :
    valuesUnder key (pairs ++ [pair]) =
      valuesUnder key pairs ++ if pair.1 == key then [pair.2] else [] := by
  rw [valuesUnder, List.filter_append, List.map_append, List.filter_singleton]
  cases pair.1 == key <;> rfl

variable [LawfulBEq κ]

theorem find?_map (key : κ) (keys : List κ) (value : κ → α) :
    find? (· == ·) key (keys.map fun k => (k, value k)) =
      if key ∈ keys then some (value key) else none := by
  induction keys with
  | nil => rfl
  | cons k rest ih =>
      by_cases here : k = key
      · simp [find?, here]
      · simp [find?, here, Ne.symm here, ih]

theorem set_map {key : κ} {keys : List κ} (held : key ∈ keys) (distinct : keys.Nodup)
    (value : κ → α) (new : α) :
    set (· == ·) key new (keys.map fun k => (k, value k)) =
      keys.map fun k => (k, if key == k then new else value k) := by
  induction keys with
  | nil => cases held
  | cons k rest ih =>
      obtain ⟨other, distinct⟩ := List.nodup_cons.1 distinct
      by_cases here : k = key
      · subst here
        have apart : ∀ k' ∈ rest, (k == k') = false := fun k' mem =>
          beq_false_of_ne fun same => other (same ▸ mem)
        have stays : (rest.map fun k' => (k', if k == k' then new else value k')) =
            rest.map fun k' => (k', value k') :=
          List.map_congr_left fun k' mem => by rw [apart k' mem]; rfl
        simp [set, stays]
      · have later := ih ((List.mem_cons.1 held).resolve_left (Ne.symm here)) distinct
        have apart : (key == k) = false := beq_false_of_ne (Ne.symm here)
        simp [set, here, apart, later]

/-- One more pair goes to the front of its group, or is a group of its own at the end. -/
theorem addToGroup_map (done : List (κ × α)) (pair : κ × α) :
    addToGroup (· == ·) ((done.map Prod.fst).eraseDups.map fun key =>
        (key, (valuesUnder key done).reverse)) pair =
      ((done ++ [pair]).map Prod.fst).eraseDups.map fun key =>
        (key, (valuesUnder key (done ++ [pair])).reverse) := by
  obtain ⟨key, value⟩ := pair
  have grown (k : κ) : (valuesUnder k (done ++ [(key, value)])).reverse =
      if key == k then value :: (valuesUnder k done).reverse else (valuesUnder k done).reverse := by
    rw [valuesUnder_concat]
    cases key == k <;> simp
  have keys : ((done ++ [(key, value)]).map Prod.fst).eraseDups =
      (done.map Prod.fst).eraseDups ++ if key ∈ (done.map Prod.fst).eraseDups then [] else [key] := by
    rw [List.map_append, List.eraseDups_append]
    simp only [List.mem_eraseDups]
    by_cases known : key ∈ done.map Prod.fst
    · simp [List.removeAll, known]
    · simp [List.removeAll, known, List.eraseDups_cons]
  rw [addToGroup, find?_map, keys]
  by_cases known : key ∈ (done.map Prod.fst).eraseDups
  · rw [if_pos known, if_pos known, List.append_nil]
    dsimp only
    rw [set_map known (nodup_eraseDups _)]
    refine List.map_congr_left fun k _ => ?_
    rw [grown]
    by_cases own : key = k
    · subst own
      rfl
    · simp [beq_false_of_ne own]
  · have none : valuesUnder key done = [] := by
      rw [valuesUnder, List.map_eq_nil_iff, List.filter_eq_nil_iff]
      rintro other mem same
      rw [beq_iff_eq] at same
      exact known (List.mem_eraseDups.2 (same ▸ List.mem_map_of_mem mem))
    rw [if_neg known, if_neg known, List.map_append]
    dsimp only
    congr 1
    · refine List.map_congr_left fun k mem => ?_
      have apart : (key == k) = false := beq_false_of_ne fun same => known (same ▸ mem)
      rw [grown, apart]
      rfl
    · simp [grown, none]

/-- Every key has one group, in the place of its first pair, with all values of the key in order. -/
theorem group_eq (pairs : List (κ × α)) :
    group (· == ·) pairs =
      (pairs.map Prod.fst).eraseDups.map fun key => (key, valuesUnder key pairs) := by
  have run (done rest : List (κ × α)) :
      rest.foldl (addToGroup (· == ·)) ((done.map Prod.fst).eraseDups.map fun key =>
          (key, (valuesUnder key done).reverse)) =
        ((done ++ rest).map Prod.fst).eraseDups.map fun key =>
          (key, (valuesUnder key (done ++ rest)).reverse) := by
    induction rest generalizing done with
    | nil => rw [List.append_nil, List.foldl_nil]
    | cons pair rest ih => rw [List.foldl_cons, addToGroup_map, ih, List.append_assoc]; rfl
  have whole := run [] pairs
  rw [List.map_nil, List.eraseDups_nil, List.map_nil, List.nil_append] at whole
  rw [group, whole, List.map_map]
  refine List.map_congr_left fun key _ => ?_
  simp

end Groups

end Ordered

end RequestScribe
