import Mathlib.Data.List.Induction
import RequestScribe.Proofs.Ordered
import RequestScribe.Request.Basic

/-!
# Tables of headers

A table in which no name occurs twice, whatever its case, and what may be done to
it.  Setting a name that the table has changes its value in place; any other name
goes to the end; removing a name removes its entry.  Under this invariant these
are the operations on ordered maps, which look at the first entry of a name only.
-/

namespace RequestScribe

theorem Text.sameIgnoringCase_iff {a b : String} :
    sameIgnoringCase a b = true ↔ lower a = lower b :=
  beq_iff_eq

theorem Text.sameIgnoringCase_joins (a b key : String) (ha : sameIgnoringCase a key = true)
    (hb : sameIgnoringCase b key = true) : sameIgnoringCase a b = true := by
  rw [sameIgnoringCase_iff] at ha hb ⊢
  rw [ha, hb]

/-! ## The value that is found -/

namespace Headers

theorem find?_set (headers : Headers) (name value key : String) :
    (headers.set name value).find? key =
      if Text.sameIgnoringCase name key then some value else headers.find? key := by
  unfold set find? Text.sameIgnoringCase
  induction headers with
  | nil => rfl
  | cons header rest ih =>
      obtain ⟨own, v⟩ := header
      by_cases here : Text.lower own = Text.lower name
      · simp only [Ordered.set, Ordered.find?, here, beq_self_eq_true, if_true]
        split <;> rfl
      · simp only [Ordered.set, beq_false_of_ne here, Bool.false_eq_true, if_false, Ordered.find?, ih]
        by_cases found : Text.lower own = Text.lower key
        · have other : Text.lower name ≠ Text.lower key := fun same => here (found.trans same.symm)
          simp [found, other]
        · simp [found]

theorem find?_erase {headers : Headers} (distinct : Ordered.Distinct Text.sameIgnoringCase headers)
    (name key : String) :
    (headers.erase name).find? key =
      if Text.sameIgnoringCase name key then none else headers.find? key := by
  unfold erase find?
  rw [Ordered.erase_of_distinct Text.sameIgnoringCase_joins distinct]
  split
  · next same =>
      rw [← Ordered.absent_iff_find?]
      intro header mem
      obtain ⟨-, left⟩ := List.mem_filter.1 mem
      rw [Text.sameIgnoringCase_iff] at same
      simpa [Text.sameIgnoringCase, same] using left
  · next other =>
      apply Ordered.find?_filter
      intro header mem found
      rw [Text.sameIgnoringCase_iff] at other found
      have apart : Text.lower name ≠ Text.lower header.1 := fun same => other (same.trans found)
      simpa [Text.sameIgnoringCase] using apart.symm

theorem find?_setDefault {headers : Headers} {name key : String}
    (other : Text.sameIgnoringCase name key = false) (value : String) :
    (headers.setDefault name value).find? key = headers.find? key := by
  unfold setDefault find?
  cases known : Ordered.find? Text.sameIgnoringCase name headers with
  | some v => rw [Ordered.setDefault_of_found known]
  | none => simp [Ordered.setDefault_of_absent known, Ordered.find?_append, Ordered.find?, other]

end Headers

namespace Command

inductive HeaderEdit where
  | set (name value : String)
  | remove (name : String)
  deriving DecidableEq, Repr

namespace HeaderEdit

def name : HeaderEdit → String
  | .set name _ => name
  | .remove name => name

def isSet : HeaderEdit → Bool
  | .set _ _ => true
  | .remove _ => false

/-- What a header line says: `Name: value`, `Name:` or `Name;`. -/
def ofLine? (raw : String) : Option HeaderEdit :=
  match Text.cut? ':' raw with
  | some (name, value) =>
      if Text.trim name = "" then none
      else if Text.trim value = "" then some (.remove (Text.trim name))
      else some (.set (Text.trim name) (Text.trim value))
  | none => (Text.before? ";" raw).map fun name => .set (Text.trim name) ""

end HeaderEdit

/-- Headers whose names differ by more than case. -/
structure HeaderTable where
  entries : Headers
  distinct : Ordered.Distinct Text.sameIgnoringCase entries

namespace HeaderTable

def empty : HeaderTable := ⟨[], .nil⟩

def has (t : HeaderTable) (name : String) : Bool :=
  t.entries.any fun entry => Text.sameIgnoringCase entry.1 name

theorem has_eq_false_iff {t : HeaderTable} {name : String} :
    t.has name = false ↔ Ordered.Absent Text.sameIgnoringCase name t.entries := by
  simp [has, Ordered.Absent]

theorem has_congr (t : HeaderTable) {name other : String}
    (same : Text.sameIgnoringCase name other = true) : t.has name = t.has other := by
  rw [Text.sameIgnoringCase_iff] at same
  simp only [has, Text.sameIgnoringCase, same]

def append (t : HeaderTable) (name value : String) (absent : t.has name = false) :
    HeaderTable where
  entries := t.entries ++ [(name, value)]
  distinct := by
    refine List.pairwise_append.2 ⟨t.distinct, List.pairwise_singleton _ _, ?_⟩
    intro entry mem last hlast
    obtain rfl := List.mem_singleton.1 hlast
    exact has_eq_false_iff.1 absent entry mem

def replace (t : HeaderTable) (name value : String) : HeaderTable where
  entries := t.entries.map fun entry =>
    if Text.sameIgnoringCase entry.1 name then (entry.1, value) else entry
  distinct := by
    refine List.pairwise_map.2 (t.distinct.imp fun {a b} apart => ?_)
    split <;> split <;> exact apart

/-- A name that is there keeps its spelling and its place; any other goes to the end. -/
def set (t : HeaderTable) (name value : String) : HeaderTable :=
  if absent : t.has name = false then t.append name value absent else t.replace name value

def remove (t : HeaderTable) (name : String) : HeaderTable where
  entries := t.entries.filter fun entry => !Text.sameIgnoringCase entry.1 name
  distinct := t.distinct.filter _

/-- A name that is not there goes to the end. -/
def setDefault (t : HeaderTable) (name value : String) : HeaderTable :=
  if absent : t.has name = false then t.append name value absent else t

def edit (t : HeaderTable) : HeaderEdit → HeaderTable
  | .set name value => t.set name value
  | .remove name => t.remove name

def ofEdits (edits : List HeaderEdit) : HeaderTable :=
  edits.foldl edit empty

theorem entries_set (t : HeaderTable) (name value : String) :
    (t.set name value).entries = Headers.set t.entries name value := by
  unfold set
  split
  · next absent => exact (Ordered.set_of_absent (has_eq_false_iff.1 absent) value).symm
  · next present =>
      have found : ∃ entry ∈ t.entries, Text.sameIgnoringCase entry.1 name = true := by
        simpa [has] using present
      exact (Ordered.set_of_present Text.sameIgnoringCase_joins t.distinct found value).symm

theorem entries_remove (t : HeaderTable) (name : String) :
    (t.remove name).entries = Headers.erase t.entries name :=
  (Ordered.erase_of_distinct Text.sameIgnoringCase_joins t.distinct name).symm

theorem entries_setDefault (t : HeaderTable) (name value : String) :
    (t.setDefault name value).entries = Headers.setDefault t.entries name value := by
  unfold setDefault
  split
  · next absent =>
      have none := Ordered.absent_iff_find?.1 (has_eq_false_iff.1 absent)
      exact (Ordered.setDefault_of_absent none value).symm
  · next present =>
      have some : Ordered.find? Text.sameIgnoringCase name t.entries ≠ none := fun none =>
        present (has_eq_false_iff.2 (Ordered.absent_iff_find?.2 none))
      obtain ⟨v, found⟩ := Option.ne_none_iff_exists'.1 some
      exact (Ordered.setDefault_of_found found value).symm

/-! ## Which names a table has -/

theorem has_append (t : HeaderTable) (name value : String) (absent : t.has name = false)
    (other : String) :
    (t.append name value absent).has other = (t.has other || Text.sameIgnoringCase name other) := by
  simp [append, has]

/-- A table that has a name has the other spellings of it, too. -/
theorem has_or (t : HeaderTable) {name : String} (present : ¬ t.has name = false)
    (other : String) : t.has other = (t.has other || Text.sameIgnoringCase name other) := by
  cases same : Text.sameIgnoringCase name other with
  | false => rw [Bool.or_false]
  | true =>
      rw [Bool.or_true, ← t.has_congr same]
      exact Bool.not_eq_false _ ▸ present

theorem has_set (t : HeaderTable) (name value other : String) :
    (t.set name value).has other = (t.has other || Text.sameIgnoringCase name other) := by
  unfold set
  split
  · exact has_append t name value _ other
  · next present =>
      have names : (t.replace name value).has other = t.has other := by
        simp only [replace, has, List.any_map]
        refine List.any_congr rfl fun entry => ?_
        simp only [Function.comp_apply]
        split <;> rfl
      rw [names]
      exact t.has_or present other

theorem has_setDefault (t : HeaderTable) (name value other : String) :
    (t.setDefault name value).has other = (t.has other || Text.sameIgnoringCase name other) := by
  unfold setDefault
  split
  · exact has_append t name value _ other
  · next present => exact t.has_or present other

theorem has_remove (t : HeaderTable) (name other : String) :
    (t.remove name).has other = (t.has other && !Text.sameIgnoringCase name other) := by
  rw [has, remove, List.any_filter]
  cases same : Text.sameIgnoringCase name other with
  | true =>
      rw [Bool.not_true, Bool.and_false, List.any_eq_false]
      intro entry _
      rw [Text.sameIgnoringCase_iff] at same
      simp [Text.sameIgnoringCase, same]
  | false =>
      rw [Bool.not_false, Bool.and_true, has]
      refine List.any_congr rfl fun entry => ?_
      cases found : Text.sameIgnoringCase entry.1 other with
      | false => rw [Bool.and_false]
      | true =>
          have differs : Text.sameIgnoringCase entry.1 name = false := by
            rw [Text.sameIgnoringCase_iff] at found
            rw [← same, Text.sameIgnoringCase, Text.sameIgnoringCase, found, Bool.beq_comm]
          rw [differs]
          rfl

theorem has_edit (t : HeaderTable) (e : HeaderEdit) (name : String) :
    (t.edit e).has name = if Text.sameIgnoringCase e.name name then e.isSet else t.has name := by
  cases e with
  | set own value =>
      rw [edit, has_set]
      cases same : Text.sameIgnoringCase own name <;> simp [HeaderEdit.name, HeaderEdit.isSet, same]
  | remove own =>
      rw [edit, has_remove]
      cases same : Text.sameIgnoringCase own name <;> simp [HeaderEdit.name, HeaderEdit.isSet, same]

end HeaderTable

def HeaderEdit.last? (edits : List HeaderEdit) (name : String) : Option HeaderEdit :=
  edits.reverse.find? fun e => Text.sameIgnoringCase e.name name

theorem HeaderTable.ofEdits_concat (edits : List HeaderEdit) (e : HeaderEdit) :
    ofEdits (edits ++ [e]) = (ofEdits edits).edit e := by
  rw [ofEdits, List.foldl_append]
  rfl

/-- Whether a name is there is decided by the last edit that concerns it. -/
theorem HeaderTable.has_ofEdits (edits : List HeaderEdit) (name : String) :
    (ofEdits edits).has name = ((HeaderEdit.last? edits name).map HeaderEdit.isSet).getD false := by
  induction edits using List.reverseRecOn with
  | nil => rfl
  | append_singleton edits e ih =>
      rw [ofEdits_concat, has_edit, ih, HeaderEdit.last?, HeaderEdit.last?, List.reverse_append,
        List.reverse_singleton, List.singleton_append, List.find?_cons]
      cases Text.sameIgnoringCase e.name name <;> rfl

end Command

end RequestScribe
