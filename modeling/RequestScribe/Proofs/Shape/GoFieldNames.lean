import RequestScribe.Proofs.Shape.TypeNames
import RequestScribe.Shape.Go

/-!
# Names of Go fields

A field gets the words of its key, each with a capital, of which only ASCII letters,
digits and underscores are left, and a number where another field has the name already.
The names that result are different.  Other packages see a field whose name begins with
a capital, and a name does so unless the first word that leaves anything loses the
very letter that was made a capital, or begins with an underscore.
-/

namespace RequestScribe

/-! ## ASCII letters among the forms of other characters -/

namespace LetterCase

theorem toNat_ofNat (n : Nat) : (Char.ofNat n).toNat = n ∨ (Char.ofNat n).toNat = 0 := by
  rcases Decidable.em n.isValidChar with valid | invalid
  · exact .inl (congrArg Char.toNat (dif_pos valid))
  · exact .inr (congrArg Char.toNat (dif_neg invalid))

/-- Whether a run leads out of ASCII, or a single character to a code point between two. -/
def Run.leadsInto (low high : Nat) (r : Run) : Bool :=
  r.last < 0x80 || 0x80 ≤ r.first + r.offset ||
    (r.first == r.last && (low ≤ r.first + r.offset && r.first + r.offset ≤ high))

def leadInto (low high : Nat) (points : List Nat) : Bool :=
  points.all fun n => 0x80 ≤ n || (low ≤ n && n ≤ high)

/-- What a table makes of a character beyond ASCII is beyond ASCII, or in a given range of it. -/
theorem bounds_of_mem_form {runs : List Run} {long : List (Nat × List Nat)} {low high : Nat}
    (single : runs.all (Run.leadsInto low high) = true)
    (several : long.all (fun entry => leadInto low high entry.2) = true) {c d : Char}
    (other : 0x80 ≤ c.toNat) (mem : d ∈ form runs long c) (ascii : d.toNat < 0x80)
    (visible : d.toNat ≠ 0) : low ≤ d.toNat ∧ d.toNat ≤ high := by
  unfold form at mem
  split at mem
  · next points found =>
      obtain ⟨before, after, whole, -⟩ := List.lookup_eq_some_iff.1 found
      have kept := List.all_eq_true.1 several (c.toNat, points) (by simp [whole])
      obtain ⟨n, inside, rfl⟩ := List.mem_map.1 mem
      have range := List.all_eq_true.1 kept n inside
      simp only [Bool.or_eq_true, Bool.and_eq_true, decide_eq_true_eq] at range
      rcases toNat_ofNat n with same | same
      · omega
      · exact absurd same visible
  · split at mem
    · next run found =>
        have kept := List.all_eq_true.1 single run (List.mem_of_find?_eq_some found)
        have inside := List.find?_some found
        simp only [Run.contains, Bool.and_eq_true, decide_eq_true_eq, beq_iff_eq] at inside
        simp only [Run.leadsInto, Bool.or_eq_true, Bool.and_eq_true, decide_eq_true_eq,
          beq_iff_eq] at kept
        obtain rfl := List.mem_singleton.1 mem
        rcases toNat_ofNat ((c.toNat : Int) + run.offset).toNat with same | same
        · omega
        · exact absurd same visible
    · obtain rfl := List.mem_singleton.1 mem
      omega

/-- The letters that characters beyond ASCII have in ASCII are of the case that is asked for. -/
theorem leadsInto_tables :
    upperRuns.all (Run.leadsInto 0x41 0x5A) = true ∧
      longUpper.all (fun entry => leadInto 0x41 0x5A entry.2) = true ∧
      lowerRuns.all (Run.leadsInto 0x61 0x7A) = true ∧
      longLower.all (fun entry => leadInto 0x61 0x7A entry.2) = true := by
  decide +kernel

/-- An ASCII character in an upper-case form is a capital, or it is the character itself. -/
theorem capital_of_mem_upper {c d : Char} (mem : d ∈ upper c) (ascii : d.toNat < 0x80)
    (visible : d.toNat ≠ 0) :
    (0x41 ≤ d.toNat ∧ d.toNat ≤ 0x5A) ∨ (d = c ∧ ¬(0x61 ≤ d.toNat ∧ d.toNat ≤ 0x7A)) := by
  unfold upper at mem
  split at mem
  · obtain rfl := List.mem_singleton.1 mem
    rcases Chars.toUpper_cases c with ⟨low, high, moved⟩ | ⟨other, same⟩
    · omega
    · exact .inr ⟨same, same.symm ▸ other⟩
  · next other =>
      exact .inl (bounds_of_mem_form leadsInto_tables.1 leadsInto_tables.2.1 (Nat.not_lt.1 other)
        mem ascii visible)

/-- An ASCII character in a lower-case form is a small letter, or it is the character itself. -/
theorem small_of_mem_lower {c d : Char} (mem : d ∈ lower c) (ascii : d.toNat < 0x80)
    (visible : d.toNat ≠ 0) :
    (0x61 ≤ d.toNat ∧ d.toNat ≤ 0x7A) ∨ (d = c ∧ ¬(0x41 ≤ d.toNat ∧ d.toNat ≤ 0x5A)) := by
  unfold lower at mem
  split at mem
  · obtain rfl := List.mem_singleton.1 mem
    rcases Chars.toLower_cases c with ⟨low, high, moved⟩ | ⟨other, same⟩
    · omega
    · exact .inr ⟨same, same.symm ▸ other⟩
  · next other =>
      exact .inl (bounds_of_mem_form leadsInto_tables.2.2.1 leadsInto_tables.2.2.2
        (Nat.not_lt.1 other) mem ascii visible)

end LetterCase

/-! ## What is left of a key -/

namespace Go

/-- The characters of a text that may stand in a name. -/
def reduced (cs : List Char) : List Char :=
  cs.filter isNameCharacter

def reducedWord (word : List Char) : List Char :=
  reduced (WordCase.capitalizedWord word)

def reducedKey (key : String) : List Char :=
  reduced (WordCase.pascal key.toList)

/-- What is left of the first cluster of a word, in upper case. -/
def reducedCapital (word : List Char) : List Char :=
  reduced (LetterCase.upperText ((Chars.clusters word).headD []))

def reducedRest (word : List Char) : List Char :=
  reduced (LetterCase.lowerText (Chars.clusters word).tail.flatten)

/--
Whether what is left of a word begins with an underscore, or with a letter that is not left of
its capital.
-/
def startsHidden (word : List Char) : Bool :=
  (reducedCapital word ++ reducedRest word).head? == some '_' ||
    (reducedCapital word).isEmpty && (reducedRest word).head?.any Chars.isLetter

/-- Whether the first word that leaves anything does so. -/
def isHidden (key : String) : Bool :=
  ((WordCase.words key.toList).find? fun word => !(reducedWord word).isEmpty).any startsHidden

theorem isNameCharacter_iff {c : Char} :
    isNameCharacter c = true ↔ Chars.isAlphanumeric c = true ∨ c = '_' := by
  rw [isNameCharacter, Bool.or_eq_true, beq_iff_eq]

theorem ascii_of_isNameCharacter {c : Char} (h : isNameCharacter c = true) :
    c.toNat < 0x80 ∧ c.toNat ≠ 0 := by
  rcases isNameCharacter_iff.1 h with letter | rfl
  · rw [Chars.isAlphanumeric_iff] at letter
    omega
  · decide

theorem isUpper_iff {c : Char} : c.isUpper = true ↔ 0x41 ≤ c.toNat ∧ c.toNat ≤ 0x5A :=
  decide_eq_true_iff

/-- What is left of a text in upper case has no small letter. -/
theorem not_small_of_mem_reduced_upperText {cs : List Char} {d : Char}
    (mem : d ∈ reduced (LetterCase.upperText cs)) : ¬(0x61 ≤ d.toNat ∧ d.toNat ≤ 0x7A) := by
  obtain ⟨inside, named⟩ := List.mem_filter.1 mem
  obtain ⟨ascii, visible⟩ := ascii_of_isNameCharacter named
  obtain ⟨c, -, form⟩ := List.mem_flatMap.1 inside
  rcases LetterCase.capital_of_mem_upper form ascii visible with capital | ⟨-, other⟩
  · omega
  · exact other

/-- What is left of a text in lower case has no capital. -/
theorem not_capital_of_mem_reduced_lowerText {cs : List Char} {d : Char}
    (mem : d ∈ reduced (LetterCase.lowerText cs)) : ¬(0x41 ≤ d.toNat ∧ d.toNat ≤ 0x5A) := by
  obtain ⟨inside, named⟩ := List.mem_filter.1 mem
  obtain ⟨ascii, visible⟩ := ascii_of_isNameCharacter named
  obtain ⟨c, -, form⟩ := List.mem_flatMap.1 inside
  rcases LetterCase.small_of_mem_lower form ascii visible with small | ⟨-, other⟩
  · omega
  · exact other

theorem reducedWord_eq (word : List Char) :
    reducedWord word = reducedCapital word ++ reducedRest word := by
  unfold reducedWord WordCase.capitalizedWord reducedCapital reducedRest
  cases Chars.clusters word with
  | nil => rfl
  | cons first rest => exact List.filter_append _ _

/-- What is left of a word is hidden just if it begins with an underscore or a small letter. -/
theorem startsHidden_iff {word : List Char} {d : Char} (head : (reducedWord word).head? = some d) :
    startsHidden word = true ↔ d = '_' ∨ (Chars.isLetter d = true ∧ ¬ d.isUpper = true) := by
  rw [reducedWord_eq] at head
  rw [startsHidden, head, isUpper_iff, Bool.or_eq_true, Bool.and_eq_true, beq_iff_eq,
    Option.some.injEq]
  refine or_congr_right ?_
  cases capital : reducedCapital word with
  | nil =>
      rw [capital, List.nil_append] at head
      have small := not_capital_of_mem_reduced_lowerText (List.mem_of_mem_head? head)
      simp [head, small]
  | cons e more =>
      rw [capital, List.cons_append, List.head?_cons] at head
      obtain rfl := Option.some.inj head
      have large : e ∈ reducedCapital word := capital ▸ List.mem_cons_self
      have large := not_small_of_mem_reduced_upperText large
      rw [Chars.isLetter_iff]
      simp only [List.isEmpty_cons, Bool.false_eq_true, false_and, false_iff]
      omega

theorem reducedKey_eq (key : String) :
    reducedKey key = (WordCase.words key.toList).flatMap reducedWord :=
  List.filter_flatMap

/-- What is left of a key begins with what is left of the first word that leaves anything. -/
theorem head?_reducedKey (key : String) :
    (reducedKey key).head? =
      ((WordCase.words key.toList).find? fun word => !(reducedWord word).isEmpty).bind
        fun word => (reducedWord word).head? := by
  rw [reducedKey_eq]
  induction WordCase.words key.toList with
  | nil => rfl
  | cons word rest ih =>
      rw [List.flatMap_cons]
      cases left : reducedWord word with
      | nil => rw [List.nil_append, ih, List.find?_cons_of_neg (by simp [left])]
      | cons c more => rw [List.find?_cons_of_pos (by simp [left])]; simp [left]

theorem isHidden_iff (key : String) :
    isHidden key = true ↔ ∃ c, (reducedKey key).head? = some c ∧
      (c = '_' ∨ (Chars.isLetter c = true ∧ ¬ c.isUpper = true)) := by
  rw [head?_reducedKey, isHidden]
  cases found : (WordCase.words key.toList).find? fun word => !(reducedWord word).isEmpty with
  | none => simp
  | some word =>
      have some := List.find?_some found
      have nonempty : reducedWord word ≠ [] := by simpa using some
      obtain ⟨c, more, left⟩ := List.exists_cons_of_ne_nil nonempty
      have head : (reducedWord word).head? = Option.some c := by rw [left, List.head?_cons]
      simp [head, startsHidden_iff head]

/-! ## Names of fields -/

/-- An ASCII letter or an underscore, with letters, digits and underscores behind it. -/
def IsIdentifier (name : String) : Prop :=
  ∃ first rest, name.toList = first :: rest ∧ (Chars.isLetter first = true ∨ first = '_') ∧
    ∀ c ∈ rest, isNameCharacter c = true

/-- An ASCII capital with letters, digits and underscores of ASCII behind it. -/
def IsExported (name : String) : Prop :=
  ∃ first rest, name.toList = first :: rest ∧ first.isUpper = true ∧
    ∀ c ∈ rest, isNameCharacter c = true

theorem IsIdentifier.append {name digits : String} (named : IsIdentifier name)
    (numeric : ∀ c ∈ digits.toList, c.isDigit = true) : IsIdentifier (name ++ digits) := by
  obtain ⟨first, rest, text, letter, plain⟩ := named
  refine ⟨first, rest ++ digits.toList, by simp [text], letter, ?_⟩
  exact List.forall_mem_append.2 ⟨plain, fun c mem =>
    isNameCharacter_iff.2 (.inl (Chars.isAlphanumeric_of_isDigit (numeric c mem)))⟩

theorem IsIdentifier.isExported_iff {name : String} (named : IsIdentifier name) :
    IsExported name ↔ name.toList.head?.any Char.isUpper = true := by
  obtain ⟨first, rest, text, -, plain⟩ := named
  rw [text, List.head?_cons, Option.any_some]
  constructor
  · rintro ⟨c, more, same, capital, -⟩
    obtain ⟨rfl, -⟩ := List.cons.inj (text.symm.trans same)
    exact capital
  · exact fun capital => ⟨first, rest, text, capital, plain⟩

/-- A wished name is what is left of the key, unless that is nothing or begins with a digit. -/
theorem wishedName_cases (key : String) :
    ((wishedName key).toList = "Field".toList ++ reducedKey key ∧
        ∀ c, (reducedKey key).head? = some c → Chars.isDigit c = true) ∨
      ((wishedName key).toList = reducedKey key ∧
        ∃ c, (reducedKey key).head? = some c ∧ (Chars.isLetter c = true ∨ c = '_')) := by
  have same : (WordCase.pascal key.toList).filter isNameCharacter = reducedKey key := rfl
  unfold wishedName
  dsimp only
  rw [same, String.toList_ofList]
  cases left : reducedKey key with
  | nil => exact .inl ⟨rfl, by simp⟩
  | cons c rest =>
      cases digit : Chars.isDigit c with
      | true => exact .inl ⟨by simp [startsWithDigit, digit], by simpa using digit⟩
      | false =>
          have mem : c ∈ reducedKey key := left ▸ List.mem_cons_self
          have named := isNameCharacter_iff.1 (List.mem_filter.1 mem).2
          rw [Chars.isAlphanumeric, digit, Bool.or_false] at named
          exact .inr ⟨by simp [startsWithDigit, digit], c, rfl, named⟩

theorem isIdentifier_wishedName (key : String) : IsIdentifier (wishedName key) := by
  have plain : ∀ c ∈ reducedKey key, isNameCharacter c = true :=
    fun c mem => (List.mem_filter.1 mem).2
  rcases wishedName_cases key with ⟨text, -⟩ | ⟨text, c, head, letter⟩
  · refine ⟨'F', "ield".toList ++ reducedKey key, text, by decide, ?_⟩
    exact List.forall_mem_append.2 ⟨List.all_eq_true.1 (by decide), plain⟩
  · obtain ⟨rest, left⟩ := List.head?_eq_some_iff.1 head
    rw [left] at text plain
    exact ⟨c, rest, text, letter, (List.forall_mem_cons.1 plain).2⟩

/-- A wished name begins with a capital unless the key hides it. -/
theorem isUpper_wishedName (key : String) :
    (wishedName key).toList.head?.any Char.isUpper = true ↔ isHidden key = false := by
  rw [← Bool.not_eq_true, isHidden_iff]
  rcases wishedName_cases key with ⟨text, digits⟩ | ⟨text, c, head, letter⟩
  · have prefixed : (wishedName key).toList.head? = some 'F' := by
      rw [text]
      rfl
    rw [prefixed]
    refine iff_of_true rfl ?_
    rintro ⟨c, head, hidden⟩
    have digit := digits c head
    rcases hidden with rfl | ⟨letter, -⟩
    · exact absurd digit (by decide)
    · have digit := (Chars.isDigit_iff.1 digit).2
      rw [Chars.isLetter_iff] at letter
      omega
  · rw [text, head, Option.any_some]
    rcases letter with letter | rfl
    · have other : c ≠ '_' := by
        rintro rfl
        exact absurd letter (by decide)
      simp [letter, other]
    · exact iff_of_false (by decide) fun shown => shown ⟨'_', rfl, .inl rfl⟩

/-- The fields of a struct are called by the names that their keys wish for, made different. -/
theorem names_structFields (taken : List String) (fields : List Field) :
    (structFields taken fields).map StructField.name =
      Fresh.names taken (fields.map fun f => wishedName f.key) := by
  induction fields generalizing taken with
  | nil => rfl
  | cons f rest ih =>
      rw [structFields, List.map_cons, ih, List.map_cons, Fresh.names]

/--
The fields of a struct have different names, each an identifier.  A field is seen by
other packages unless the first word of its key that leaves anything loses its capital
or begins with an underscore.
-/
theorem structFields_exported (d : Declaration) :
    ((structFields [] d.fields).map StructField.name).Nodup ∧
      List.Forall₂
        (fun f name => IsIdentifier name ∧ (IsExported name ↔ isHidden f.key = false))
        d.fields ((structFields [] d.fields).map StructField.name) := by
  rw [names_structFields]
  refine ⟨Fresh.nodup_names [] _, ?_⟩
  have given := Fresh.forall₂_names [] (d.fields.map fun f => wishedName f.key)
  rw [List.forall₂_map_left_iff] at given
  refine given.imp fun f name ⟨digits, named, numeric⟩ => ?_
  have own : IsIdentifier name := named ▸ (isIdentifier_wishedName f.key).append numeric
  refine ⟨own, ?_⟩
  rw [own.isExported_iff, ← isUpper_wishedName, named]
  obtain ⟨first, rest, text, -⟩ := isIdentifier_wishedName f.key
  rw [String.toList_append, text, List.cons_append, List.head?_cons, List.head?_cons]

/-- A sign in front of a word takes the place of its first letter. -/
theorem structFields_exported_dollar :
    let d : Declaration := ⟨"RequestBody", [⟨"$ref", .integer, false⟩]⟩
    (structFields [] d.fields).map StructField.name = ["ref"] ∧ ¬ IsExported "ref" := by
  refine ⟨by decide +kernel, ?_⟩
  rintro ⟨first, rest, text, capital, -⟩
  obtain ⟨rfl, -⟩ := List.cons.inj (text.symm.trans (by decide : "ref".toList = ['r', 'e', 'f']))
  exact absurd capital (by decide)

/-- An underscore with an accent is no separator. -/
example : wishedName "_\u0301a" = "_a" ∧ isHidden "_\u0301a" = true := by decide +kernel

end Go

end RequestScribe
