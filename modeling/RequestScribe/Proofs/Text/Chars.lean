import Mathlib.Data.List.Basic
import Mathlib.Data.List.TakeDrop
import Mathlib.Data.List.TakeWhile
import RequestScribe.Text.Basic
import RequestScribe.Text.Cluster

/-!
# Letters, cuts, blanks, parts and clusters

The ranges of letters and digits, and what their other case is.  What the cuts of a
text, the removal of blanks and the search for a part give, said by how the text is
put together.
-/

namespace RequestScribe

namespace Chars

theorem isLetter_iff {c : Char} : isLetter c = true ↔
    (0x61 ≤ c.toNat ∧ c.toNat ≤ 0x7A) ∨ (0x41 ≤ c.toNat ∧ c.toNat ≤ 0x5A) := by
  simp only [isLetter, Char.le_def, UInt32.le_iff_toNat_le, Bool.or_eq_true, Bool.and_eq_true,
    decide_eq_true_eq]
  rfl

theorem isDigit_iff {d : Char} : isDigit d = true ↔ 0x30 ≤ d.toNat ∧ d.toNat ≤ 0x39 := by
  rw [isDigit, Bool.and_eq_true, decide_eq_true_eq, decide_eq_true_eq]
  rfl

/-- Letters and digits by their code points. -/
theorem isAlphanumeric_iff {c : Char} :
    isAlphanumeric c = true ↔
      (0x61 ≤ c.toNat ∧ c.toNat ≤ 0x7A) ∨ (0x41 ≤ c.toNat ∧ c.toNat ≤ 0x5A) ∨
        (0x30 ≤ c.toNat ∧ c.toNat ≤ 0x39) := by
  rw [isAlphanumeric, Bool.or_eq_true, isLetter_iff, isDigit_iff]
  exact or_assoc

theorem isDigit_eq (c : Char) : isDigit c = c.isDigit := by
  simp [isDigit, Char.isDigit, Char.le_def]

theorem isAlphanumeric_of_isDigit {c : Char} (digit : c.isDigit = true) :
    isAlphanumeric c = true := by
  rw [isAlphanumeric, isDigit_eq, digit, Bool.or_true]

theorem not_blank_of_isAlphanumeric {c : Char} (h : isAlphanumeric c = true) :
    isBlank c = false := by
  rw [isAlphanumeric_iff] at h
  simp only [isBlank, Bool.or_eq_false_iff, Bool.and_eq_false_iff, decide_eq_false_iff_not,
    beq_eq_false_iff_ne]
  omega

/-- A hexadecimal digit is an ASCII character. -/
theorem hexValue?_small {c : Char} {n : Nat} (digit : hexValue? c = some n) :
    n < 16 ∧ c.toNat < 0x80 := by
  unfold hexValue? at digit
  simp only [Bool.and_eq_true, decide_eq_true_eq, Char.le_def, UInt32.le_iff_toNat_le] at digit
  have value : c.val.toNat = c.toNat := rfl
  have zero : '0'.val.toNat = 0x30 ∧ '0'.toNat = 0x30 ∧ '9'.val.toNat = 0x39 := ⟨rfl, rfl, rfl⟩
  have small : 'a'.val.toNat = 0x61 ∧ 'a'.toNat = 0x61 ∧ 'f'.val.toNat = 0x66 := ⟨rfl, rfl, rfl⟩
  have capital : 'A'.val.toNat = 0x41 ∧ 'A'.toNat = 0x41 ∧ 'F'.val.toNat = 0x46 := ⟨rfl, rfl, rfl⟩
  split_ifs at digit with decimal lower upper
  · have same := Option.some.inj digit
    omega
  · have same := Option.some.inj digit
    omega
  · have same := Option.some.inj digit
    omega

/-! ## Letter case in ASCII -/

theorem toUpper_cases (c : Char) :
    (0x61 ≤ c.toNat ∧ c.toNat ≤ 0x7A ∧ c.toUpper.toNat = c.toNat - 0x20) ∨
      (¬(0x61 ≤ c.toNat ∧ c.toNat ≤ 0x7A) ∧ c.toUpper = c) := by
  have a : 'a'.val.toNat = 0x61 := rfl
  have z : 'z'.val.toNat = 0x7A := rfl
  have A : 'A'.val.toNat = 0x41 := rfl
  unfold Char.toUpper
  split
  · next small =>
      simp only [Char.toNat, UInt32.le_iff_toNat_le, UInt32.toNat_add, UInt32.toNat_sub] at small ⊢
      omega
  · next other =>
      simp only [UInt32.le_iff_toNat_le] at other
      exact .inr ⟨other, rfl⟩

theorem toLower_cases (c : Char) :
    (0x41 ≤ c.toNat ∧ c.toNat ≤ 0x5A ∧ c.toLower.toNat = c.toNat + 0x20) ∨
      (¬(0x41 ≤ c.toNat ∧ c.toNat ≤ 0x5A) ∧ c.toLower = c) := by
  have a : 'a'.val.toNat = 0x61 := rfl
  have Z : 'Z'.val.toNat = 0x5A := rfl
  have A : 'A'.val.toNat = 0x41 := rfl
  unfold Char.toLower
  split
  · next capital =>
      simp only [Char.toNat, ge_iff_le, UInt32.le_iff_toNat_le, UInt32.toNat_add,
        UInt32.toNat_sub] at capital ⊢
      omega
  · next other =>
      simp only [ge_iff_le, UInt32.le_iff_toNat_le] at other
      exact .inr ⟨other, rfl⟩

theorem toUpper_eq_self {c : Char} (h : c.toUpper.toNat < 0x41 ∨ 0x5A < c.toUpper.toNat) :
    c.toUpper = c := by
  rcases toUpper_cases c with ⟨low, high, moved⟩ | ⟨-, same⟩
  · omega
  · exact same

theorem toLower_of_isDigit {c : Char} (digit : isDigit c = true) : c.toLower = c := by
  rw [isDigit_iff] at digit
  rcases toLower_cases c with ⟨low, -⟩ | ⟨-, same⟩
  · omega
  · exact same

theorem toLower_of_isBlank {c : Char} (blank : isBlank c = true) : c.toLower = c := by
  simp only [isBlank, Bool.or_eq_true, Bool.and_eq_true, decide_eq_true_eq, beq_iff_eq] at blank
  rcases toLower_cases c with ⟨low, high, -⟩ | ⟨-, same⟩
  · omega
  · exact same

theorem isAlphanumeric_toUpper {c : Char} (h : isAlphanumeric c = true) :
    isAlphanumeric c.toUpper = true := by
  rcases toUpper_cases c with ⟨low, high, moved⟩ | ⟨-, same⟩
  · rw [isAlphanumeric_iff]
    omega
  · rwa [same]

theorem isAlphanumeric_toLower {c : Char} (h : isAlphanumeric c = true) :
    isAlphanumeric c.toLower = true := by
  rcases toLower_cases c with ⟨low, high, moved⟩ | ⟨-, same⟩
  · rw [isAlphanumeric_iff]
    omega
  · rwa [same]

/-! ## Cuts -/

@[simp] theorem cut?_nil (sep : Char) : cut? sep [] = none := rfl

theorem cut?_cons (sep c : Char) (rest : List Char) :
    cut? sep (c :: rest) =
      if c = sep then some ([], rest)
      else (cut? sep rest).map fun (before, after) => (c :: before, after) := by
  unfold cut? cutWhere?
  simp only [List.span_eq_takeWhile_dropWhile]
  by_cases h : c = sep
  · simp [h]
  · simp only [List.takeWhile_cons, List.dropWhile_cons, beq_false_of_ne h, Bool.not_false,
      if_true, if_neg h]
    cases rest.dropWhile (fun c => !(c == sep)) <;> rfl

theorem cut?_append {sep : Char} {before : List Char} (absent : sep ∉ before)
    (after : List Char) : cut? sep (before ++ sep :: after) = some (before, after) := by
  induction before with
  | nil => simp [cut?_cons]
  | cons c before ih =>
      rw [List.mem_cons, not_or] at absent
      rw [List.cons_append, cut?_cons, if_neg (Ne.symm absent.1), ih absent.2]
      rfl

theorem cut?_append_of_not_mem {sep : Char} {start : List Char} (absent : sep ∉ start)
    (cs : List Char) :
    cut? sep (start ++ cs) = (cut? sep cs).map fun (before, after) => (start ++ before, after) := by
  induction start with
  | nil => simp
  | cons c start ih =>
      rw [List.mem_cons, not_or] at absent
      rw [List.cons_append, cut?_cons, if_neg (Ne.symm absent.1), ih absent.2, Option.map_map]
      rfl

theorem cut?_eq_none {sep : Char} {cs : List Char} (absent : sep ∉ cs) : cut? sep cs = none := by
  simpa using cut?_append_of_not_mem absent []

theorem cut?_eq_none_iff {sep : Char} {cs : List Char} : cut? sep cs = none ↔ sep ∉ cs := by
  refine ⟨fun none mem => ?_, cut?_eq_none⟩
  obtain ⟨before, after, rfl, absent⟩ := List.eq_append_cons_of_mem mem
  rw [cut?_append absent] at none
  exact absurd none (by simp)

theorem cut?_eq_some_iff {sep : Char} {cs before after : List Char} :
    cut? sep cs = some (before, after) ↔ cs = before ++ sep :: after ∧ sep ∉ before := by
  constructor
  · intro cut
    have inside : sep ∈ cs := by
      by_contra absent
      rw [cut?_eq_none absent] at cut
      exact absurd cut (by simp)
    obtain ⟨start, rest, rfl, absent⟩ := List.eq_append_cons_of_mem inside
    rw [cut?_append absent] at cut
    obtain ⟨rfl, rfl⟩ := Prod.mk.inj (Option.some.inj cut)
    exact ⟨rfl, absent⟩
  · rintro ⟨rfl, absent⟩
    exact cut?_append absent after

/-- What stands before the cut has no separator; without a cut this is all. -/
theorem getD_cut? (sep : Char) (cs : List Char) :
    ((cut? sep cs).map Prod.fst).getD cs = cs.takeWhile (· != sep) := by
  induction cs with
  | nil => rfl
  | cons c rest ih =>
      rw [cut?_cons]
      by_cases h : c = sep
      · simp [h]
      · rw [if_neg h, List.takeWhile_cons_of_pos (by simpa using h), ← ih]
        cases cut? sep rest <;> rfl

theorem forall_mem_intercalate {P : Char → Prop} {sep : List Char} (hsep : ∀ c ∈ sep, P c)
    {parts : List (List Char)} (hparts : ∀ part ∈ parts, ∀ c ∈ part, P c) :
    ∀ c ∈ sep.intercalate parts, P c := by
  match parts with
  | [] => simp
  | [part] => simpa using hparts
  | part :: next :: rest =>
      have first := hparts part List.mem_cons_self
      have later := forall_mem_intercalate hsep fun p hp => hparts p (List.mem_cons_of_mem part hp)
      rw [List.intercalate_cons_cons]
      simp only [List.forall_mem_append]
      exact ⟨⟨first, hsep⟩, later⟩

theorem mem_intercalate {c : Char} {part : List Char} (inside : c ∈ part) (sep : List Char)
    {parts : List (List Char)} (h : part ∈ parts) : c ∈ sep.intercalate parts := by
  match parts with
  | [] => exact absurd h List.not_mem_nil
  | [only] =>
      obtain rfl := List.mem_singleton.1 h
      simpa using inside
  | first :: next :: rest =>
      rw [List.intercalate_cons_cons]
      rcases List.mem_cons.1 h with rfl | h
      · exact List.mem_append_left _ (List.mem_append_left _ inside)
      · exact List.mem_append_right _ (mem_intercalate inside sep h)

/-- What is put together starts with its first part. -/
theorem exists_intercalate_cons (sep part : List Char) (others : List (List Char)) :
    ∃ rest, sep.intercalate (part :: others) = part ++ rest := by
  cases others with
  | nil => exact ⟨[], by rw [List.intercalate_singleton, List.append_nil]⟩
  | cons next others =>
      exact ⟨sep ++ sep.intercalate (next :: others), by
        rw [List.intercalate_cons_cons, List.append_assoc]⟩

/-- With a separator behind the last part as well, every part has one behind it. -/
theorem intercalate_append (sep : List Char) {parts : List (List Char)} (some : parts ≠ []) :
    sep.intercalate parts ++ sep = parts.flatMap (· ++ sep) := by
  match parts with
  | [] => exact absurd rfl some
  | [part] => simp
  | part :: next :: rest =>
      have later := intercalate_append sep (List.cons_ne_nil next rest)
      rw [List.intercalate_cons_cons, List.append_assoc, later]
      rfl

/-- The pieces of a text consist of its characters. -/
theorem mem_of_mem_splitOn {sep c : Char} {piece cs : List Char} (h : piece ∈ cs.splitOn sep)
    (inside : c ∈ piece) : c ∈ cs := by
  have whole : [sep].intercalate (cs.splitOn sep) = cs := List.intercalate_splitOn sep
  rw [← whole]
  exact mem_intercalate inside [sep] h

/-- No piece of a text has the separator. -/
theorem not_mem_of_mem_splitOn {sep : Char} {piece cs : List Char} (h : piece ∈ cs.splitOn sep) :
    sep ∉ piece := by
  induction cs generalizing piece with
  | nil =>
      rw [List.splitOn_nil, List.mem_singleton] at h
      exact h ▸ List.not_mem_nil
  | cons c rest ih =>
      rw [List.splitOn_cons_eq_if_modifyHead] at h
      split at h
      · rcases List.mem_cons.1 h with rfl | later
        · exact List.not_mem_nil
        · exact ih later
      · next other =>
          obtain ⟨first, more, pieces⟩ := List.exists_cons_of_ne_nil (List.splitOn_ne_nil sep rest)
          rw [pieces] at ih
          rw [pieces, List.modifyHead_cons] at h
          rcases List.mem_cons.1 h with rfl | later
          · have apart : sep ≠ c := fun same => other (by simp [same])
            exact List.not_mem_cons_of_ne_of_not_mem apart (ih List.mem_cons_self)
          · exact ih (List.mem_cons_of_mem first later)

theorem span_append {p : Char → Bool} {cs rest : List Char} (inside : ∀ c ∈ cs, p c = true)
    (stop : ∀ c ∈ rest.head?, p c = false) : (cs ++ rest).span p = (cs, rest) := by
  rw [List.span_eq_takeWhile_dropWhile, List.takeWhile_append_of_pos inside,
    List.dropWhile_append_of_pos inside]
  cases rest with
  | nil => simp
  | cons c rest => simp [stop c rfl]

theorem span_eq_iff {p : Char → Bool} {cs inside rest : List Char} :
    cs.span p = (inside, rest) ↔
      cs = inside ++ rest ∧ (∀ c ∈ inside, p c = true) ∧ ∀ c ∈ rest.head?, p c = false := by
  constructor
  · intro h
    rw [List.span_eq_takeWhile_dropWhile] at h
    obtain ⟨rfl, rfl⟩ := Prod.mk.inj h
    refine ⟨List.takeWhile_append_dropWhile.symm, List.all_eq_true.1 List.all_takeWhile, ?_⟩
    intro c first
    have stop := List.head?_dropWhile_not p cs
    rw [first] at stop
    simpa using stop
  · rintro ⟨rfl, inside, stop⟩
    exact span_append inside stop

/-! ## Blanks and parts -/

theorem mem_of_mem_trim {c : Char} {cs : List Char} (h : c ∈ trim cs) : c ∈ cs := by
  rw [trim, trimEnd, List.mem_reverse] at h
  have start := List.dropWhile_subset _ h
  rw [List.mem_reverse, trimStart] at start
  exact List.dropWhile_subset _ start

/-- Blanks inside a text stay. -/
theorem trim_of_visible_ends {cs : List Char} (first : ∀ c ∈ cs.head?, isBlank c = false)
    (last : ∀ c ∈ cs.getLast?, isBlank c = false) : trim cs = cs := by
  have start : cs.dropWhile isBlank = cs := by
    cases cs with
    | nil => rfl
    | cons c rest => simp [first c rfl]
  have stop : cs.reverse.dropWhile isBlank = cs.reverse := by
    rw [← List.head?_reverse] at last
    cases hrev : cs.reverse with
    | nil => rfl
    | cons c rest => simp [last c (by simp [hrev])]
  rw [trim, trimEnd, trimStart, start, stop, List.reverse_reverse]

theorem trim_of_no_blank {cs : List Char} (h : ∀ c ∈ cs, isBlank c = false) : trim cs = cs :=
  trim_of_visible_ends (fun c first => h c (List.mem_of_head? first))
    fun c last => h c (List.mem_of_getLast? last)

/-- Nothing that is trimmed ends in a blank. -/
theorem visible_getLast?_trim (cs : List Char) :
    ∀ c ∈ (trim cs).getLast?, isBlank c = false := by
  intro c last
  rw [trim, trimEnd, List.getLast?_reverse] at last
  have stop := List.head?_dropWhile_not isBlank (trimStart cs).reverse
  rw [last] at stop
  simpa using stop

/-- Nothing that is trimmed begins with a blank. -/
theorem visible_head?_trim (cs : List Char) : ∀ c ∈ (trim cs).head?, isBlank c = false := by
  intro c first
  have start : trim cs <+: trimStart cs := by
    rw [trim, trimEnd, ← List.reverse_suffix, List.reverse_reverse]
    exact List.dropWhile_suffix _
  obtain ⟨rest, whole⟩ := start
  have stop := List.head?_dropWhile_not isBlank cs
  have same : (cs.dropWhile isBlank).head? = some c := by
    show (trimStart cs).head? = some c
    rw [← whole, List.head?_append, first]
    rfl
  rw [same] at stop
  simpa using stop

theorem trim_trim (cs : List Char) : trim (trim cs) = trim cs :=
  trim_of_visible_ends (visible_head?_trim cs) (visible_getLast?_trim cs)

theorem visible_of_trim_eq {cs : List Char} (trimmed : trim cs = cs) :
    ∀ c ∈ cs.getLast?, isBlank c = false := by
  intro c last
  rw [← trimmed] at last
  exact visible_getLast?_trim cs c last

theorem trim_cons_blank {c : Char} (h : isBlank c = true) (rest : List Char) :
    trim (c :: rest) = trim rest := by
  simp [trim, trimStart, h]

theorem trim_of_blank {cs : List Char} (blank : ∀ c ∈ cs, isBlank c = true) : trim cs = [] := by
  rw [trim, trimStart, List.dropWhile_eq_nil_iff.2 blank]
  rfl

theorem trim_eq_nil_iff {cs : List Char} : trim cs = [] ↔ ∀ c ∈ cs, isBlank c = true := by
  refine ⟨fun empty => ?_, trim_of_blank⟩
  have blank : ∀ c ∈ trimStart cs, isBlank c = true := by
    rw [trim, trimEnd, List.reverse_eq_nil_iff, List.dropWhile_eq_nil_iff] at empty
    exact fun c mem => empty c (List.mem_reverse.2 mem)
  have start : trimStart cs = [] := by
    rw [trimStart, ← List.head?_eq_none_iff, Option.eq_none_iff_forall_ne_some]
    intro c first
    have visible := List.head?_dropWhile_not isBlank cs
    rw [first] at visible
    exact absurd (blank c (List.mem_of_head? first)) (by simpa using visible)
  exact List.dropWhile_eq_nil_iff.1 start

theorem hasPart_iff {word cs : List Char} : hasPart word cs = true ↔ word <:+: cs := by
  induction cs with
  | nil => simp [hasPart]
  | cons c rest ih => simp [hasPart, ih, List.infix_cons_iff]

end Chars

/-! ## Clusters -/

namespace Cluster

/-- Characters are cut apart, and none is lost. -/
theorem flatten_split (ending : Ending) (cluster cs : List Char) :
    (split ending cluster cs).flatten = cluster.reverse ++ cs := by
  induction cs generalizing ending cluster with
  | nil => simp [split]
  | cons c rest ih =>
      rw [split]
      split
      · rw [ih, List.reverse_cons, List.append_assoc, List.singleton_append]
      · rw [List.flatten_cons, ih, List.reverse_singleton, List.singleton_append]

theorem ofChar_of_isPlain {c : Char} (plain : isPlain c = true) : Kind.ofChar c = .other :=
  if_pos plain

/-- Behind a plain character a cluster ends before the next one. -/
theorem split_of_isPlain (c : Char) {cs : List Char} (plain : ∀ d ∈ cs, isPlain d = true) :
    split .other [c] cs = [c] :: cs.map ([·]) := by
  induction cs generalizing c with
  | nil => rfl
  | cons d rest ih =>
      obtain ⟨first, later⟩ := List.forall_mem_cons.1 plain
      have apart : Ending.other.takes .other = false := rfl
      have ending : Ending.other.after .other = .other := rfl
      rw [split]
      rw [ofChar_of_isPlain first, apart, if_neg Bool.false_ne_true, ending, ih d later]
      rfl

end Cluster

namespace Chars

theorem flatten_clusters (cs : List Char) : (clusters cs).flatten = cs := by
  cases cs with
  | nil => rfl
  | cons c rest => rw [clusters, Cluster.flatten_split, List.reverse_singleton, List.singleton_append]

theorem clusters_of_isPlain {cs : List Char} (plain : ∀ c ∈ cs, Cluster.isPlain c = true) :
    clusters cs = cs.map ([·]) := by
  cases cs with
  | nil => rfl
  | cons c rest =>
      obtain ⟨first, later⟩ := List.forall_mem_cons.1 plain
      rw [clusters, Cluster.ofChar_of_isPlain first]
      exact Cluster.split_of_isPlain c later

theorem ascii_of_isAlphanumeric {c : Char} (h : isAlphanumeric c = true) : c.toNat < 0x80 := by
  rw [isAlphanumeric_iff] at h
  omega

theorem isPlain_of_isAlphanumeric {c : Char} (h : isAlphanumeric c = true) :
    Cluster.isPlain c = true := by
  rw [isAlphanumeric_iff] at h
  simp only [Cluster.isPlain, Bool.and_eq_true, decide_eq_true_eq]
  omega

end Chars

namespace Text

theorem cut?_append {sep : Char} {before after s : String} (absent : sep ∉ before.toList)
    (text : s.toList = before.toList ++ sep :: after.toList) :
    cut? sep s = some (before, after) := by
  simp [cut?, text, Chars.cut?_append absent]

theorem trim_of_no_blank {s : String} (h : ∀ c ∈ s.toList, Chars.isBlank c = false) :
    trim s = s := by
  rw [trim, Chars.trim_of_no_blank h, String.ofList_toList]

theorem trim_trim (s : String) : trim (trim s) = trim s := by
  rw [trim, trim, String.toList_ofList, Chars.trim_trim]

theorem cut?_eq_none_iff {sep : Char} {s : String} : cut? sep s = none ↔ sep ∉ s.toList := by
  rw [cut?, Option.map_eq_none_iff, Chars.cut?_eq_none_iff]

theorem cut?_eq_some_iff {sep : Char} {s before after : String} :
    cut? sep s = some (before, after) ↔
      s.toList = before.toList ++ sep :: after.toList ∧ sep ∉ before.toList := by
  constructor
  · intro cut
    obtain ⟨⟨start, rest⟩, parts, same⟩ := Option.map_eq_some_iff.1 cut
    obtain ⟨rfl, rfl⟩ := Prod.mk.inj same
    rw [String.toList_ofList, String.toList_ofList]
    exact Chars.cut?_eq_some_iff.1 parts
  · rintro ⟨text, absent⟩
    exact cut?_append absent text

theorem trim_space_append (s : String) : trim (" " ++ s) = trim s := by
  have text : (" " ++ s).toList = ' ' :: s.toList := by simp
  rw [trim, text, Chars.trim_cons_blank (by decide), trim]

theorem trim_of_blank {s : String} (blank : isBlank s = true) : trim s = "" := by
  rw [trim, Chars.trim_of_blank (List.all_eq_true.1 blank), String.ofList_nil]

theorem trim_eq_empty_iff {s : String} : trim s = "" ↔ isBlank s = true := by
  rw [trim, String.ofList_eq_empty_iff, Chars.trim_eq_nil_iff, isBlank, List.all_eq_true]

theorem before?_eq_some_iff {tail s before : String} :
    before? tail s = some before ↔ before ++ tail = s := by
  rw [before?, Option.map_eq_some_iff]
  constructor
  · rintro ⟨cs, rest, rfl⟩
    have whole := List.isSuffixOf?_eq_some_iff_append_eq.1 rest
    rw [← String.toList_inj, String.toList_append, String.toList_ofList, whole]
  · rintro rfl
    refine ⟨before.toList, ?_, String.ofList_toList⟩
    rw [List.isSuffixOf?_eq_some_iff_append_eq, String.toList_append]

theorem before?_eq_none {c : Char} {s : String} (other : s.toList.getLast? ≠ some c) :
    before? (String.singleton c) s = none := by
  rw [Option.eq_none_iff_forall_ne_some]
  intro before found
  obtain rfl := before?_eq_some_iff.1 found
  exact other (by simp)

end Text

end RequestScribe
