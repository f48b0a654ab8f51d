import Mathlib.Data.List.Nodup
import RequestScribe.Proofs.Shape.TypeNames
import RequestScribe.Shape.Rust

/-!
# Names of Rust fields

A field gets the words of its key, reduced to ASCII, and a number where another
field has the name already.  The names that result are different and may stand in
a struct, with one exception: of words without any ASCII letter or digit only
underscores are left, and a single underscore is no name.
-/

namespace RequestScribe

namespace Rust

/-! ## Identifiers -/

/-- The words that the language reserves, in its edition of 2021. -/
def reservedWords : List String :=
  [ "Self", "abstract", "as", "async", "await", "become", "box", "break", "const", "continue",
    "crate", "do", "dyn", "else", "enum", "extern", "false", "final", "fn", "for", "if", "impl",
    "in", "let", "loop", "macro", "match", "mod", "move", "mut", "override", "priv", "pub", "ref",
    "return", "self", "static", "struct", "super", "trait", "true", "try", "type", "typeof",
    "unsafe", "unsized", "use", "virtual", "where", "while", "yield" ]

/-- The reserved words that are no raw identifiers either. -/
def unrawWords : List String :=
  ["Self", "crate", "self", "super"]

/-- ASCII letters, digits and underscores, a digit not in front, and not a single underscore. -/
structure IsWord (name : String) : Prop where
  nonempty : name ≠ ""
  letters : ∀ c ∈ name.toList, isNameCharacter c = true
  first : startsWithDigit name = false
  other : name ≠ "_"

/-- What may name a field: a word that is not reserved, or a raw identifier. -/
inductive IsFieldName : String → Prop where
  | plain {name : String} : IsWord name → name ∉ reservedWords → IsFieldName name
  | raw {word : String} : IsWord word → word ∉ unrawWords → IsFieldName ("r#" ++ word)

theorem not_isFieldName_underscore : ¬ IsFieldName "_" := by
  generalize same : "_" = name
  intro h
  cases h with
  | plain word => exact word.other same.symm
  | raw =>
      have lengths := congrArg (fun s => s.toList.length) same
      simp at lengths

/-! ## Wished names -/

def reducedKey (key : String) : List Char :=
  (WordCase.snake key.toList).filter isNameCharacter

theorem wishedName_eq (key : String) :
    wishedName key = "field_" ++ String.ofList (reducedKey key) ∨
      (wishedName key = String.ofList (reducedKey key) ∧ reducedKey key ≠ [] ∧
        startsWithDigit (String.ofList (reducedKey key)) = false ∧
        String.ofList (reducedKey key) ∉ pathKeywords) := by
  have reduced : String.ofList ((WordCase.snake key.toList).filter isNameCharacter) =
      String.ofList (reducedKey key) := rfl
  unfold wishedName
  dsimp only
  rw [reduced]
  split
  · exact .inl rfl
  · next kept =>
      simp only [Bool.or_eq_true, not_or, Bool.not_eq_true] at kept
      obtain ⟨⟨some, digit⟩, path⟩ := kept
      refine .inr ⟨rfl, ?_, digit, ?_⟩
      · intro none
        rw [none] at some
        exact absurd some (by decide)
      · intro mem
        rw [List.contains_iff_mem.2 mem] at path
        cases path

/-- A wished name is a word and no path, or a single underscore. -/
structure IsWished (name : String) : Prop where
  nonempty : name ≠ ""
  letters : ∀ c ∈ name.toList, isNameCharacter c = true
  first : startsWithDigit name = false
  path : name ∉ pathKeywords

theorem letters_reducedKey (key : String) :
    ∀ c ∈ (String.ofList (reducedKey key)).toList, isNameCharacter c = true := by
  intro c mem
  rw [String.toList_ofList] at mem
  exact (List.mem_filter.1 mem).2

theorem isWished_wishedName (key : String) : IsWished (wishedName key) := by
  have letters := letters_reducedKey key
  rcases wishedName_eq key with wished | ⟨wished, some, digit, path⟩
  · have text : (wishedName key).toList =
        "field_".toList ++ (String.ofList (reducedKey key)).toList := by
      simp [wished]
    refine ⟨?_, ?_, ?_, ?_⟩
    · intro empty
      rw [empty] at text
      cases text
    · rw [text]
      exact List.forall_mem_append.2 ⟨List.all_eq_true.1 (by decide), letters⟩
    · rw [startsWithDigit, text]
      rfl
    · intro mem
      have starts : ∀ name ∈ pathKeywords, name.toList.head? ≠ some 'f' := by decide
      exact starts _ mem (by rw [text]; rfl)
  · rw [wished]
    refine ⟨?_, letters, digit, path⟩
    intro empty
    have lists := congrArg String.toList empty
    rw [String.toList_ofList] at lists
    exact some lists

theorem wishedName_eq_underscore_iff (key : String) :
    wishedName key = "_" ↔ reducedKey key = ['_'] := by
  have underscore : "_".toList = ['_'] := rfl
  constructor
  · intro single
    rcases wishedName_eq key with wished | ⟨wished, -⟩
    · have lengths := congrArg (fun s => s.toList.length) (wished.symm.trans single)
      simp at lengths
    · have lists := congrArg String.toList (wished.symm.trans single)
      rwa [String.toList_ofList] at lists
  · intro single
    unfold wishedName
    dsimp only
    have text : String.ofList ((WordCase.snake key.toList).filter isNameCharacter) = "_" :=
      congrArg String.ofList single
    rw [text]
    rfl

/-! ## Names that are told apart -/

/-- With digits behind it a wished name is still one. -/
theorem IsWished.append {wished digits : String} (h : IsWished wished)
    (numeric : ∀ c ∈ digits.toList, c.isDigit = true) : IsWished (wished ++ digits) := by
  have some : wished.toList ≠ [] := fun none => h.nonempty (String.toList_inj.1 none)
  obtain ⟨c, rest, text⟩ := List.exists_cons_of_ne_nil some
  refine ⟨?_, ?_, ?_, ?_⟩
  · intro empty
    have lists := congrArg String.toList empty
    rw [String.toList_append, text] at lists
    cases lists
  · rw [String.toList_append]
    refine List.forall_mem_append.2 ⟨h.letters, fun d mem => ?_⟩
    simp [isNameCharacter, Chars.isAlphanumeric_of_isDigit (numeric d mem)]
  · have first := h.first
    rw [startsWithDigit, text] at first
    rw [startsWithDigit, String.toList_append, text]
    exact first
  · intro mem
    by_cases none : digits = ""
    · rw [none, String.append_empty] at mem
      exact h.path mem
    · have digitless : ∀ name ∈ pathKeywords, name.toList.all (fun d => !d.isDigit) = true := by
        decide
      obtain ⟨d, later, number⟩ :=
        List.exists_cons_of_ne_nil fun empty => none (String.toList_inj.1 empty)
      have inDigits : d ∈ digits.toList := by
        rw [number]
        exact List.mem_cons_self
      have inName : d ∈ (wished ++ digits).toList := by
        rw [String.toList_append]
        exact List.mem_append_right _ inDigits
      have letter := List.all_eq_true.1 (digitless _ mem) d inName
      rw [numeric d inDigits] at letter
      cases letter

/-- A single underscore among names with digits behind them is a wished one. -/
theorem IsWished.append_eq_underscore {wished digits : String} (h : IsWished wished)
    (single : wished ++ digits = "_") : wished = "_" := by
  have some : wished.toList ≠ [] := fun none => h.nonempty (String.toList_inj.1 none)
  obtain ⟨c, rest, text⟩ := List.exists_cons_of_ne_nil some
  have lists := congrArg String.toList single
  rw [String.toList_append, text, List.cons_append] at lists
  obtain ⟨first, none⟩ := List.cons.inj lists
  rw [(List.append_eq_nil_iff.1 none).1] at text
  exact String.toList_inj.1 (text.trans (by rw [first]; rfl))

/-- The fields of a struct are called by the names that their keys wish for, made different. -/
theorem names_structFields (taken : List String) (fields : List Field) :
    (structFields taken fields).map StructField.name =
      (Fresh.names taken (fields.map fun f => wishedName f.key)).map identifier := by
  induction fields generalizing taken with
  | nil => rfl
  | cons f rest ih =>
      rw [structFields, List.map_cons, ih, List.map_cons, Fresh.names, List.map_cons]

/-! ## Identifiers of fields -/

theorem IsWished.not_mem_hash {name : String} (h : IsWished name) : '#' ∉ name.toList :=
  fun mem => absurd (h.letters '#' mem) (by decide)

theorem identifier_cases (name : String) :
    (name ∈ keywords ∧ identifier name = "r#" ++ name) ∨
      (name ∉ keywords ∧ identifier name = name) := by
  unfold identifier
  split
  · next known => exact .inl ⟨List.contains_iff_mem.1 known, rfl⟩
  · next other => exact .inr ⟨fun mem => other (List.contains_iff_mem.2 mem), rfl⟩

theorem identifier_inj {a b : String} (ha : IsWished a) (hb : IsWished b)
    (same : identifier a = identifier b) : a = b := by
  have hash (name : String) : '#' ∈ ("r#" ++ name).toList := by
    rw [String.toList_append]
    exact List.mem_append_left _ (by decide)
  rcases identifier_cases a with ⟨-, first⟩ | ⟨-, first⟩
  · rcases identifier_cases b with ⟨-, second⟩ | ⟨-, second⟩
    · rw [first, second] at same
      have lists := congrArg String.toList same
      rw [String.toList_append, String.toList_append] at lists
      exact String.toList_inj.1 (List.append_cancel_left lists)
    · rw [first, second] at same
      exact absurd (same ▸ hash a) hb.not_mem_hash
  · rcases identifier_cases b with ⟨-, second⟩ | ⟨-, second⟩
    · rw [first, second] at same
      exact absurd (same ▸ hash b) ha.not_mem_hash
    · exact first.symm.trans (same.trans second)

theorem IsWished.isFieldName {name : String} (h : IsWished name) (other : name ≠ "_") :
    IsFieldName (identifier name) := by
  have word : IsWord name := ⟨h.nonempty, h.letters, h.first, other⟩
  have unraw : ∀ word ∈ unrawWords, word ∈ pathKeywords := by decide
  have reserved : ∀ word ∈ reservedWords, word ∈ keywords ∨ word ∈ pathKeywords := by
    decide +kernel
  rcases identifier_cases name with ⟨-, written⟩ | ⟨free, written⟩
  · rw [written]
    exact .raw word fun mem => h.path (unraw name mem)
  · rw [written]
    exact .plain word fun mem => (reserved name mem).elim free h.path

theorem identifier_eq_underscore_iff (name : String) : identifier name = "_" ↔ name = "_" := by
  constructor
  · intro single
    rcases identifier_cases name with ⟨-, written⟩ | ⟨-, written⟩
    · have lengths := congrArg (fun s => s.toList.length) (written.symm.trans single)
      simp at lengths
    · exact written.symm.trans single
  · rintro rfl
    decide

/--
The fields of a struct have different names, each of which Rust takes for the name
of a field, except for a single underscore.  That one is among them just if the
words of some key leave nothing but an underscore.
-/
theorem structFields_names (d : Declaration) :
    let names := (structFields [] d.fields).map StructField.name
    names.Nodup ∧ (∀ name ∈ names, IsFieldName name ∨ name = "_") ∧
      ("_" ∈ names ↔ ∃ f ∈ d.fields, reducedKey f.key = ['_']) := by
  intro names
  let own := Fresh.names [] (d.fields.map fun f => wishedName f.key)
  have distinct : own.Nodup := Fresh.nodup_names [] _
  have wished : ∀ name ∈ own, ∃ f ∈ d.fields, ∃ digits, name = wishedName f.key ++ digits ∧
      ∀ c ∈ digits.toList, c.isDigit = true := by
    intro name mem
    obtain ⟨wish, held, granted⟩ := Fresh.exists_wish mem
    obtain ⟨f, field, rfl⟩ := List.mem_map.1 held
    exact ⟨f, field, granted⟩
  have each : ∀ name ∈ own, IsWished name := by
    intro name mem
    obtain ⟨f, -, digits, rfl, numeric⟩ := wished name mem
    exact (isWished_wishedName f.key).append numeric
  have written : names = own.map identifier := names_structFields [] d.fields
  rw [written]
  refine ⟨?_, ?_, ?_⟩
  · exact distinct.map_on fun a ha b hb same => identifier_inj (each a ha) (each b hb) same
  · refine List.forall_mem_map.2 fun name mem => ?_
    by_cases single : name = "_"
    · exact .inr ((identifier_eq_underscore_iff name).2 single)
    · exact .inl ((each name mem).isFieldName single)
  · constructor
    · intro mem
      obtain ⟨name, held, same⟩ := List.mem_map.1 mem
      obtain ⟨f, field, digits, rfl, -⟩ := wished name held
      have single := (isWished_wishedName f.key).append_eq_underscore
        ((identifier_eq_underscore_iff _).1 same)
      exact ⟨f, field, (wishedName_eq_underscore_iff f.key).1 single⟩
    · rintro ⟨f, field, reduced⟩
      have wish : "_" ∈ d.fields.map fun f => wishedName f.key :=
        List.mem_map.2 ⟨f, field, (wishedName_eq_underscore_iff f.key).2 reduced⟩
      have single : "_" ∈ own := Fresh.mem_names List.not_mem_nil wish
      exact List.mem_map.2 ⟨"_", single, (identifier_eq_underscore_iff "_").2 rfl⟩

/-- Of two accented words only the underscore between them is left. -/
theorem structFields_names_accented :
    let d : Declaration := ⟨"RequestBody", [⟨"é_è", .integer, false⟩]⟩
    (structFields [] d.fields).map StructField.name = ["_"] ∧ ¬ IsFieldName "_" :=
  ⟨by decide +kernel, not_isFieldName_underscore⟩

/-- An accent keeps to its letter, so a word ends behind it. -/
example : wishedName "и\u0306И" = "_" := by decide +kernel

end Rust

end RequestScribe
