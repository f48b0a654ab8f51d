import RequestScribe.Proofs.Shape.Outline
import RequestScribe.Proofs.Shape.References
import RequestScribe.Proofs.Shape.RelaidTypes
import RequestScribe.Proofs.Shape.TypeNames

/-!
# What type declarations declare

Read as a text, the blocks for a sample declare just the names of the blocks, in
their order.  In Go the key of a field stands in a raw string, which ends at the
first backtick, so there the keys must have none.
-/

namespace RequestScribe

open Outline

theorem IsTypeName.isNameCharacter {name : String} (h : IsTypeName name) :
    ∀ c ∈ name.toList, isNameCharacter c = true := by
  obtain ⟨first, rest, text, capital, plain⟩ := h
  have letter : Chars.isLetter first = true := by
    obtain ⟨low, high⟩ : 'A' ≤ first ∧ first ≤ 'Z' := of_decide_eq_true capital
    simp [Chars.isLetter, low, high]
  rw [text]
  refine List.forall_mem_cons.2 ⟨?_, fun c hc => ?_⟩
  · simp [Outline.isNameCharacter, Chars.isAlphanumeric, letter]
  · simp [Outline.isNameCharacter, plain c hc]

/-- Names have no marks. -/
theorem isUnmarked_of_name {text : List Char} (h : ∀ c ∈ text, isNameCharacter c = true) :
    IsUnmarked text :=
  .of_class (by decide) h

theorem IsTypeName.identifiers {name : String} (h : IsTypeName name) :
    identifiers name.toList = [name] := by
  have nonempty : name.toList ≠ [] := by
    obtain ⟨first, rest, text, -⟩ := h
    simp [text]
  exact identifiers_name h.isNameCharacter nonempty

theorem IsTypeName.not_mem_keywords {name : String} (h : IsTypeName name) (dialect : Dialect) :
    name ∉ dialect.keywords := by
  obtain ⟨first, rest, text, capital, -⟩ := h
  have small : ∀ word ∈ dialect.keywords, word.toList.head?.map Char.isUpper = some false := by
    cases dialect <;> decide
  intro reserved
  have begins := small name reserved
  rw [text, List.head?_cons, Option.map_some, capital] at begins
  cases begins

theorem IsTypeName.isInert {name : String} (h : IsTypeName name) (dialect : Dialect) :
    IsInert dialect name.toList where
  plain := isUnmarked_of_name h.isNameCharacter
  unreserved := by
    rw [h.identifiers]
    simpa using h.not_mem_keywords dialect

/-- The head of a declaration under the name of a type. -/
theorem IsTypeName.declares {name : String} (h : IsTypeName name) {dialect : Dialect}
    (keyword : String) (reserved : keyword ∈ dialect.keywords) {tail : List Char}
    (inert : IsInert dialect tail) :
    Declares dialect name (keyword.toList ++ ' ' :: (name.toList ++ ' ' :: tail)) :=
  .of_head reserved h.identifiers (h.isInert dialect) inert

/-! ## Types -/

theorem TypeScript.isInert_union {texts : List String}
    (h : ∀ text ∈ texts, IsInert .typeScript text.toList) :
    IsInert .typeScript (" | ".intercalate texts).toList := by
  rw [String.toList_intercalate]
  induction texts with
  | nil => exact .nil
  | cons text texts ih =>
      obtain ⟨first, later⟩ := List.forall_mem_cons.1 h
      cases texts with
      | nil => simpa using first
      | cons next texts =>
          have apart : [' ', '|', ' '].intercalate ((text :: next :: texts).map String.toList) =
              text.toList ++ ' ' :: '|' :: ' ' ::
                [' ', '|', ' '].intercalate ((next :: texts).map String.toList) := by
            simp [List.intercalate_cons_cons]
          have rest := (((ih later).after (c := ' ') (by decide)).after (c := '|') (by decide))
          exact apart ▸ first.around rest (by decide)

mutual

theorem TypeScript.isInert_typeText : ∀ s : Shape, (∀ n ∈ s.references, IsTypeName n) →
    IsInert .typeScript (typeText s).toList
  | .any, _ | .bool, _ | .integer, _ | .float, _ | .string, _ => by decide
  | .ref name, h => (h name (by simp [Shape.references])).isInert _
  | .list s, h => by
      have element := TypeScript.isInert_typeText s h
      rw [typeText]
      split
      · have text : ("Array<" ++ typeText s ++ ">").toList =
            "Array".toList ++ '<' :: ((typeText s).toList ++ '>' :: []) := by simp
        have name : IsInert .typeScript "Array".toList := by decide
        rw [text]
        exact name.around (element.around .nil (by decide)) (by decide)
      · have text : (typeText s ++ "[]").toList = (typeText s).toList ++ '[' :: [']'] := by simp
        rw [text]
        exact element.around (by decide) (by decide)
  | .unionList variants, h => by
      have all := TypeScript.isInert_typeTexts variants h
      have distinct : ∀ text ∈ (typeTexts variants).eraseDups, IsInert .typeScript text.toList :=
        fun text mem => all text (List.mem_eraseDups.1 mem)
      rw [typeText]
      split
      · next only same =>
          have element := distinct only (by simp [same])
          have text : (only ++ "[]").toList = only.toList ++ '[' :: [']'] := by simp
          rw [text]
          exact element.around (by decide) (by decide)
      · next names _ =>
          have text : ("(" ++ " | ".intercalate (typeTexts variants).eraseDups ++ ")[]").toList =
              '(' :: ((" | ".intercalate (typeTexts variants).eraseDups).toList ++
                ')' :: ['[', ']']) := by
            simp
          rw [text]
          exact ((isInert_union distinct).around (by decide) (by decide)).after (by decide)

theorem TypeScript.isInert_typeTexts : ∀ shapes : List Shape,
    (∀ n ∈ Shape.allReferences shapes, IsTypeName n) →
    ∀ text ∈ typeTexts shapes, IsInert .typeScript text.toList
  | [], _ => by simp [typeTexts]
  | s :: rest, h => by
      rw [Shape.allReferences, List.forall_mem_append] at h
      rw [typeTexts, List.forall_mem_cons]
      exact ⟨TypeScript.isInert_typeText s h.1, TypeScript.isInert_typeTexts rest h.2⟩

end

theorem Go.isInert_typeText : ∀ s : Shape, (∀ n ∈ s.references, IsTypeName n) →
    IsInert .go (typeText s).toList
  | .any, _ | .bool, _ | .integer, _ | .float, _ | .string, _ => by decide
  | .unionList _, _ => by
      rw [typeText]
      decide
  | .ref name, h => (h name (by simp [Shape.references])).isInert _
  | .list s, h => by
      have element := Go.isInert_typeText s h
      have text : (typeText (.list s)).toList = '[' :: ']' :: (typeText s).toList := by
        simp [typeText]
      rw [text]
      exact (element.after (by decide)).after (by decide)

theorem Rust.isInert_typeText : ∀ s : Shape, (∀ n ∈ s.references, IsTypeName n) →
    IsInert .rust (typeText s).toList
  | .any, _ | .bool, _ | .integer, _ | .float, _ | .string, _ => by decide
  | .unionList _, _ => by
      rw [typeText]
      decide
  | .ref name, h => (h name (by simp [Shape.references])).isInert _
  | .list s, h => by
      have element := Rust.isInert_typeText s h
      have text : (typeText (.list s)).toList =
          "Vec".toList ++ '<' :: ((typeText s).toList ++ '>' :: []) := by
        simp [typeText]
      have name : IsInert .rust "Vec".toList := by decide
      rw [text]
      exact name.around (element.around .nil (by decide)) (by decide)

/-! ## Fields -/

section Fields

variable {unit : String} (blank : Writer.IsBlankUnit unit)

theorem isUnmarked_fresh {wished : String} (h : IsUnmarked wished.toList) (taken : List String) :
    IsUnmarked (Fresh.name taken wished (Fresh.plain wished)).toList := by
  obtain ⟨digits, named, numeric⟩ := Fresh.exists_name_eq taken wished
  rw [named, String.toList_append]
  refine h.append (isUnmarked_of_name fun c hc => ?_)
  rw [Outline.isNameCharacter, Chars.isAlphanumeric_of_isDigit (numeric c hc), Bool.true_or]

theorem TypeScript.isUnmarked_of_isIdentifier {key : String} (h : isIdentifier key = true) :
    IsUnmarked (Code.plain key).text.toList := by
  have free : ['\x7b', '\x7d', '"', '\x60'].all (fun c => !isIdentifierCharacter c) = true := by
    decide
  rw [Code.text_plain]
  unfold isIdentifier at h
  split at h
  · cases h
  · next c rest text =>
      rw [Bool.and_eq_true, List.all_eq_true] at h
      rw [text]
      refine .of_class free (List.forall_mem_cons.2 ⟨?_, h.2⟩)
      rw [isIdentifierCharacter, h.1, Bool.true_or]

theorem Go.isUnmarked_wishedName (key : String) : IsUnmarked (wishedName key).toList := by
  have kept : IsUnmarked ((WordCase.pascal key.toList).filter isNameCharacter) :=
    isUnmarked_of_name fun c hc => (List.mem_filter.1 hc).2
  unfold wishedName
  rw [String.toList_ofList]
  split
  · exact .append (by decide) kept
  · exact kept

theorem Rust.isUnmarked_wishedName (key : String) : IsUnmarked (wishedName key).toList := by
  have kept : IsUnmarked
      (String.ofList ((WordCase.snake key.toList).filter isNameCharacter)).toList := by
    rw [String.toList_ofList]
    exact isUnmarked_of_name fun c hc => (List.mem_filter.1 hc).2
  unfold wishedName
  dsimp only
  split
  · rw [String.toList_append]
    exact .append (by decide) kept
  · exact kept

theorem Go.not_mem_fieldTag {f : Field} (whole : '\x60' ∉ f.key.toList) :
    '\x60' ∉ (fieldTag f).toList := by
  have tag : '\x60' ∉ (if f.optional then f.key ++ ",omitempty" else f.key).toList := by
    split
    · rw [String.toList_append, List.mem_append, not_or]
      exact ⟨whole, by decide⟩
    · exact whole
  unfold fieldTag Text.replaceChar
  dsimp only
  generalize (if f.optional then f.key ++ ",omitempty" else f.key) = text at tag
  simp only [String.toList_append, String.toList_ofList, List.mem_append, List.mem_flatMap, not_or,
    not_exists, not_and]
  refine ⟨⟨by decide, fun c hc => ?_⟩, by decide⟩
  split
  · decide
  · exact fun same => tag (List.mem_singleton.1 same ▸ hc)

include blank

theorem isPassed_unit : IsPassed unit.toList :=
  .plain fun c hc => by rcases blank c hc with rfl | rfl <;> decide

theorem TypeScript.isPassed_fieldLine {f : Field} (h : ∀ n ∈ f.shape.references, IsTypeName n) :
    IsPassed (fieldLine unit f).text.toList := by
  have property : IsPassed (propertyName f.key).text.toList := by
    unfold propertyName
    split
    · next plain => exact .plain (isUnmarked_of_isIdentifier plain)
    · rw [Code.text_quoted]
      exact .quoted f.key
  have mark : IsPassed ((if f.optional then "?" else "").toList) := by
    split <;> exact .plain (by decide)
  have type : IsPassed (typeText f.shape).toList := .plain (isInert_typeText f.shape h).plain
  have colon : IsPassed ": ".toList := .plain (by decide)
  have ending : IsPassed ";\n".toList := .plain (by decide)
  have whole := ((isPassed_unit blank).append property).append (mark.append
    (colon.append (type.append ending)))
  simpa [fieldLine] using whole

/-- The tag of a field stands in a raw string. -/
theorem Go.isPassed_fieldLine {f : StructField} (name : IsUnmarked f.name.toList)
    (type : IsUnmarked f.type.toList) (whole : '\x60' ∉ f.tag.toList) :
    IsPassed (fieldLine unit f).text.toList := by
  have space : IsPassed [' '] := .plain (by decide)
  have feed : IsPassed ['\n'] := .plain (by decide)
  have parts := (isPassed_unit blank).append ((Passes.plain name).append (space.append
    ((Passes.plain type).append (space.append ((Passes.raw whole).append feed)))))
  simpa [fieldLine] using parts

/-- Only the tag holds the key as it is: names of fields are made of letters and digits. -/
theorem Go.isPassed_structFields {fields : List Field}
    (h : ∀ f ∈ fields, ∀ n ∈ f.shape.references, IsTypeName n)
    (whole : ∀ f ∈ fields, '\x60' ∉ f.key.toList) (taken : List String) :
    ∀ f ∈ structFields taken fields, IsPassed (fieldLine unit f).text.toList := by
  induction fields generalizing taken with
  | nil => simp [structFields]
  | cons f fields ih =>
      obtain ⟨here, later⟩ := List.forall_mem_cons.1 h
      obtain ⟨wholeHere, wholeLater⟩ := List.forall_mem_cons.1 whole
      refine List.forall_mem_cons.2 ⟨?_, ih later wholeLater _⟩
      have type : IsUnmarked (fieldType f).toList := by
        have plain := (isInert_typeText f.shape here).plain
        unfold fieldType
        dsimp only
        split
        · rw [String.toList_append]
          exact .append (by decide) plain
        · exact plain
      exact isPassed_fieldLine blank (isUnmarked_fresh (isUnmarked_wishedName f.key) taken) type
        (not_mem_fieldTag wholeHere)

theorem Rust.isPassed_fieldLines {f : StructField} (name : IsUnmarked f.name.toList)
    (type : IsUnmarked f.type.toList) :
    IsPassed (fieldLines unit f).text.toList := by
  have rename : IsPassed (renameLine unit f.rename?).text.toList := by
    cases f.rename? with
    | none => exact .nil
    | some key =>
        have opening : IsPassed "#[serde(rename = ".toList := .plain (by decide)
        have closing : IsPassed ")]\n".toList := .plain (by decide)
        have parts := (isPassed_unit blank).append
          (opening.append ((Passes.quoted key).append closing))
        simpa [renameLine] using parts
  have visible : IsPassed "pub ".toList := .plain (by decide)
  have colon : IsPassed ": ".toList := .plain (by decide)
  have ending : IsPassed ",\n".toList := .plain (by decide)
  have parts := rename.append ((isPassed_unit blank).append (visible.append
    ((Passes.plain name).append (colon.append ((Passes.plain type).append ending)))))
  simpa [fieldLines] using parts

theorem Rust.isPassed_structFields {fields : List Field}
    (h : ∀ f ∈ fields, ∀ n ∈ f.shape.references, IsTypeName n) (taken : List String) :
    ∀ f ∈ structFields taken fields, IsPassed (fieldLines unit f).text.toList := by
  induction fields generalizing taken with
  | nil => simp [structFields]
  | cons f fields ih =>
      obtain ⟨here, later⟩ := List.forall_mem_cons.1 h
      refine List.forall_mem_cons.2 ⟨?_, ih later _⟩
      have type : IsUnmarked (fieldType f).toList := by
        have plain := (isInert_typeText f.shape here).plain
        unfold fieldType
        split
        · rw [String.toList_append, String.toList_append]
          exact .append (.append (by decide) plain) (by decide)
        · exact plain
      have name : IsUnmarked (identifier (Fresh.name taken (wishedName f.key)
          (Fresh.plain (wishedName f.key)))).toList := by
        have fresh := isUnmarked_fresh (isUnmarked_wishedName f.key) taken
        unfold identifier
        split
        · rw [String.toList_append]
          exact .append (by decide) fresh
        · exact fresh
      exact isPassed_fieldLines blank name type

end Fields

/-! ## Blocks -/

namespace TypeBlock

def references : TypeBlock → List String
  | .alias _ shape => shape.references
  | .record d => d.references

def keys : TypeBlock → List String
  | .alias .. => []
  | .record d => d.fields.map Field.key

theorem declares_alias (dialect : Dialect) {name : String} (h : IsTypeName name) {shape : Shape}
    (refers : ∀ n ∈ shape.references, IsTypeName n) (unit : String) :
    Declares dialect name ((TypeBlock.alias name shape).code dialect unit).text.toList := by
  cases dialect with
  | typeScript =>
      have lead : IsInert .typeScript "export".toList := by decide
      have type := (TypeScript.isInert_typeText shape refers).around .nil (c := ';') (by decide)
      have tail := (type.after (c := ' ') (by decide)).after (c := '=') (by decide)
      have whole := (h.declares "type" (by decide) tail).behind lead (c := ' ') (by decide)
      simpa [code, TypeScript.typeAlias] using whole
  | go =>
      have whole := h.declares "type" (by decide) (Go.isInert_typeText shape refers)
      simpa [code, Go.typeAlias] using whole
  | rust =>
      have lead : IsInert .rust "pub".toList := by decide
      have type := (Rust.isInert_typeText shape refers).around .nil (c := ';') (by decide)
      have tail := (type.after (c := ' ') (by decide)).after (c := '=') (by decide)
      have whole := (h.declares "type" (by decide) tail).behind lead (c := ' ') (by decide)
      simpa [code, Rust.typeAlias] using whole

theorem declares_record {unit : String} (blank : Writer.IsBlankUnit unit) (dialect : Dialect)
    {d : Declaration} (h : IsTypeName d.name)
    (refers : ∀ f ∈ d.fields, ∀ n ∈ f.shape.references, IsTypeName n)
    (whole : dialect = .go → ∀ f ∈ d.fields, '\x60' ∉ f.key.toList) :
    Declares dialect d.name ((TypeBlock.record d).code dialect unit).text.toList := by
  have feed : IsPassed ['\n'] := .plain (by decide)
  cases dialect with
  | typeScript =>
      have lead : IsInert .typeScript "export".toList := by decide
      have body := Passes.flatMap fun f hf => TypeScript.isPassed_fieldLine blank (refers f hf)
      have whole := ((h.declares "interface" (by decide) .nil).behind lead (c := ' ')
        (by decide)).braced (feed.append body)
      simpa [code, TypeScript.declaration, Code.toList_join, List.flatMap_map] using whole
  | go =>
      have struct : IsInert .go "struct ".toList := by decide
      have body := Passes.flatMap (Go.isPassed_structFields blank refers (whole rfl) [])
      have whole := (h.declares "type" (by decide) struct).braced (feed.append body)
      simpa [code, Go.declaration, Code.toList_join, List.flatMap_map] using whole
  | rust =>
      have lead : IsInert .rust
          "#[derive(Debug, Clone, Serialize, Deserialize)]\npub".toList := by decide
      have body := Passes.flatMap (Rust.isPassed_structFields blank refers [])
      have whole := ((h.declares "struct" (by decide) .nil).behind lead (c := ' ')
        (by decide)).braced (feed.append body)
      simpa [code, Rust.declaration, Code.toList_join, List.flatMap_map] using whole

/-- A block declares its name, whatever the keys of its fields; in Go they must have no backtick. -/
theorem declares {unit : String} (blank : Writer.IsBlankUnit unit) (dialect : Dialect)
    {block : TypeBlock} (name : IsTypeName block.name)
    (refers : ∀ n ∈ block.references, IsTypeName n)
    (whole : dialect = .go → ∀ key ∈ block.keys, '\x60' ∉ key.toList) :
    Declares dialect block.name (block.code dialect unit).text.toList := by
  cases block with
  | «alias» own shape => exact declares_alias dialect name refers unit
  | record d =>
      have fields : ∀ f ∈ d.fields, ∀ n ∈ f.shape.references, IsTypeName n :=
        fun f hf n hn => refers n (List.mem_flatMap.2 ⟨f, hf, hn⟩)
      exact declares_record blank dialect name fields
        fun go f hf => whole go f.key (List.mem_map_of_mem hf)

end TypeBlock

end RequestScribe
