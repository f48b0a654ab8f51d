import RequestScribe.Proofs.Code.Mentions
import RequestScribe.Proofs.Shape.TypeText

/-!
# Crates that Rust types refer to

A program in Rust refers to a crate by its name with two colons after it.  The
only crate that types refer to is `serde_json`, and they do so where the shape of
a value is not known.
-/

namespace RequestScribe

open Lexis

/-- Whether the shape of some value is not known. -/
def Shape.isOpen : Shape → Bool
  | .any => true
  | .unionList _ => true
  | .list s => s.isOpen
  | _ => false

def TypeBlock.isOpen : TypeBlock → Bool
  | .alias _ s => s.isOpen
  | .record d => d.fields.any fun f => f.shape.isOpen

namespace Rust

abbrev roots (line : List Lexeme) : List String :=
  Lexeme.before [':', ':'] line

def openRoots (isOpen : Bool) : List String :=
  if isOpen then ["serde_json"] else []

theorem mem_openRoots_or {a b : Bool} {text : String} :
    text ∈ openRoots (a || b) ↔ text ∈ openRoots a ∨ text ∈ openRoots b := by
  cases a <;> cases b <;> simp [openRoots]

structure IsType (text : String) (isOpen : Bool) (m : Mask) (xs : List Lexeme) : Prop where
  mask : rust.Masks text.toList m
  opens : ∀ c, .mark c ∈ xs → Mask.isPlain .rust c = true
  adds : m.Adds xs
  named : ∃ n ys, xs = .name n :: ys
  answers : ∀ c rest, c ≠ ':' → roots (xs ++ .mark c :: rest) = openRoots isOpen ++ roots rest

theorem roots_name {n : String} {c : Char} (other : c ≠ ':') (rest : List Lexeme) :
    roots (.name n :: .mark c :: rest) = roots rest := by
  simp [roots, Lexeme.before, Ne.symm other]

theorem isType_any : ∃ m xs, IsType "serde_json::Value" true m xs := by
  let m : Mask := Mask.text "serde_json::Value"
  refine ⟨m, [.name "serde_json", .mark ':', .mark ':', .name "Value"], .chars _,
    by simp; decide, ?_, ⟨_, _, rfl⟩, fun c rest other => ?_⟩
  · rintro ⟨word, line, done⟩ rfl
    rfl
  · simp [roots, Lexeme.before, openRoots, Ne.symm other]

theorem isType_name {name : String} (isName : IsName name) :
    ∃ m xs, IsType name false m xs := by
  exact ⟨_, _, Masks.name isName, by simp, Mask.Adds.word name, ⟨_, _, rfl⟩,
    fun c rest other => roots_name other rest⟩

theorem IsType.wrap {wrapper text : String} {isOpen : Bool} {m : Mask} {xs : List Lexeme}
    (isName : IsName wrapper) (h : IsType text isOpen m xs) :
    ∃ m xs, IsType (wrapper ++ "<" ++ text ++ ">") isOpen m xs := by
  have inner := h.adds.mark (c := '>') (by decide) .nil
  have read := (Mask.Adds.word wrapper).mark (c := '<') (by decide) inner
  refine ⟨_, _, ?_, fun c mem => ?_, read, ⟨_, _, rfl⟩, fun c rest other => ?_⟩
  · have parts := (Masks.name isName).append (.char '<' (h.mask.append (.char '>' .nil)))
    simpa using parts
  · have cases : c = '<' ∨ .mark c ∈ xs ∨ c = '>' := by simpa using mem
    rcases cases with rfl | inside | rfl
    · decide
    · exact h.opens c inside
    · decide
  · have inner := h.answers '>' (.mark c :: rest) (by decide)
    have first : roots (Lexeme.mark c :: rest) = roots rest := rfl
    rw [first] at inner
    rw [← inner]
    simpa using roots_name (by decide) (xs ++ Lexeme.mark '>' :: Lexeme.mark c :: rest)

theorem isName_typeName {name : String} (h : IsTypeName name) : IsName name := by
  refine ⟨?_, fun c mem => isNameCharacter_of_identifier (h.isNameCharacter c mem)⟩
  rintro rfl
  obtain ⟨first, rest, text, -⟩ := h
  cases text

theorem exists_isType : ∀ s : Shape, (∀ n ∈ s.references, IsTypeName n) →
    ∃ m xs, IsType (typeText s) s.isOpen m xs
  | .any, _ => isType_any
  | .bool, _ | .integer, _ | .float, _ | .string, _ =>
      isType_name (isName_of_all (by decide) (by decide))
  | .unionList _, _ => by
      obtain ⟨m, xs, element⟩ := isType_any
      have vec : IsName "Vec" := isName_of_all (by decide) (by decide)
      exact element.wrap vec
  | .ref name, h => isType_name (isName_typeName (h name (by simp [Shape.references])))
  | .list s, h => by
      obtain ⟨m, xs, element⟩ := exists_isType s h
      have vec : IsName "Vec" := isName_of_all (by decide) (by decide)
      exact element.wrap vec

theorem exists_isType_field (f : Field) (h : ∀ n ∈ f.shape.references, IsTypeName n) :
    ∃ m xs, IsType (fieldType f) f.shape.isOpen m xs := by
  obtain ⟨m, xs, type⟩ := exists_isType f.shape h
  have option : IsName "Option" := isName_of_all (by decide) (by decide)
  unfold fieldType
  split
  · exact type.wrap option
  · exact ⟨m, xs, type⟩

/-! ## Names of fields -/

theorem isName_wishedName (key : String) : IsName (wishedName key) := by
  have kept : ∀ c ∈ (String.ofList ((WordCase.snake key.toList).filter isNameCharacter)).toList,
      Lexis.isNameCharacter c = true := by
    intro c mem
    rw [String.toList_ofList] at mem
    exact isNameCharacter_of_identifier (List.mem_filter.1 mem).2
  unfold wishedName
  dsimp only
  generalize String.ofList ((WordCase.snake key.toList).filter isNameCharacter) = name at kept ⊢
  split
  · refine ⟨by simp, ?_⟩
    rw [String.toList_append]
    exact List.forall_mem_append.2 ⟨List.all_eq_true.1 (by decide), kept⟩
  · next other =>
      refine ⟨?_, kept⟩
      rintro rfl
      exact other rfl

theorem isName_fresh {wished : String} (h : IsName wished) (taken : List String) :
    IsName (Fresh.name taken wished (Fresh.plain wished)) := by
  obtain ⟨digits, named, numeric⟩ := Fresh.exists_name_eq taken wished
  rw [named]
  refine ⟨by simp [h.nonempty], ?_⟩
  rw [String.toList_append]
  refine List.forall_mem_append.2 ⟨h.letters, fun c mem => ?_⟩
  simp [Lexis.isNameCharacter, Chars.isAlphanumeric_of_isDigit (numeric c mem)]

/-- A name, as a raw identifier or as it is, is followed by one colon only. -/
theorem exists_identifier {name : String} (isName : IsName name) :
    ∃ m xs, rust.Masks (identifier name).toList m ∧ m.Adds xs ∧
      (∀ c, .mark c ∈ xs → Mask.isPlain .rust c = true) ∧
      ∀ n rest, roots (.name "pub" :: (xs ++ .mark ':' :: .name n :: rest)) =
        roots (.name n :: rest) := by
  unfold identifier
  split
  · have marked : rust.Masks ("r#" ++ name).toList
        (Mask.text "r#" ++ [Glyph.word name]) := by
      rw [String.toList_append]
      exact (Masks.chars ['r', '#']).append (.name isName)
    have raw : Mask.Adds (Mask.text "r") [Lexeme.name "r"] :=
      .chars (by simp) (by decide)
    have read := raw.mark (c := '#') (by decide) (.word name)
    exact ⟨_, _, marked, read, by simp; decide, fun n rest => by simp [roots, Lexeme.before]⟩
  · exact ⟨_, _, Masks.name isName, .word name, by simp,
      fun n rest => by simp [roots, Lexeme.before]⟩

/-- A line that ends with a type and a mark refers to what the type refers to. -/
theorem tells_typed {α : Type} {label : α → String} {first : List Char} {mask : Mask}
    {ys : List Lexeme} (masks : rust.Masks first mask) (adds : mask.Adds ys)
    (plain : ∀ c, .mark c ∈ ys → Mask.isPlain .rust c = true)
    (apart : ∀ n rest, roots (ys ++ .name n :: rest) = roots (.name n :: rest))
    {type : String} {isOpen : Bool} {m : Mask} {xs : List Lexeme} (h : IsType type isOpen m xs)
    {ending : Char} (ends : ending ∈ [',', ';']) :
    Tells .rust roots label (first ++ ' ' :: (type.toList ++ [ending]))
      fun x => label x ∈ openRoots isOpen := by
  have single : ending ≠ ':' ∧ Mask.isMark ending = true ∧ Mask.isPlain .rust ending = true := by
    rw [List.mem_pair] at ends
    rcases ends with rfl | rfl <;> decide
  obtain ⟨other, solid, closed⟩ := single
  obtain ⟨n, zs, named⟩ := h.named
  have read := adds.space (h.adds.mark (c := ending) solid .nil)
  have opens : ∀ c, Lexeme.mark c ∈ ys ++ (xs ++ [Lexeme.mark ending]) →
      Mask.isPlain .rust c = true := by
    intro c mem
    have cases : Lexeme.mark c ∈ ys ∨ Lexeme.mark c ∈ xs ∨ c = ending := by simpa using mem
    rcases cases with inside | inside | rfl
    · exact plain c inside
    · exact h.opens c inside
    · exact closed
  have whole := masks.append (.char ' ' (h.mask.append (.char ending .nil)))
  refine (Tells.ofAdds whole read (by simp) opens).iff fun x => ?_
  have answer := h.answers ending [] other
  rw [named] at answer ⊢
  have refers := apart n (zs ++ [Lexeme.mark ending])
  have same := refers.trans (answer.trans (List.append_nil _))
  simp only [List.cons_append]
  rw [same]

/-! ## Lines of types -/

section Lines

variable {α : Type} {label : α → String} {unit : String} (blank : Writer.IsBlankUnit unit)

include blank

theorem tells_renameLine (key : String) : Tells .rust roots label
    (unit ++ "#[serde(rename = " ++ Json.quoted key ++ ")]").toList fun _ => False := by
  have literal : rust.IsLiteral (Json.quoted key).toList := isLiteral_jsonQuoted (by decide) key
  have text : (unit ++ "#[serde(rename = " ++ Json.quoted key ++ ")]").toList =
      unit.toList ++
        ("#[serde(rename = ".toList ++ (Json.quoted key).toList ++ ")]".toList) := by simp
  have line : Tells .rust roots label
      ("#[serde(rename = ".toList ++ (Json.quoted key).toList ++ ")]".toList)
      fun x => label x ∈ [] :=
    .ofMask (((Masks.text _).append (.literal literal)).append (.text _)) rfl
  rw [text]
  exact (line.indented blank).iff fun x => by simp

theorem tells_fieldLine {name type : String} (isName : IsName name) {isOpen : Bool} {m : Mask}
    {xs : List Lexeme} (h : IsType type isOpen m xs) : Tells .rust roots label
      (unit ++ "pub " ++ identifier name ++ ": " ++ type ++ ",").toList
      fun x => label x ∈ openRoots isOpen := by
  obtain ⟨mask, ys, masks, adds, opens, apart⟩ := exists_identifier isName
  have first := (Masks.text (l := .rust) "pub ").append
    (masks.append (.char ':' .nil))
  have keyword : Mask.Adds (Mask.text "pub") [Lexeme.name "pub"] :=
    .chars (by simp) (by decide)
  have read := keyword.space (adds.mark (c := ':') (by decide) .nil)
  have plain : ∀ c, Lexeme.mark c ∈ [Lexeme.name "pub"] ++ (ys ++ [Lexeme.mark ':']) →
      Mask.isPlain .rust c = true := by
    intro c mem
    have cases : Lexeme.mark c ∈ ys ∨ c = ':' := by simpa using mem
    rcases cases with inside | rfl
    · exact opens c inside
    · decide
  refine ((tells_typed first read plain (fun n rest => ?_) h
    (show ',' ∈ [',', ';'] by simp)).indented blank).congr ?_
  · simpa using apart n rest
  · simp

/-- The fields of a struct, in front of the rest of a text. -/
theorem tells_structFields {fields : List Field}
    (h : ∀ f ∈ fields, ∀ n ∈ f.shape.references, IsTypeName n) (taken : List String)
    {rest : List Char} {P : α → Prop} (later : Tells .rust roots label rest P) :
    Tells .rust roots label
      ((structFields taken fields).flatMap (fun f => (fieldLines unit f).text.toList) ++ rest)
      fun x => label x ∈ openRoots (fields.any fun f => f.shape.isOpen) ∨ P x := by
  induction fields generalizing taken with
  | nil => exact later.iff fun x => by simp [openRoots]
  | cons f fields ih =>
      obtain ⟨here, others⟩ := List.forall_mem_cons.1 h
      obtain ⟨m, xs, type⟩ := exists_isType_field f here
      have both := (tells_fieldLine blank
        (isName_fresh (isName_wishedName f.key) taken) type).feed (ih others
        (Fresh.name taken (wishedName f.key) (Fresh.plain (wishedName f.key)) :: taken))
      have split : ∀ x, label x ∈ openRoots f.shape.isOpen ∨
          label x ∈ openRoots (fields.any fun f => f.shape.isOpen) ∨ P x ↔
            label x ∈ openRoots ((f :: fields).any fun f => f.shape.isOpen) ∨ P x := by
        intro x
        rw [List.any_cons, mem_openRoots_or, or_assoc]
      rw [structFields]
      split
      · refine (both.iff split).congr ?_
        have none : Code.empty.text = "" := rfl
        simp [fieldLines, renameLine, none]
      · refine (((tells_renameLine blank f.key).feed both).iff fun x => ?_).congr ?_
        · rw [false_or, split]
        · simp [fieldLines, renameLine]

end Lines

end Rust

/-! ## Blocks -/

namespace TypeBlock

variable {α : Type} {label : α → String} {unit : String} (blank : Writer.IsBlankUnit unit)

include blank

theorem tells_rust {block : TypeBlock} (name : IsTypeName block.name)
    (refers : ∀ n ∈ block.references, IsTypeName n) :
    Tells .rust Rust.roots label (block.code .rust unit).text.toList
      fun x => label x ∈ Rust.openRoots block.isOpen := by
  cases block with
  | «alias» own shape =>
      obtain ⟨m, xs, type⟩ := Rust.exists_isType shape refers
      have isName : IsName own := Rust.isName_typeName name
      have first := (Masks.text (l := .rust) "pub type ").append
        ((Masks.name isName).append (.text " ="))
      have visible : Mask.Adds (Mask.text "pub") [Lexeme.name "pub"] :=
        .chars (by simp) (by decide)
      have keyword : Mask.Adds (Mask.text "type") [Lexeme.name "type"] :=
        .chars (by simp) (by decide)
      have read := visible.space (keyword.space ((Mask.Adds.word own).space
        (Mask.Adds.nil.mark (c := '=') (by decide) .nil)))
      refine (Rust.tells_typed first read (fun c mem => ?_) (fun n rest => ?_) type
        (show ';' ∈ [',', ';'] by simp)).congr ?_
      · obtain rfl : c = '=' := by simpa using mem
        decide
      · simp [Rust.roots, Lexeme.before]
      · simp [code, Rust.typeAlias]
  | record d =>
      have isName : IsName d.name := Rust.isName_typeName name
      have first : Tells .rust Rust.roots label
          "#[derive(Debug, Clone, Serialize, Deserialize)]".toList fun x => label x ∈ [] :=
        .ofMask (.chars _) rfl
      have second : Tells .rust Rust.roots label ("pub struct " ++ d.name ++ " \x7b").toList
          fun x => label x ∈ [] := by
        have masks := (Masks.text (l := .rust) "pub struct ").append
          ((Masks.name isName).append (Masks.text " \x7b"))
        exact (Tells.ofMask masks rfl).congr (by simp)
      have last : Tells .rust Rust.roots label ['\x7d'] fun x => label x ∈ [] :=
        .ofMask (.chars _) rfl
      have known : ∀ f ∈ d.fields, ∀ n ∈ f.shape.references, IsTypeName n := fun f mem n held =>
        refers n (List.mem_flatMap.2 ⟨f, mem, held⟩)
      have fields := Rust.tells_structFields blank known [] last
      refine ((first.feed (second.feed fields)).iff fun x => ?_).congr ?_
      · simp [isOpen]
      · simp [code, Rust.declaration, Code.toList_join, List.flatMap_map]

/-- Declarations with blank lines between them. -/
theorem tells_writeBlocks : ∀ {blocks : List TypeBlock},
    (∀ block ∈ blocks, IsTypeName block.name ∧ ∀ n ∈ block.references, IsTypeName n) →
    Tells .rust Rust.roots label (TypeSet.writeBlocks .rust unit blocks).text.toList
      fun x => label x ∈ Rust.openRoots (blocks.any isOpen)
  | [], _ => Tells.nil.iff fun x => by simp [Rust.openRoots]
  | [block], named => by
      obtain ⟨name, refers⟩ := named block List.mem_cons_self
      refine ((tells_rust blank name refers).iff fun x => ?_).congr ?_
      · simp
      · rw [TypeSet.writeBlocks, List.map_singleton, Code.intercalate_singleton]
  | block :: next :: rest, named => by
      obtain ⟨⟨name, refers⟩, later⟩ := List.forall_mem_cons.1 named
      refine (((tells_rust blank name refers).feed
        (Tells.nil.feed (tells_writeBlocks later))).iff fun x => ?_).congr ?_
      · simp only [List.any_cons, Rust.mem_openRoots_or, false_or]
      · simp [TypeSet.writeBlocks, Code.intercalate_cons_cons]

end TypeBlock

end RequestScribe
