import RequestScribe.Proofs.Code.RelaidSteps
import RequestScribe.Shape.Dialect

/-!
# Type declarations with another unit

Every field of a declaration takes whole lines, each of which begins with the unit.
-/

namespace RequestScribe

namespace Chars

/-- Whole lines, the same but for the indents that they begin with. -/
inductive Rows : List Char → List Char → Prop
  | nil : Rows [] []
  | cons {p q : List Char} (indents : Indents p q) (line : List Char) {a b : List Char}
      (rest : Rows a b) : Rows (p ++ (line ++ '\n' :: a)) (q ++ (line ++ '\n' :: b))

namespace Rows

variable {a b c d : List Char}

theorem single {p q : List Char} (indents : Indents p q) (line : List Char) :
    Rows (p ++ (line ++ ['\n'])) (q ++ (line ++ ['\n'])) :=
  .cons indents line .nil

theorem append (h : Rows a b) (h' : Rows c d) : Rows (a ++ c) (b ++ d) := by
  induction h with
  | nil => exact h'
  | cons indents line _ ih =>
      simp only [List.append_assoc, List.cons_append]
      exact .cons indents line ih

theorem flatMap {α : Type} {left right : α → List Char} {items : List α}
    (h : ∀ a ∈ items, Rows (left a) (right a)) :
    Rows (items.flatMap left) (items.flatMap right) := by
  induction items with
  | nil => exact .nil
  | cons a rest ih =>
      obtain ⟨first, others⟩ := List.forall_mem_cons.1 h
      exact first.append (ih others)

/-- Between the line that comes before them and the rest of the text. -/
theorem relaid_between (h : Rows a b) (start rest : List Char) :
    Relaid (start ++ '\n' :: (a ++ rest)) (start ++ '\n' :: (b ++ rest)) := by
  refine (Relaid.refl start).append ?_
  induction h with
  | nil => exact .refl _
  | cons indents line _ ih =>
      simp only [List.append_assoc, List.cons_append]
      exact .feed indents ((Relaid.refl line).append ih)

end Rows

end Chars

namespace Code

theorem toList_join (parts : List Code) :
    (join parts).text.toList = parts.flatMap fun part => part.text.toList := by
  induction parts with
  | nil => rfl
  | cons part rest ih =>
      have first : join (part :: rest) = part ++ join rest := rfl
      rw [first, text_append, String.toList_append, ih]
      rfl

/-- Parts are laid out again one by one. -/
theorem relaid_intercalate {α : Type} (separator : Code) {part part' : α → Code} {items : List α}
    (h : ∀ a ∈ items, Chars.Relaid (part a).text.toList (part' a).text.toList) :
    Chars.Relaid (intercalate separator (items.map part)).text.toList
      (intercalate separator (items.map part')).text.toList := by
  induction items with
  | nil => exact .refl _
  | cons a rest ih =>
      obtain ⟨first, others⟩ := List.forall_mem_cons.1 h
      cases rest with
      | nil => simpa [intercalate, join] using first
      | cons b more =>
          have later := (Chars.Relaid.refl separator.text.toList).append (ih others)
          have whole := first.append later
          simpa [intercalate_cons_cons] using whole

end Code

section Declarations

variable {unit unit' : String} (hu : Writer.IsIndentUnit unit) (hu' : Writer.IsIndentUnit unit')

include hu hu'

theorem Writer.IsIndentUnit.indents_unit : Chars.Indents unit.toList unit'.toList := by
  simpa [Text.times] using hu.indents hu' 1

theorem TypeScript.rows_fieldLine (f : Field) :
    Chars.Rows (fieldLine unit f).text.toList (fieldLine unit' f).text.toList := by
  have row := Chars.Rows.single (hu.indents_unit hu')
    ((propertyName f.key).text.toList ++ (if f.optional then "?" else "").toList ++ ": ".toList ++
      (typeText f.shape).toList ++ [';'])
  simpa [fieldLine] using row

theorem Go.rows_fieldLine (f : StructField) :
    Chars.Rows (fieldLine unit f).text.toList (fieldLine unit' f).text.toList := by
  have row := Chars.Rows.single (hu.indents_unit hu')
    (f.name.toList ++ ' ' :: f.type.toList ++ ' ' :: '\x60' :: f.tag.toList ++ ['\x60'])
  simpa [fieldLine] using row

theorem Rust.rows_renameLine (rename? : Option String) :
    Chars.Rows (renameLine unit rename?).text.toList (renameLine unit' rename?).text.toList := by
  cases rename? with
  | none => exact .nil
  | some key =>
      have row := Chars.Rows.single (hu.indents_unit hu')
        ("#[serde(rename = ".toList ++ (Json.quoted key).toList ++ ")]".toList)
      simpa [renameLine] using row

theorem Rust.rows_fieldLines (f : StructField) :
    Chars.Rows (fieldLines unit f).text.toList (fieldLines unit' f).text.toList := by
  have row := Chars.Rows.single (hu.indents_unit hu')
    ("pub ".toList ++ f.name.toList ++ ": ".toList ++ f.type.toList ++ [','])
  have rows := (rows_renameLine hu hu' f.rename?).append row
  simpa [fieldLines] using rows

theorem TypeBlock.relaid_code (dialect : Dialect) (block : TypeBlock) :
    Chars.Relaid (block.code dialect unit).text.toList (block.code dialect unit').text.toList := by
  cases block with
  | «alias» name shape => cases dialect <;> exact .refl _
  | record d =>
      cases dialect with
      | typeScript =>
          have rows := Chars.Rows.flatMap fun f (_ : f ∈ d.fields) =>
            TypeScript.rows_fieldLine hu hu' f
          have whole := rows.relaid_between
            ("export interface " ++ d.name ++ " \x7b").toList ['\x7d']
          simpa [code, TypeScript.declaration, Code.toList_join, List.flatMap_map] using whole
      | go =>
          have rows := Chars.Rows.flatMap fun f (_ : f ∈ Go.structFields [] d.fields) =>
            Go.rows_fieldLine hu hu' f
          have whole := rows.relaid_between ("type " ++ d.name ++ " struct \x7b").toList ['\x7d']
          simpa [code, Go.declaration, Code.toList_join, List.flatMap_map] using whole
      | rust =>
          have rows := Chars.Rows.flatMap fun f (_ : f ∈ Rust.structFields [] d.fields) =>
            Rust.rows_fieldLines hu hu' f
          have whole := rows.relaid_between
            ("#[derive(Debug, Clone, Serialize, Deserialize)]\npub struct " ++ d.name ++
              " \x7b").toList ['\x7d']
          simpa [code, Rust.declaration, Code.toList_join, List.flatMap_map] using whole

/-- The declarations of types are the same text with other indents. -/
theorem TypeSet.relaid_writeBlocks (dialect : Dialect) (blocks : List TypeBlock) :
    Chars.Relaid (writeBlocks dialect unit blocks).text.toList
      (writeBlocks dialect unit' blocks).text.toList :=
  Code.relaid_intercalate "\n\n" fun block _ => block.relaid_code hu hu' dialect

end Declarations

end RequestScribe
