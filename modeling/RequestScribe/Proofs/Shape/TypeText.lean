import RequestScribe.Proofs.Code.MaskedLiteral
import RequestScribe.Proofs.Code.Mentions
import RequestScribe.Proofs.Shape.Declared

/-!
# Type declarations as code

Outside of literals type declarations have names, brackets and a few marks, none
of which is a dot or opens a literal or a comment.  In Go the keys stand in raw
strings; all of them are keys of the sample.
-/

namespace RequestScribe

open Lexis

/-! ## Characters -/

theorem Lexis.isNameCharacter_of_identifier {c : Char} (h : Outline.isNameCharacter c = true) :
    isNameCharacter c = true := by
  simp only [Outline.isNameCharacter, Bool.or_eq_true] at h
  simp only [isNameCharacter, Bool.or_eq_true]
  exact .inl h

def typeMarks : List Char :=
  "\x7b\x7d[]()<>:;,|?=#*".toList

def isTypeCharacter (c : Char) : Bool :=
  Lexis.isNameCharacter c || Chars.isBlank c || typeMarks.contains c

theorem mem_typeMarks {c : Char} (h : isTypeCharacter c = true) (mark : Mask.isMark c = true) :
    c ∈ typeMarks := by
  simp only [Mask.isMark, Bool.and_eq_true, Bool.not_eq_true'] at mark
  simpa [isTypeCharacter, mark] using h

def IsTypeText (text : List Char) : Prop :=
  ∀ c ∈ text, isTypeCharacter c = true

instance : DecidablePred IsTypeText := fun text =>
  decidable_of_iff (text.all isTypeCharacter = true) (by simp [IsTypeText])

namespace IsTypeText

variable {a b : List Char}

theorem append (ha : IsTypeText a) (hb : IsTypeText b) : IsTypeText (a ++ b) :=
  List.forall_mem_append.2 ⟨ha, hb⟩

theorem of_names (letters : ∀ c ∈ a, Lexis.isNameCharacter c = true) : IsTypeText a :=
  fun c mem => by simp [isTypeCharacter, letters c mem]

theorem of_identifier (letters : ∀ c ∈ a, Outline.isNameCharacter c = true) : IsTypeText a :=
  of_names fun c mem => isNameCharacter_of_identifier (letters c mem)

theorem fresh {wished : String} (h : IsTypeText wished.toList) (taken : List String) :
    IsTypeText (Fresh.name taken wished (Fresh.plain wished)).toList := by
  obtain ⟨digits, named, numeric⟩ := Fresh.exists_name_eq taken wished
  rw [named, String.toList_append]
  refine h.append (of_names fun c mem => ?_)
  rw [Lexis.isNameCharacter, Chars.isAlphanumeric_of_isDigit (numeric c mem), Bool.true_or,
    Bool.true_or]

end IsTypeText

theorem IsTypeName.isTypeText {name : String} (h : IsTypeName name) : IsTypeText name.toList :=
  .of_identifier h.isNameCharacter

namespace Code

variable {l : Lexis} {a b : Code}

abbrev IsTypeCode (l : Lexis) (c : Code) : Prop :=
  c.IsMadeOf l isTypeCharacter

theorem isTypeCode_plain {text : String} (h : IsTypeText text.toList) :
    (plain text).IsTypeCode l :=
  .plain h

theorem isTypeCode_text {cs : List Char} (h : IsTypeText cs) :
    (plain (String.ofList cs)).IsTypeCode l :=
  isTypeCode_plain (by rwa [String.toList_ofList])

/-- Types are code that opens nothing. -/
theorem IsTypeCode.isPlain {c : Code} (h : c.IsTypeCode l)
    (opens : ∀ d ∈ typeMarks, Mask.isPlain l d = true) : c.mask.IsPlain l :=
  fun d mem mark => opens d (mem_typeMarks (h.characters d mem) mark)

/-- Types have no dots, so no name in them stands before one. -/
theorem IsTypeCode.mentions {α : Type} {name : α → String} {c : Code} (h : c.IsTypeCode l)
    (opens : ∀ d ∈ typeMarks, Mask.isPlain l d = true) :
    Step.Mentions l (Lexeme.before ['.']) name [.lines c] fun _ => False := by
  refine (Step.Mentions.ofLines h.read.hasMask (h.isPlain opens)).iff fun x => ?_
  refine iff_false_intro fun mem => ?_
  obtain ⟨line, held, before⟩ := List.mem_flatMap.1 mem
  have dot := (Lexeme.mem_of_mem_before before).2 '.' List.mem_cons_self
  exact absurd (h.characters '.' (Mask.mem_of_mark held dot)) (by decide)

end Code

/-! ## Types -/

theorem TypeScript.isTypeText_union {texts : List String}
    (h : ∀ text ∈ texts, IsTypeText text.toList) :
    IsTypeText (" | ".intercalate texts).toList := by
  rw [String.toList_intercalate]
  induction texts with
  | nil => exact fun _ mem => absurd mem List.not_mem_nil
  | cons text texts ih =>
      obtain ⟨first, later⟩ := List.forall_mem_cons.1 h
      cases texts with
      | nil => simpa using first
      | cons next texts =>
          rw [List.map_cons, List.map_cons, List.intercalate_cons_cons, List.append_assoc]
          exact first.append (.append (by decide) (ih later))

mutual

theorem TypeScript.isTypeText_typeText : ∀ s : Shape, (∀ n ∈ s.references, IsTypeName n) →
    IsTypeText (typeText s).toList
  | .any, _ | .bool, _ | .integer, _ | .float, _ | .string, _ => by decide
  | .ref name, h => (h name (by simp [Shape.references])).isTypeText
  | .list s, h => by
      have element := TypeScript.isTypeText_typeText s h
      rw [typeText]
      split
      · rw [String.toList_append, String.toList_append]
        exact .append (.append (by decide) element) (by decide)
      · rw [String.toList_append]
        exact .append element (by decide)
  | .unionList variants, h => by
      have all := TypeScript.isTypeText_typeTexts variants h
      have distinct : ∀ text ∈ (typeTexts variants).eraseDups, IsTypeText text.toList :=
        fun text mem => all text (List.mem_eraseDups.1 mem)
      rw [typeText]
      split
      · next only same =>
          rw [String.toList_append]
          exact .append (distinct only (by simp [same])) (by decide)
      · rw [String.toList_append, String.toList_append]
        exact .append (.append (by decide) (isTypeText_union distinct)) (by decide)

theorem TypeScript.isTypeText_typeTexts : ∀ shapes : List Shape,
    (∀ n ∈ Shape.allReferences shapes, IsTypeName n) →
    ∀ text ∈ typeTexts shapes, IsTypeText text.toList
  | [], _ => by simp [typeTexts]
  | s :: rest, h => by
      rw [Shape.allReferences, List.forall_mem_append] at h
      rw [typeTexts, List.forall_mem_cons]
      exact ⟨TypeScript.isTypeText_typeText s h.1, TypeScript.isTypeText_typeTexts rest h.2⟩

end

theorem Go.isTypeText_typeText : ∀ s : Shape, (∀ n ∈ s.references, IsTypeName n) →
    IsTypeText (typeText s).toList
  | .any, _ | .bool, _ | .integer, _ | .float, _ | .string, _ => by decide
  | .unionList _, _ => by
      rw [typeText]
      decide
  | .ref name, h => (h name (by simp [Shape.references])).isTypeText
  | .list s, h => by
      rw [typeText, String.toList_append]
      exact .append (by decide) (Go.isTypeText_typeText s h)

section Fields

variable {unit : String} (blank : Writer.IsBlankUnit unit)

include blank

theorem isTypeText_unit : IsTypeText unit.toList := by
  intro c mem
  rcases blank c mem with rfl | rfl <;> decide

theorem TypeScript.isTypeCode_fieldLine {f : Field} (h : ∀ n ∈ f.shape.references, IsTypeName n) :
    (fieldLine unit f).IsTypeCode .script := by
  have property : (propertyName f.key).IsTypeCode .script := by
    unfold propertyName
    split
    · next plain =>
        refine Code.isTypeCode_plain ?_
        unfold isIdentifier at plain
        split at plain
        · cases plain
        · next c rest text =>
            rw [Bool.and_eq_true, List.all_eq_true] at plain
            rw [text]
            refine .of_names (List.forall_mem_cons.2 ⟨?_, fun d mem => ?_⟩)
            · have start := plain.1
              simp only [isIdentifierStart, Lexis.isNameCharacter, Chars.isAlphanumeric,
                Bool.or_eq_true] at start ⊢
              grind
            · have letter := plain.2 d mem
              simp only [isIdentifierCharacter, isIdentifierStart, Lexis.isNameCharacter,
                Chars.isAlphanumeric, Bool.or_eq_true] at letter ⊢
              grind
    · exact Code.IsMadeOf.quoted (isLiteral_jsonQuoted (by decide) f.key)
  have mark : (Code.plain (if f.optional then "?" else "")).IsTypeCode .script := by
    split <;> exact Code.isTypeCode_plain (by decide)
  exact (((((Code.isTypeCode_plain (isTypeText_unit blank)).append property).append mark).append
    (Code.isTypeCode_text (by decide))).append
      (Code.isTypeCode_plain (isTypeText_typeText f.shape h))).append
        (Code.isTypeCode_text (by decide))

theorem Go.isTypeCode_fieldLine {f : StructField} (name : IsTypeText f.name.toList)
    (type : IsTypeText f.type.toList) (whole : '\x60' ∉ f.tag.toList) :
    (fieldLine unit f).IsTypeCode .go := by
  have tag : Lexis.go.IsLiteral ("\x60" ++ f.tag ++ "\x60").toList := by
    have text : ("\x60" ++ f.tag ++ "\x60").toList = '\x60' :: (f.tag.toList ++ ['\x60']) := by
      simp
    rw [text]
    exact isLiteral_raw (by decide) (by decide) (by decide) whole
  have space : (Code.plain " ").IsTypeCode .go := Code.isTypeCode_plain (by decide)
  exact ((((((Code.isTypeCode_plain (isTypeText_unit blank)).append
    (Code.isTypeCode_plain name)).append space).append (Code.isTypeCode_plain type)).append
      space).append (Code.IsMadeOf.quoted tag)).append (Code.isTypeCode_plain (by decide))

theorem Go.isTypeCode_structFields {fields : List Field}
    (h : ∀ f ∈ fields, ∀ n ∈ f.shape.references, IsTypeName n)
    (whole : ∀ f ∈ fields, '\x60' ∉ f.key.toList) (taken : List String) :
    ∀ f ∈ structFields taken fields, (fieldLine unit f).IsTypeCode .go := by
  induction fields generalizing taken with
  | nil => simp [structFields]
  | cons f fields ih =>
      obtain ⟨here, later⟩ := List.forall_mem_cons.1 h
      obtain ⟨wholeHere, wholeLater⟩ := List.forall_mem_cons.1 whole
      refine List.forall_mem_cons.2 ⟨?_, ih later wholeLater _⟩
      have type : IsTypeText (fieldType f).toList := by
        unfold fieldType
        dsimp only
        split
        · rw [String.toList_append]
          exact .append (by decide) (isTypeText_typeText f.shape here)
        · exact isTypeText_typeText f.shape here
      have name : IsTypeText (wishedName f.key).toList := by
        have kept : IsTypeText ((WordCase.pascal f.key.toList).filter isNameCharacter) :=
          .of_identifier fun c mem => (List.mem_filter.1 mem).2
        unfold wishedName
        rw [String.toList_ofList]
        split
        · exact .append (by decide) kept
        · exact kept
      exact isTypeCode_fieldLine blank (name.fresh taken) type (not_mem_fieldTag wholeHere)

/-! ## Blocks -/

namespace TypeBlock

theorem isTypeCode_typeScript {block : TypeBlock} (name : IsTypeName block.name)
    (refers : ∀ n ∈ block.references, IsTypeName n) :
    (block.code .typeScript unit).IsTypeCode .script := by
  cases block with
  | «alias» own shape =>
      exact ((((Code.isTypeCode_text (by decide)).append (Code.isTypeCode_plain
        name.isTypeText)).append (Code.isTypeCode_text (by decide))).append
          (Code.isTypeCode_plain (TypeScript.isTypeText_typeText shape refers))).append
            (Code.isTypeCode_text (by decide))
  | record d =>
      have fields : ∀ part ∈ d.fields.map (TypeScript.fieldLine unit),
          part.IsTypeCode .script := List.forall_mem_map.2 fun f mem =>
        TypeScript.isTypeCode_fieldLine blank fun n held =>
          refers n (List.mem_flatMap.2 ⟨f, mem, held⟩)
      exact ((((Code.isTypeCode_text (by decide)).append (Code.isTypeCode_plain
        name.isTypeText)).append (Code.isTypeCode_text (by decide))).append
          (Code.IsMadeOf.join fields)).append (Code.isTypeCode_text (by decide))

theorem isTypeCode_go {block : TypeBlock} (name : IsTypeName block.name)
    (refers : ∀ n ∈ block.references, IsTypeName n)
    (whole : ∀ key ∈ block.keys, '\x60' ∉ key.toList) :
    (block.code .go unit).IsTypeCode .go := by
  cases block with
  | «alias» own shape =>
      exact (((Code.isTypeCode_text (by decide)).append (Code.isTypeCode_plain
        name.isTypeText)).append (Code.isTypeCode_text (by decide))).append
          (Code.isTypeCode_plain (Go.isTypeText_typeText shape refers))
  | record d =>
      have known : ∀ f ∈ d.fields, ∀ n ∈ f.shape.references, IsTypeName n := fun f mem n held =>
        refers n (List.mem_flatMap.2 ⟨f, mem, held⟩)
      have fields := Go.isTypeCode_structFields blank known
        (fun f mem => whole f.key (List.mem_map_of_mem mem)) []
      exact ((((Code.isTypeCode_text (by decide)).append (Code.isTypeCode_plain
        name.isTypeText)).append (Code.isTypeCode_text (by decide))).append
          (Code.IsMadeOf.join (List.forall_mem_map.2 fields))).append
            (Code.isTypeCode_text (by decide))

end TypeBlock

end Fields

/-! ## Keys -/

namespace Json.Value

mutual

def keys : Value → List String
  | .array items => itemKeys items
  | .object fields => fieldKeys fields
  | _ => []

def itemKeys : List Value → List String
  | [] => []
  | item :: rest => keys item ++ itemKeys rest

def fieldKeys : List (String × Value) → List String
  | [] => []
  | (key, value) :: rest => key :: keys value ++ fieldKeys rest

end

end Json.Value

namespace Shape

variable {known : List String}

/-- Whether declarations have only fields with known keys. -/
def HasKeys (known : List String) (declarations : List Declaration) : Prop :=
  ∀ d ∈ declarations, ∀ f ∈ d.fields, f.key ∈ known

mutual

/-- The fields that are declared for a value have keys of the value. -/
theorem infer_hasKeys (taken : List String) (name : String) :
    ∀ v : Json.Value, v.keys ⊆ known → HasKeys known (infer taken name v).2
  | .null, _ | .bool _, _ | .number (.integer _), _ | .number (.float _), _ | .string _, _ => by
      simp [infer, HasKeys]
  | .array items, h =>
      inferItems_hasKeys taken _ none [] (List.forall_mem_nil _) items h
  | .object fields, h => by
      let own := Fresh.name taken name (Fresh.plain name)
      have none : HasKeys known [] := List.forall_mem_nil _
      have both := inferFields_hasKeys (own :: taken) own [] (List.forall_mem_nil _) none fields h
      exact List.forall_mem_cons.2 both

theorem inferItems_hasKeys (taken : List String) (name : String) (object? : Option Shape)
    (variants : List Shape) {declarations : List Declaration}
    (there : HasKeys known declarations) : ∀ items : List Json.Value,
    Json.Value.itemKeys items ⊆ known →
      HasKeys known (inferItems taken name object? variants declarations items).2
  | [], _ => there
  | item :: rest, h => by
      obtain ⟨here, later⟩ := List.append_subset.1 h
      unfold inferItems
      split
      · exact inferItems_hasKeys taken name _ _ there rest later
      · have first := infer_hasKeys taken name item here
        exact inferItems_hasKeys _ name _ _ (List.forall_mem_append.2 ⟨there, first⟩) rest later

theorem inferFields_hasKeys (taken : List String) (own : String) (done : List Field)
    {declarations : List Declaration} (before : ∀ f ∈ done, f.key ∈ known)
    (there : HasKeys known declarations) : ∀ fields : List (String × Json.Value),
    Json.Value.fieldKeys fields ⊆ known →
      (∀ f ∈ (inferFields taken own done declarations fields).1, f.key ∈ known) ∧
        HasKeys known (inferFields taken own done declarations fields).2
  | [], _ => ⟨fun f mem => before f (List.mem_reverse.1 mem), there⟩
  | (key, value) :: rest, h => by
      obtain ⟨here, later⟩ := List.cons_subset.1 h
      obtain ⟨inside, later⟩ := List.append_subset.1 later
      have first := infer_hasKeys taken (own ++ namePart key) value inside
      exact inferFields_hasKeys _ own _ (List.forall_mem_cons.2 ⟨here, before⟩)
        (List.forall_mem_append.2 ⟨there, first⟩) rest later

end

end Shape

/-- The keys in the blocks for a sample are keys of the sample. -/
theorem TypeSet.keys_blocks (name : String) (sample : Json.Value) :
    ∀ block ∈ (ofSample name sample).blocks, block.keys ⊆ sample.keys := by
  have declared := Shape.infer_hasKeys [] name sample (List.Subset.refl sample.keys)
  have records : ∀ block ∈ (ofSample name sample).declarations.map TypeBlock.record,
      block.keys ⊆ sample.keys :=
    List.forall_mem_map.2 fun d mem => List.forall_mem_map.2 (declared d mem)
  unfold blocks
  dsimp only
  split
  · exact records
  · exact List.forall_mem_cons.2 ⟨List.nil_subset _, records⟩

end RequestScribe
