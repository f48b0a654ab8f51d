import RequestScribe.Proofs.Code.Insides
import RequestScribe.Proofs.Code.StringGrammar
import RequestScribe.Proofs.Json.Reading
import RequestScribe.Proofs.Program.DeclaredTypes
import RequestScribe.Proofs.Shape.RelaidTypes
import RequestScribe.Proofs.Shape.RustTypes

/-!
# JSON strings in Rust programs

The keys and strings of a JSON body stand in a Rust program with the escapes of
JSON, and so do the keys that fields are renamed to.  Rust has only some of these
escapes, so it reads the texts that need no other one and refuses the rest.
-/

namespace RequestScribe

namespace StringGrammar

/-! ## Escapes of JSON -/

/-- Whether JSON writes a character as it is, or with an escape that Rust has too. -/
def isShared (c : Char) : Bool :=
  0x20 ≤ c.toNat || c == '\n' || c == '\r' || c == '\t'

/-- What Rust reads where JSON has written a string. -/
def rustOfJson? (s : String) : Option (List Nat) :=
  if s.toList.all isShared then some (s.toList.flatMap Units.utf8) else none

theorem reads_jsonCharacter {c : Char} (shared : isShared c = true) :
    rust.Reads (Json.escapeCharacter c) (Units.utf8 c) := by
  have escaped (e d : Char) (known : ∀ rest, rust.escape? (e :: rest) = some (Units.utf8 d, 1)) :
      rust.Reads ['\\', e] (Units.utf8 d) := .escaped (by decide) known
  by_cases quote : c = '"'
  · subst quote
    exact escaped '"' '"' fun _ => rfl
  by_cases backslash : c = '\\'
  · subst backslash
    exact escaped '\\' '\\' fun _ => rfl
  by_cases feed : c = '\n'
  · subst feed
    exact escaped 'n' '\n' fun _ => rfl
  by_cases carriage : c = '\r'
  · subst carriage
    exact escaped 'r' '\r' fun _ => rfl
  by_cases tab : c = '\t'
  · subst tab
    exact escaped 't' '\t' fun _ => rfl
  have printed : 0x20 ≤ c.toNat := by simpa [isShared, feed, carriage, tab] using shared
  obtain ⟨backspace, formFeed⟩ : c ≠ '\x08' ∧ c ≠ '\x0c' := by
    constructor
    · rintro rfl
      exact absurd printed (by decide)
    · rintro rfl
      exact absurd printed (by decide)
  rw [Json.escapeCharacter, if_neg quote, if_neg backslash, if_neg feed, if_neg carriage,
    if_neg tab, if_neg backspace, if_neg formFeed, if_neg (Nat.not_lt.2 printed)]
  exact .plain quote backslash (by simpa [rust] using carriage)

/-- Rust has no escape for the other control characters that JSON writes. -/
theorem readFrom_jsonCharacter {c : Char} (other : isShared c = false) (rest : List Char) :
    rust.readFrom 0 (Json.escapeCharacter c ++ rest) = none := by
  have refused (written : List Char) (unknown : rust.escape? (written ++ rest) = none) :
      rust.readFrom 0 ('\\' :: (written ++ rest)) = none := by
    have slash : '\\' ≠ rust.quote := by decide
    rw [readFrom]
    simp only [if_neg slash, if_true, unknown, Option.bind_none]
  obtain ⟨low, feed, carriage, tab⟩ :
      c.toNat < 0x20 ∧ c ≠ '\n' ∧ c ≠ '\r' ∧ c ≠ '\t' := by
    simpa [isShared, and_assoc] using other
  have plain : c ≠ '"' ∧ c ≠ '\\' := by
    constructor
    · rintro rfl
      exact absurd low (by decide)
    · rintro rfl
      exact absurd low (by decide)
  have small : c.toNat < 0xa0 := Nat.lt_trans low (by decide)
  rw [Json.escapeCharacter, if_neg plain.1, if_neg plain.2, if_neg feed, if_neg carriage,
    if_neg tab]
  split_ifs with backspace formFeed
  · exact refused ['b'] rfl
  · exact refused ['f'] rfl
  · obtain ⟨x, y, z, t, digits, value, -⟩ := Json.hex4?_lowerHex small
    have unbraced : x ≠ '\x7b' := by
      rintro rfl
      cases value
    rw [digits]
    refine refused ['u', x, y, z, t] ?_
    show rustEscape? ('u' :: x :: y :: z :: t :: rest) = none
    rw [rustEscape?]
    · rfl
    all_goals simp [unbraced]

theorem value?_json (s : String) :
    rust.value? (s.toList.flatMap Json.escapeCharacter) = rustOfJson? s := by
  have refused : ∀ cs : List Char, cs.all isShared = false → ∀ rest,
      rust.readFrom 0 (cs.flatMap Json.escapeCharacter ++ rest) = none := by
    intro cs
    induction cs with
    | nil => exact fun none => absurd none (by decide)
    | cons c cs ih =>
        intro some rest
        rw [List.flatMap_cons, List.append_assoc]
        cases shared : isShared c with
        | false => exact readFrom_jsonCharacter shared _
        | true =>
            rw [List.all_cons, shared, Bool.true_and] at some
            rw [reads_jsonCharacter shared, ih some rest]
            rfl
  unfold rustOfJson?
  split
  · next all =>
      have each : ∀ c ∈ s.toList, rust.Reads (Json.escapeCharacter c) (rust.units c) :=
        fun c mem => reads_jsonCharacter (List.all_eq_true.1 all c mem)
      exact (Reads.flatMap each).value?
  · next some =>
      rw [value?, refused s.toList (by simpa using some) [rust.quote]]

end StringGrammar

open StringLiteral StringGrammar

/-! ## Declarations -/

theorem IsTypeText.silent {text : List Char} (h : IsTypeText text) : '"' ∉ text :=
  fun mem => absurd (h '"' mem) (by decide)

theorem Writer.IsBlankUnit.silent {unit : String} (blank : Writer.IsBlankUnit unit) :
    '"' ∉ unit.toList :=
  fun mem => (blank '"' mem).elim (by decide) (by decide)

namespace Rust

theorem isTypeText_typeText : ∀ s : Shape, (∀ n ∈ s.references, IsTypeName n) →
    IsTypeText (typeText s).toList
  | .any, _ | .bool, _ | .integer, _ | .float, _ | .string, _ => by decide
  | .unionList _, _ => by
      rw [typeText]
      decide
  | .ref name, h => (h name (by simp [Shape.references])).isTypeText
  | .list s, h => by
      rw [typeText, String.toList_append, String.toList_append]
      exact .append (.append (by decide) (isTypeText_typeText s h)) (by decide)

theorem isTypeText_fieldType {f : Field} (h : ∀ n ∈ f.shape.references, IsTypeName n) :
    IsTypeText (fieldType f).toList := by
  have type := isTypeText_typeText f.shape h
  unfold fieldType
  split
  · rw [String.toList_append, String.toList_append]
    exact .append (.append (by decide) type) (by decide)
  · exact type

theorem isTypeText_identifier {name : String} (h : IsTypeText name.toList) :
    IsTypeText (identifier name).toList := by
  unfold identifier
  split
  · rw [String.toList_append]
    exact .append (by decide) h
  · exact h

/-- A field has the characters of types, apart from the key that it is renamed to. -/
theorem isTypeText_structFields {fields : List Field}
    (h : ∀ f ∈ fields, ∀ n ∈ f.shape.references, IsTypeName n) (taken : List String) :
    ∀ f ∈ structFields taken fields, IsTypeText f.name.toList ∧ IsTypeText f.type.toList := by
  induction fields generalizing taken with
  | nil => simp [structFields]
  | cons f fields ih =>
      obtain ⟨here, later⟩ := List.forall_mem_cons.1 h
      have wished : IsTypeText (wishedName f.key).toList :=
        .of_names (isName_wishedName f.key).letters
      exact List.forall_mem_cons.2
        ⟨⟨isTypeText_identifier (wished.fresh taken), isTypeText_fieldType here⟩, ih later _⟩

theorem encloses_fieldLines {unit : String} (blank : Writer.IsBlankUnit unit) {f : StructField}
    (h : IsTypeText f.name.toList ∧ IsTypeText f.type.toList) :
    Encloses '"' (fieldLines unit f).text.toList
      (f.rename?.toList.map fun key => key.toList.flatMap Json.escapeCharacter) := by
  have indent : Encloses '"' unit.toList [] := .plain blank.silent
  have visible : Encloses '"' "pub ".toList [] := .text (by decide)
  have colon : Encloses '"' ": ".toList [] := .text (by decide)
  have comma : Encloses '"' ",\n".toList [] := .text (by decide)
  have name : Encloses '"' f.name.toList [] := .plain h.1.silent
  have type : Encloses '"' f.type.toList [] := .plain h.2.silent
  have declared := ((((indent.append visible).append name).append colon).append type).append comma
  unfold fieldLines renameLine
  cases f.rename? with
  | none =>
      have none : Code.empty.text = "" := rfl
      simpa only [Code.text_append, none, String.empty_append, Code.text_plain,
        String.toList_append, List.append_nil, Option.toList_none, List.map_nil] using declared
  | some key =>
      have opening : Encloses '"' "#[serde(rename = ".toList [] := .text (by decide)
      have closing : Encloses '"' ")]\n".toList [] := .text (by decide)
      have renamed := ((indent.append opening).append (Json.encloses_quoted key)).append closing
      have whole := renamed.append declared
      simpa only [Code.text_append, Code.text_plain, Code.text_quoted, String.toList_append,
        List.append_nil, List.nil_append, Option.toList_some, List.map_cons, List.map_nil]
        using whole

end Rust

namespace TypeBlock

def renamedKeys : TypeBlock → List String
  | .alias _ _ => []
  | .record d => (Rust.structFields [] d.fields).flatMap fun f => f.rename?.toList

theorem encloses_rust {unit : String} (blank : Writer.IsBlankUnit unit) {block : TypeBlock}
    (name : IsTypeName block.name) (refers : ∀ n ∈ block.references, IsTypeName n) :
    Encloses '"' (block.code .rust unit).text.toList
      (block.renamedKeys.map fun key => key.toList.flatMap Json.escapeCharacter) := by
  have own : Encloses '"' block.name.toList [] := .plain name.isTypeText.silent
  cases block with
  | «alias» n shape =>
      have keyword : Encloses '"' "pub type ".toList [] := .text (by decide)
      have equals : Encloses '"' " = ".toList [] := .text (by decide)
      have type : Encloses '"' (Rust.typeText shape).toList [] :=
        .plain (Rust.isTypeText_typeText shape refers).silent
      have last : Encloses '"' ";".toList [] := .text (by decide)
      have whole := (((keyword.append own).append equals).append type).append last
      simpa only [code, Rust.typeAlias, renamedKeys, TypeBlock.name, Code.text_append,
        Code.text_plain, String.toList_append, List.append_nil, List.map_nil] using whole
  | record d =>
      have known : ∀ f ∈ d.fields, ∀ n ∈ f.shape.references, IsTypeName n := fun f mem n held =>
        refers n (List.mem_flatMap.2 ⟨f, mem, held⟩)
      have fields := Encloses.flatMap fun f mem =>
        Rust.encloses_fieldLines blank (Rust.isTypeText_structFields known [] f mem)
      have derived : Encloses '"'
          "#[derive(Debug, Clone, Serialize, Deserialize)]\npub struct ".toList [] :=
        .text (by decide)
      have opening : Encloses '"' " \x7b\n".toList [] := .text (by decide)
      have closing : Encloses '"' "\x7d".toList [] := .text (by decide)
      have whole := (((derived.append own).append opening).append fields).append closing
      simpa only [code, Rust.declaration, renamedKeys, TypeBlock.name, Code.text_append,
        Code.text_plain, String.toList_append, Code.toList_join, List.flatMap_map,
        List.map_flatMap, List.append_nil, List.nil_append] using whole

end TypeBlock

namespace Brief

variable {b : Brief}

/-- The literals in the types of a program are the keys that fields are renamed to. -/
theorem encloses_types (b : Brief) :
    Encloses '"' ((b.types? .rust).getD Code.empty).text.toList
      ((b.typeBlocks.flatMap TypeBlock.renamedKeys).map fun key =>
        key.toList.flatMap Json.escapeCharacter) := by
  have each : ∀ block ∈ b.typeBlocks, Encloses '"' (block.code .rust b.unit).text.toList
      (block.renamedKeys.map fun key => key.toList.flatMap Json.escapeCharacter) := by
    intro block mem
    obtain ⟨name, refers⟩ := isTypeName_typeBlocks block mem
    exact TypeBlock.encloses_rust b.settings.isBlankUnit_indentUnit name refers
  unfold types?
  split
  · next none =>
      have nothing : b.typeBlocks = [] := by
        rw [typeBlocks, List.isEmpty_iff.1 none]
        rfl
      rw [nothing]
      exact .plain List.not_mem_nil
  · rw [List.map_flatMap]
    exact .intercalate (by decide) each

end Brief

/-! ## Programs -/

namespace Rust

variable {b : Brief} {v : Json.Value}

/-- A JSON body is written between texts without quotes, with its lines at the level of the body. -/
theorem exists_written_body (json : b.body? = some (.json v)) (level : Nat)
    (before : List Char) : ∃ opening closing : List Char,
      '"' ∉ opening ∧ '"' ∉ closing ∧
      (Writer.runAll ⟨b.unit, level, before⟩ (body b)).written =
        (opening ++ (Literal.code .json b.unit level v).text.toList ++ closing).reverse ++
          before := by
  have blank : Writer.IsBlankUnit b.unit := b.settings.isBlankUnit_indentUnit
  let w : Writer := ⟨b.unit, level, before⟩
  have indent : '"' ∉ w.indentation := Writer.not_mem_indentation (w := w) blank (by decide)
  have moves : Chars.Moves w.indentation (Literal.code .json b.unit 0 v).text.toList
      (Literal.code .json b.unit level v).text.toList :=
    Literal.moves_code Json.isOneLine_json blank level v 0
  have fixed {cs : List Char} (plain : Chars.InLine cs ∧ '"' ∉ cs ∧ cs ≠ []) :
      Chars.InLine (String.ofList cs).toList ∧ '"' ∉ (String.ofList cs).toList ∧
        (String.ofList cs).toList ≠ [] := by
    rwa [String.toList_ofList]
  -- Whatever stands around the value on its first and last line stays in place.
  have written (call close : String) (code : Code)
      (text : code.text = call ++ (Literal.code .json b.unit 0 v).text ++ close)
      (calls : Chars.InLine call.toList ∧ '"' ∉ call.toList ∧ call.toList ≠ [])
      (closes : Chars.InLine close.toList ∧ '"' ∉ close.toList ∧ close.toList ≠ []) :
      ∃ opening closing : List Char, '"' ∉ opening ∧ '"' ∉ closing ∧
        (w.run (.lines code)).written =
          (opening ++ (Literal.code .json b.unit level v).text.toList ++ closing).reverse ++
            before := by
    obtain ⟨inLine, silent, nonempty⟩ := calls
    obtain ⟨closesInLine, closesSilent, closesSome⟩ := closes
    have whole := (inLine.moves.append moves).append closesInLine.moves
    have first := ((inLine.startsInLine nonempty).append
      (Literal.code .json b.unit 0 v).text.toList).append close.toList
    rw [← String.toList_append, ← String.toList_append, ← text] at whole first
    have last : code.text.toList.getLast? ≠ some '\n' := by
      rw [text, String.toList_append, List.getLast?_append_of_ne_nil _ closesSome]
      exact fun feed => (closesInLine '\n' (List.mem_of_getLast? feed)).1 rfl
    refine ⟨w.indentation ++ call.toList, close.toList ++ ['\n'], ?_, ?_, ?_⟩
    · exact fun mem => (List.mem_append.1 mem).elim indent silent
    · exact fun mem => (List.mem_append.1 mem).elim closesSilent (by decide)
    · rw [Writer.run, w.lines_of_moves whole first last]
      simp [w]
  unfold body
  rw [json]
  simp only [Writer.runAll]
  unfold jsonStep
  dsimp only
  split
  · exact written "let body: RequestBody = serde_json::from_value(serde_json::json!(" "))?;" _
      (by simp only [Code.text_append, Code.text_plain]) (fixed (by decide)) (fixed (by decide))
  · exact written "let body = serde_json::json!(" ");" _
      (by simp only [Code.text_append, Code.text_plain]) (fixed (by decide)) (fixed (by decide))

/-- The literals in the statements for a JSON body are its keys and strings, as JSON has them. -/
theorem exists_insides_body (json : b.body? = some (.json v)) (level : Nat) (before : List Char) :
    ∃ text, (Writer.runAll ⟨b.unit, level, before⟩ (body b)).written = text.reverse ++ before ∧
      insides '"' text = v.strings.map fun s => s.toList.flatMap Json.escapeCharacter := by
  have blank : Writer.IsBlankUnit b.unit := b.settings.isBlankUnit_indentUnit
  obtain ⟨opening, closing, silent, closesSilent, written⟩ := exists_written_body json level before
  have value := Literal.encloses_code blank.silent v level
  have statement := ((Encloses.plain silent).append value).append (.plain closesSilent)
  rw [List.nil_append, List.append_nil] at statement
  exact ⟨_, written, statement.insides_eq⟩

/--
The literals in the statements for a JSON body are the keys and the strings of the
body, and those in the types are the keys that fields are renamed to.  Rust reads
each of them as the text itself if line feeds, carriage returns and tabs are its
only control characters, and refuses it otherwise.
-/
theorem literals_of_json (json : b.body? = some (.json v)) (level : Nat) (before : List Char) :
    ∃ text, (Writer.runAll ⟨b.unit, level, before⟩ (body b)).written = text.reverse ++ before ∧
      (insides '"' text).map rust.value? = v.strings.map rustOfJson? ∧
      (insides '"' ((b.types? .rust).getD Code.empty).text.toList).map rust.value? =
        (b.typeBlocks.flatMap TypeBlock.renamedKeys).map rustOfJson? := by
  obtain ⟨text, written, statement⟩ := exists_insides_body json level before
  have read (texts : List String) :
      (texts.map fun s => s.toList.flatMap Json.escapeCharacter).map rust.value? =
        texts.map rustOfJson? := by
    rw [List.map_map]
    exact List.map_congr_left fun s _ => value?_json s
  refine ⟨text, written, ?_, ?_⟩
  · rw [statement, read]
  · rw [b.encloses_types.insides_eq, read]

/-- A quote and a line feed are read back; another control character makes no literal. -/
theorem literals_of_json_nested :
    let v : Json.Value := .object [("a\"b", .array [.string "x\n", .string "\x01"])]
    let r : Request :=
      { method := .post
        url := "https://x.test"
        headers := [("Content-Type", "application/json")]
        body? := some (.json v)
        rawBody? := some v.compact
        authorization? := none
        cookies := []
        files := []
        query := []
        transport := {} }
    let b := Brief.ofRequest {} r
    b.body? = some (.json v) ∧
      ∃ text, (Writer.runAll ⟨b.unit, 1, []⟩ (body b)).written = text.reverse ++ [] ∧
        (insides '"' text).map rust.value? = [some [97, 34, 98], some [120, 10], none] ∧
        (insides '"' ((b.types? .rust).getD Code.empty).text.toList).map rust.value? =
          [some [97, 34, 98]] := by
  intro v r b
  have json : b.body? = some (.json v) := rfl
  obtain ⟨text, written, statement, types⟩ := literals_of_json json 1 []
  exact ⟨json, text, written, statement.trans (by decide +kernel),
    types.trans (by decide +kernel)⟩

/-- A backspace as a key and as a string: JSON has an escape for it that Rust does not have. -/
theorem literals_of_json_backspace :
    let v : Json.Value := .object [("\x08", .string "\x08")]
    let r : Request :=
      { method := .post
        url := "https://x.test"
        headers := [("Content-Type", "application/json")]
        body? := some (.json v)
        rawBody? := some v.compact
        authorization? := none
        cookies := []
        files := []
        query := []
        transport := {} }
    let b := Brief.ofRequest {} r
    let statement := (Writer.runAll ⟨b.unit, 1, []⟩ (body b)).written.reverse
    let types := ((b.types? .rust).getD Code.empty).text.toList
    insides '"' statement = [['\\', 'b'], ['\\', 'b']] ∧ insides '"' types = [['\\', 'b']] ∧
      rust.value? ['\\', 'b'] = none := by
  intro v r b statement types
  obtain ⟨text, written, body⟩ := exists_insides_body (b := b) (v := v) rfl 1 []
  have same : statement = text := by
    rw [List.append_nil] at written
    exact (congrArg List.reverse written).trans text.reverse_reverse
  refine ⟨?_, b.encloses_types.insides_eq.trans (by decide +kernel), by decide⟩
  rw [same, body]
  decide +kernel

end Rust

end RequestScribe
