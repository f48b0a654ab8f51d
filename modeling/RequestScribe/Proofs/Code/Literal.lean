import RequestScribe.Code.Literal
import RequestScribe.Proofs.Code.StringLiteral
import RequestScribe.Proofs.Json.Lexeme

/-!
# Strings in JSON literals

In a notation with single-quoted strings the literals of a JSON value are just
its keys and its strings.  A writer that puts the value into a program moves the
lines of these strings to the right as well, so a string with a line feed in it
is changed as soon as there is an indent.
-/

namespace RequestScribe

namespace Json.Value

mutual

def strings : Value → List String
  | .string s => [s]
  | .array items => itemStrings items
  | .object fields => fieldStrings fields
  | _ => []

def itemStrings : List Value → List String
  | [] => []
  | item :: rest => strings item ++ itemStrings rest

def fieldStrings : List (String × Value) → List String
  | [] => []
  | (key, value) :: rest => key :: strings value ++ fieldStrings rest

end

theorem itemStrings_eq (items : List Value) : itemStrings items = items.flatMap strings := by
  induction items with
  | nil => rfl
  | cons item rest ih => rw [itemStrings, ih, List.flatMap_cons]

theorem fieldStrings_eq (fields : List (String × Value)) :
    fieldStrings fields = fields.flatMap fun field => field.1 :: strings field.2 := by
  induction fields with
  | nil => rfl
  | cons field rest ih => rw [fieldStrings, ih, List.flatMap_cons]

end Json.Value

namespace Code

@[simp] theorem text_plain (text : String) : (plain text).text = text := by
  simp [plain, Code.text, Piece.text, String.join_cons]

@[simp] theorem text_quoted (written : String) : (quoted written).text = written := by
  simp [quoted, Code.text, Piece.text, String.join_cons]

@[simp] theorem text_append (a b : Code) : (a ++ b).text = a.text ++ b.text := by
  have pieces : (a ++ b).pieces = a.pieces ++ b.pieces := rfl
  rw [Code.text, pieces, List.map_append, String.join_append]
  rfl

theorem intercalate_cons_cons (separator first second : Code) (rest : List Code) :
    intercalate separator (first :: second :: rest) =
      first ++ (separator ++ intercalate separator (second :: rest)) := rfl

theorem toList_intercalate (separator : Code) (parts : List Code) :
    (intercalate separator parts).text.toList =
      separator.text.toList.intercalate (parts.map fun part => part.text.toList) := by
  match parts with
  | [] => rfl
  | [part] => simp [intercalate, join]
  | first :: second :: rest =>
      have later := toList_intercalate separator (second :: rest)
      simp [intercalate_cons_cons, later, List.intercalate_cons_cons]

/-- Code whose quotes are those of single-quoted literals for some texts. -/
def Spells (c : Code) (texts : List String) : Prop :=
  StringLiteral.Spells c.text.toList (texts.map String.toList)

theorem Spells.append {a b : Code} {as bs : List String} (ha : a.Spells as) (hb : b.Spells bs) :
    (a ++ b).Spells (as ++ bs) := by
  rw [Spells, text_append, String.toList_append, List.map_append]
  exact StringLiteral.Spells.append ha hb

theorem spells_plain {text : String} (absent : '\'' ∉ text.toList) : (plain text).Spells [] := by
  rw [Spells, text_plain]
  exact .plain absent

theorem spells_quoted (s : String) : (quoted (StringLiteral.singlePlain s)).Spells [s] := by
  rw [Spells, text_quoted]
  exact StringLiteral.spells_singlePlain s

theorem spells_intercalate {α : Type} {separator : Code} (silent : separator.Spells [])
    {part : α → Code} {texts : α → List String} (items : List α)
    (spelled : ∀ a ∈ items, (part a).Spells (texts a)) :
    (intercalate separator (items.map part)).Spells (items.flatMap texts) := by
  match items with
  | [] => exact .plain List.not_mem_nil
  | [a] =>
      have single : intercalate separator [part a] = part a := by
        simp [intercalate, join]
      have one := spelled a List.mem_cons_self
      simpa [single] using one
  | a :: b :: rest =>
      have first := spelled a List.mem_cons_self
      have later := spells_intercalate silent (b :: rest) fun c hc =>
        spelled c (List.mem_cons_of_mem a hc)
      exact first.append (silent.append later)

end Code

namespace LiteralStyle

def texts (style : LiteralStyle) : List String :=
  [style.null, style.truthy, style.falsy, style.objectOpen, style.objectClose, style.arrayOpen,
    style.arrayClose, style.keySeparator, style.lastElement]

def words (style : LiteralStyle) : List String :=
  [style.null, style.truthy, style.falsy, style.objectOpen, style.objectClose, style.arrayOpen,
    style.arrayClose]

theorem mem_texts_of_mem_words {style : LiteralStyle} {text : String} (h : text ∈ style.words) :
    text ∈ style.texts :=
  List.mem_append_left [style.keySeparator, style.lastElement] h

inductive IsEdge (style : LiteralStyle) : String → Prop where
  | word {text : String} : text ∈ style.words → IsEdge style text
  | number (n : Json.Number) : IsEdge style n.text
  | string (s : String) : IsEdge style (style.string s)

/-- Strings are written in single quotes, and no other text has a quote or a line break. -/
structure IsSingleQuoted (style : LiteralStyle) : Prop where
  string : style.string = StringLiteral.singlePlain
  plain : ∀ text ∈ style.texts, text ≠ "" ∧ '\'' ∉ text.toList ∧ '\n' ∉ text.toList

theorem isSingleQuoted_php : php.IsSingleQuoted := ⟨rfl, by decide⟩

theorem isSingleQuoted_ruby : ruby.IsSingleQuoted := ⟨rfl, by decide⟩

variable {style : LiteralStyle}

theorem IsSingleQuoted.spells (quotes : style.IsSingleQuoted) {text : String}
    (h : text ∈ style.texts) : (Code.plain text).Spells [] :=
  Code.spells_plain (quotes.plain text h).2.1

end LiteralStyle

namespace Literal

variable {style : LiteralStyle} {unit : String}

theorem mem_times {c : Char} {n : Nat} {text : String} (h : c ∈ (Text.times n text).toList) :
    c ∈ text.toList := by
  induction n with
  | zero => exact absurd h (by simp [Text.times])
  | succ n ih =>
      rw [Text.times, List.replicate_succ, String.join_cons, String.toList_append,
        List.mem_append] at h
      exact h.elim id ih

theorem itemLines_eq (level : Nat) (done : List Code) (items : List Json.Value) :
    itemLines style unit level done items =
      done.reverse ++ items.map fun item =>
        (Text.times level unit : Code) ++ code style unit level item := by
  induction items generalizing done with
  | nil => simp [itemLines]
  | cons item rest ih => simp [itemLines, ih]

theorem fieldLines_eq (level : Nat) (done : List Code) (fields : List (String × Json.Value)) :
    fieldLines style unit level done fields =
      done.reverse ++ fields.map fun field =>
        entry style (Text.times level unit) field.1 (code style unit level field.2) := by
  induction fields generalizing done with
  | nil => simp [fieldLines]
  | cons field rest ih => simp [fieldLines, ih]

theorem code_array (level : Nat) {items : List Json.Value} (nonempty : items ≠ []) :
    code style unit level (.array items) =
      enclosed style.arrayOpen style.arrayClose style.lastElement unit level
        (items.map fun item =>
          (Text.times (level + 1) unit : Code) ++ code style unit (level + 1) item) := by
  obtain ⟨item, rest, rfl⟩ := List.exists_cons_of_ne_nil nonempty
  rw [code, itemLines_eq]
  rfl

theorem code_object (level : Nat) {fields : List (String × Json.Value)}
    (nonempty : fields ≠ []) :
    code style unit level (.object fields) =
      enclosed style.objectOpen style.objectClose style.lastElement unit level
        (fields.map fun field =>
          entry style (Text.times (level + 1) unit) field.1
            (code style unit (level + 1) field.2)) := by
  obtain ⟨⟨key, value⟩, rest, rfl⟩ := List.exists_cons_of_ne_nil nonempty
  rw [code, fieldLines_eq]
  rfl

section Spelling

variable (quotes : style.IsSingleQuoted) (absent : '\'' ∉ unit.toList)

include absent in
theorem spells_times (n : Nat) : (Code.plain (Text.times n unit)).Spells [] :=
  Code.spells_plain fun mem => absent (mem_times mem)

include quotes absent

theorem spells_enclosed {opening closing : String} (opens : opening ∈ style.texts)
    (closes : closing ∈ style.texts) (level : Nat) {lines : List Code} {texts : List String}
    (h : (Code.intercalate ",\n" lines).Spells texts) :
    (enclosed opening closing style.lastElement unit level lines).Spells texts := by
  have feed : (Code.plain "\n").Spells [] := Code.spells_plain (by decide)
  have last : (Code.plain style.lastElement).Spells [] := quotes.spells (by simp [LiteralStyle.texts])
  have before := (quotes.spells opens).append feed
  have after := (spells_times absent level).append (quotes.spells closes)
  have whole := ((before.append h).append (last.append feed)).append after
  simp only [List.nil_append, List.append_nil] at whole
  exact whole

theorem spells_entry (level : Nat) (key : String) {value : Code} {texts : List String}
    (h : value.Spells texts) :
    (entry style (Text.times level unit) key value).Spells (key :: texts) := by
  have separator : (Code.plain style.keySeparator).Spells [] :=
    quotes.spells (by simp [LiteralStyle.texts])
  have name := Code.spells_quoted key
  rw [← quotes.string] at name
  exact (((spells_times absent level).append name).append separator).append h

end Spelling

mutual

/-- The literals of a value are its keys and its strings. -/
theorem spells_code (quotes : style.IsSingleQuoted) (absent : '\'' ∉ unit.toList) (level : Nat) :
    ∀ v : Json.Value, (code style unit level v).Spells v.strings
  | .null => by
      rw [code]
      exact quotes.spells (by simp [LiteralStyle.texts])
  | .bool b => by
      rw [code, LiteralStyle.boolean]
      cases b <;> exact quotes.spells (by simp [LiteralStyle.texts])
  | .number n => by
      have plain : '\'' ∉ n.text.toList := fun mem =>
        absurd (Json.isNumberCharacter_of_mem_text n '\'' mem) (by decide)
      rw [code]
      exact Code.spells_plain plain
  | .string s => by
      rw [code, quotes.string]
      exact Code.spells_quoted s
  | .array [] => by
      rw [code]
      exact (quotes.spells (by simp [LiteralStyle.texts])).append
        (quotes.spells (by simp [LiteralStyle.texts]))
  | .object [] => by
      rw [code]
      exact (quotes.spells (by simp [LiteralStyle.texts])).append
        (quotes.spells (by simp [LiteralStyle.texts]))
  | .array (item :: items) => by
      have parts : ∀ v ∈ item :: items,
          ((Text.times (level + 1) unit : Code) ++ code style unit (level + 1) v).Spells
            v.strings := fun v hv =>
        (spells_times absent (level + 1)).append
          (spells_items quotes absent (level + 1) (item :: items) v hv)
      have separator : (Code.plain ",\n").Spells [] := Code.spells_plain (by decide)
      have lines := Code.spells_intercalate separator (item :: items) parts
      rw [code, itemLines_eq, Json.Value.strings, Json.Value.itemStrings_eq]
      exact spells_enclosed quotes absent (by simp [LiteralStyle.texts])
        (by simp [LiteralStyle.texts]) level lines
  | .object ((key, value) :: fields) => by
      have parts : ∀ field ∈ (key, value) :: fields,
          (entry style (Text.times (level + 1) unit) field.1
            (code style unit (level + 1) field.2)).Spells (field.1 :: field.2.strings) :=
        fun field hfield => spells_entry quotes absent (level + 1) field.1
          (spells_fields quotes absent (level + 1) ((key, value) :: fields) field hfield)
      have separator : (Code.plain ",\n").Spells [] := Code.spells_plain (by decide)
      have lines := Code.spells_intercalate separator ((key, value) :: fields) parts
      rw [code, fieldLines_eq, Json.Value.strings, Json.Value.fieldStrings_eq]
      exact spells_enclosed quotes absent (by simp [LiteralStyle.texts])
        (by simp [LiteralStyle.texts]) level lines

theorem spells_items (quotes : style.IsSingleQuoted) (absent : '\'' ∉ unit.toList) (level : Nat) :
    ∀ items : List Json.Value, ∀ v ∈ items, (code style unit level v).Spells v.strings
  | [] => by simp
  | item :: rest => List.forall_mem_cons.2
      ⟨spells_code quotes absent level item, spells_items quotes absent level rest⟩

theorem spells_fields (quotes : style.IsSingleQuoted) (absent : '\'' ∉ unit.toList) (level : Nat) :
    ∀ fields : List (String × Json.Value), ∀ field ∈ fields,
      (code style unit level field.2).Spells field.2.strings
  | [] => by simp
  | (_, value) :: rest => List.forall_mem_cons.2
      ⟨spells_code quotes absent level value, spells_fields quotes absent level rest⟩

end

theorem text_enclosed (opening closing lastElement unit : String) (level : Nat)
    (lines : List Code) :
    (enclosed opening closing lastElement unit level lines).text =
      opening ++ ("\n" ++ (Code.intercalate ",\n" lines).text ++ lastElement ++ "\n" ++
        Text.times level unit) ++ closing := by
  simp only [enclosed, Code.text_append, Code.text_plain, String.append_assoc]

/-- A value begins and ends with a text of the notation, a number or a string. -/
theorem code_edges (style : LiteralStyle) (unit : String) (level : Nat) (v : Json.Value) :
    ∃ first last, style.IsEdge first ∧ style.IsEdge last ∧
      first.toList <+: (code style unit level v).text.toList ∧
      last.toList <:+ (code style unit level v).text.toList := by
  have whole {text : String} (edge : style.IsEdge text) : ∃ first last, style.IsEdge first ∧
      style.IsEdge last ∧ first.toList <+: text.toList ∧ last.toList <:+ text.toList :=
    ⟨text, text, edge, edge, List.prefix_rfl, List.suffix_rfl⟩
  have between {opening closing : String} (opens : style.IsEdge opening)
      (closes : style.IsEdge closing) (inside : String) : ∃ first last, style.IsEdge first ∧
        style.IsEdge last ∧ first.toList <+: (opening ++ inside ++ closing).toList ∧
        last.toList <:+ (opening ++ inside ++ closing).toList := by
    refine ⟨opening, closing, opens, closes, ?_, ?_⟩
    · rw [String.append_assoc, String.toList_append]
      exact List.prefix_append opening.toList _
    · rw [String.toList_append]
      exact List.suffix_append _ closing.toList
  have container {opening closing : String} (opens : style.IsEdge opening)
      (closes : style.IsEdge closing) (lines : List Code) : ∃ first last, style.IsEdge first ∧
        style.IsEdge last ∧
        first.toList <+: (enclosed opening closing style.lastElement unit level lines).text.toList ∧
        last.toList <:+ (enclosed opening closing style.lastElement unit level lines).text.toList := by
    rw [text_enclosed]
    exact between opens closes _
  cases v with
  | null =>
      rw [code, Code.text_plain]
      exact whole (.word (by simp [LiteralStyle.words]))
  | bool b =>
      rw [code, Code.text_plain, LiteralStyle.boolean]
      cases b <;> exact whole (.word (by simp [LiteralStyle.words]))
  | number n =>
      rw [code, Code.text_plain]
      exact whole (.number n)
  | string s =>
      rw [code, Code.text_quoted]
      exact whole (.string s)
  | array items =>
      have opens : style.IsEdge style.arrayOpen := .word (by simp [LiteralStyle.words])
      have closes : style.IsEdge style.arrayClose := .word (by simp [LiteralStyle.words])
      cases items with
      | nil =>
          rw [code, Code.text_append, Code.text_plain, Code.text_plain]
          simpa using between opens closes ""
      | cons item items =>
          rw [code]
          exact container opens closes _
  | object fields =>
      have opens : style.IsEdge style.objectOpen := .word (by simp [LiteralStyle.words])
      have closes : style.IsEdge style.objectClose := .word (by simp [LiteralStyle.words])
      cases fields with
      | nil =>
          rw [code, Code.text_append, Code.text_plain, Code.text_plain]
          simpa using between opens closes ""
      | cons field fields =>
          rw [code]
          exact container opens closes _

/-- A value is written on lines of which the last one is not empty. -/
theorem code_getLast? (quotes : style.IsSingleQuoted) (level : Nat) (v : Json.Value) :
    ∃ c, (code style unit level v).text.toList.getLast? = some c ∧ c ≠ '\n' := by
  have ends {cs : List Char} (nonempty : cs ≠ []) (whole : '\n' ∉ cs) :
      ∃ c, cs.getLast? = some c ∧ c ≠ '\n' :=
    ⟨cs.getLast nonempty, List.getLast?_eq_some_getLast nonempty,
      fun same => whole (same ▸ List.getLast_mem nonempty)⟩
  obtain ⟨-, last, -, edge, -, start, text⟩ := code_edges style unit level v
  obtain ⟨c, final, other⟩ : ∃ c, last.toList.getLast? = some c ∧ c ≠ '\n' := by
    cases edge with
    | word h =>
        obtain ⟨nonempty, -, whole⟩ := quotes.plain last (LiteralStyle.mem_texts_of_mem_words h)
        exact ends (by simpa using nonempty) whole
    | number n =>
        refine ends n.text_ne fun mem => ?_
        exact absurd (Json.isNumberCharacter_of_mem_text n '\n' mem) (by decide)
    | string s =>
        rw [quotes.string, StringLiteral.singlePlain, StringLiteral.enclose]
        exact ⟨'\'', by rw [String.toList_append, List.getLast?_append]; simp, by decide⟩
  exact ⟨c, by rw [← text, List.getLast?_append, final, Option.some_or], other⟩

end Literal

namespace Writer

def IsBlankUnit (unit : String) : Prop :=
  ∀ c ∈ unit.toList, c = ' ' ∨ c = '\t'

instance (unit : String) : Decidable (IsBlankUnit unit) :=
  decidable_of_iff (unit.toList.all fun c => c == ' ' || c == '\t') (by simp [IsBlankUnit])

variable {w : Writer}

theorem not_mem_indentation (blank : IsBlankUnit w.unit) {c : Char} (other : c ≠ ' ' ∧ c ≠ '\t') :
    c ∉ w.indentation :=
  fun mem => (blank c (Literal.mem_times mem)).elim other.1 other.2

theorem flatMap_plainCharacter_indentation (blank : IsBlankUnit w.unit) :
    w.indentation.flatMap StringLiteral.plainCharacter = w.indentation := by
  apply StringLiteral.flatMap_plainCharacter_eq_self
  intro c hc
  constructor
  · rintro rfl
    exact not_mem_indentation blank (by decide) hc
  · rintro rfl
    exact not_mem_indentation blank (by decide) hc

/--
The lines of a JSON literal with single-quoted strings, as a writer lays them
out: the literals are read as the keys and strings of the value with their lines
indented.  A string is unchanged just if it has no line feed, or there is no
indent and no carriage return in front of a line feed.
-/
theorem singleQuoted_lines {style : LiteralStyle} (known : style = .php ∨ style = .ruby)
    (w : Writer) (blank : IsBlankUnit w.unit) (v : Json.Value) :
    ∃ text, (w.lines (Literal.code style w.unit 0 v).text).written = text.reverse ++ w.written ∧
      StringLiteral.singleQuoted text =
        v.strings.map (fun s => Chars.reindent w.indentation s.toList) ∧
      ∀ s : String, Chars.reindent w.indentation s.toList = s.toList ↔
        '\n' ∉ s.toList ∨ (w.indentation = [] ∧ ¬ ['\r', '\n'] <:+: s.toList) := by
  have quotes : style.IsSingleQuoted := by
    rcases known with rfl | rfl
    · exact LiteralStyle.isSingleQuoted_php
    · exact LiteralStyle.isSingleQuoted_ruby
  have absent : '\'' ∉ w.unit.toList := fun mem => (blank _ mem).elim (by decide) (by decide)
  have spelled := Literal.spells_code quotes absent 0 v
  obtain ⟨c, last, other⟩ : ∃ c, (Literal.code style w.unit 0 v).text.toList.getLast? = some c ∧
    c ≠ '\n' := Literal.code_getLast? quotes 0 v
  generalize Literal.code style w.unit 0 v = code at spelled last
  have nonempty : code.text ≠ "" := by
    intro empty
    rw [empty] at last
    exact absurd last (by simp)
  have inLine : code.text.toList.getLast? ≠ some '\n' := by
    rw [last]
    simpa using other
  -- What is written is the indent of the first line, the text with its lines indented, and the
  -- line feed of the last line; quotes stand in the middle part alone.
  let lead := if Chars.startsEmpty code.text.toList then [] else w.indentation
  have silentLead : '\'' ∉ lead := by
    intro mem
    have inIndent : '\'' ∈ w.indentation := by
      simp only [lead] at mem
      split at mem
      · exact absurd mem List.not_mem_nil
      · exact mem
    exact not_mem_indentation blank (by decide) inIndent
  refine ⟨lead ++ Chars.reindent w.indentation code.text.toList ++ ['\n'], ?_, ?_, ?_⟩
  · rw [lines_eq w nonempty inLine]
  · have read := spelled.singleQuoted_reindent (not_mem_indentation blank (by decide))
      (flatMap_plainCharacter_indentation blank) (show '\'' ∉ ['\n'] by decide)
    rw [List.append_assoc, StringLiteral.singleQuoted,
      StringLiteral.readSingle_outside_append silentLead]
    rw [StringLiteral.singleQuoted, List.map_map] at read
    exact read
  · intro s
    exact Chars.reindent_eq_self_iff (not_mem_indentation blank (by decide))

theorem singleQuoted_lines_nested :
    let w : Writer := ⟨"  ", 1, []⟩
    let v : Json.Value := .object [("it's", .array [.string "a\\b"])]
    ∃ text, (w.lines (Literal.code .php w.unit 0 v).text).written = text.reverse ++ w.written ∧
      StringLiteral.singleQuoted text =
        v.strings.map (fun s => Chars.reindent w.indentation s.toList) ∧
      ∀ s : String, Chars.reindent w.indentation s.toList = s.toList ↔
        '\n' ∉ s.toList ∨ (w.indentation = [] ∧ ¬ ['\r', '\n'] <:+: s.toList) := by
  intro w v
  exact singleQuoted_lines (.inl rfl) w (by decide) v

/-- At an indent of two spaces a string with a line feed is read with two spaces more. -/
theorem singleQuoted_lines_feed :
    let w : Writer := ⟨"  ", 1, []⟩
    let v : Json.Value := .object [("a", .string "x\ny")]
    StringLiteral.singleQuoted (w.lines (Literal.code .php w.unit 0 v).text).written.reverse =
        ["a".toList, "x\n  y".toList] ∧
      v.strings = ["a", "x\ny"] := by
  decide

end Writer

end RequestScribe
