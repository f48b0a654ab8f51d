import RequestScribe.Proofs.Code.Level
import RequestScribe.Proofs.Code.MaskedLiteral
import RequestScribe.Proofs.Code.MaskedText
import RequestScribe.Proofs.Code.Mentions
import RequestScribe.Proofs.Json.Value

/-!
# Names in JSON literals

Outside of its strings a JSON literal has the words of its notation and numbers,
and no other name.  So it never refers to anything.
-/

namespace RequestScribe

open Lexis

namespace LiteralStyle

/-- What a name in a literal may be. -/
def IsWord (style : LiteralStyle) (name : String) : Prop :=
  name = style.null ∨ name = style.truthy ∨ name = style.falsy ∨
    ∀ c ∈ name.toList, Json.isNumberCharacter c = true

theorem not_isWord {style : LiteralStyle} {name : String}
    (other : name ∉ [style.null, style.truthy, style.falsy])
    (letters : name.toList.all Json.isNumberCharacter = false) : ¬style.IsWord name := by
  rintro (rfl | rfl | rfl | number)
  · exact other (by simp)
  · exact other (by simp)
  · exact other (by simp)
  · exact Bool.false_ne_true (letters.symm.trans (List.all_eq_true.2 number))

def gaps (style : LiteralStyle) : List String :=
  [style.objectOpen, style.objectClose, style.arrayOpen, style.arrayClose, style.keySeparator,
    style.lastElement, ",\n", "\n"]

/-- A notation whose strings are literals of a language, and whose other texts open nothing. -/
structure FitsIn (style : LiteralStyle) (l : Lexis) : Prop where
  string : ∀ s, l.IsLiteral (style.string s).toList
  gaps : ∀ text ∈ style.gaps, ∀ c ∈ text.toList, Mask.isGap l (.char c) = true
  words : ∀ text ∈ [style.null, style.truthy, style.falsy],
    ∀ c ∈ text.toList, isNameCharacter c = true
  numbers : ∀ c ∈ ['+', '-', '.'], Mask.isPlain l c = true

theorem forall_character {texts : List String} {p : Char → Bool}
    (h : texts.all (fun text => text.toList.all p) = true) :
    ∀ text ∈ texts, ∀ c ∈ text.toList, p c = true :=
  fun text mem => List.all_eq_true.1 (List.all_eq_true.1 h text mem)

theorem javaScript_fitsIn : javaScript.FitsIn Lexis.script where
  string := isLiteral_enclose (.inl rfl) (by decide)
  gaps := forall_character (by decide)
  words := forall_character (by decide)
  numbers := List.all_eq_true.1 (by decide)

theorem python_fitsIn : python.FitsIn Lexis.python where
  string := isLiteral_enclose (.inr rfl) (by decide)
  gaps := forall_character (by decide)
  words := forall_character (by decide)
  numbers := List.all_eq_true.1 (by decide)

theorem json_fitsIn : json.FitsIn Lexis.rust where
  string := isLiteral_jsonQuoted (by decide)
  gaps := forall_character (by decide)
  words := forall_character (by decide)
  numbers := List.all_eq_true.1 (by decide)

end LiteralStyle

namespace Mask

variable {l : Lexis} {P : String → Prop}

theorem mem_of_spelled {w : Mask} {c : Char} (mem : c ∈ (spelled w.reverse).toList) :
    ∃ g ∈ w, c ∈ g.letters := by
  rw [spelled_eq, String.toList_ofList] at mem
  simpa using mem

theorem calm_number (opens : ∀ c ∈ ['+', '-', '.'], isPlain l c = true) {cs : List Char}
    (number : ∀ c ∈ cs, Json.isNumberCharacter c = true) :
    Calm l (fun w => ∀ c ∈ w.toList, Json.isNumberCharacter c = true) (cs.map Glyph.char) := by
  refine ⟨fun c mem mark => ?_, fun w mem c inside => ?_⟩
  · obtain ⟨d, held, same⟩ := List.mem_map.1 mem
    cases same
    rcases Json.isNumberCharacter_iff.1 (number c held) with digit | rfl | rfl | rfl | rfl
    · have word : isNameCharacter c = true := by
        simp [isNameCharacter, Chars.isAlphanumeric_of_isDigit digit]
      exact absurd mark (by simp [isMark, word])
    · exact opens _ (by decide)
    · exact opens _ (by decide)
    · exact opens _ (by decide)
    · exact absurd mark (by decide)
  · obtain ⟨g, inWord, letter⟩ := mem_of_spelled inside
    obtain ⟨d, held, rfl⟩ := List.mem_map.1 (mem_of_mem_words mem g inWord)
    rw [List.mem_singleton.1 letter]
    exact number d held

theorem Calm.intercalate (empty : P "") {separator : Code} (some : separator.mask ≠ [])
    (gap : ∀ g ∈ separator.mask, isGap l g = true) : ∀ {parts : List Code},
    (∀ part ∈ parts, Calm l P part.mask) → Calm l P (Code.intercalate separator parts).mask
  | [], _ => nil empty
  | [part], each => by
      rw [Code.intercalate_singleton]
      exact each part List.mem_cons_self
  | first :: second :: rest, each => by
      obtain ⟨here, later⟩ := List.forall_mem_cons.1 each
      rw [Code.intercalate_cons_cons, Code.mask_append, Code.mask_append]
      exact here.apart empty some gap (Calm.intercalate empty some gap later)

end Mask

namespace Literal

open Mask

variable {l : Lexis} {style : LiteralStyle} {unit : String}

/-- Code that is read as what it is marked as, and in which only the words of a notation occur. -/
def IsQuiet (l : Lexis) (style : LiteralStyle) (c : Code) : Prop :=
  c.IsRead l ∧ Calm l style.IsWord c.mask

theorem isWord_empty : style.IsWord "" :=
  .inr (.inr (.inr (by simp)))

section

variable (fits : style.FitsIn l) (blank : Writer.IsBlankUnit unit)

include fits in
theorem isGap_of_mem_gaps {text : String} (known : text ∈ style.gaps) :
    ∀ g ∈ text.toList.map Glyph.char, isGap l g = true :=
  List.forall_mem_map.2 (fits.gaps text known)

include blank in
theorem isGap_times (n : Nat) :
    ∀ g ∈ (Text.times n unit).toList.map Glyph.char, isGap l g = true := by
  refine List.forall_mem_map.2 fun c mem => ?_
  rcases blank c (mem_times mem) with rfl | rfl <;> rfl

include fits in
theorem isQuiet_word {text : String} (known : text ∈ [style.null, style.truthy, style.falsy])
    (word : style.IsWord text) : IsQuiet l style (Code.plain text) := by
  refine ⟨Code.isRead_plain text, ?_⟩
  rw [Code.mask_plain]
  refine .letters (List.forall_mem_map.2 (fits.words text known)) ?_
  rwa [spelled_chars, String.ofList_toList]

include fits in
theorem isQuiet_number (n : Json.Number) : IsQuiet l style (Code.plain n.text) := by
  have calm := calm_number fits.numbers (Json.isNumberCharacter_of_mem_text n)
  refine ⟨Code.isRead_plain n.text, ?_⟩
  rw [Code.mask_plain]
  exact ⟨calm.opens, fun w mem => .inr (.inr (.inr (calm.spells w mem)))⟩

include fits in
theorem isQuiet_string (s : String) : IsQuiet l style (Code.quoted (style.string s)) :=
  ⟨Code.isRead_quoted (fits.string s),
    .gaps isWord_empty (List.forall_mem_singleton.2 rfl)⟩

include fits in
theorem isQuiet_pair {first second : String} (known : first ∈ style.gaps)
    (known' : second ∈ style.gaps) :
    IsQuiet l style (Code.plain first ++ Code.plain second) := by
  refine ⟨(Code.isRead_plain first).append (Code.isRead_plain second), ?_⟩
  rw [Code.mask_append, Code.mask_plain, Code.mask_plain]
  exact .behind isWord_empty (isGap_of_mem_gaps fits known)
    (.gaps isWord_empty (isGap_of_mem_gaps fits known'))

include fits blank

/-- A container has the names that its lines have. -/
theorem isQuiet_enclosed {opening closing : String} (opens : opening ∈ style.gaps)
    (closes : closing ∈ style.gaps) (level : Nat) {lines : List Code}
    (each : ∀ line ∈ lines, IsQuiet l style line) :
    IsQuiet l style (enclosed opening closing style.lastElement unit level lines) := by
  have comma : Code.IsRead l ",\n" := Code.isRead_plain ",\n"
  have known {text : String} (h : text ∈ style.gaps) := isGap_of_mem_gaps fits h
  have feed := known (show "\n" ∈ style.gaps by simp [LiteralStyle.gaps])
  have last := known (show style.lastElement ∈ style.gaps by simp [LiteralStyle.gaps])
  have between : Calm l style.IsWord (Code.intercalate ",\n" lines).mask := by
    refine .intercalate isWord_empty (by simp) ?_ fun line mem => (each line mem).2
    rw [Code.mask_plain]
    exact known (by simp [LiteralStyle.gaps])
  have inside : (Code.intercalate ",\n" lines).IsRead l :=
    comma.intercalate fun line mem => (each line mem).1
  refine ⟨?_, ?_⟩
  · have plain (text : String) : (Code.plain text).IsRead l := Code.isRead_plain text
    exact ((((plain _).append (plain _)).append inside).append
      ((plain _).append (plain _))).append ((plain _).append (plain _))
  · have opened : ∀ g ∈ opening.toList.map Glyph.char ++ "\n".toList.map Glyph.char,
        isGap l g = true := List.forall_mem_append.2 ⟨known opens, feed⟩
    have closed : ∀ g ∈ (style.lastElement ++ "\n").toList.map Glyph.char ++
        (Text.times level unit ++ closing).toList.map Glyph.char, isGap l g = true := by
      simp only [String.toList_append, List.map_append]
      exact List.forall_mem_append.2 ⟨List.forall_mem_append.2 ⟨last, feed⟩,
        List.forall_mem_append.2 ⟨isGap_times blank level, known closes⟩⟩
    have rest := between.apart isWord_empty (by simp) closed (.nil isWord_empty)
    have whole := rest.behind isWord_empty opened
    simpa [enclosed] using whole

theorem isQuiet_entry (level : Nat) (key : String) {value : Code}
    (h : IsQuiet l style value) :
    IsQuiet l style (entry style (Text.times level unit) key value) := by
  refine ⟨?_, ?_⟩
  · exact (((Code.isRead_plain _).append (Code.isRead_quoted (fits.string key))).append
      (Code.isRead_plain _)).append h.1
  · have separator := isGap_of_mem_gaps fits
      (show style.keySeparator ∈ style.gaps by simp [LiteralStyle.gaps])
    have before : ∀ g ∈ (Text.times level unit).toList.map Glyph.char ++ [Glyph.literal] ++
        style.keySeparator.toList.map Glyph.char, isGap l g = true :=
      List.forall_mem_append.2 ⟨List.forall_mem_append.2
        ⟨isGap_times blank level, List.forall_mem_singleton.2 rfl⟩, separator⟩
    have whole := h.2.behind isWord_empty before
    simpa [entry] using whole

/-- All names in the literal of a value are words of the notation or numbers. -/
theorem isQuiet_code (v : Json.Value) : ∀ level, IsQuiet l style (code style unit level v) := by
  induction v using Json.Value.induction with
  | null =>
      intro level
      rw [code]
      exact isQuiet_word fits (by simp) (.inl rfl)
  | bool b =>
      intro level
      rw [code, LiteralStyle.boolean]
      cases b
      · exact isQuiet_word fits (by simp) (.inr (.inr (.inl rfl)))
      · exact isQuiet_word fits (by simp) (.inr (.inl rfl))
  | number n =>
      intro level
      rw [code]
      exact isQuiet_number fits n
  | string s =>
      intro level
      rw [code]
      exact isQuiet_string fits s
  | array items ih =>
      intro level
      rcases Decidable.em (items = []) with rfl | nonempty
      · rw [code]
        exact isQuiet_pair fits (by simp [LiteralStyle.gaps]) (by simp [LiteralStyle.gaps])
      · rw [code_array level nonempty]
        refine isQuiet_enclosed fits blank (by simp [LiteralStyle.gaps])
          (by simp [LiteralStyle.gaps]) level (List.forall_mem_map.2 fun item mem => ?_)
        refine ⟨(Code.isRead_plain _).append (ih item mem (level + 1)).1, ?_⟩
        rw [Code.mask_append, Code.mask_plain]
        exact (ih item mem (level + 1)).2.behind isWord_empty (isGap_times blank (level + 1))
  | object fields ih =>
      intro level
      rcases Decidable.em (fields = []) with rfl | nonempty
      · rw [code]
        exact isQuiet_pair fits (by simp [LiteralStyle.gaps]) (by simp [LiteralStyle.gaps])
      · rw [code_object level nonempty]
        refine isQuiet_enclosed fits blank (by simp [LiteralStyle.gaps])
          (by simp [LiteralStyle.gaps]) level (List.forall_mem_map.2 fun field mem => ?_)
        exact isQuiet_entry fits blank (level + 1) field.1 (ih field mem (level + 1))

end

end Literal

/-! ## JSON literals in code

A JSON literal stands behind some code that opens a bracket or assigns it.  What
the lines of both mention is what the code in front mentions.
-/

namespace Lexeme

/-- A list that does not have an element ends before it, or is no prefix. -/
theorem isPrefixOf_append_cons {marks first : List Lexeme} {x : Lexeme} (other : x ∉ marks)
    (rest : List Lexeme) :
    marks.isPrefixOf (first ++ x :: rest) = marks.isPrefixOf (first ++ [x]) := by
  induction marks generalizing first with
  | nil => simp [List.isPrefixOf]
  | cons m marks ih =>
      rw [List.mem_cons, not_or] at other
      have differ : (m == x) = false := by simpa using Ne.symm other.1
      cases first with
      | nil => simp [List.isPrefixOf, differ]
      | cons y first => simp [List.isPrefixOf, ih other.2]

theorem before_append_mark {marks : List Char} {c : Char} (other : c ∉ marks)
    (first rest : List Lexeme) :
    before marks (first ++ mark c :: rest) = before marks (first ++ [mark c]) ++
      before marks rest := by
  have absent : Lexeme.mark c ∉ marks.map Lexeme.mark := by simpa using other
  induction first with
  | nil => rfl
  | cons x first ih =>
      cases x with
      | mark d => exact ih
      | literal => exact ih
      | name text =>
          simp only [List.cons_append, before, isPrefixOf_append_cons absent rest, ih]
          split <;> rfl

theorem after_append_mark (keyword : String) (c : Char) (first rest : List Lexeme) :
    after keyword (first ++ mark c :: rest) = after keyword (first ++ [mark c]) ++
      after keyword rest := by
  induction first with
  | nil => rfl
  | cons x first ih =>
      cases x with
      | mark d => exact ih
      | literal => exact ih
      | name text =>
          cases first with
          | nil => rfl
          | cons y first =>
              cases y with
              | mark d => exact ih
              | literal => exact ih
              | name next =>
                  simp only [List.cons_append, after] at ih ⊢
                  rw [ih]
                  split <;> rfl

theorem bareFrom_append_mark (label : Char) {c : Char} (dot : c ≠ '.') (first rest : List Lexeme) :
    ∀ member, bareFrom label member (first ++ mark c :: rest) =
      bareFrom label member (first ++ [mark c]) ++ bareFrom label false rest := by
  have plain : (Lexeme.mark c == .mark '.') = false := by simpa using dot
  induction first with
  | nil => simp [bareFrom, plain]
  | cons x first ih =>
      intro member
      cases x with
      | mark d => exact ih _
      | literal => exact ih _
      | name text =>
          have head : (first ++ Lexeme.mark c :: rest).head? = (first ++ [Lexeme.mark c]).head? := by
            cases first <;> rfl
          simp only [List.cons_append, bareFrom, head, ih]
          split <;> rfl

theorem mem_of_mem_bareFrom {label : Char} {line : List Lexeme} {n : String} :
    ∀ {member : Bool}, n ∈ bareFrom label member line → .name n ∈ line := by
  induction line with
  | nil => simp [bareFrom]
  | cons x rest ih =>
      intro member mem
      cases x with
      | mark c => exact List.mem_cons_of_mem _ (ih mem)
      | literal => exact List.mem_cons_of_mem _ (ih mem)
      | name text =>
          rw [bareFrom] at mem
          split at mem
          · exact List.mem_cons_of_mem _ (ih mem)
          · rcases List.mem_cons.1 mem with rfl | held
            · exact List.mem_cons_self
            · exact List.mem_cons_of_mem _ (ih held)

theorem mem_of_mem_after {keyword : String} {line : List Lexeme} {n : String}
    (mem : n ∈ after keyword line) : .name n ∈ line := by
  induction line with
  | nil => exact absurd mem List.not_mem_nil
  | cons x rest ih =>
      have later (held : n ∈ after keyword rest) : .name n ∈ x :: rest :=
        List.mem_cons_of_mem x (ih held)
      cases x with
      | mark c => exact later mem
      | literal => exact later mem
      | name text =>
          cases rest with
          | nil => exact later mem
          | cons y rest =>
              cases y with
              | mark d => exact later mem
              | literal => exact later mem
              | name next =>
                  simp only [after] at mem
                  split at mem
                  · rcases List.mem_cons.1 mem with rfl | held
                    · simp
                    · exact later held
                  · exact later mem

end Lexeme

/-! ### Marks at the end -/

/-- Whether a beginning ends with a mark, apart from blanks behind it. -/
def Mask.Ends (m : Mask) (c : Char) : Prop :=
  ∃ first, (Reading.run {} m).word = [] ∧ (Reading.run {} m).line = .mark c :: first

namespace Mask

variable {c : Char}

theorem ends_mark (m : Mask) (solid : isMark c = true) : (m ++ [Glyph.char c]).Ends c := by
  simp only [isMark, Bool.and_eq_true, Bool.not_eq_true'] at solid
  have feed : c ≠ '\n' := by
    rintro rfl
    exact absurd solid.2 (by decide)
  have last : Reading.run {} (m ++ [Glyph.char c]) = (Reading.run {} m).endWord.put (.mark c) := by
    simp [Reading.run, Reading.step, Reading.plain, solid, feed]
  refine ⟨(Reading.run {} m).endWord.line, ?_, ?_⟩
  · rw [last]
    exact endWord_word
  · rw [last]
    rfl

theorem Ends.blank {m : Mask} (ends : m.Ends c) : (m ++ [Glyph.char ' ']).Ends c := by
  obtain ⟨first, ended, line⟩ := ends
  have last : Reading.run {} (m ++ [Glyph.char ' ']) = (Reading.run {} m).endWord := by
    rw [Reading.run, List.foldl_append]
    rfl
  have still : (Reading.run {} m).endWord = Reading.run {} m := Adds.endWord_of_nil ended
  exact ⟨first, by rw [last, still, ended], by rw [last, still, line]⟩

end Mask

namespace Step

variable {α β : Type} {l : Lexis} {question : List Lexeme → List β} {name : α → β}
  {style : LiteralStyle} {unit : String}

/-- What is asked about the names on a line, and about those on both sides of a mark apart. -/
structure IsAsked (question : List Lexeme → List β) (text : β → String) (c : Char) : Prop where
  named : ∀ line, ∀ y ∈ question line, .name (text y) ∈ line
  splits : ∀ first rest y, y ∈ question (first ++ .mark c :: rest) ↔
    y ∈ question (first ++ [.mark c]) ∨ y ∈ question rest

theorem isAsked_before {marks : List Char} {c : Char} (other : c ∉ marks) :
    IsAsked (Lexeme.before marks) id c :=
  ⟨fun _ _ mem => (Lexeme.mem_of_mem_before mem).1, fun first rest y => by
    rw [Lexeme.before_append_mark other, List.mem_append]⟩

/-- A JSON literal behind some code mentions nothing that the code does not. -/
theorem Mentions.literal {text : β → String} {c : Char} (asked : IsAsked question text c)
    (fits : style.FitsIn l) (blank : Writer.IsBlankUnit unit)
    (foreign : ∀ x, ¬style.IsWord (text (name x))) {opening : Code} {p : Mask}
    (mask : opening.HasMask l p) {names : List β} (answers : p.answers l question = some names)
    (ends : p.Ends c)
    {ending : List Char} (gaps : ∀ d ∈ ending, Mask.isGap l (.char d) = true) (v : Json.Value) :
    Mentions l question name
      [.lines (opening ++ Literal.code style unit 0 v ++ Code.plain (String.ofList ending))]
      fun x => name x ∈ names := by
  obtain ⟨first, ended, last⟩ := ends
  have quiet := Literal.isQuiet_code fits blank v 0
  have calm : Mask.Calm l style.IsWord
      ((Literal.code style unit 0 v).mask ++ ending.map Glyph.char) := by
    have gap : ∀ g ∈ ending.map Glyph.char, Mask.isGap l g = true := List.forall_mem_map.2 gaps
    rcases Decidable.em (ending.map Glyph.char = []) with none | some
    · rw [none, List.append_nil]
      exact quiet.2
    · have apart := quiet.2.apart Literal.isWord_empty some gap (.nil Literal.isWord_empty)
      rwa [List.append_nil] at apart
  have whole := (mask.append quiet.1.hasMask).append (Code.hasMask_text ending)
  rw [List.append_assoc] at whole
  refine .linesAfter whole answers ?_ ended (fun rest y => ?_) calm.opens fun x mem => ?_
  · refine List.eq_nil_iff_forall_not_mem.2 fun y mem => ?_
    exact absurd (asked.named [] y mem) List.not_mem_nil
  · have line : (Mask.Reading.run {} p).line.reverse = first.reverse ++ [Lexeme.mark c] := by
      rw [last, List.reverse_cons]
    rw [line, List.append_assoc, List.singleton_append, asked.splits]
  · obtain ⟨line, held, inside⟩ := List.mem_flatMap.1 mem
    obtain ⟨w, word, -, same⟩ := Mask.exists_word held (asked.named line _ inside)
    exact foreign x (same ▸ calm.spells w word)

end Step

end RequestScribe
