import RequestScribe.Proofs.Code.Literal
import RequestScribe.Proofs.Json.Value
import RequestScribe.Proofs.Text.Chars

/-!
# Literals at a level

In a notation whose strings have no line breaks, the lines of a JSON literal are
just those of its containers.  Writing the literal with its lines indented is
then the same as writing it at a deeper level in the first place.
-/

namespace RequestScribe

namespace Chars

variable {indent a b c d : List Char}

/-- No line break, and no part of one. -/
def InLine (cs : List Char) : Prop :=
  ∀ c ∈ cs, c ≠ '\n' ∧ c ≠ '\r'

instance (cs : List Char) : Decidable (InLine cs) :=
  decidable_of_iff (cs.all fun c => c != '\n' && c != '\r') (by simp [InLine])

def StartsInLine (cs : List Char) : Prop :=
  ∃ c rest, cs = c :: rest ∧ c ≠ '\n' ∧ c ≠ '\r'

theorem InLine.startsInLine (h : InLine a) (nonempty : a ≠ []) : StartsInLine a := by
  obtain ⟨c, rest, rfl⟩ := List.exists_cons_of_ne_nil nonempty
  exact ⟨c, rest, rfl, h c List.mem_cons_self⟩

theorem StartsInLine.append (h : StartsInLine a) (b : List Char) : StartsInLine (a ++ b) := by
  obtain ⟨c, rest, rfl, inLine⟩ := h
  exact ⟨c, rest ++ b, rfl, inLine⟩

theorem InLine.append_startsInLine (h : InLine a) (later : StartsInLine b) :
    StartsInLine (a ++ b) := by
  by_cases empty : a = []
  · rwa [empty]
  · exact (h.startsInLine empty).append b

theorem StartsInLine.startsEmpty (h : StartsInLine a) : startsEmpty a = false := by
  obtain ⟨c, rest, rfl, feed, carriage⟩ := h
  simp [Chars.startsEmpty, feed, carriage]

/-- With its lines indented, `a` is `b`, whatever comes after. -/
def Moves (indent a b : List Char) : Prop :=
  ∀ rest, reindent indent (a ++ rest) = b ++ reindent indent rest

theorem InLine.moves (h : InLine a) : Moves indent a a :=
  reindent_append h

theorem Moves.append (h : Moves indent a b) (h' : Moves indent c d) :
    Moves indent (a ++ c) (b ++ d) := by
  intro rest
  rw [List.append_assoc, h, h', List.append_assoc]

theorem Moves.newLine (h : Moves indent a b) (first : StartsInLine a) :
    Moves indent ('\n' :: a) ('\n' :: (indent ++ b)) := by
  intro rest
  have same : reindent indent (a ++ rest) = b ++ reindent indent rest := h rest
  rw [List.cons_append, reindent, if_pos rfl, (first.append rest).startsEmpty, same]
  simp

end Chars

namespace Code

variable {α : Type} {indent : List Char}

theorem moves_intercalate {part moved : α → Code} {items : List α} (nonempty : items ≠ [])
    (lines : ∀ a ∈ items, Chars.Moves indent ('\n' :: (part a).text.toList)
      ('\n' :: (moved a).text.toList)) :
    Chars.Moves indent ('\n' :: (intercalate ",\n" (items.map part)).text.toList)
      ('\n' :: (intercalate ",\n" (items.map moved)).text.toList) := by
  induction items with
  | nil => exact absurd rfl nonempty
  | cons a rest ih =>
      obtain ⟨first, others⟩ := List.forall_mem_cons.1 lines
      cases rest with
      | nil => simpa [intercalate, join] using first
      | cons b more =>
          have comma : Chars.InLine [','] := by decide
          have later := comma.moves.append (ih (List.cons_ne_nil b more) others)
          have whole := first.append later
          simpa [intercalate_cons_cons] using whole

end Code

namespace LiteralStyle

/-- Nothing that the notation writes has a line break, and no value is written as nothing. -/
structure IsOneLine (style : LiteralStyle) : Prop where
  texts : ∀ text ∈ style.texts, Chars.InLine text.toList
  words : ∀ word ∈ style.words, word ≠ ""
  string : ∀ s, Chars.InLine (style.string s).toList ∧ style.string s ≠ ""

variable {style : LiteralStyle}

theorem IsOneLine.edge (oneLine : style.IsOneLine) {text : String} (h : style.IsEdge text) :
    Chars.InLine text.toList ∧ text ≠ "" := by
  cases h with
  | word h => exact ⟨oneLine.texts text (mem_texts_of_mem_words h), oneLine.words text h⟩
  | number n =>
      refine ⟨fun c mem => ?_, fun empty => n.text_ne (by rw [empty]; rfl)⟩
      have numeric := Json.isNumberCharacter_of_mem_text n c mem
      constructor
      · rintro rfl
        exact absurd numeric (by decide)
      · rintro rfl
        exact absurd numeric (by decide)
  | string s => exact oneLine.string s

end LiteralStyle

namespace Literal

variable {style : LiteralStyle} {unit : String}

theorem times_add (m n : Nat) (unit : String) :
    (Text.times (m + n) unit).toList =
      (Text.times m unit).toList ++ (Text.times n unit).toList := by
  simp [Text.times, ← List.replicate_append_replicate]

theorem inLine_times (blank : Writer.IsBlankUnit unit) (n : Nat) :
    Chars.InLine (Text.times n unit).toList := by
  intro c mem
  rcases blank c (mem_times mem) with rfl | rfl
  · decide
  · decide

theorem startsInLine_code (oneLine : style.IsOneLine) (level : Nat) (v : Json.Value) :
    Chars.StartsInLine (code style unit level v).text.toList := by
  obtain ⟨first, -, edge, -, ⟨rest, text⟩, -⟩ := code_edges style unit level v
  obtain ⟨inLine, nonempty⟩ := oneLine.edge edge
  rw [← text]
  exact (inLine.startsInLine (by simpa using nonempty)).append rest

theorem getLast?_code_ne (oneLine : style.IsOneLine) (level : Nat) (v : Json.Value) :
    (code style unit level v).text.toList.getLast? ≠ some '\n' := by
  obtain ⟨-, last, -, edge, -, before, text⟩ := code_edges style unit level v
  obtain ⟨inLine, nonempty⟩ := oneLine.edge edge
  have some : last.toList ≠ [] := by simpa using nonempty
  rw [← text, List.getLast?_append, List.getLast?_eq_some_getLast some, Option.some_or]
  exact fun same => (inLine _ (List.getLast_mem some)).1 (Option.some.inj same)

theorem forall_mem_enclosed {p : Char → Prop} (comma : p ',') (feed : p '\n')
    {opening closing lastElement : String}
    (plain : ∀ text ∈ [opening, closing, lastElement, unit], ∀ c ∈ text.toList, p c)
    (level : Nat) {lines : List Code} (h : ∀ line ∈ lines, ∀ c ∈ line.text.toList, p c) :
    ∀ c ∈ (enclosed opening closing lastElement unit level lines).text.toList, p c := by
  simp only [List.forall_mem_cons] at plain
  obtain ⟨opens, closes, last, blank, -⟩ := plain
  have inside : ∀ c ∈ (Code.intercalate ",\n" lines).text.toList, p c := by
    rw [Code.toList_intercalate]
    refine Chars.forall_mem_intercalate ?_ (List.forall_mem_map.2 h)
    simpa using ⟨comma, feed⟩
  intro c mem
  simp only [text_enclosed, String.toList_append, List.mem_append] at mem
  rcases mem with (mem | ((((mem | mem) | mem) | mem) | mem)) | mem
  · exact opens c mem
  · obtain rfl : c = '\n' := by simpa using mem
    exact feed
  · exact inside c mem
  · exact last c mem
  · obtain rfl : c = '\n' := by simpa using mem
    exact feed
  · exact blank c (mem_times mem)
  · exact closes c mem

/-- The characters of a value are those of the notation, its strings, numbers and the unit. -/
theorem forall_mem_code {p : Char → Prop} (comma : p ',') (feed : p '\n')
    (texts : ∀ text ∈ unit :: style.texts, ∀ c ∈ text.toList, p c)
    (number : ∀ n : Json.Number, ∀ c ∈ n.text.toList, p c)
    (string : ∀ s, ∀ c ∈ (style.string s).toList, p c) (v : Json.Value) (level : Nat) :
    ∀ c ∈ (code style unit level v).text.toList, p c := by
  have word {text : String} (h : text ∈ unit :: style.texts) : ∀ c ∈ (Code.plain text).text.toList,
      p c := by
    rw [Code.text_plain]
    exact texts text h
  have append {a b : Code} (ha : ∀ c ∈ a.text.toList, p c) (hb : ∀ c ∈ b.text.toList, p c) :
      ∀ c ∈ (a ++ b).text.toList, p c := by
    rw [Code.text_append, String.toList_append]
    exact List.forall_mem_append.2 ⟨ha, hb⟩
  have indent (n : Nat) : ∀ c ∈ (Code.plain (Text.times n unit)).text.toList, p c := by
    rw [Code.text_plain]
    exact fun c mem => texts unit List.mem_cons_self c (mem_times mem)
  have quoted (s : String) : ∀ c ∈ (Code.quoted (style.string s)).text.toList, p c := by
    rw [Code.text_quoted]
    exact string s
  induction v using Json.Value.induction generalizing level with
  | null => exact word (by simp [LiteralStyle.texts])
  | bool b => cases b <;> exact word (by simp [LiteralStyle.texts, LiteralStyle.boolean])
  | number n =>
      rw [code, Code.text_plain]
      exact number n
  | string s => exact quoted s
  | array items ih =>
      by_cases empty : items = []
      · subst empty
        exact append (word (by simp [LiteralStyle.texts])) (word (by simp [LiteralStyle.texts]))
      · rw [code_array level empty]
        refine forall_mem_enclosed comma feed ?_ level (List.forall_mem_map.2 fun v mem => ?_)
        · intro text mem
          refine texts text ?_
          simp only [List.mem_cons, List.not_mem_nil, or_false] at mem
          rcases mem with rfl | rfl | rfl | rfl <;> simp [LiteralStyle.texts]
        · exact append (indent (level + 1)) (ih v mem (level + 1))
  | object fields ih =>
      by_cases empty : fields = []
      · subst empty
        exact append (word (by simp [LiteralStyle.texts])) (word (by simp [LiteralStyle.texts]))
      · rw [code_object level empty]
        refine forall_mem_enclosed comma feed ?_ level (List.forall_mem_map.2 fun field mem => ?_)
        · intro text mem
          refine texts text ?_
          simp only [List.mem_cons, List.not_mem_nil, or_false] at mem
          rcases mem with rfl | rfl | rfl | rfl <;> simp [LiteralStyle.texts]
        · exact append (append (append (indent (level + 1)) (quoted field.1))
            (word (by simp [LiteralStyle.texts]))) (ih field mem (level + 1))

theorem moves_line (blank : Writer.IsBlankUnit unit) (n level : Nat) {a b : List Char}
    (h : Chars.Moves (Text.times n unit).toList a b) (first : Chars.StartsInLine a) :
    Chars.Moves (Text.times n unit).toList ('\n' :: ((Text.times level unit).toList ++ a))
      ('\n' :: ((Text.times (n + level) unit).toList ++ b)) := by
  have inLine := inLine_times blank level
  have whole := (inLine.moves.append h).newLine (inLine.append_startsInLine first)
  rwa [times_add, List.append_assoc]

section Moving

variable (oneLine : style.IsOneLine) (blank : Writer.IsBlankUnit unit)

include oneLine blank

theorem moves_enclosed {opening closing : String} (opens : opening ∈ style.words)
    (closes : closing ∈ style.words) (n level : Nat) {lines moved : List Code}
    (h : Chars.Moves (Text.times n unit).toList
      ('\n' :: (Code.intercalate ",\n" lines).text.toList)
      ('\n' :: (Code.intercalate ",\n" moved).text.toList)) :
    Chars.Moves (Text.times n unit).toList
      (enclosed opening closing style.lastElement unit level lines).text.toList
      (enclosed opening closing style.lastElement unit (n + level) moved).text.toList := by
  have edge {text : String} (word : text ∈ style.words) :
      Chars.InLine text.toList ∧ text.toList ≠ [] := by
    obtain ⟨inLine, nonempty⟩ := oneLine.edge (.word word)
    exact ⟨inLine, by simpa using nonempty⟩
  have last : Chars.InLine style.lastElement.toList :=
    oneLine.texts style.lastElement (by simp [LiteralStyle.texts])
  obtain ⟨inLine, nonempty⟩ := edge closes
  have bottom := moves_line blank n level inLine.moves (inLine.startsInLine nonempty)
  have whole := (((edge opens).1.moves.append h).append last.moves).append bottom
  simpa [text_enclosed] using whole

theorem moves_entry (n level : Nat) (key : String) {value moved : Code}
    (h : Chars.Moves (Text.times n unit).toList value.text.toList moved.text.toList) :
    Chars.Moves (Text.times n unit).toList
      ('\n' :: (entry style (Text.times level unit) key value).text.toList)
      ('\n' :: (entry style (Text.times (n + level) unit) key moved).text.toList) := by
  obtain ⟨name, nonempty⟩ := oneLine.string key
  have separator : Chars.InLine style.keySeparator.toList :=
    oneLine.texts style.keySeparator (by simp [LiteralStyle.texts])
  have first := name.startsInLine (by simpa using nonempty)
  have whole := moves_line blank n level (name.moves.append (separator.moves.append h))
    (first.append _)
  simpa [entry] using whole

/-- Moved to the right by `n` levels, a value is what is written `n` levels deeper. -/
theorem moves_code (n : Nat) (v : Json.Value) (level : Nat) :
    Chars.Moves (Text.times n unit).toList (code style unit level v).text.toList
      (code style unit (n + level) v).text.toList := by
  have inLine {text : String} (edge : style.IsEdge text) :
      Chars.Moves (Text.times n unit).toList text.toList text.toList := (oneLine.edge edge).1.moves
  -- Only the lines of a container begin after a line feed, and each begins with its level.
  induction v using Json.Value.induction generalizing level with
  | null =>
      simp only [code, Code.text_plain]
      exact inLine (.word (by simp [LiteralStyle.words]))
  | bool b =>
      simp only [code, Code.text_plain, LiteralStyle.boolean]
      cases b <;> exact inLine (.word (by simp [LiteralStyle.words]))
  | number k =>
      simp only [code, Code.text_plain]
      exact inLine (.number k)
  | string s =>
      simp only [code, Code.text_quoted]
      exact inLine (.string s)
  | array items ih =>
      have opens : style.arrayOpen ∈ style.words := by simp [LiteralStyle.words]
      have closes : style.arrayClose ∈ style.words := by simp [LiteralStyle.words]
      by_cases empty : items = []
      · subst empty
        simp only [code, Code.text_append, Code.text_plain, String.toList_append]
        exact (inLine (.word opens)).append (inLine (.word closes))
      · rw [code_array level empty, code_array (n + level) empty]
        refine moves_enclosed oneLine blank opens closes n level ?_
        refine Code.moves_intercalate empty fun v mem => ?_
        have line := moves_line blank n (level + 1) (ih v mem (level + 1))
          (startsInLine_code oneLine (level + 1) v)
        simpa [Nat.add_assoc] using line
  | object fields ih =>
      have opens : style.objectOpen ∈ style.words := by simp [LiteralStyle.words]
      have closes : style.objectClose ∈ style.words := by simp [LiteralStyle.words]
      by_cases empty : fields = []
      · subst empty
        simp only [code, Code.text_append, Code.text_plain, String.toList_append]
        exact (inLine (.word opens)).append (inLine (.word closes))
      · rw [code_object level empty, code_object (n + level) empty]
        refine moves_enclosed oneLine blank opens closes n level ?_
        refine Code.moves_intercalate empty fun field mem => ?_
        exact moves_entry oneLine blank n (level + 1) field.1 (ih field mem (level + 1))

end Moving

end Literal

namespace Writer

theorem lines_of_moves (w : Writer) {text : String} {moved : List Char}
    (h : Chars.Moves w.indentation text.toList moved) (first : Chars.StartsInLine text.toList)
    (last : text.toList.getLast? ≠ some '\n') :
    w.lines text =
      { w with written := (w.indentation ++ moved ++ ['\n']).reverse ++ w.written } := by
  have nonempty : text ≠ "" := by
    rintro rfl
    obtain ⟨c, rest, text, -⟩ := first
    exact absurd text (by simp)
  have same : Chars.reindent w.indentation text.toList = moved := by
    simpa [Chars.reindent] using h []
  rw [lines_eq w nonempty last, first.startsEmpty, same]
  rfl

/-- A writer at a level writes a value as it is written at that level. -/
theorem lines_code {style : LiteralStyle} (oneLine : style.IsOneLine) (w : Writer)
    (blank : IsBlankUnit w.unit) (v : Json.Value) :
    w.lines (Literal.code style w.unit 0 v).text =
      { w with
        written :=
          (w.indentation ++ (Literal.code style w.unit w.level v).text.toList ++ ['\n']).reverse ++
            w.written } :=
  w.lines_of_moves (Literal.moves_code oneLine blank w.level v 0)
    (Literal.startsInLine_code oneLine 0 v) (Literal.getLast?_code_ne oneLine 0 v)

end Writer

end RequestScribe
