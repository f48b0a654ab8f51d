import RequestScribe.Proofs.Code.LiteralReader
import RequestScribe.Proofs.Json.Invariant
import RequestScribe.Proofs.Json.Float

/-!
# Literals denote their values

The literal that is written for a JSON value, at any level, is read as that
value.  A notation and a grammar belong together if they have the same words,
brackets and strings; numbers are written alike everywhere.
-/

namespace RequestScribe

namespace LiteralGrammar

variable {g : LiteralGrammar}

/-! ## Numbers -/

theorem number?_text {n : Json.Number} (canonical : n.IsCanonical) :
    number? n.text.toList = some n := by
  cases n with
  | integer n =>
      have read := Json.numberText?_toDigits (decide (n < 0)) n.natAbs
      have text : (Json.Number.integer n).text.toList =
          (if decide (n < 0) = true then ['-'] else []) ++ Nat.toDigits 10 n.natAbs := by
        rw [Json.Number.text, Json.integerText, String.toList_ofList]
        by_cases negative : n < 0 <;> simp [negative]
      rw [number?, text, read, Option.bind_some, if_pos rfl]
      simp only [Json.natValue_toDigits, decide_eq_true_eq]
      congr 2
      split <;> omega
  | float x =>
      obtain ⟨m, read, value⟩ := Json.toBinary_floatText canonical
      rw [number?, Json.Number.text, read, Option.bind_some, if_neg Bool.false_ne_true]
      simp only [value]

theorem isBare_of_mem_text {n : Json.Number} : ∀ c ∈ n.text.toList, isBare c = true := by
  intro c mem
  rcases Json.isNumberCharacter_iff.1 (Json.isNumberCharacter_of_mem_text n c mem) with
    digit | rfl | rfl | rfl | rfl
  · simp [isBare, Char.isAlphanum, digit]
  all_goals decide

/-! ## Notations -/

structure Describes (g : LiteralGrammar) (style : LiteralStyle) : Prop where
  quote : g.quote = '\'' ∨ g.quote = '"'
  words : [style.null, style.truthy, style.falsy].map String.toList = [g.null, g.truthy, g.falsy]
  punctuation : [style.objectOpen, style.objectClose, style.arrayOpen, style.arrayClose,
    style.keySeparator, style.lastElement] = ["\x7b", "\x7d", "[", "]", ": ", ","]
  string : ∀ s, style.string s = StringLiteral.enclose g.quote (StringLiteral.escape g.quote s)
  distinct : [g.null, g.truthy, g.falsy].Nodup
  /-- A word is not a number. -/
  letters : ∀ word ∈ [g.null, g.truthy, g.falsy],
    word.all isBare = true ∧ word.all Json.isNumberCharacter = false

theorem describes_javaScript : Describes javaScript .javaScript where
  quote := .inl rfl
  words := rfl
  punctuation := rfl
  string _ := rfl
  distinct := by decide
  letters := by decide

theorem describes_python : Describes python .python where
  quote := .inr rfl
  words := rfl
  punctuation := rfl
  string _ := rfl
  distinct := by decide
  letters := by decide

section Described

variable {style : LiteralStyle} {stack : List Frame} {mode : Mode}

theorem Describes.word (describes : g.Describes style) {text : String}
    (h : text ∈ [style.null, style.truthy, style.falsy]) :
    text.toList ∈ [g.null, g.truthy, g.falsy] :=
  describes.words ▸ List.mem_map_of_mem h

theorem Describes.inLine_word (describes : g.Describes style) {text : String}
    (h : text ∈ [style.null, style.truthy, style.falsy]) :
    Chars.InLine text.toList ∧ text ≠ "" := by
  obtain ⟨bare, letter⟩ := describes.letters _ (describes.word h)
  rw [List.all_eq_true] at bare
  refine ⟨fun c mem => ⟨?_, ?_⟩, ?_⟩
  · rintro rfl
    exact absurd (bare _ mem) (by decide)
  · rintro rfl
    exact absurd (bare _ mem) (by decide)
  · rintro rfl
    exact absurd letter (by simp)

theorem Describes.inLine_mark (describes : g.Describes style) {text : String}
    (h : text ∈ [style.objectOpen, style.objectClose, style.arrayOpen, style.arrayClose,
      style.keySeparator, style.lastElement]) : Chars.InLine text.toList ∧ text ≠ "" := by
  have marks : ∀ text ∈ ["\x7b", "\x7d", "[", "]", ": ", ","],
      Chars.InLine text.toList ∧ text ≠ "" := by decide
  rw [describes.punctuation] at h
  exact marks text h

theorem Describes.isOneLine (describes : g.Describes style) : style.IsOneLine where
  texts text mem := by
    have parts : style.texts = [style.null, style.truthy, style.falsy] ++
      [style.objectOpen, style.objectClose, style.arrayOpen, style.arrayClose,
        style.keySeparator, style.lastElement] := rfl
    rw [parts, List.mem_append] at mem
    rcases mem with word | mark
    · exact (describes.inLine_word word).1
    · exact (describes.inLine_mark mark).1
  words text mem := by
    have parts : style.words = [style.null, style.truthy, style.falsy] ++
      [style.objectOpen, style.objectClose, style.arrayOpen, style.arrayClose] := rfl
    rw [parts, List.mem_append] at mem
    rcases mem with word | mark
    · exact (describes.inLine_word word).2
    · exact (describes.inLine_mark (List.mem_append_left [_, _] mark)).2
  string s := by
    rw [describes.string s]
    refine ⟨StringLiteral.inLine_enclose describes.quote s, fun empty => ?_⟩
    have text := StringLiteral.toList_enclose g.quote s
    rw [empty] at text
    exact absurd text (by simp)

theorem Describes.punctuation_eq (describes : g.Describes style) :
    style.objectOpen = "\x7b" ∧ style.objectClose = "\x7d" ∧ style.arrayOpen = "[" ∧
      style.arrayClose = "]" ∧ style.keySeparator = ": " ∧ style.lastElement = "," := by
  simpa using describes.punctuation

theorem scalar?_word (describes : g.Describes style) :
    g.scalar? style.null.toList = some .null ∧
      ∀ b, g.scalar? (style.boolean b).toList = some (.bool b) := by
  have words := describes.words
  have distinct := describes.distinct
  simp only [List.map_cons, List.map_nil, List.cons.injEq, and_true] at words
  obtain ⟨null, truthy, falsy⟩ := words
  rw [← null, ← truthy, ← falsy] at distinct
  simp only [List.nodup_cons, List.mem_cons, List.not_mem_nil, or_false, not_or] at distinct
  obtain ⟨⟨first, second⟩, third, -⟩ := distinct
  refine ⟨by rw [scalar?, if_pos null], fun b => ?_⟩
  cases b with
  | true => 
      rw [scalar?, ← null, ← truthy]
      simp only [LiteralStyle.boolean, if_true, if_neg (Ne.symm first)]
  | false =>
      rw [scalar?, ← null, ← truthy, ← falsy]
      simp only [LiteralStyle.boolean, Bool.false_eq_true, if_false, if_neg (Ne.symm second),
        if_neg (Ne.symm third), if_true]

theorem scalar?_number (describes : g.Describes style) {n : Json.Number}
    (canonical : n.IsCanonical) : g.scalar? n.text.toList = some (.number n) := by
  have other {word : List Char} (mem : word ∈ [g.null, g.truthy, g.falsy]) :
      n.text.toList ≠ word := by
    rintro rfl
    have numeric : n.text.toList.all Json.isNumberCharacter = true :=
      List.all_eq_true.2 (Json.isNumberCharacter_of_mem_text n)
    exact absurd (numeric.symm.trans (describes.letters _ mem).2) (by decide)
  rw [scalar?, if_neg (other (by simp)), if_neg (other (by simp)), if_neg (other (by simp)),
    number?_text canonical]
  rfl

theorem takesWord_scalar (describes : g.Describes style) (opens : mode = .value ∨ mode = .item)
    {text : List Char} (nonempty : text ≠ []) (bare : ∀ c ∈ text, isBare c = true) {v : Json.Value}
    (value : g.scalar? text = some v) :
    g.TakesWord text ⟨stack, mode⟩ (Reader.complete stack v) := by
  refine takesWord_bare describes.quote nonempty bare ?_
  rw [step_start opens (by simp), Reader.start, value]
  rfl

theorem takesWord_word (describes : g.Describes style) (opens : mode = .value ∨ mode = .item)
    {word : String} (mem : word ∈ [style.null, style.truthy, style.falsy]) {v : Json.Value}
    (value : g.scalar? word.toList = some v) :
    g.TakesWord (Code.plain word).text.toList ⟨stack, mode⟩ (Reader.complete stack v) := by
  have bare := (describes.letters _ (describes.word mem)).1
  have nonempty : word.toList ≠ [] := by simpa using (describes.inLine_word mem).2
  rw [Code.text_plain]
  exact takesWord_scalar describes opens nonempty (List.all_eq_true.1 bare) value

theorem takes_entry (describes : g.Describes style) {unit : String}
    (blank : Writer.IsBlankUnit unit) (level : Nat) {done : List (String × Json.Value)}
    {key : String} {value : Code} {v : Json.Value}
    (taken : g.TakesWord value.text.toList ⟨.object done key :: stack, .value⟩
      (Reader.complete (.object done key :: stack) v)) :
    g.TakesWord (Literal.entry style (Text.times level unit) key value).text.toList
      ⟨.object done "" :: stack, .key⟩ ⟨.object ((key, v) :: done) "" :: stack, .after⟩ := by
  have name : g.Takes (style.string key).toList ⟨.object done "" :: stack, .key⟩
      ⟨.object done key :: stack, .colon⟩ := by
    rw [describes.string key]
    refine takes_string describes.quote ?_
    simp [Reader.step]
  have colon : g.Takes [':'] ⟨.object done key :: stack, .colon⟩
      ⟨.object done key :: stack, .value⟩ := takes_mark (by decide) rfl
  have space : g.Takes [' '] ⟨.object done key :: stack, .value⟩
      ⟨.object done key :: stack, .value⟩ := takes_space (by decide)
  have front := (takes_indent blank level).append (name.append (colon.append space))
  have separator := describes.punctuation_eq.2.2.2.2.1
  simpa [Literal.entry, separator, Reader.complete] using front.append_word taken

/-- A value at any level takes the reader to where it is complete. -/
theorem takesWord_code (describes : g.Describes style) {unit : String}
    (blank : Writer.IsBlankUnit unit) (v : Json.Value) (level : Nat)
    (canonical : v.IsCanonical) (opens : mode = .value ∨ mode = .item) :
    g.TakesWord (Literal.code style unit level v).text.toList ⟨stack, mode⟩
      (Reader.complete stack v) := by
  obtain ⟨objectOpen, objectClose, arrayOpen, arrayClose, -, lastElement⟩ :=
    describes.punctuation_eq
  -- What is read inside a container goes on top of the stack of the container itself.
  induction v using Json.Value.induction generalizing level stack mode with
  | null =>
      rw [Literal.code]
      exact takesWord_word describes opens (by simp) (scalar?_word describes).1
  | bool b =>
      rw [Literal.code]
      refine takesWord_word describes opens ?_ ((scalar?_word describes).2 b)
      cases b <;> simp [LiteralStyle.boolean]
  | number n =>
      have value := scalar?_number describes (canonical n (by simp [Json.Value.numbers]))
      rw [Literal.code, Code.text_plain]
      exact takesWord_scalar describes opens n.text_ne isBare_of_mem_text value
  | string s =>
      rw [Literal.code, Code.text_quoted, describes.string s]
      refine (takes_string describes.quote ?_).word
      rw [step_start opens (by simp), Reader.start, String.ofList_toList]
  | array items ih =>
      have opened : Reader.step g ⟨stack, mode⟩ (.mark '[') = some ⟨.array [] :: stack, .item⟩ :=
        step_start opens (by decide)
      by_cases empty : items = []
      · subst empty
        have first : g.Takes ['['] ⟨stack, mode⟩ ⟨.array [] :: stack, .item⟩ :=
          takes_mark (by decide) opened
        have last : g.Takes [']'] ⟨.array [] :: stack, .item⟩
          (Reader.complete stack (.array [])) := takes_mark (by decide) rfl
        have whole := (first.append last).word
        simpa [Literal.code, arrayOpen, arrayClose] using whole
      · rw [Json.Value.isCanonical_array] at canonical
        rw [Literal.code_array level empty, arrayOpen, arrayClose, lastElement]
        have comma (done : List Json.Value) :
            Reader.step g ⟨.array done :: stack, .after⟩ (.mark ',') =
              some ⟨.array done :: stack, .item⟩ := rfl
        have closed : Reader.step g ⟨.array (items.map id).reverse :: stack, .item⟩ (.mark ']') =
            some (Reader.complete stack (.array items)) := by
          rw [List.map_id, Reader.step, if_pos rfl, Reader.close, List.reverse_reverse]
        refine (takes_enclosed ⟨rfl, rfl⟩ ⟨by decide, by decide⟩ blank opened comma empty
          (fun v mem done => ?_) closed level).word
        rw [Code.text_append, Code.text_plain, String.toList_append]
        exact (takes_indent blank (level + 1)).append_word (ih v mem (level + 1)
          (canonical _ mem) (.inr rfl))
  | object fields ih =>
      have opened : Reader.step g ⟨stack, mode⟩ (.mark '\x7b') =
          some ⟨.object [] "" :: stack, .key⟩ := step_start opens (by decide)
      by_cases empty : fields = []
      · subst empty
        have first : g.Takes ['\x7b'] ⟨stack, mode⟩ ⟨.object [] "" :: stack, .key⟩ :=
          takes_mark (by decide) opened
        have last : g.Takes ['\x7d'] ⟨.object [] "" :: stack, .key⟩
          (Reader.complete stack (.object [])) := takes_mark (by decide) rfl
        have whole := (first.append last).word
        simpa [Literal.code, objectOpen, objectClose] using whole
      · rw [Json.Value.isCanonical_object] at canonical
        rw [Literal.code_object level empty, objectOpen, objectClose, lastElement]
        have comma (done : List (String × Json.Value)) :
            Reader.step g ⟨.object done "" :: stack, .after⟩ (.mark ',') =
              some ⟨.object done "" :: stack, .key⟩ := rfl
        have closed : Reader.step g ⟨.object (fields.map id).reverse "" :: stack, .key⟩
            (.mark '\x7d') = some (Reader.complete stack (.object fields)) := by
          rw [List.map_id, Reader.step, Reader.close, List.reverse_reverse]
        refine (takes_enclosed ⟨rfl, rfl⟩ ⟨by decide, by decide⟩ blank opened comma empty
          (fun field mem done => ?_) closed level).word
        exact takes_entry describes blank (level + 1) (ih field mem (level + 1)
          (canonical _ mem) (.inl rfl))

theorem read?_code (describes : g.Describes style) {unit : String}
    (blank : Writer.IsBlankUnit unit) {v : Json.Value}
    (canonical : v.IsCanonical) (level : Nat) {before after : List Char}
    (leads : ∀ c ∈ before, Json.Reader.isSpace c = true)
    (trails : ∀ c ∈ after, Json.Reader.isSpace c = true) :
    g.read? (before ++ (Literal.code style unit level v).text.toList ++ after) = some v := by
  have word : g.TakesWord (Literal.code style unit level v).text.toList ⟨[], .value⟩
      (Reader.complete [] v) := takesWord_code describes blank v level canonical (.inl rfl)
  have ended : ∀ c ∈ after.head?, isBare c = false := by
    intro c first
    by_contra bare
    have space := trails c (List.mem_of_mem_head? first)
    exact (isBare_spec describes.quote (Bool.eq_true_of_not_eq_false bare)).1 space
  have read : g.readFrom ⟨[], .value⟩
      (before ++ (Literal.code style unit level v).text.toList ++ after) =
        g.readFrom ⟨[], .finished v⟩ [] := by
    have tail := takes_spaces (r := ⟨[], .finished v⟩) (g := g) trails []
    rw [List.append_nil] at tail
    rw [List.append_assoc, takes_spaces leads, word after ended, Reader.complete, tail]
  have start : g.read? (before ++ (Literal.code style unit level v).text.toList ++ after) =
      (g.readFrom ⟨[], .value⟩ (before ++ (Literal.code style unit level v).text.toList ++
        after)).bind Reader.finish? := by
    rw [read?, readFrom, Option.bind_assoc]
  rw [start, read, readFrom_nil, Option.bind_some, Reader.finish?]

end Described

end LiteralGrammar

namespace Writer

open LiteralGrammar

/--
The lines of a literal, written at any level, denote the value in either
language.  The numbers of a document are all such as there are:
`Json.Value.isCanonical_of_read?`.
-/
theorem lines_literal_read_back (w : Writer) (blank : IsBlankUnit w.unit) {v : Json.Value}
    (canonical : v.IsCanonical) :
    (∃ text, w.lines (Literal.code .javaScript w.unit 0 v).text =
        { w with written := text.reverse ++ w.written } ∧ javaScript.read? text = some v) ∧
      ∃ text, w.lines (Literal.code .python w.unit 0 v).text =
        { w with written := text.reverse ++ w.written } ∧ python.read? text = some v := by
  have back {g : LiteralGrammar} {style : LiteralStyle} (describes : g.Describes style) :
      ∃ text, w.lines (Literal.code style w.unit 0 v).text =
        { w with written := text.reverse ++ w.written } ∧ g.read? text = some v := by
    have leads : ∀ c ∈ w.indentation, Json.Reader.isSpace c = true :=
      Json.Value.isSpace_of_mem_times blank w.level
    have trails : ∀ c ∈ ['\n'], Json.Reader.isSpace c = true := List.forall_mem_singleton.2 rfl
    exact ⟨_, lines_code describes.isOneLine w blank v,
      read?_code describes blank canonical w.level leads trails⟩
  exact ⟨back describes_javaScript, back describes_python⟩

theorem lines_literal_read_back_nested :
    let w : Writer := ⟨"\t ", 2, ['\n', ';']⟩
    let v : Json.Value := .object
      [("it's \"so\"",
          .array [.number (.integer (-1)), .number (.float ⟨false, 6755399441055744, 1022⟩)]),
        ("b", .string "x\n\t\\\x01"), ("c", .object []), ("b", .array [.null, .bool false])]
    (∃ text, w.lines (Literal.code .javaScript w.unit 0 v).text =
        { w with written := text.reverse ++ w.written } ∧ javaScript.read? text = some v) ∧
      ∃ text, w.lines (Literal.code .python w.unit 0 v).text =
        { w with written := text.reverse ++ w.written } ∧ python.read? text = some v := by
  intro w v
  exact lines_literal_read_back w (by decide) (by decide)

end Writer

end RequestScribe
