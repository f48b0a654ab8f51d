import RequestScribe.Proofs.Code.Level
import RequestScribe.Proofs.Json.Reader
import RequestScribe.Proofs.Ordered

/-!
# JSON over several lines is read back

A value written at any level gives itself back, keys in their order, whatever
blanks stand around it.
-/

namespace RequestScribe

namespace Json

theorem inLine_quoted (s : String) : Chars.InLine (quoted s).toList := by
  have printable : ∀ c ∈ (quoted s).toList, 0x20 ≤ c.toNat := by
    intro c mem
    simp only [Reader.quoted_toList, List.mem_cons, List.mem_append, List.mem_flatMap,
      List.not_mem_nil, or_false] at mem
    rcases mem with rfl | ⟨d, -, mem⟩ | rfl
    · decide
    · rcases escapeCharacter_cases d with ⟨text, plain, -⟩ | ⟨e, text, -, plain⟩ |
        ⟨x, y, z, t, text, -, digits⟩
      · rw [text, List.mem_singleton] at mem
        exact mem ▸ plain
      · rw [text] at mem
        simp only [List.mem_cons, List.not_mem_nil, or_false] at mem
        rcases mem with rfl | rfl
        · decide
        · exact plain
      · rw [text, List.mem_cons, List.mem_cons] at mem
        rcases mem with rfl | rfl | mem
        · decide
        · decide
        · exact (digits c mem).1
    · decide
  intro c mem
  constructor
  · rintro rfl
    exact absurd (printable _ mem) (by decide)
  · rintro rfl
    exact absurd (printable _ mem) (by decide)

theorem isOneLine_json : LiteralStyle.json.IsOneLine where
  texts := by decide
  words := by decide
  string s := ⟨inLine_quoted s, by
    simp [LiteralStyle.json, LiteralStyle.relaxedJson, quoted, ← String.toList_inj]⟩

namespace Value

open Reader

variable {limit : Nat} {stack : List (Frame Value)}

theorem object_builder {fields : List (String × Value)}
    (distinct : (fields.map Prod.fst).Nodup) :
    builder.object (fields.map fun field => (field.1.toList.map Char.toNat, field.2)) =
      some (.object fields) := by
  have keys : (fields.map fun field => (field.1.toList.map Char.toNat, field.2)).mapM
      (fun field => (text? field.1).map fun key => (key, field.2)) = some fields := by
    clear distinct
    induction fields with
    | nil => rfl
    | cons field rest ih => simp [List.mapM_cons, text?_map_toNat, ih]
  have same : Ordered.ofPairs (· == ·) fields = fields := Ordered.ofPairs_eq_self_iff.2 distinct
  simp only [builder]
  rw [keys]
  simp [same]

theorem value?_text {n : Number} (readable : n.isReadable = true) :
    (numberText? n.text.toList).bind builder.number = some (.number n) := by
  have value : (numberText? n.text.toList).bind NumberText.value? = some n := by
    cases n with
    | integer n =>
        simp only [Number.isReadable, Bool.and_eq_true, decide_eq_true_eq] at readable
        exact value?_integerText readable.1 readable.2
    | float x => exact beq_iff_eq.1 readable
  obtain ⟨t, written, meant⟩ := Option.bind_eq_some_iff.1 value
  simp [written, builder, meant]

theorem isNumberCharacter_of_mem {n : Number} :
    ∀ c ∈ n.text.toList, Reader.isNumberCharacter c = true := by
  intro c mem
  rcases isNumberCharacter_iff.1 (isNumberCharacter_of_mem_text n c mem) with
    digit | rfl | rfl | rfl | rfl
  · simp [Reader.isNumberCharacter, Chars.isDigit_eq, digit]
  all_goals decide

theorem isSpace_of_mem_times {unit : String} (blank : Writer.IsBlankUnit unit) (n : Nat) :
    ∀ c ∈ (Text.times n unit).toList, isSpace c = true := by
  intro c mem
  rcases blank c (Literal.mem_times mem) with rfl | rfl
  · decide
  · decide

theorem openFrame_of_lt (fits : stack.length < limit) (frame : Frame Value) (mode : Mode Value) :
    openFrame (some limit) stack frame mode = some ⟨frame :: stack, mode⟩ := by
  simp [openFrame, fits]

/-- Blanks in front of a value are skipped, and what settles is the value. -/
def Reads (limit : Nat) (stack : List (Frame Value)) (text : List Char) (v : Value) : Prop :=
  ∃ reader, run builder (some limit) ⟨stack, .value⟩ text = some reader ∧
    Settles builder (complete stack v) reader

theorem Reads.indented {text : List Char} {v : Value} (h : Reads limit stack text v)
    {indent : List Char} (blank : ∀ c ∈ indent, isSpace c = true) :
    Reads limit stack (indent ++ text) v := by
  obtain ⟨reader, taken, settles⟩ := h
  exact ⟨reader, (run_append (run_spaces rfl blank) text).trans taken, settles⟩

theorem reads_of_run {text : List Char} {v : Value}
    (h : run builder (some limit) ⟨stack, .value⟩ text = some (complete stack v)) :
    Reads limit stack text v :=
  ⟨complete stack v, h, .arrived⟩

/-- After a key and a colon the value is read. -/
theorem Reads.entry {unit : String} (blank : Writer.IsBlankUnit unit) (level : Nat) {key : String}
    {done : List (List Nat × Value)} {value : Code} {v : Value}
    (h : Reads limit (.object done (key.toList.map Char.toNat) :: stack) value.text.toList v) :
    ∃ reader, run builder (some limit) ⟨.object done [] :: stack, .key⟩
        (Literal.entry .json (Text.times level unit) key value).text.toList = some reader ∧
      Settles builder
        ⟨.object ((key.toList.map Char.toNat, v) :: done) [] :: stack, .after⟩ reader := by
  obtain ⟨reader, taken, settles⟩ := h
  refine ⟨reader, ?_, settles⟩
  have text : (Literal.entry .json (Text.times level unit) key value).text.toList =
      (Text.times level unit).toList ++
        ((quoted key).toList ++ ([':', ' '] ++ value.text.toList)) := by
    simp [Literal.entry, LiteralStyle.json, LiteralStyle.relaxedJson]
  have colon : run builder (some limit) ⟨.object done (key.toList.map Char.toNat) :: stack, .colon⟩
      [':', ' '] = some ⟨.object done (key.toList.map Char.toNat) :: stack, .value⟩ := rfl
  rw [text, run_append (run_spaces rfl (isSpace_of_mem_times blank level)),
    run_append (run_key_quoted key done []), run_append colon, taken]

/-- A container over several lines, by its characters. -/
theorem toList_enclosed {opening closing : String} {first last : Char}
    (opens : opening.toList = [first]) (closes : closing.toList = [last]) (unit : String)
    (level : Nat) (lines : List Code) :
    (Literal.enclosed opening closing LiteralStyle.json.lastElement unit level lines).text.toList =
      first :: '\n' :: (",\n".toList.intercalate (lines.map fun line => line.text.toList) ++
        '\n' :: ((Text.times level unit).toList ++ [last])) := by
  simp [Literal.text_enclosed, Code.toList_intercalate, opens, closes,
    LiteralStyle.json, LiteralStyle.relaxedJson]

/-- A container over several lines is read, if its parts are and its brackets are taken. -/
theorem reads_enclosed {β γ : Type} {frame : List β → Frame Value} {start next : Mode Value}
    (holds : Holds builder (some limit) frame start next) {opening closing : String}
    {first last : Char} (brackets : opening.toList = [first] ∧ closing.toList = [last])
    (opens : step builder (some limit) ⟨stack, .value⟩ first = some ⟨frame [] :: stack, start⟩)
    {items : List γ} (nonempty : items ≠ []) {part : γ → Code} {held : γ → β}
    (parts : ∀ a ∈ items, ∀ done, ∃ reader,
      run builder (some limit) ⟨frame done :: stack, next⟩ (part a).text.toList = some reader ∧
        Settles builder ⟨frame (held a :: done) :: stack, .after⟩ reader)
    {unit : String} (blank : Writer.IsBlankUnit unit) (level : Nat) {v : Value}
    (closes : step builder (some limit) ⟨frame (items.map held).reverse :: stack, .after⟩ last =
      some (complete stack v)) :
    Reads limit stack (Literal.enclosed opening closing LiteralStyle.json.lastElement unit level
      (items.map part)).text.toList v := by
  have lines := holds.run_lines nonempty parts (isSpace_of_mem_times blank level) closes
  have text := toList_enclosed brackets.1 brackets.2 unit level (items.map part)
  rw [List.map_map] at text
  rw [text]
  exact reads_of_run ((run_cons opens _).trans lines)

/-- A value at any level is read where there is room for its containers. -/
theorem reads_code {unit : String} (blank : Writer.IsBlankUnit unit) (v : Value) (level : Nat)
    (readable : v.isReadable = true) (fits : stack.length + v.depth ≤ limit) :
    Reads limit stack (Literal.code .json unit level v).text.toList v := by
  -- A container takes one place on the stack, and its members are one level less deep.
  induction v using Value.induction generalizing level stack with
  | null =>
      rw [Literal.code, Code.text_plain]
      exact reads_of_run rfl
  | bool flag =>
      rw [Literal.code, Code.text_plain]
      cases flag <;> exact reads_of_run rfl
  | number n =>
      rw [isReadable] at readable
      rw [Literal.code, Code.text_plain]
      exact settles_number isNumberCharacter_of_mem (value?_text readable)
  | string s =>
      have built : builder.string (s.toList.map Char.toNat) = some (.string s) := by
        simp [builder, text?_map_toNat]
      rw [Literal.code, Code.text_quoted]
      exact reads_of_run (run_value_quoted built)
  | array items ih =>
      have room : stack.length < limit := by
        rw [depth] at fits
        omega
      have opens : step builder (some limit) ⟨stack, .value⟩ '[' =
          some ⟨.array [] :: stack, .arrayStart⟩ := openFrame_of_lt room (.array []) .arrayStart
      by_cases empty : items = []
      · subst empty
        rw [Literal.code, Code.text_append, Code.text_plain, Code.text_plain]
        exact reads_of_run (run_cons opens [']'])
      · have closes : step builder (some limit)
            ⟨.array (items.map id).reverse :: stack, .after⟩ ']' =
              some (complete stack (.array items)) := by
          simp [step, follow, isSpace, closeArray, builder]
        rw [isReadable_array] at readable
        rw [Literal.code_array level empty]
        refine reads_enclosed holds_array ⟨rfl, rfl⟩ opens empty (fun v mem done => ?_) blank level
          closes
        have deeper : (Frame.array done :: stack).length + v.depth ≤ limit := by
          have inner := depth_item_lt mem
          rw [List.length_cons]
          omega
        rw [Code.text_append, Code.text_plain, String.toList_append]
        exact (ih v mem (level + 1) (readable v mem) deeper).indented
          (isSpace_of_mem_times blank (level + 1))
  | object fields ih =>
      have room : stack.length < limit := by
        rw [depth] at fits
        omega
      have opens : step builder (some limit) ⟨stack, .value⟩ '\x7b' =
          some ⟨.object [] [] :: stack, .objectStart⟩ :=
        openFrame_of_lt room (.object [] []) .objectStart
      by_cases empty : fields = []
      · subst empty
        rw [Literal.code, Code.text_append, Code.text_plain, Code.text_plain]
        exact reads_of_run (run_cons opens ['\x7d'])
      · rw [isReadable_object] at readable
        obtain ⟨distinct, readable⟩ := readable
        let held := fields.map fun field => (field.1.toList.map Char.toNat, field.2)
        have closes : step builder (some limit) ⟨.object held.reverse [] :: stack, .after⟩ '\x7d' =
            some (complete stack (.object fields)) := by
          simp [held, step, follow, isSpace, closeObject, object_builder distinct]
        rw [Literal.code_object level empty]
        refine reads_enclosed holds_object ⟨rfl, rfl⟩ opens empty (fun field mem done => ?_) blank
          level closes
        have deeper (key : List Nat) :
            (Frame.object done key :: stack).length + field.2.depth ≤ limit := by
          have inner := depth_field_lt mem
          rw [List.length_cons]
          omega
        exact Reads.entry blank (level + 1)
          (ih field mem (level + 1) (readable field mem) (deeper _))

/-- A document with a value at any level, and blanks around it, gives the value back. -/
theorem read?_code {unit : String} (blank : Writer.IsBlankUnit unit) {v : Value}
    (readable : v.isReadable = true) (fits : v.depth ≤ depthLimit) (level : Nat)
    {before after : List Char} (leads : ∀ c ∈ before, isSpace c = true)
    (trails : ∀ c ∈ after, isSpace c = true) :
    read? (String.ofList (before ++ (Literal.code .json unit level v).text.toList ++ after)) =
      some v := by
  have room : ([] : List (Frame Value)).length + v.depth ≤ depthLimit := by
    rw [List.length_nil]
    omega
  obtain ⟨reader, taken, settles⟩ := (reads_code blank v level readable room).indented leads
  rw [read?, Json.read?, String.toList_ofList, run_append taken]
  cases after with
  | nil => exact settles.finish
  | cons c rest =>
      have other : Reader.isNumberCharacter c = false := by
        have space := trails c List.mem_cons_self
        simp only [isSpace, Bool.or_eq_true, beq_iff_eq] at space
        rcases space with ((rfl | rfl) | rfl) | rfl <;> decide
      rw [settles.run other, complete, run_spaces rfl trails]
      rfl

end Value

end Json

end RequestScribe
