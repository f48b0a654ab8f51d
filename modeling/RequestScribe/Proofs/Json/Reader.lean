import RequestScribe.Json.Reader
import RequestScribe.Proofs.Json.Lexeme

/-!
# What the JSON reader takes in

Blanks, strings, numbers and containers, one at a time, for any builder.  A
number ends only with the character after it, so after a value the reader is
either done with it or waits for a character that no number has.
-/

namespace RequestScribe

namespace Json

namespace Reader

variable {α : Type} {b : Builder α} {limit : Option Nat} {stack : List (Frame α)}

theorem run_append {reader next : Reader α} {cs : List Char}
    (h : run b limit reader cs = some next) (rest : List Char) :
    run b limit reader (cs ++ rest) = run b limit next rest := by
  induction cs generalizing reader with
  | nil =>
      obtain rfl : reader = next := Option.some.inj h
      rfl
  | cons c cs ih =>
      rw [run] at h
      rw [List.cons_append, run]
      cases taken : step b limit reader c with
      | none =>
          rw [taken] at h
          exact absurd h (by simp)
      | some between =>
          rw [taken] at h
          exact ih h

theorem run_cons {reader next : Reader α} {c : Char} (h : step b limit reader c = some next)
    (rest : List Char) : run b limit reader (c :: rest) = run b limit next rest := by
  rw [run, h]

/-! ## Blanks -/

def skipsSpace : Mode α → Bool
  | .value | .arrayStart | .objectStart | .key | .colon | .after | .finished _ => true
  | .word _ _ | .string _ _ _ | .number _ => false

theorem step_space {mode : Mode α} (skips : skipsSpace mode = true) {c : Char}
    (space : isSpace c = true) : step b limit ⟨stack, mode⟩ c = some ⟨stack, mode⟩ := by
  cases mode with
  | word rest v => exact absurd skips (by simp [skipsSpace])
  | string isKey escaped written => exact absurd skips (by simp [skipsSpace])
  | number written => exact absurd skips (by simp [skipsSpace])
  | _ => simp [step, follow, space]

theorem run_spaces {mode : Mode α} (skips : skipsSpace mode = true) {cs : List Char}
    (spaces : ∀ c ∈ cs, isSpace c = true) :
    run b limit ⟨stack, mode⟩ cs = some ⟨stack, mode⟩ := by
  induction cs with
  | nil => rfl
  | cons c rest ih =>
      obtain ⟨here, later⟩ := List.forall_mem_cons.1 spaces
      rw [run_cons (step_space skips here), ih later]

/-- What may come in one mode may come in another that takes the same first characters. -/
theorem run_of_step {early late : Mode α}
    (skips : skipsSpace early = true ∧ skipsSpace late = true)
    (first : ∀ c next, isSpace c = false → step b limit ⟨stack, late⟩ c = some next →
      step b limit ⟨stack, early⟩ c = some next) {cs : List Char} {next : Reader α}
    (h : run b limit ⟨stack, late⟩ cs = some next) (moved : next ≠ ⟨stack, late⟩) :
    run b limit ⟨stack, early⟩ cs = some next := by
  induction cs with
  | nil => exact absurd (Option.some.inj h).symm moved
  | cons c rest ih =>
      by_cases space : isSpace c = true
      · rw [run_cons (step_space skips.2 space)] at h
        rw [run_cons (step_space skips.1 space), ih h]
      · rw [run] at h ⊢
        cases taken : step b limit ⟨stack, late⟩ c with
        | none =>
            rw [taken] at h
            exact absurd h (by simp)
        | some between =>
            rw [taken] at h
            rw [first c between (by simpa using space) taken]
            exact h

/-! ## Strings -/

theorem run_string_plain {isKey : Bool} {written cs : List Char}
    (plain : ∀ c ∈ cs, 0x20 ≤ c.toNat ∧ c ≠ '"' ∧ c ≠ '\\') :
    run b limit ⟨stack, .string isKey false written⟩ cs =
      some ⟨stack, .string isKey false (cs.reverse ++ written)⟩ := by
  induction cs generalizing written with
  | nil => rfl
  | cons c rest ih =>
      obtain ⟨⟨printable, quote, backslash⟩, later⟩ := List.forall_mem_cons.1 plain
      have taken : step b limit ⟨stack, .string isKey false written⟩ c =
          some ⟨stack, .string isKey false (c :: written)⟩ := by
        simp [step, Nat.not_lt.2 printable, quote, backslash]
      rw [run_cons taken, ih later]
      simp

theorem run_string_escape {isKey : Bool} {written : List Char} {e : Char}
    (printable : 0x20 ≤ e.toNat) :
    run b limit ⟨stack, .string isKey false written⟩ ['\\', e] =
      some ⟨stack, .string isKey false (e :: '\\' :: written)⟩ := by
  have opens : step b limit ⟨stack, .string isKey false written⟩ '\\' =
      some ⟨stack, .string isKey true ('\\' :: written)⟩ := rfl
  have closes : step b limit ⟨stack, .string isKey true ('\\' :: written)⟩ e =
      some ⟨stack, .string isKey false (e :: '\\' :: written)⟩ := by
    simp [step, Nat.not_lt.2 printable]
  rw [run_cons opens, run_cons closes, run]

theorem run_escapeCharacter (isKey : Bool) (written : List Char) (c : Char) :
    run b limit ⟨stack, .string isKey false written⟩ (escapeCharacter c) =
      some ⟨stack, .string isKey false ((escapeCharacter c).reverse ++ written)⟩ := by
  rcases escapeCharacter_cases c with ⟨text, plain⟩ | ⟨e, text, -, printable⟩ |
    ⟨x, y, z, t, text, -, digits⟩
  · rw [text]
    exact run_string_plain (List.forall_mem_singleton.2 plain)
  · rw [text]
    exact run_string_escape printable
  · have backslash : run b limit ⟨stack, .string isKey false written⟩ ['\\', 'u'] =
        some ⟨stack, .string isKey false ('u' :: '\\' :: written)⟩ := run_string_escape (by decide)
    have split : ['\\', 'u', x, y, z, t] = ['\\', 'u'] ++ [x, y, z, t] := rfl
    rw [text, split, run_append backslash, run_string_plain digits]
    simp

theorem run_escaped (isKey : Bool) (written cs : List Char) :
    run b limit ⟨stack, .string isKey false written⟩ (cs.flatMap escapeCharacter) =
      some ⟨stack, .string isKey false ((cs.flatMap escapeCharacter).reverse ++ written)⟩ := by
  induction cs generalizing written with
  | nil => rfl
  | cons c rest ih =>
      rw [List.flatMap_cons, run_append (run_escapeCharacter isKey written c), ih]
      simp

theorem quoted_toList (s : String) :
    (quoted s).toList = '"' :: (s.toList.flatMap escapeCharacter ++ ['"']) := by
  simp [quoted]

/-- After its opening quote a string is taken in with the code units of its characters. -/
theorem run_quoted {isKey : Bool} (s : String) {next : Reader α}
    (closes : ∀ written, units? written.reverse = some (s.toList.map Char.toNat) →
      closeString b stack isKey written = some next) :
    run b limit ⟨stack, .string isKey false []⟩ (s.toList.flatMap escapeCharacter ++ ['"']) =
      some next := by
  have quote : step b limit
      ⟨stack, .string isKey false (s.toList.flatMap escapeCharacter).reverse⟩ '"' = some next := by
    have units := units?_flatMap_escapeCharacter s.toList
    rw [← List.reverse_reverse (s.toList.flatMap escapeCharacter)] at units
    simpa [step] using closes _ units
  rw [run_append (run_escaped isKey [] s.toList), List.append_nil, run_cons quote, run]

theorem run_value_quoted {s : String} {v : α} (h : b.string (s.toList.map Char.toNat) = some v) :
    run b limit ⟨stack, .value⟩ (quoted s).toList = some (complete stack v) := by
  have opens : step b limit ⟨stack, .value⟩ '"' = some ⟨stack, .string false false []⟩ := rfl
  rw [quoted_toList, run_cons opens]
  refine run_quoted s fun written units => ?_
  simp [closeString, units, h]

theorem run_key_quoted (s : String) (done : List (List Nat × α)) (key : List Nat) :
    run b limit ⟨.object done key :: stack, .key⟩ (quoted s).toList =
      some ⟨.object done (s.toList.map Char.toNat) :: stack, .colon⟩ := by
  have opens : step b limit ⟨.object done key :: stack, .key⟩ '"' =
      some ⟨.object done key :: stack, .string true false []⟩ := rfl
  rw [quoted_toList, run_cons opens]
  refine run_quoted s fun written units => ?_
  simp [closeString, units]

/-! ## Numbers -/

/-- The reader is where `target` says, or in a number whose end brings it there. -/
inductive Settles (b : Builder α) (target : Reader α) : Reader α → Prop where
  | arrived : Settles b target target
  | number {stack : List (Frame α)} {written : List Char} {v : α} :
      number? b written = some v → complete stack v = target →
        Settles b target ⟨stack, .number written⟩

theorem follow_complete (v : α) (c : Char) :
    follow b (complete stack v) c = step b limit (complete stack v) c := by
  match stack with
  | [] =>
      cases space : isSpace c with
      | true => simp [complete, follow, step, space]
      | false =>
          simp only [complete, follow, step, space, Bool.false_eq_true, if_false]
          split <;> simp_all [closeArray, closeObject]
  | .array done :: outer => rfl
  | .object done key :: outer => rfl

theorem Settles.run {target reader : Reader α} (h : Settles b target reader) {c : Char}
    (other : isNumberCharacter c = false) (rest : List Char) :
    run b limit reader (c :: rest) = run b limit target (c :: rest) := by
  cases h with
  | arrived => rfl
  | @number stack written v value arrives =>
      have taken : step b limit ⟨stack, .number written⟩ c = step b limit target c := by
        rw [← arrives, ← follow_complete]
        simp [step, other, value]
      rw [Reader.run, Reader.run, taken]

theorem Settles.finish {v : α} {reader : Reader α} (h : Settles b ⟨[], .finished v⟩ reader) :
    finish b reader = some v := by
  cases h with
  | arrived => rfl
  | @number stack written v' value arrives =>
      cases stack with
      | nil =>
          obtain rfl : v' = v := by simpa [complete] using arrives
          exact value
      | cons frame outer =>
          cases frame with
          | array done => exact absurd arrives (by simp [complete])
          | object done key => exact absurd arrives (by simp [complete])

theorem run_number {written cs : List Char} (numeric : ∀ c ∈ cs, isNumberCharacter c = true) :
    run b limit ⟨stack, .number written⟩ cs = some ⟨stack, .number (cs.reverse ++ written)⟩ := by
  induction cs generalizing written with
  | nil => rfl
  | cons c rest ih =>
      obtain ⟨here, later⟩ := List.forall_mem_cons.1 numeric
      have taken : step b limit ⟨stack, .number written⟩ c =
          some ⟨stack, .number (c :: written)⟩ := by
        simp [step, here]
      rw [run_cons taken, ih later]
      simp

theorem step_number {c : Char} (first : c = '-' ∨ Chars.isDigit c = true) :
    step b limit ⟨stack, .value⟩ c = some ⟨stack, .number [c]⟩ := by
  have other {d : Char} (no : ¬ (d = '-' ∨ Chars.isDigit d = true)) : c ≠ d :=
    fun same => no (same ▸ first)
  have space : isSpace c = false := by
    simp [isSpace, other (d := ' ') (by decide), other (d := '\t') (by decide),
      other (d := '\n') (by decide), other (d := '\r') (by decide)]
  simp only [step, space, Bool.false_eq_true, if_false]
  unfold start
  split
  · exact absurd rfl (other (d := '[') (by decide))
  · exact absurd rfl (other (d := '\x7b') (by decide))
  · exact absurd rfl (other (d := '"') (by decide))
  · exact absurd rfl (other (d := 'n') (by decide))
  · exact absurd rfl (other (d := 't') (by decide))
  · exact absurd rfl (other (d := 'f') (by decide))
  · rw [if_pos first]

/-- A number is taken in, and its value is complete with the character after it. -/
theorem settles_number {text : List Char} {v : α}
    (numeric : ∀ c ∈ text, isNumberCharacter c = true)
    (value : (numberText? text).bind b.number = some v) :
    ∃ next, run b limit ⟨stack, .value⟩ text = some next ∧
      Settles b (complete stack v) next := by
  cases text with
  | nil => exact absurd value (by simp [numberText?])
  | cons c rest =>
      obtain ⟨t, written, -⟩ := Option.bind_eq_some_iff.1 value
      obtain ⟨-, later⟩ := List.forall_mem_cons.1 numeric
      refine ⟨⟨stack, .number (rest.reverse ++ [c])⟩, ?_, .number ?_ rfl⟩
      · rw [run_cons (step_number (first_of_numberText? written)), run_number later]
      · simpa [number?] using value

/-! ## Containers -/

/-- The parts of a kind of container stand between commas. -/
structure Holds {β : Type} (b : Builder α) (limit : Option Nat) (frame : List β → Frame α)
    (first next : Mode α) : Prop where
  skips : skipsSpace first = true ∧ skipsSpace next = true
  inside : next ≠ .after
  first : ∀ stack c reader, isSpace c = false → step b limit ⟨stack, next⟩ c = some reader →
    step b limit ⟨stack, first⟩ c = some reader
  comma : ∀ done stack, step b limit ⟨frame done :: stack, .after⟩ ',' =
    some ⟨frame done :: stack, next⟩

theorem holds_array : Holds b limit .array .arrayStart .value where
  skips := ⟨rfl, rfl⟩
  inside := by simp
  first stack c reader space h := by
    have other : c ≠ ']' := by
      rintro rfl
      exact absurd h (by simp [step, isSpace, start, Chars.isDigit])
    simpa [step, space, other] using h
  comma done stack := rfl

theorem holds_object : Holds b limit (fun done => .object done []) .objectStart .key where
  skips := ⟨rfl, rfl⟩
  inside := by simp
  first stack c reader space h := by
    have other : c ≠ '\x7d' := by
      rintro rfl
      exact absurd h (by simp [step, isSpace])
    simpa [step, space, other] using h
  comma done stack := rfl

variable {β γ : Type} {frame : List β → Frame α} {first next : Mode α} {part : γ → List Char}
  {held : γ → β}

theorem Holds.run_parts (h : Holds b limit frame first next) {items : List γ}
    (nonempty : items ≠ [])
    (reads : ∀ a ∈ items, ∀ done, ∃ reader,
      run b limit ⟨frame done :: stack, next⟩ (part a) = some reader ∧
        Settles b ⟨frame (held a :: done) :: stack, .after⟩ reader) (done : List β) :
    ∃ reader,
      run b limit ⟨frame done :: stack, next⟩ (",\n".toList.intercalate (items.map part)) =
          some reader ∧
        Settles b ⟨frame ((items.map held).reverse ++ done) :: stack, .after⟩ reader := by
  induction items generalizing done with
  | nil => exact absurd rfl nonempty
  | cons a rest ih =>
      obtain ⟨here, others⟩ := List.forall_mem_cons.1 reads
      obtain ⟨reader, taken, settles⟩ := here done
      cases rest with
      | nil => exact ⟨reader, by simpa using taken, by simpa using settles⟩
      | cons a' more =>
          obtain ⟨last, later, arrives⟩ := ih (List.cons_ne_nil a' more) others (held a :: done)
          have comma : run b limit reader [',', '\n'] =
              some ⟨frame (held a :: done) :: stack, next⟩ := by
            rw [settles.run (by decide), run_cons (h.comma _ stack),
              run_cons (step_space h.skips.2 (by decide)), run]
          refine ⟨last, ?_, by simpa using arrives⟩
          rw [List.map_cons, List.map_cons, List.intercalate_cons_cons, ← List.map_cons,
            List.append_assoc, run_append taken]
          exact (run_append comma _).trans later

/-- A container on several lines, with blanks before its closing bracket. -/
theorem Holds.run_lines (h : Holds b limit frame first next) {items : List γ}
    (nonempty : items ≠ [])
    (reads : ∀ a ∈ items, ∀ done, ∃ reader,
      run b limit ⟨frame done :: stack, next⟩ (part a) = some reader ∧
        Settles b ⟨frame (held a :: done) :: stack, .after⟩ reader)
    {indent : List Char} (blank : ∀ c ∈ indent, isSpace c = true) {closing : Char}
    {target : Reader α}
    (closes : step b limit ⟨frame (items.map held).reverse :: stack, .after⟩ closing =
      some target) :
    run b limit ⟨frame [] :: stack, first⟩
        ('\n' :: (",\n".toList.intercalate (items.map part) ++ '\n' :: (indent ++ [closing]))) =
      some target := by
  obtain ⟨reader, taken, settles⟩ := h.run_parts nonempty reads []
  -- The first part comes where the container could also end, so the modes differ there.
  have moved : reader ≠ ⟨frame [] :: stack, next⟩ := by
    intro same
    have mode : reader.mode = next := by rw [same]
    cases settles with
    | arrived => exact h.inside mode.symm
    | number value arrives =>
        rw [← mode] at h
        exact absurd h.skips.2 (by simp [skipsSpace])
  have inside := run_of_step h.skips (h.first (frame [] :: stack)) taken moved
  have breaks : run b limit ⟨frame [] :: stack, first⟩ ['\n'] = some ⟨frame [] :: stack, first⟩ :=
    run_spaces h.skips.1 (List.forall_mem_singleton.2 rfl)
  have after : run b limit ⟨frame (items.map held).reverse :: stack, .after⟩ ('\n' :: indent) =
      some ⟨frame (items.map held).reverse :: stack, .after⟩ :=
    run_spaces rfl (List.forall_mem_cons.2 ⟨by decide, blank⟩)
  rw [List.append_nil] at settles
  calc
    run b limit ⟨frame [] :: stack, first⟩
          ('\n' :: (",\n".toList.intercalate (items.map part) ++ '\n' :: (indent ++ [closing])))
        = run b limit ⟨frame [] :: stack, first⟩
            (",\n".toList.intercalate (items.map part) ++ '\n' :: (indent ++ [closing])) :=
          run_append breaks _
    _ = run b limit reader ('\n' :: (indent ++ [closing])) := run_append inside _
    _ = run b limit ⟨frame (items.map held).reverse :: stack, .after⟩
          ('\n' :: (indent ++ [closing])) := settles.run (by decide) _
    _ = run b limit ⟨frame (items.map held).reverse :: stack, .after⟩ [closing] :=
          run_append after _
    _ = some target := by rw [run_cons closes, run]

end Reader

end Json

end RequestScribe
