import RequestScribe.Proofs.Shell.Quoting

/-!
# Texts without quotes in front of quoted ones

A text that stands in a line as it is, with words behind it that are quoted, is
read as one word and comes back just if it has no blank, no quote and no
backslash.

That nothing else can come back takes two facts.  Reading backwards, words that
come back at the end of a line have been read from outside of all quotes, for a
quoted text that is entered in other quotes loses its own end.  And a text gives
at most as many characters as it has, fewer if one of them means something.
-/

namespace RequestScribe

namespace Shell

/-- A character that stands for itself outside quotes, unless it opens some together with the next. -/
def IsLiteral (c : Char) : Prop :=
  Chars.isBlank c = false ∧ c ≠ '\\' ∧ c ≠ '\'' ∧ c ≠ '"'

instance : DecidablePred IsLiteral := fun _ => inferInstanceAs (Decidable (_ ∧ _))

/-- A text that is read as it stands where blanks are around it. -/
def StandsAlone (word : List Char) : Prop :=
  word ≠ [] ∧ ∀ c ∈ word, IsLiteral c

instance : DecidablePred StandsAlone := fun word =>
  have : Decidable (∀ c ∈ word, IsLiteral c) := List.decidableBAll IsLiteral word
  inferInstanceAs (Decidable (_ ∧ _))

namespace Scan

/-! ## Reading in parts -/

/-- The next character counts only if it is a quote. -/
theorem feed_of_next {next : Option Char} (h : next ≠ some '\'') (scan : Scan) (c : Char) :
    scan.feed c next = scan.feed c none := by
  have same (state : State) : step state c next = step state c none := by
    cases state with
    | unquoted => simp [step, h]
    | _ => rfl
  simp only [feed, steps, same]

theorem run_append {rest : List Char} (h : rest.head? ≠ some '\'') (scan : Scan)
    (text : List Char) : run scan (text ++ rest) = run (run scan text) rest := by
  induction text generalizing scan with
  | nil => rfl
  | cons c text ih =>
      have first : scan.feed c (text ++ rest).head? = scan.feed c text.head? := by
        cases text with
        | nil => exact feed_of_next h scan c
        | cons d text => rfl
      rw [List.cons_append, run, first, ih]
      rfl

/-- Literal characters extend the word, which exists from the first one on. -/
theorem run_literal {text : List Char} (literal : ∀ c ∈ text, IsLiteral c)
    (done : List (List Char)) (word : List Char) (started : Bool) :
    run ⟨.unquoted, done, word, started⟩ text =
      ⟨.unquoted, done, text.reverse ++ word, started || !text.isEmpty⟩ := by
  induction text generalizing word started with
  | nil => simp [run]
  | cons c text ih =>
      obtain ⟨⟨blank, slash, single, double⟩, later⟩ := List.forall_mem_cons.1 literal
      have next : text.head? ≠ some '\'' := by
        intro h
        exact (later _ (List.mem_of_mem_head? h)).2.2.1 rfl
      have first : feed ⟨.unquoted, done, word, started⟩ c text.head? =
          ⟨.unquoted, done, c :: word, true⟩ := by
        simp [feed, steps, step, record, push, blank, slash, single, double, next]
      rw [run, first, ih later]
      simp

/-! ## Quoted texts that are entered in other quotes -/

/-- The states in which the quotes of a quoted text are not read as what they are. -/
def IsCrossed : State → Prop
  | .unquoted | .escaped | .double | .doubleEscaped => True
  | _ => False

/-- The backslash that a state has taken and not passed on. -/
def taken : State → List Char
  | .escaped => ['\\']
  | _ => []

theorem eq_of_finish {done front : List (List Char)} {word last : List Char}
    (read : finish ⟨.unquoted, done, word, true⟩ = .ok (front ++ [last])) :
    done.reverse = front ∧ word.reverse = last := by
  have words : done.reverse ++ [word.reverse] = front ++ [last] := by
    simpa [finish, split] using read
  simpa using List.append_inj' words rfl

theorem not_suffix_of_ne {c d : Char} (h : c ≠ d) (front rest : List Char) :
    ¬c :: rest <:+ front ++ d :: rest := by
  rintro ⟨lead, same⟩
  have parts : lead ++ [c] = front ++ [d] := by
    have joined : (lead ++ [c]) ++ rest = (front ++ [d]) ++ rest := by simpa using same
    exact List.append_cancel_right joined
  exact h (by simpa using congrArg List.getLast? parts)

/-- From single quotes the rest of a quoted text is read as it is meant. -/
theorem eq_of_finish_single {content last : List Char} {front : List (List Char)}
    (done : List (List Char)) (word : List Char)
    (read : finish (run ⟨.single, done, word, true⟩ (content.flatMap quotedText ++ ['\''])) =
      .ok (front ++ [last])) : done.reverse = front ∧ word.reverse ++ content = last := by
  rw [run_quotedText] at read
  have closed : run ⟨.single, done, content.reverse ++ word, true⟩ ['\''] =
      ⟨.unquoted, done, content.reverse ++ word, true⟩ := rfl
  rw [closed] at read
  simpa using eq_of_finish read

@[simp] theorem state_record (scan : Scan) (state : State) (action : Action) :
    (scan.record state action).state = state := by
  cases action with
  | split =>
      simp only [record, split]
      split <;> rfl
  | _ => rfl

/-- Any character but a quote leads from crossed quotes to crossed quotes. -/
theorem crossed_feed {state : State} (crossed : IsCrossed state) {c : Char} (plain : c ≠ '\'')
    {next : Option Char} (closed : state = .unquoted → c = '$' → next ≠ some '\'')
    (done : List (List Char)) (word : List Char) (started : Bool) :
    IsCrossed (feed ⟨state, done, word, started⟩ c next).state ∧
      taken (feed ⟨state, done, word, started⟩ c next).state <:+ taken state ++ [c] := by
  cases state with
  | unquoted =>
      by_cases slash : c = '\\'
      · subst slash
        exact ⟨trivial, List.suffix_rfl⟩
      · by_cases double : c = '"'
        · subst double
          exact ⟨trivial, List.nil_suffix⟩
        · have opens : ¬(c = '$' ∧ next = some '\'') := fun h => closed rfl h.1 h.2
          cases blank : Chars.isBlank c <;>
            simp [feed, steps, step, plain, slash, double, opens, blank, IsCrossed, taken]
  | escaped => exact ⟨trivial, List.nil_suffix⟩
  | double =>
      by_cases double : c = '"' <;> by_cases slash : c = '\\' <;>
        simp [feed, steps, step, double, slash, IsCrossed, taken]
  | doubleEscaped =>
      by_cases special : c = '"' ∨ c = '\\' ∨ c = '$' ∨ c = '\x60' <;>
        simp [feed, steps, step, special, IsCrossed, taken]
  | _ => exact crossed.elim

/--
A quoted text that is entered in a crossed state does not come back at the end
of the last word.  The quotes cannot come right again but by a quote of the text
itself, and what that leaves behind is not the quote.
-/
theorem not_suffix_of_crossed : ∀ (content : List Char) (state : State), IsCrossed state →
    ∀ (done : List (List Char)) (word : List Char) (started : Bool) {front : List (List Char)}
      {last : List Char},
      finish (run ⟨state, done, word, started⟩ (content.flatMap quotedText ++ ['\''])) =
        .ok (front ++ [last]) → ¬taken state ++ content <:+ last
  | [], state, crossed, done, word, started, front, last, read => by
      cases state with
      | escaped =>
          obtain ⟨-, rfl⟩ := eq_of_finish read
          rw [List.reverse_cons]
          exact not_suffix_of_ne (by decide) word.reverse []
      | unquoted | double | doubleEscaped => cases read
      | _ => exact crossed.elim
  | c :: rest, state, crossed, done, word, started, front, last, read => by
      by_cases quote : c = '\''
      · subst quote
        cases state with
        | unquoted =>
            obtain ⟨-, rfl⟩ := eq_of_finish_single _ ('\\' :: word) read
            simpa [taken] using not_suffix_of_ne (by decide) word.reverse rest
        | escaped =>
            obtain ⟨-, rfl⟩ := eq_of_finish_single _ ('\'' :: '\'' :: word) read
            simpa [taken] using not_suffix_of_ne (by decide) word.reverse ('\'' :: rest)
        | double | doubleEscaped =>
            have later := not_suffix_of_crossed rest .double trivial _ _ _ read
            exact fun h => later ((List.suffix_cons '\'' rest).trans h)
        | _ => exact crossed.elim
      · by_cases opens : state = .unquoted ∧ c = '$' ∧
            (rest.flatMap quotedText ++ ['\'']).head? = some '\''
        · -- The dollar sign opens a string with the quote behind it, which the next quote closes.
          obtain ⟨rfl, rfl, next⟩ := opens
          cases rest with
          | nil => cases read
          | cons d rest =>
              have quote : d = '\'' := by
                by_cases quote : d = '\''
                · exact quote
                · simp [quotedText, quote] at next
              subst quote
              have later := not_suffix_of_crossed rest .unquoted trivial _ _ _ read
              intro h
              exact later ((List.suffix_append ['$', '\''] rest).trans h)
        · have closed : state = .unquoted → c = '$' →
              (rest.flatMap quotedText ++ ['\'']).head? ≠ some '\'' :=
            fun hstate hc next => opens ⟨hstate, hc, next⟩
          have step := crossed_feed crossed quote closed done word started
          have keep : quotedText c = [c] := if_neg quote
          rw [List.flatMap_cons, keep, List.append_assoc, List.singleton_append, run] at read
          generalize feed ⟨state, done, word, started⟩ c _ = scan at step read
          have later :=
            not_suffix_of_crossed rest scan.state step.1 scan.done scan.word scan.started read
          obtain ⟨lead, split⟩ := step.2
          intro h
          refine later (List.IsSuffix.trans ⟨lead, ?_⟩ h)
          rw [← List.append_assoc, split, List.append_assoc, List.singleton_append]

/-! ## What stands in front of words that come back -/

/-- A quoted text that comes back as the last word has been entered outside of all quotes. -/
theorem finish_of_quoted {scan : Scan} {value : List Char} {front : List (List Char)}
    (read : finish (run scan (' ' :: '\'' :: (value.flatMap quotedText ++ ['\'']))) =
      .ok (front ++ [value])) : scan.state = .unquoted ∧ scan.finish = .ok front := by
  obtain ⟨state, done, word, started⟩ := scan
  have lost (state : State) {done : List (List Char)} {word : List Char} {started : Bool}
      (crossed : IsCrossed state) (none : taken state = [])
      (read : finish (run ⟨state, done, word, started⟩ (value.flatMap quotedText ++ ['\''])) =
        .ok (front ++ [value])) : False := by
    have h := not_suffix_of_crossed value state crossed done word started read
    rw [none, List.nil_append] at h
    exact h List.suffix_rfl
  cases state with
  | unquoted =>
      have blank : Chars.isBlank ' ' = true := by decide
      rw [run, feed_blank blank] at read
      have opened : run (split ⟨.unquoted, done, word, started⟩)
            ('\'' :: (value.flatMap quotedText ++ ['\''])) =
          run ⟨.single, (split ⟨.unquoted, done, word, started⟩).done,
            (split ⟨.unquoted, done, word, started⟩).word, true⟩
            (value.flatMap quotedText ++ ['\'']) := by
        cases started <;> rfl
      rw [opened] at read
      obtain ⟨same, -⟩ := eq_of_finish_single _ _ read
      exact ⟨rfl, congrArg Except.ok same⟩
  | escaped =>
      obtain ⟨-, same⟩ := eq_of_finish_single _ (' ' :: word) read
      have lengths := congrArg List.length same
      simp only [List.length_append, List.length_reverse, List.length_cons] at lengths
      omega
  | single => exact (lost .unquoted trivial rfl read).elim
  | double => exact (lost .double trivial rfl read).elim
  | doubleEscaped => exact (lost .double trivial rfl read).elim
  | ansiOpening => exact (lost .unquoted trivial rfl read).elim
  | ansi => exact (lost .unquoted trivial rfl read).elim
  | ansiEscaped => exact (lost .unquoted trivial rfl read).elim
  | ansiHex marker left digits value' =>
      cases digits <;> exact (lost .unquoted trivial rfl read).elim

/-- Within quotes bare characters change nothing about the quotes. -/
theorem state_run_of_bare {state : State} (quoting : state = .single ∨ state = .double ∨ state = .ansi)
    {text : List Char} (bare : ∀ c ∈ text, IsBare c) (done : List (List Char)) (word : List Char)
    (started : Bool) : (run ⟨state, done, word, started⟩ text).state = state := by
  induction text generalizing word started with
  | nil => rfl
  | cons c text ih =>
      obtain ⟨⟨blank, slash, single, double, dollar⟩, later⟩ := List.forall_mem_cons.1 bare
      have first : feed ⟨state, done, word, started⟩ c text.head? =
          ⟨state, done, c :: word, true⟩ := by
        rcases quoting with rfl | rfl | rfl <;>
          simp [feed, steps, step, record, push, slash, single, double]
      rw [run, first, ih later]

/-- A plain text that comes back as the last word has been entered outside of all quotes. -/
theorem finish_of_plain {scan : Scan} {value : List Char} {front : List (List Char)}
    (plain : IsPlain value)
    (read : finish (run scan (' ' :: value)) = .ok (front ++ [value])) :
    scan.state = .unquoted ∧ scan.finish = .ok front := by
  obtain ⟨state, done, word, started⟩ := scan
  have literal : ∀ c ∈ value, IsLiteral c := fun c hc =>
    ⟨(plain.2 c hc).1, (plain.2 c hc).2.1, (plain.2 c hc).2.2.1, (plain.2 c hc).2.2.2.1⟩
  have nonempty : (!value.isEmpty) = true := by simpa using plain.1
  have lost (state : State) {done : List (List Char)} {word : List Char} {started : Bool}
      (quoting : state = .single ∨ state = .double ∨ state = .ansi)
      (read : finish (run ⟨state, done, word, started⟩ value) = .ok (front ++ [value])) : False := by
    have h := state_run_of_bare quoting plain.2 done word started
    unfold finish at read
    rw [h] at read
    rcases quoting with rfl | rfl | rfl <;> cases read
  cases state with
  | unquoted =>
      have blank : Chars.isBlank ' ' = true := by decide
      rw [run, feed_blank blank] at read
      have after : split ⟨.unquoted, done, word, started⟩ =
          ⟨.unquoted, (split ⟨.unquoted, done, word, started⟩).done,
            (split ⟨.unquoted, done, word, started⟩).word, false⟩ := by
        cases started <;> rfl
      rw [after, run_literal literal, nonempty] at read
      exact ⟨rfl, congrArg Except.ok (eq_of_finish read).1⟩
  | escaped =>
      have after : run ⟨.escaped, done, word, started⟩ (' ' :: value) =
          run ⟨.unquoted, done, ' ' :: word, true⟩ value := rfl
      rw [after, run_literal literal] at read
      have lengths := congrArg List.length (eq_of_finish read).2
      simp only [List.length_append, List.length_reverse, List.length_cons] at lengths
      omega
  | single => exact (lost .single (.inl rfl) read).elim
  | double => exact (lost .double (.inr (.inl rfl)) read).elim
  | doubleEscaped => exact (lost .double (.inr (.inl rfl)) read).elim
  | ansiOpening => exact (lost .ansi (.inr (.inr rfl)) read).elim
  | ansi => exact (lost .ansi (.inr (.inr rfl)) read).elim
  | ansiEscaped => exact (lost .ansi (.inr (.inr rfl)) read).elim
  | ansiHex marker left digits value' =>
      cases digits <;> exact (lost .ansi (.inr (.inr rfl)) read).elim

/-! ## How much a text gives -/

/-- The characters that a state has taken and may still give. -/
def held : State → Nat
  | .escaped | .doubleEscaped | .ansiEscaped => 1
  | .ansiHex _ _ read _ => read + 2
  | _ => 0

/-- The characters of all words so far, with those held back. -/
def size (scan : Scan) : Nat :=
  scan.done.flatten.length + scan.word.length + held scan.state

/-- Words that are complete outside of quotes are made of the characters of the scan. -/
theorem size_of_finish {scan : Scan} {words : List (List Char)} (closed : scan.state = .unquoted)
    (complete : scan.finish = .ok words) : words.flatten.length ≤ scan.size := by
  obtain ⟨state, done, word, started⟩ := scan
  obtain rfl : state = .unquoted := closed
  cases started with
  | true =>
      obtain rfl : done.reverse ++ [word.reverse] = words := by simpa [finish, split] using complete
      simp [size, held]
  | false =>
      obtain rfl : done.reverse = words := by simpa [finish, split] using complete
      simp [size, held]

def gain : Action → Nat
  | .push _ | .replay _ => 1
  | .pushPair .. => 2
  | _ => 0

theorem size_record (scan : Scan) (state : State) (action : Action) :
    (scan.record state action).size + held scan.state = scan.size + gain action + held state := by
  cases action with
  | split =>
      simp only [record, split, size, gain]
      split
      · simp; omega
      · simp; omega
  | _ => simp [record, push, size, gain]; omega

theorem gain_step (state : State) (c : Char) (next : Option Char) :
    gain (step state c next).2 + held (step state c next).1 ≤ held state + 1 := by
  cases state with
  | ansiEscaped =>
      simp only [step]
      split <;> simp [gain, held]
  | ansiHex marker left read value =>
      simp only [step]
      split
      · split <;> simp [gain, held]
      · split <;> simp [gain, held]
  | _ =>
      simp only [step]
      repeat' split
      all_goals simp [gain, held]

/-- Only an unfinished code is looked at again, and two of its characters are still held back. -/
theorem held_of_replay {state after : State} {c d : Char} {next : Option Char}
    (again : step state c next = (after, .replay d)) : after = .ansi ∧ 2 ≤ held state := by
  cases state with
  | ansiHex marker left read value =>
      simp only [step] at again
      split at again
      · split at again <;> cases again
      · split at again
        · cases again
        · cases again
          exact ⟨rfl, by simp [held]⟩
  | ansiEscaped =>
      simp only [step] at again
      split at again <;> cases again
  | _ =>
      simp only [step] at again
      repeat' split at again
      all_goals cases again

theorem size_feed_le (scan : Scan) (c : Char) (next : Option Char) :
    (scan.feed c next).size ≤ scan.size + 1 := by
  have here := gain_step scan.state c next
  unfold feed steps
  split
  · next after d again =>
      obtain ⟨rfl, kept⟩ := held_of_replay again
      have first := size_record scan .ansi (.replay d)
      have second := size_record (scan.record .ansi (.replay d)) (step .ansi c next).1
        (step .ansi c next).2
      have later := gain_step .ansi c next
      have one : gain (.replay d) = 1 := rfl
      have none : held .ansi = 0 := rfl
      rw [one, none] at first
      rw [state_record, none] at second
      rw [none] at later
      simp only [List.foldl_cons, List.foldl_nil]
      omega
  · have first := size_record scan (step scan.state c next).1 (step scan.state c next).2
    simp only [List.foldl_cons, List.foldl_nil]
    omega

theorem size_run_le (scan : Scan) (text : List Char) :
    (run scan text).size ≤ scan.size + text.length := by
  induction text generalizing scan with
  | nil => exact Nat.le_refl _
  | cons c text ih =>
      have here := size_feed_le scan c text.head?
      have later := ih (scan.feed c text.head?)
      rw [run, List.length_cons]
      omega

/--
A text that is not literal throughout gives fewer characters than it has, if no
quote is open at its end: a blank or a quote gives none, and a backslash together
with the next character gives one.
-/
theorem size_run_lt {text : List Char} (special : ¬∀ c ∈ text, IsLiteral c)
    (done : List (List Char)) (word : List Char) (started : Bool)
    (closed : (run ⟨.unquoted, done, word, started⟩ text).state = .unquoted) :
    (run ⟨.unquoted, done, word, started⟩ text).size <
      done.flatten.length + word.length + text.length := by
  induction text generalizing done word started with
  | nil => exact absurd (fun c hc => absurd hc List.not_mem_nil) special
  | cons c text ih =>
      rw [run] at closed ⊢
      by_cases literal : IsLiteral c
      · have later : ¬∀ d ∈ text, IsLiteral d := fun h =>
          special (List.forall_mem_cons.2 ⟨literal, h⟩)
        obtain ⟨blank, slash, single, double⟩ := literal
        by_cases opens : c = '$' ∧ text.head? = some '\''
        · -- The dollar sign gives nothing, and nothing behind it can make up for that.
          obtain ⟨rfl, next⟩ := opens
          rw [next]
          have rest := size_run_le (feed ⟨.unquoted, done, word, started⟩ '$' (some '\'')) text
          have here : (feed ⟨.unquoted, done, word, started⟩ '$' (some '\'')).size =
              done.flatten.length + word.length := rfl
          rw [List.length_cons]
          omega
        · have pushed : feed ⟨.unquoted, done, word, started⟩ c text.head? =
              ⟨.unquoted, done, c :: word, true⟩ := by
            simp [feed, steps, step, record, push, blank, slash, single, double, opens]
          rw [pushed] at closed ⊢
          have rest := ih later done (c :: word) true closed
          simp only [List.length_cons] at rest ⊢
          omega
      · by_cases slash : c = '\\'
        · subst slash
          cases text with
          | nil => cases closed
          | cons d text =>
              have pushed : feed (feed ⟨.unquoted, done, word, started⟩ '\\' (some d)) d text.head? =
                  ⟨.unquoted, done, d :: word, true⟩ := rfl
              have rest := size_run_le ⟨.unquoted, done, d :: word, true⟩ text
              rw [List.head?_cons, run, pushed]
              simp only [size, held, List.length_cons] at rest ⊢
              omega
        · have rest := size_run_le (feed ⟨.unquoted, done, word, started⟩ c text.head?) text
          have here : (feed ⟨.unquoted, done, word, started⟩ c text.head?).size =
              done.flatten.length + word.length := by
            by_cases single : c = '\''
            · subst single; rfl
            · by_cases double : c = '"'
              · subst double; rfl
              · have blank : Chars.isBlank c = true := by
                  simpa [IsLiteral, slash, single, double] using literal
                have ended := size_record ⟨.unquoted, done, word, started⟩ .unquoted .split
                rw [feed_blank blank]
                exact Nat.add_right_cancel ended
          rw [List.length_cons]
          omega

end Scan

end Shell

end RequestScribe
