import RequestScribe.Proofs.Shell.Spelling

/-!
# Quoted words

A quoted text is read as one word, whatever it contains.  Quoting adds no line
continuation, and neither does setting words side by side with single spaces.

Line continuations are joined before the quotes are looked at, so a backslash in
front of a line break does not stay as it is, not even between single quotes.
Joining goes through quoting: a line of quoted texts reads as these texts, each
with its own continuations joined.  So the texts come back just if none of them
has a continuation.
-/

namespace RequestScribe

namespace Shell

def quotedText (c : Char) : List Char :=
  if c = '\'' then ['\'', '\\', '\'', '\''] else [c]

theorem toList_quote (s : String) :
    (quote s).toList = '\'' :: (s.toList.flatMap quotedText ++ ['\'']) := by
  simp only [quote, Text.replaceChar, String.toList_append, String.toList_ofList]
  rfl

namespace Scan

/-- Within the quotes a quote is left, escaped and entered again. -/
theorem run_quotedText (content : List Char) (done : List (List Char)) (word rest : List Char) :
    run ⟨.single, done, word, true⟩ (content.flatMap quotedText ++ rest) =
      run ⟨.single, done, content.reverse ++ word, true⟩ rest := by
  have h := run_flatMap .single quotedText (fun c => [c]) content
    (fun c _ done word rest => by
      unfold quotedText
      split
      · next quote => subst quote; rfl
      · next plain => simp [run, feed, steps, step, record, push, plain]) done word rest
  simpa using h

theorem reads_quote (s : String) : Reads (quote s).toList s.toList := by
  intro done rest
  rw [toList_quote, List.cons_append, List.append_assoc]
  have opened : run ⟨.unquoted, done, [], false⟩
      ('\'' :: (s.toList.flatMap quotedText ++ (['\''] ++ rest))) =
      run ⟨.single, done, [], true⟩ (s.toList.flatMap quotedText ++ (['\''] ++ rest)) := rfl
  rw [opened, run_quotedText]
  simp [run, feed, steps, step, record]

end Scan

def IsPlain (word : List Char) : Prop :=
  word ≠ [] ∧ ∀ c ∈ word, IsBare c

instance : DecidablePred IsPlain := fun word =>
  have : Decidable (∀ c ∈ word, IsBare c) := List.decidableBAll IsBare word
  inferInstanceAs (Decidable (_ ∧ _))

theorem not_hasContinuation_of_plain {word : List Char} (plain : IsPlain word) :
    ¬HasContinuation word :=
  not_hasContinuation_of_not_mem fun h => (plain.2 _ h).2.1 rfl

theorem Scan.reads_plain {word : List Char} (plain : IsPlain word) : Scan.Reads word word := by
  obtain ⟨nonempty, bare⟩ := plain
  intro done rest
  cases word with
  | nil => exact absurd rfl nonempty
  | cons c word =>
      have first := run_piece (.bare c (bare c List.mem_cons_self)) false done [] (word ++ rest)
      have later := run_flatMap .unquoted (fun c => [c]) (fun c => [c]) word
        (fun d hd => run_piece (.bare d (bare d (List.mem_cons_of_mem c hd))) true)
        done [c] rest
      rw [List.flatMap_singleton'] at later
      simpa [Piece.text] using first.trans later

theorem startsBreak_flatMap_quotedText {cs rest : List Char}
    (h : StartsBreak (cs.flatMap quotedText ++ '\'' :: rest)) : StartsBreak cs := by
  have keep : ∀ {c : Char}, c ≠ '\'' → quotedText c = [c] := fun hc => if_neg hc
  cases cs with
  | nil => simp at h
  | cons c cs =>
      by_cases hc : c = '\''
      · subst hc
        simp [quotedText] at h
      · rw [List.flatMap_cons, keep hc] at h
        simp only [List.cons_append, startsBreak_cons] at h ⊢
        rcases h with h | ⟨h, hnext⟩
        · exact .inl h
        · refine .inr ⟨h, ?_⟩
          cases cs with
          | nil => simp at hnext
          | cons d cs =>
              by_cases hd : d = '\''
              · subst hd
                simp [quotedText] at hnext
              · rw [List.flatMap_cons, keep hd] at hnext
                simpa using hnext

/-- Quoting a text without continuations gives one without. -/
theorem not_hasContinuation_quote {s : String} (h : ¬HasContinuation s.toList) :
    ¬HasContinuation (quote s).toList := by
  rw [toList_quote, hasContinuation_cons]
  generalize s.toList = cs at h ⊢
  have within : ¬HasContinuation (cs.flatMap quotedText ++ ['\'']) := by
    induction cs with
    | nil => decide
    | cons c cs ih =>
        rw [hasContinuation_cons, not_or] at h
        have later := ih h.2
        by_cases hc : c = '\''
        · subst hc
          simpa [quotedText, hasContinuation_cons] using later
        · have keep : quotedText c = [c] := if_neg hc
          rw [List.flatMap_cons, keep, List.append_assoc, List.singleton_append,
            hasContinuation_cons]
          rintro (⟨hslash, hbreak⟩ | hlater)
          · exact h.1 ⟨hslash, startsBreak_flatMap_quotedText hbreak⟩
          · exact later hlater
  simpa using within

/-- Words without continuations make a line without, if spaces stand between them. -/
theorem not_hasContinuation_intercalate {words : List (List Char)}
    (h : ∀ word ∈ words, ¬HasContinuation word) :
    ¬HasContinuation (List.intercalate [' '] words) := by
  match words with
  | [] => decide
  | [word] => simpa using h word List.mem_cons_self
  | word :: next :: rest =>
      have here := h word List.mem_cons_self
      have later := not_hasContinuation_intercalate
        (fun v hv => h v (List.mem_cons_of_mem word hv))
      have line : List.intercalate [' '] (word :: next :: rest) =
          word ++ (' ' :: List.intercalate [' '] (next :: rest)) := by
        simp [List.intercalate]
      rw [line, hasContinuation_append (by simp [StartsInLine]), hasContinuation_cons]
      simp [here, later]

end Shell

/-! ## Lines of quoted words -/

namespace Shell

theorem joinContinuations_cons (c : Char) (rest : List Char) :
    joinContinuations (c :: rest) = joinContinuation c (joinContinuations rest) := rfl

/-- A line break behind a backslash makes a space; `tail` is what follows the break. -/
theorem joinContinuation_cases (c : Char) (rest : List Char) :
    (c = '\\' ∧ ∃ tail, (rest = '\n' :: tail ∨ rest = '\r' :: '\n' :: tail) ∧
        joinContinuation c rest = ' ' :: tail) ∨
      ¬(c = '\\' ∧ StartsBreak rest) ∧ joinContinuation c rest = c :: rest := by
  unfold joinContinuation
  split
  · next tail => exact .inl ⟨rfl, tail, .inl rfl, rfl⟩
  · next tail => exact .inl ⟨rfl, tail, .inr rfl, rfl⟩
  · next feed carriage =>
      refine .inr ⟨?_, rfl⟩
      rintro ⟨rfl, ⟨tail, rfl⟩ | ⟨tail, rfl⟩⟩
      · exact feed tail rfl rfl
      · exact carriage tail rfl rfl

theorem joinContinuation_of_not {c : Char} {rest : List Char}
    (h : ¬(c = '\\' ∧ StartsBreak rest)) : joinContinuation c rest = c :: rest := by
  rcases joinContinuation_cases c rest with ⟨hc, tail, hrest | hrest, -⟩ | ⟨-, same⟩
  · exact absurd ⟨hc, by simp [hrest]⟩ h
  · exact absurd ⟨hc, by simp [hrest]⟩ h
  · exact same

theorem joinContinuations_cons_of_ne {c : Char} (h : c ≠ '\\') (rest : List Char) :
    joinContinuations (c :: rest) = c :: joinContinuations rest :=
  joinContinuation_of_not fun both => h both.1

/-! ## What joining leaves -/

theorem not_hasContinuation_joinContinuations (cs : List Char) :
    ¬HasContinuation (joinContinuations cs) := by
  induction cs with
  | nil => decide
  | cons c rest ih =>
      rw [joinContinuations_cons]
      generalize joinContinuations rest = joined at ih ⊢
      rcases joinContinuation_cases c joined with ⟨-, tail, hjoined, written⟩ | ⟨none, written⟩
      · have clean : ¬HasContinuation tail := by
          rcases hjoined with rfl | rfl
          · simpa [hasContinuation_cons] using ih
          · simpa [hasContinuation_cons] using ih
        rw [written, hasContinuation_cons]
        simpa using clean
      · rw [written, hasContinuation_cons]
        exact fun h => h.elim none ih

/-- Joining changes a text just if there is something to join. -/
theorem joinContinuations_eq_self_iff {cs : List Char} :
    joinContinuations cs = cs ↔ ¬HasContinuation cs := by
  constructor
  · intro same
    have clean := not_hasContinuation_joinContinuations cs
    rwa [same] at clean
  · exact joinContinuations_of_not

/-! ## Joining part by part -/

theorem startsInLine_joinContinuations {cs : List Char} (h : StartsInLine cs) :
    StartsInLine (joinContinuations cs) := by
  cases cs with
  | nil => exact h
  | cons c rest =>
      rw [joinContinuations_cons]
      rcases joinContinuation_cases c (joinContinuations rest) with
        ⟨-, tail, -, written⟩ | ⟨-, written⟩
      · rw [written]
        simp [StartsInLine]
      · rw [written]
        exact h

theorem joinContinuation_append {b : List Char} (inLine : StartsInLine b) (c : Char)
    (a : List Char) : joinContinuation c (a ++ b) = joinContinuation c a ++ b := by
  rcases joinContinuation_cases c a with ⟨rfl, tail, rfl | rfl, written⟩ | ⟨none, written⟩
  · rfl
  · rfl
  · have none' : ¬(c = '\\' ∧ StartsBreak (a ++ b)) := by rwa [startsBreak_append inLine]
    rw [written, joinContinuation_of_not none', List.cons_append]

theorem joinContinuations_append {b : List Char} (inLine : StartsInLine b) (a : List Char) :
    joinContinuations (a ++ b) = joinContinuations a ++ joinContinuations b := by
  induction a with
  | nil => rfl
  | cons c a ih =>
      rw [List.cons_append, joinContinuations_cons, joinContinuations_cons, ih,
        joinContinuation_append (startsInLine_joinContinuations inLine)]

/-- A quote inside is written with a backslash, but what follows it is no line break. -/
theorem joinContinuations_flatMap_quotedText (cs : List Char) :
    joinContinuations (cs.flatMap quotedText) = (joinContinuations cs).flatMap quotedText := by
  induction cs with
  | nil => rfl
  | cons c rest ih =>
      rw [List.flatMap_cons, joinContinuations_cons]
      generalize joinContinuations rest = joined at ih ⊢
      by_cases hc : c = '\''
      · subst hc
        have plain : joinContinuation '\'' joined = '\'' :: joined :=
          joinContinuation_of_not fun both => absurd both.1 (by decide)
        rw [plain, List.flatMap_cons, ← ih]
        rfl
      · have keep : quotedText c = [c] := if_neg hc
        rw [keep, List.singleton_append, joinContinuations_cons, ih]
        rcases joinContinuation_cases c joined with
          ⟨rfl, tail, rfl | rfl, written⟩ | ⟨none, written⟩
        · rfl
        · rfl
        · have quoted : StartsInLine ['\''] := by simp [StartsInLine]
          have none' : ¬(c = '\\' ∧ StartsBreak (joined.flatMap quotedText)) := by
            rintro ⟨hslash, starts⟩
            have starts' := (startsBreak_append quoted).2 starts
            exact none ⟨hslash, startsBreak_flatMap_quotedText starts'⟩
          rw [written, joinContinuation_of_not none', List.flatMap_cons, keep]
          rfl

def joined (text : String) : String :=
  String.ofList (joinContinuations text.toList)

theorem joinContinuations_quote (s : String) :
    joinContinuations (quote s).toList = (quote (joined s)).toList := by
  have last : StartsInLine ['\''] := by simp [StartsInLine]
  rw [toList_quote, toList_quote, joinContinuations_cons_of_ne (by decide),
    joinContinuations_append last,
    joinContinuations_flatMap_quotedText, joined, String.toList_ofList]
  rfl

/-- The words of a line that are quoted are joined one by one, since a quote begins each. -/
theorem joinContinuations_intercalate_quote (words : List String) :
    joinContinuations (List.intercalate [' '] (words.map fun w => (quote w).toList)) =
      List.intercalate [' '] (words.map fun w => (quote (joined w)).toList) := by
  match words with
  | [] => rfl
  | [w] => simpa using joinContinuations_quote w
  | w :: next :: rest =>
      have here := joinContinuations_quote w
      have later := joinContinuations_intercalate_quote (next :: rest)
      have line (spell : String → List Char) :
          List.intercalate [' '] ((w :: next :: rest).map spell) =
            spell w ++ ' ' :: List.intercalate [' '] ((next :: rest).map spell) := by
        simp [List.intercalate]
      rw [line, line, joinContinuations_append (by simp [StartsInLine]), here,
        joinContinuations_cons_of_ne (by decide), later]

/-! ## Reading a line of quoted words -/

theorem scanWords_intercalate_quote (words : List String) :
    scanWords (List.intercalate [' '] (words.map fun w => (quote w).toList)) =
      .ok (words.map String.toList) := by
  have gap : IsGap [] := fun c hc => absurd hc List.not_mem_nil
  have cut := scanWords_written gap (written_intercalate (fun w => (quote w).toList) words)
    (fun w _ => Scan.reads_quote w) gap
  rwa [List.nil_append, List.append_nil] at cut

/--
Quoted texts on one line, with spaces between them, are read as these texts with
their continuations joined: exactly as they were just if none of them has one.
-/
theorem tokenize_quoted (texts : List String) :
    tokenize (" ".intercalate (texts.map quote)) = .ok (texts.map joined) ∧
      (tokenize (" ".intercalate (texts.map quote)) = .ok texts ↔
        ∀ text ∈ texts, ¬HasContinuation text.toList) := by
  have line : (" ".intercalate (texts.map quote)).toList =
      List.intercalate [' '] (texts.map fun w => (quote w).toList) := by
    rw [String.toList_intercalate, List.map_map]
    rfl
  have read : tokenize (" ".intercalate (texts.map quote)) = .ok (texts.map joined) := by
    have cut := scanWords_intercalate_quote (texts.map joined)
    rw [List.map_map] at cut
    unfold tokenize
    rw [line, joinContinuations_intercalate_quote]
    simp only [Function.comp_def] at cut
    simp [cut, Function.comp_def]
  refine ⟨read, ?_⟩
  rw [read, Except.ok.injEq]
  have unchanged (text : String) : joined text = text ↔ ¬HasContinuation text.toList := by
    rw [← joinContinuations_eq_self_iff, ← String.toList_inj, joined, String.toList_ofList]
  calc
    texts.map joined = texts
        ↔ texts.map joined = texts.map id := by rw [List.map_id]
    _ ↔ ∀ text ∈ texts, joined text = text := List.map_inj_left
    _ ↔ ∀ text ∈ texts, ¬HasContinuation text.toList := by simp only [unchanged]

/-- Between single quotes a backslash and a line break are read as a space. -/
theorem tokenize_quoted_continuation :
    tokenize (" ".intercalate (["a\\\nb"].map quote)) = .ok ["a b"] ∧ "a b" ≠ "a\\\nb" := by
  exact ⟨rfl, by decide⟩

end Shell

end RequestScribe
