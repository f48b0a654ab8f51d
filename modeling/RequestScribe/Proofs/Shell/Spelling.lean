import RequestScribe.Shell.Words

/-!
# Spelled words

A word of a command line is spelled piece by piece: bare characters, escaped
characters and the three kinds of quoted strings.  A spelling has a text and a
value, and cutting a line of spelled words gives the values back.

A backslash directly before a line break continues the line, wherever it stands,
so a text is cut as it is just without one.  The scan reads a piece from any point
of a word to the same point further on: what it has collected grows by the value
of the piece, and nothing else changes.
-/

namespace RequestScribe

/-! ## Line continuations -/

namespace Shell

def StartsBreak (cs : List Char) : Prop :=
  ['\n'] <+: cs ∨ ['\r', '\n'] <+: cs

/-- Whether a backslash stands directly before a line break. -/
def HasContinuation (cs : List Char) : Prop :=
  ['\\', '\n'] <:+: cs ∨ ['\\', '\r', '\n'] <:+: cs

instance : DecidablePred StartsBreak := fun _ => inferInstanceAs (Decidable (_ ∨ _))

instance : DecidablePred HasContinuation := fun _ => inferInstanceAs (Decidable (_ ∨ _))

@[simp] theorem not_startsBreak_nil : ¬StartsBreak [] := by decide

@[simp] theorem not_hasContinuation_nil : ¬HasContinuation [] := by decide

@[simp] theorem startsBreak_cons (c : Char) (rest : List Char) :
    StartsBreak (c :: rest) ↔ c = '\n' ∨ c = '\r' ∧ ['\n'] <+: rest := by
  simp [StartsBreak, List.cons_prefix_cons, eq_comm]

theorem hasContinuation_cons (c : Char) (rest : List Char) :
    HasContinuation (c :: rest) ↔ c = '\\' ∧ StartsBreak rest ∨ HasContinuation rest := by
  simp only [HasContinuation, StartsBreak, List.infix_cons_iff, List.cons_prefix_cons]
  constructor
  · rintro ((⟨hc, h⟩ | h) | (⟨hc, h⟩ | h))
    · exact .inl ⟨hc.symm, .inl h⟩
    · exact .inr (.inl h)
    · exact .inl ⟨hc.symm, .inr h⟩
    · exact .inr (.inr h)
  · rintro (⟨hc, h | h⟩ | h | h)
    · exact .inl (.inl ⟨hc.symm, h⟩)
    · exact .inr (.inl ⟨hc.symm, h⟩)
    · exact .inl (.inr h)
    · exact .inr (.inr h)

theorem not_hasContinuation_of_not_mem {cs : List Char} (h : '\\' ∉ cs) :
    ¬HasContinuation cs := by
  rintro (part | part)
  · exact h (part.subset List.mem_cons_self)
  · exact h (part.subset List.mem_cons_self)

/-- No continuation arises from changing characters that have no part in one. -/
theorem HasContinuation.of_map {f : Char → Char} {cs : List Char}
    (keeps : ∀ c, f c = '\\' ∨ f c = '\n' ∨ f c = '\r' → f c = c)
    (h : HasContinuation (cs.map f)) : HasContinuation cs := by
  have back {part : List Char} (special : ∀ c ∈ part, c = '\\' ∨ c = '\n' ∨ c = '\r')
      (h : part <:+: cs.map f) : part <:+: cs := by
    obtain ⟨origin, within, rfl⟩ := List.infix_map_iff.1 h
    have same : origin.map f = origin.map id := List.map_congr_left fun c hc =>
      keeps c (special (f c) (List.mem_map_of_mem hc))
    rwa [same, List.map_id]
  exact h.imp (back (by simp)) (back (by simp))

/-- Joining continuations changes nothing where there is none. -/
theorem joinContinuations_of_not {cs : List Char} (h : ¬HasContinuation cs) :
    joinContinuations cs = cs := by
  induction cs with
  | nil => rfl
  | cons c rest ih =>
      rw [hasContinuation_cons, not_or] at h
      have tail : joinContinuations rest = rest := ih h.2
      have head : joinContinuation c rest = c :: rest := by
        unfold joinContinuation
        split
        · exact absurd ⟨rfl, by simp⟩ h.1
        · exact absurd ⟨rfl, by simp⟩ h.1
        · rfl
      calc
        joinContinuations (c :: rest) = joinContinuation c (joinContinuations rest) := rfl
        _ = c :: rest := by rw [tail, head]

def StartsInLine (cs : List Char) : Prop :=
  ∀ c ∈ cs.head?, c ≠ '\n' ∧ c ≠ '\r'

theorem startsBreak_append {a b : List Char} (h : StartsInLine b) :
    StartsBreak (a ++ b) ↔ StartsBreak a := by
  match a, b with
  | [], [] => simp
  | [], c :: b => simp [h c rfl]
  | [c], [] => simp
  | [c], d :: b => simp [(h d rfl).1.symm]
  | c :: d :: a, b => simp [List.cons_prefix_cons]

/-- No continuation arises where two texts meet, if the second begins within a line. -/
theorem hasContinuation_append {a b : List Char} (h : StartsInLine b) :
    HasContinuation (a ++ b) ↔ HasContinuation a ∨ HasContinuation b := by
  induction a with
  | nil => simp
  | cons c a ih =>
      rw [List.cons_append, hasContinuation_cons, hasContinuation_cons, ih,
        startsBreak_append h, or_assoc]

/-- A separator keeps two texts apart, if it is neither a backslash nor part of a line break. -/
theorem not_hasContinuation_separated {a b : List Char} {c : Char}
    (separator : c ≠ '\\' ∧ c ≠ '\n' ∧ c ≠ '\r') (ha : ¬HasContinuation a)
    (hb : ¬HasContinuation b) : ¬HasContinuation (a ++ c :: b) := by
  have within : StartsInLine (c :: b) := by
    intro d hd
    obtain rfl : c = d := by simpa using hd
    exact separator.2
  rw [hasContinuation_append within, hasContinuation_cons]
  simp [separator.1, ha, hb]

end Shell

/-! ## Spellings -/

namespace Shell

def IsBare (c : Char) : Prop :=
  Chars.isBlank c = false ∧ c ≠ '\\' ∧ c ≠ '\'' ∧ c ≠ '"' ∧ c ≠ '$'

instance : DecidablePred IsBare := fun _ => inferInstanceAs (Decidable (_ ∧ _))

inductive AnsiElement where
  | plain (c : Char) (plain : c ≠ '\\' ∧ c ≠ '\'')
  | backslash
  | quote
  | lineFeed
  | tab
  | carriageReturn
  deriving DecidableEq, Repr

namespace AnsiElement

def text : AnsiElement → List Char
  | .plain c _ => [c]
  | .backslash => ['\\', '\\']
  | .quote => ['\\', '\'']
  | .lineFeed => ['\\', 'n']
  | .tab => ['\\', 't']
  | .carriageReturn => ['\\', 'r']

def value : AnsiElement → Char
  | .plain c _ => c
  | .backslash => '\\'
  | .quote => '\''
  | .lineFeed => '\n'
  | .tab => '\t'
  | .carriageReturn => '\r'

end AnsiElement

/-- A character between double quotes: four of them need a backslash. -/
def doubleText (c : Char) : List Char :=
  if c = '"' ∨ c = '\\' ∨ c = '$' ∨ c = '\x60' then ['\\', c] else [c]

inductive Piece where
  | bare (c : Char) (bare : IsBare c)
  /-- A backslash and any character. -/
  | escaped (c : Char)
  | single (content : List Char) (unquoted : '\'' ∉ content)
  | double (content : List Char)
  /-- A string that opens with a dollar sign and a quote. -/
  | ansi (elements : List AnsiElement)
  deriving DecidableEq, Repr

namespace Piece

def text : Piece → List Char
  | .bare c _ => [c]
  | .escaped c => ['\\', c]
  | .single content _ => '\'' :: content ++ ['\'']
  | .double content => '"' :: content.flatMap doubleText ++ ['"']
  | .ansi elements => '$' :: '\'' :: elements.flatMap AnsiElement.text ++ ['\'']

def value : Piece → List Char
  | .bare c _ => [c]
  | .escaped c => [c]
  | .single content _ => content
  | .double content => content
  | .ansi elements => elements.map AnsiElement.value

end Piece

/-- A spelled word: pieces without anything between them. -/
structure Word where
  pieces : List Piece
  nonempty : pieces ≠ []
  deriving DecidableEq, Repr

namespace Word

def text (w : Word) : List Char :=
  w.pieces.flatMap Piece.text

def value (w : Word) : List Char :=
  w.pieces.flatMap Piece.value

end Word

def IsGap (cs : List Char) : Prop :=
  ∀ c ∈ cs, Chars.isBlank c = true

instance : DecidablePred IsGap := fun cs => List.decidableBAll _ cs

/-- A line of words in order, each spelled in some way, any two of them with blanks in between. -/
inductive Written {α : Type} (spell : α → List Char) : List α → List Char → Prop where
  | none : Written spell [] []
  | one (w : α) : Written spell [w] (spell w)
  | more (w : α) {gap : List Char} {next : α} {rest : List α} {line : List Char} :
      IsGap gap → gap ≠ [] → Written spell (next :: rest) line →
        Written spell (w :: next :: rest) (spell w ++ gap ++ line)

theorem written_intercalate {α : Type} (spell : α → List Char) (words : List α) :
    Written spell words (List.intercalate [' '] (words.map spell)) := by
  match words with
  | [] => exact .none
  | [w] => simpa using (Written.one w : Written spell [w] (spell w))
  | w :: next :: rest =>
      have space : IsGap [' '] := by decide
      have line := Written.more w space (List.cons_ne_nil ' ' [])
        (written_intercalate spell (next :: rest))
      simpa [List.intercalate] using line

namespace Scan

/--
If every element is read by extending the word, a list of elements is.  The
state is that of the quotes around the elements, and it is the same before and
after each of them.
-/
theorem run_flatMap {α : Type} (state : State) (text value : α → List Char) (xs : List α)
    (one : ∀ x ∈ xs, ∀ done word rest, run ⟨state, done, word, true⟩ (text x ++ rest) =
      run ⟨state, done, (value x).reverse ++ word, true⟩ rest)
    (done : List (List Char)) (word rest : List Char) :
    run ⟨state, done, word, true⟩ (xs.flatMap text ++ rest) =
      run ⟨state, done, (xs.flatMap value).reverse ++ word, true⟩ rest := by
  induction xs generalizing word with
  | nil => rfl
  | cons x xs ih =>
      have tail := ih (fun y hy => one y (List.mem_cons_of_mem x hy))
      rw [List.flatMap_cons, List.append_assoc, one x List.mem_cons_self, tail]
      simp only [List.flatMap_cons, List.reverse_append, List.append_assoc]

theorem run_single (content : List Char) (unquoted : '\'' ∉ content)
    (done : List (List Char)) (word rest : List Char) :
    run ⟨.single, done, word, true⟩ (content ++ rest) =
      run ⟨.single, done, content.reverse ++ word, true⟩ rest := by
  have h := run_flatMap .single (fun c => [c]) (fun c => [c]) content
    (fun c hc done word rest => by
      have hne : c ≠ '\'' := fun h => unquoted (h ▸ hc)
      simp [run, feed, steps, step, record, push, hne]) done word rest
  simpa using h

theorem run_double (content : List Char) (done : List (List Char)) (word rest : List Char) :
    run ⟨.double, done, word, true⟩ (content.flatMap doubleText ++ rest) =
      run ⟨.double, done, content.reverse ++ word, true⟩ rest := by
  have h := run_flatMap .double doubleText (fun c => [c]) content
    (fun c _ done word rest => by
      unfold doubleText
      split
      · next special => simp [run, feed, steps, step, record, push, special]
      · next ordinary =>
          simp only [not_or] at ordinary
          simp [run, feed, steps, step, record, push, ordinary]) done word rest
  simpa using h

theorem run_ansi (elements : List AnsiElement) (done : List (List Char))
    (word rest : List Char) :
    run ⟨.ansi, done, word, true⟩ (elements.flatMap AnsiElement.text ++ rest) =
      run ⟨.ansi, done, (elements.map AnsiElement.value).reverse ++ word, true⟩ rest := by
  have h := run_flatMap .ansi AnsiElement.text (fun e => [e.value]) elements
    (fun e _ done word rest => by
      cases e with
      | plain c plain =>
          simp [AnsiElement.text, AnsiElement.value, run, feed, steps, step, record, push, plain]
      | _ => rfl) done word rest
  simpa only [List.map_eq_flatMap] using h

/-- A piece extends the word, which exists from then on. -/
theorem run_piece (p : Piece) (started : Bool) (done : List (List Char))
    (word rest : List Char) :
    run ⟨.unquoted, done, word, started⟩ (p.text ++ rest) =
      run ⟨.unquoted, done, p.value.reverse ++ word, true⟩ rest := by
  cases p with
  | bare c bare =>
      obtain ⟨hblank, hslash, hsingle, hdouble, hdollar⟩ := bare
      simp [Piece.text, Piece.value, run, feed, steps, step, record, push, hblank, hslash,
        hsingle, hdouble, hdollar]
  | escaped c => rfl
  | single content unquoted =>
      have opened : run ⟨.unquoted, done, word, started⟩
          ('\'' :: (content ++ '\'' :: rest)) =
          run ⟨.single, done, word, true⟩ (content ++ '\'' :: rest) := rfl
      simp only [Piece.text, Piece.value, List.cons_append, List.append_assoc, List.nil_append]
      rw [opened, run_single content unquoted]
      rfl
  | double content =>
      have opened : run ⟨.unquoted, done, word, started⟩
          ('"' :: (content.flatMap doubleText ++ '"' :: rest)) =
          run ⟨.double, done, word, true⟩ (content.flatMap doubleText ++ '"' :: rest) := rfl
      simp only [Piece.text, Piece.value, List.cons_append, List.append_assoc, List.nil_append]
      rw [opened, run_double content]
      rfl
  | ansi elements =>
      have opened : run ⟨.unquoted, done, word, started⟩
          ('$' :: '\'' :: (elements.flatMap AnsiElement.text ++ '\'' :: rest)) =
          run ⟨.ansi, done, word, true⟩ (elements.flatMap AnsiElement.text ++ '\'' :: rest) := rfl
      simp only [Piece.text, Piece.value, List.cons_append, List.append_assoc, List.nil_append]
      rw [opened, run_ansi elements]
      rfl

/-- Whether a text is read as one word, from any point where none is under construction. -/
def Reads (text value : List Char) : Prop :=
  ∀ (done : List (List Char)) (rest : List Char),
    run ⟨.unquoted, done, [], false⟩ (text ++ rest) =
      run ⟨.unquoted, done, value.reverse, true⟩ rest

theorem reads_word (w : Word) : Reads w.text w.value := by
  intro done rest
  obtain ⟨pieces, nonempty⟩ := w
  cases pieces with
  | nil => exact absurd rfl nonempty
  | cons p ps =>
      have tail := run_flatMap .unquoted Piece.text Piece.value ps (fun p _ => run_piece p true)
      simp only [Word.text, Word.value, List.flatMap_cons, List.append_assoc]
      rw [run_piece p false, tail]
      simp

/-- A blank outside quotes ends the word under construction. -/
theorem feed_blank {c : Char} (blank : Chars.isBlank c = true) (done : List (List Char))
    (word : List Char) (started : Bool) (next : Option Char) :
    feed ⟨.unquoted, done, word, started⟩ c next =
      split ⟨.unquoted, done, word, started⟩ := by
  have hslash : c ≠ '\\' := by rintro rfl; exact absurd blank (by decide)
  have hsingle : c ≠ '\'' := by rintro rfl; exact absurd blank (by decide)
  have hdouble : c ≠ '"' := by rintro rfl; exact absurd blank (by decide)
  have hdollar : c ≠ '$' := by rintro rfl; exact absurd blank (by decide)
  simp [feed, steps, step, record, blank, hslash, hsingle, hdouble, hdollar]

/-- Blanks between words are passed over. -/
theorem run_gap {gap : List Char} (blank : IsGap gap) (done : List (List Char))
    (rest : List Char) :
    run ⟨.unquoted, done, [], false⟩ (gap ++ rest) = run ⟨.unquoted, done, [], false⟩ rest := by
  induction gap with
  | nil => rfl
  | cons c gap ih =>
      have tail := ih (fun d hd => blank d (List.mem_cons_of_mem c hd))
      rw [List.cons_append, run, feed_blank (blank c List.mem_cons_self)]
      exact tail

/-- The first blank after a word ends it. -/
theorem run_gap_after_word {gap : List Char} (blank : IsGap gap) (nonempty : gap ≠ [])
    (done : List (List Char)) (word rest : List Char) :
    run ⟨.unquoted, done, word, true⟩ (gap ++ rest) =
      run ⟨.unquoted, word.reverse :: done, [], false⟩ rest := by
  cases gap with
  | nil => exact absurd rfl nonempty
  | cons c gap =>
      have tail := run_gap (fun d hd => blank d (List.mem_cons_of_mem c hd))
        (word.reverse :: done) rest
      rw [List.cons_append, run, feed_blank (blank c List.mem_cons_self)]
      exact tail

/-- At the end of the text a word with or without blanks after it is the last one. -/
theorem finish_run_gap {gap : List Char} (blank : IsGap gap) (done : List (List Char))
    (word : List Char) :
    finish (run ⟨.unquoted, done, word, true⟩ gap) = .ok (done.reverse ++ [word.reverse]) := by
  cases gap with
  | nil => simp [run, finish, split]
  | cons c gap =>
      have h := run_gap_after_word blank (List.cons_ne_nil c gap) done word []
      rw [List.append_nil] at h
      rw [h]
      simp [run, finish, split]

/-- The words that are left to read come after those already done. -/
theorem finish_run_written {α : Type} {spell value : α → List Char} {words : List α}
    {line : List Char} (written : Written spell words line)
    (reads : ∀ w ∈ words, Reads (spell w) (value w)) {trail : List Char} (blank : IsGap trail)
    (done : List (List Char)) :
    finish (run ⟨.unquoted, done, [], false⟩ (line ++ trail)) =
      .ok (done.reverse ++ words.map value) := by
  induction written generalizing done with
  | none =>
      have h := run_gap blank done []
      rw [List.append_nil] at h
      rw [List.nil_append, h]
      simp [run, finish, split]
  | one w =>
      have first := reads w List.mem_cons_self
      rw [first, finish_run_gap blank]
      simp
  | more w hgap hne _ ih =>
      have first := reads w List.mem_cons_self
      have later := ih (fun v hv => reads v (List.mem_cons_of_mem w hv))
      rw [List.append_assoc, List.append_assoc, first, run_gap_after_word hgap hne, later]
      simp

end Scan

/-- Cutting a line of words, with or without blanks around them, gives what they are read as. -/
theorem scanWords_written {α : Type} {spell value : α → List Char} {words : List α}
    {lead line trail : List Char} (hlead : IsGap lead) (written : Written spell words line)
    (reads : ∀ w ∈ words, Scan.Reads (spell w) (value w)) (htrail : IsGap trail) :
    scanWords (lead ++ line ++ trail) = .ok (words.map value) := by
  unfold scanWords
  rw [List.append_assoc]
  have start := Scan.run_gap hlead [] (line ++ trail)
  exact (congrArg Scan.finish start).trans (Scan.finish_run_written written reads htrail [])

theorem tokenize_eq_ok_iff {text : String} {words : List String} :
    tokenize text = .ok words ↔
      scanWords (joinContinuations text.toList) = .ok (words.map String.toList) := by
  have same (read : List (List Char)) : read.map String.ofList = words ↔
      read = words.map String.toList := by
    constructor
    · rintro rfl
      simp [Function.comp_def]
    · rintro rfl
      simp [Function.comp_def]
  unfold tokenize
  cases scanWords (joinContinuations text.toList) with
  | ok read => simp [same]
  | error quote => simp

/--
A text without continuations that spells words, with or without blanks around
them, is cut into just these words.
-/
theorem tokenize_written {words : List Word} {lead line trail : List Char}
    (hlead : IsGap lead) (written : Written Word.text words line) (htrail : IsGap trail)
    (joined : ¬HasContinuation (lead ++ line ++ trail)) :
    tokenize (String.ofList (lead ++ line ++ trail)) =
      .ok (words.map fun w => String.ofList w.value) := by
  have cut := scanWords_written hlead written (fun w _ => Scan.reads_word w) htrail
  unfold tokenize
  rw [String.toList_ofList, joinContinuations_of_not joined, cut]
  simp [List.map_map, Function.comp_def]

/-- All kinds of pieces side by side, a word of empty strings, and line breaks as blanks. -/
theorem tokenize_written_mixed :
    let mixed : Word :=
      ⟨[.bare 'a' (by decide), .escaped '$', .single ['$', '\\'] (by decide),
        .double ['"', '\x60', ' '], .ansi [.quote, .plain '$' (by decide), .lineFeed]],
        by decide⟩
    let empty : Word := ⟨[.single [] (by decide), .double [], .ansi []], by decide⟩
    let line := mixed.text ++ ['\n', '\t'] ++ empty.text
    IsGap [' '] ∧ Written Word.text [mixed, empty] line ∧ IsGap ['\r', '\n'] ∧
      ¬HasContinuation ([' '] ++ line ++ ['\r', '\n']) ∧
      tokenize (String.ofList ([' '] ++ line ++ ['\r', '\n'])) =
        .ok ["a$$\\\"\x60 '$\n", ""] := by
  intro mixed empty line
  have hlead : IsGap [' '] := by decide
  have htrail : IsGap ['\r', '\n'] := by decide
  have between : IsGap ['\n', '\t'] := by decide
  have written : Written Word.text [mixed, empty] line :=
    .more mixed between (List.cons_ne_nil _ _) (.one empty)
  have joined : ¬HasContinuation ([' '] ++ line ++ ['\r', '\n']) := by decide
  exact ⟨hlead, written, htrail, joined, tokenize_written hlead written htrail joined⟩

end Shell

end RequestScribe
