import RequestScribe.Proofs.Code.MaskedText

/-!
# What steps mention

A line is read in parts.  Each part adds its lexemes wherever it stands, as long
as something between two parts keeps the words at their ends apart.  A question
picks names out of a line.  Which names of interest the steps of a program give in
answer to it is put together from what its parts give, and for one line it is found
by evaluating the mask of the line.
-/

namespace RequestScribe

open Lexis

/-! ## What a line of a mask reads as -/

def Glyph.lexemes : Glyph → List Lexeme
  | .char c => if Chars.isBlank c then [] else [.mark c]
  | .word _ => []
  | .literal => [.literal]

namespace Mask

open Reading

variable {l : Lexis} {s : Reading} {a b m : Mask} {xs ys : List Lexeme}

/-- A part of a line that adds some lexemes. -/
def Adds (m : Mask) (xs : List Lexeme) : Prop :=
  ∀ s : Reading, s.word = [] → (s.run m).endWord = { s with line := xs.reverse ++ s.line }

def parts (g : Glyph) : Bool :=
  !g.isLetter && g != .char '\n'

namespace Adds

theorem endWord_of_nil (none : s.word = []) : s.endWord = s := by
  simp [Reading.endWord, none]

theorem nil : Adds [] [] :=
  fun _ outside => endWord_of_nil outside

theorem letters (some : m ≠ []) (letters : ∀ g ∈ m, g.isLetter = true) :
    Adds m [.name (spelled m.reverse)] := by
  have collects : ∀ (m : Mask) (s : Reading), (∀ g ∈ m, g.isLetter = true) →
      s.run m = { s with word := m.reverse ++ s.word } := by
    intro m
    induction m with
    | nil => exact fun _ _ => rfl
    | cons g rest ih =>
        intro s letters
        obtain ⟨here, later⟩ := List.forall_mem_cons.1 letters
        refine (ih (s.step g) later).trans ?_
        rw [step_letter here]
        simp
  intro s outside
  obtain ⟨g, rest, last⟩ := List.exists_cons_of_ne_nil (List.reverse_ne_nil_iff.2 some)
  rw [collects m s letters, outside, List.append_nil, last]
  obtain ⟨word, line, done⟩ := s
  obtain rfl : word = [] := outside
  rfl

theorem word (text : String) : Adds [.word text] [.name text] :=
  letters (List.cons_ne_nil _ _) (by simp [Glyph.isLetter])

theorem chars {cs : List Char} (some : cs ≠ []) (letters : cs.all isNameCharacter = true) :
    Adds (cs.map Glyph.char) [.name (String.ofList cs)] := by
  have read := Adds.letters (m := cs.map Glyph.char) (by simpa using some)
    (List.forall_mem_map.2 (List.all_eq_true.1 letters))
  rwa [spelled_chars] at read

theorem step_parts {g : Glyph} (between : parts g = true) :
    s.step g = { s.endWord with line := g.lexemes.reverse ++ s.endWord.line } := by
  simp only [parts, Bool.and_eq_true, Bool.not_eq_true', bne_iff_ne] at between
  cases g with
  | word text => exact Bool.noConfusion between.1
  | literal => rfl
  | char c =>
      have solid : isNameCharacter c = false := between.1
      have feed : c ≠ '\n' := fun same => between.2 (by rw [same])
      simp only [Reading.step, Reading.plain, solid, feed, Bool.false_eq_true, if_false,
        Glyph.lexemes]
      split
      · rfl
      · rfl

theorem around (ha : Adds a xs) {g : Glyph} (between : parts g = true) (hb : Adds b ys) :
    Adds (a ++ g :: b) (xs ++ g.lexemes ++ ys) := by
  intro s outside
  have first : (s.run a).step g =
      { s with line := (xs ++ g.lexemes).reverse ++ s.line } := by
    rw [step_parts between, ha s outside]
    simp
  have whole : s.run (a ++ g :: b) = ((s.run a).step g).run b := by simp [Reading.run]
  rw [whole, first, hb { s with line := (xs ++ g.lexemes).reverse ++ s.line } outside]
  simp

theorem mark {c : Char} (solid : isMark c = true) (ha : Adds a xs) (hb : Adds b ys) :
    Adds (a ++ Glyph.char c :: b) (xs ++ Lexeme.mark c :: ys) := by
  simp only [isMark, Bool.and_eq_true, Bool.not_eq_true'] at solid
  have feed : c ≠ '\n' := by
    rintro rfl
    exact absurd solid.2 (by decide)
  have both := ha.around (g := .char c) (by simp [parts, Glyph.isLetter, solid, feed]) hb
  simpa [Glyph.lexemes, solid] using both

theorem space (ha : Adds a xs) (hb : Adds b ys) : Adds (a ++ Glyph.char ' ' :: b) (xs ++ ys) := by
  have blank : Chars.isBlank ' ' = true := by decide
  have both := ha.around (g := .char ' ') (by decide) hb
  simpa [Glyph.lexemes, blank] using both

/-- A part opens nothing if no mark in it does. -/
theorem isPlain (h : Adds m xs) (opens : ∀ c, .mark c ∈ xs → Mask.isPlain l c = true) :
    m.IsPlain l := by
  intro c mem mark
  have read : Has (run {} m).endWord (.mark c) := (has_mark mem mark).endWord
  rw [h {} rfl] at read
  exact opens c (by simpa [Has] using read)

theorem lines_eq (h : Adds m xs) (some : xs ≠ []) : m.lines = [xs] := by
  obtain ⟨x, rest, last⟩ := List.exists_cons_of_ne_nil (List.reverse_ne_nil_iff.2 some)
  have read := h {} rfl
  rw [lines_eq_done, read]
  simp only [Reading.endLine, last, List.append_nil]
  rw [← last]
  simp

end Adds

end Mask

/-! ## Questions -/

def Lexeme.isPlain (l : Lexis) : Lexeme → Bool
  | .mark c => Mask.isPlain l c
  | _ => true

/-- What the lines of a mask answer to a question, unless a mark opens something. -/
def Mask.answers {β : Type} (l : Lexis) (question : List Lexeme → List β) (m : Mask) :
    Option (List β) :=
  if m.lines.all fun line => line.all (Lexeme.isPlain l) then some (m.lines.flatMap question)
  else none

theorem Mask.of_answers {β : Type} {l : Lexis} {question : List Lexeme → List β} {m : Mask}
    {names : List β} (answers : m.answers l question = some names) :
    m.IsPlain l ∧ m.lines.flatMap question = names := by
  unfold Mask.answers at answers
  split at answers
  · next opens =>
      refine ⟨Mask.isPlain_of_lines fun line mem c inside => ?_, Option.some.inj answers⟩
      exact List.all_eq_true.1 (List.all_eq_true.1 opens line mem) (.mark c) inside
  · cases answers

namespace Step

variable {α β : Type} {l : Lexis} {question : List Lexeme → List β} {name : α → β}
  {a b : List Step} {P Q : α → Prop}

/-- Which of the names of interest steps give in answer to a question. -/
def Mentions (l : Lexis) (question : List Lexeme → List β) (name : α → β)
    (steps : List Step) (P : α → Prop) : Prop :=
  ∃ added, Reads l steps added ∧ ∀ x, name x ∈ added.flatMap question ↔ P x

namespace Mentions

theorem layOut {unit : String} (mentions : Mentions l question name a P)
    (blank : Writer.IsBlankUnit unit) (x : α) :
    name x ∈ (l.lines (Step.layOut unit a).toList).flatMap question ↔ P x := by
  obtain ⟨added, reads, answers⟩ := mentions
  rw [reads.layOut blank]
  exact answers x

theorem iff (mentions : Mentions l question name a P) (same : ∀ x, P x ↔ Q x) :
    Mentions l question name a Q := by
  obtain ⟨added, reads, answers⟩ := mentions
  exact ⟨added, reads, fun x => (answers x).trans (same x)⟩

theorem congr (same : ∀ w : Writer, w.runAll a = w.runAll b)
    (mentions : Mentions l question name b P) : Mentions l question name a P := by
  obtain ⟨added, reads, answers⟩ := mentions
  exact ⟨added, reads.congr same, answers⟩

theorem silent (reads : Reads l a []) : Mentions l question name a fun _ => False :=
  ⟨[], reads, fun _ => by simp⟩

theorem not_of_nil (mentions : Mentions l question name [] P) (x : α) : ¬P x := by
  obtain ⟨added, reads, answers⟩ := mentions
  have unit : Writer.IsBlankUnit "" := by simp [Writer.IsBlankUnit]
  obtain ⟨-, -, done⟩ := reads { unit := "" } unit Reader.isClear_initial
  have none : added = [] := by simpa [Writer.runAll, Writer.reader, Reader.run] using done
  rw [← answers x, none]
  simp

theorem nil : Mentions l question name [] fun _ => False :=
  silent .nil

theorem blank : Mentions l question name [.blank] fun _ => False :=
  silent .blank

theorem append (first : Mentions l question name a P) (second : Mentions l question name b Q) :
    Mentions l question name (a ++ b) fun x => P x ∨ Q x := by
  obtain ⟨added, reads, answers⟩ := first
  obtain ⟨added', reads', answers'⟩ := second
  refine ⟨added ++ added', reads.append reads', fun x => ?_⟩
  rw [List.flatMap_append, List.mem_append, answers, answers']

theorem cons {step : Step} (first : Mentions l question name [step] P)
    (second : Mentions l question name b Q) :
    Mentions l question name (step :: b) fun x => P x ∨ Q x :=
  first.append second

theorem scope {opening : Code} {body : List Step}
    (head : Mentions l question name [.line opening] P)
    (inner : Mentions l question name body Q) :
    Mentions l question name [.scope opening body] fun x => P x ∨ Q x := by
  obtain ⟨added, reads, answers⟩ := head
  obtain ⟨added', reads', answers'⟩ := inner
  refine ⟨added ++ added', reads.scope reads', fun x => ?_⟩
  rw [List.flatMap_append, List.mem_append, answers, answers']

theorem block {opening closing : Code} {body : List Step} {R : α → Prop}
    (head : Mentions l question name [.line opening] P)
    (inner : Mentions l question name body Q) (foot : Mentions l question name [.line closing] R) :
    Mentions l question name [.block opening closing body] fun x => P x ∨ Q x ∨ R x := by
  obtain ⟨added, reads, answers⟩ := head
  obtain ⟨added', reads', answers'⟩ := inner
  obtain ⟨added'', reads'', answers''⟩ := foot
  refine ⟨added ++ added' ++ added'', reads.block reads' reads'', fun x => ?_⟩
  rw [List.flatMap_append, List.flatMap_append, List.mem_append, List.mem_append, answers,
    answers', answers'', or_assoc]

theorem when (condition : Bool) (mentions : Mentions l question name a P) :
    Mentions l question name (Step.when condition a) fun x => condition = true ∧ P x := by
  cases condition with
  | false => exact nil.iff fun x => by simp
  | true => exact mentions.iff fun x => by simp

theorem flatMap {ι : Type} {items : List ι} {steps : ι → List Step} {P : ι → α → Prop}
    (each : ∀ item ∈ items, Mentions l question name (steps item) (P item)) :
    Mentions l question name (items.flatMap steps) fun x => ∃ item ∈ items, P item x := by
  induction items with
  | nil => exact nil.iff fun x => by simp
  | cons item rest ih =>
      obtain ⟨here, later⟩ := List.forall_mem_cons.1 each
      rw [List.flatMap_cons]
      exact (here.append (ih later)).iff fun x => by simp

theorem map {ι : Type} {items : List ι} {step : ι → Step} {P : ι → α → Prop}
    (each : ∀ item ∈ items, Mentions l question name [step item] (P item)) :
    Mentions l question name (items.map step) fun x => ∃ item ∈ items, P item x := by
  rw [List.map_eq_flatMap]
  exact flatMap each

/-! ## Texts by their masks -/

theorem ofLine {c : Code} {m : Mask} (mask : c.HasMask l m) (opens : m.IsPlain l) :
    Mentions l question name [.line c] fun x => name x ∈ m.lines.flatMap question := by
  have reads := Reads.line (Mask.closes mask opens)
  rw [Mask.lines_eq mask opens] at reads
  exact ⟨_, reads, fun x => Iff.rfl⟩

theorem ofLines {c : Code} {m : Mask} (mask : c.HasMask l m) (opens : m.IsPlain l) :
    Mentions l question name [.lines c] fun x => name x ∈ m.lines.flatMap question := by
  have reads := Reads.lines (Mask.closes mask opens)
  rw [Mask.lines_eq mask opens] at reads
  exact ⟨_, reads, fun x => Iff.rfl⟩

/-- A line of which the mask can be read. -/
theorem reads_of_mask {c : Code} {m : Mask} {added : List (List Lexeme)} (mask : c.HasMask l m)
    (answers : m.answers l (fun line => [line]) = some added) : Reads l [.line c] added := by
  obtain ⟨opens, rfl⟩ := Mask.of_answers answers
  have reads := Reads.line (Mask.closes mask opens)
  rw [Mask.lines_eq mask opens] at reads
  simpa using reads

theorem line {c : Code} {m : Mask} {names : List β} (mask : c.HasMask l m)
    (answers : m.answers l question = some names) :
    Mentions l question name [.line c] fun x => name x ∈ names := by
  obtain ⟨opens, rfl⟩ := Mask.of_answers answers
  exact ofLine mask opens

theorem lines {c : Code} {m : Mask} {names : List β} (mask : c.HasMask l m)
    (answers : m.answers l question = some names) :
    Mentions l question name [.lines c] fun x => name x ∈ names := by
  obtain ⟨opens, rfl⟩ := Mask.of_answers answers
  exact ofLines mask opens

/-- A text with a known beginning and a rest that does not matter. -/
theorem linesAfter {c : Code} {p m : Mask} {names : List β} (mask : c.HasMask l (p ++ m))
    (answers : p.answers l question = some names) (silent : question [] = [])
    (ended : (Mask.Reading.run {} p).word = [])
    (splits : Mask.Splits question (Mask.Reading.run {} p).line.reverse) (opens : m.IsPlain l)
    (quiet : ∀ x, name x ∉ m.lines.flatMap question) :
    Mentions l question name [.lines c] fun x => name x ∈ names := by
  obtain ⟨first, rfl⟩ := Mask.of_answers answers
  have whole : (p ++ m).IsPlain l := fun c mem =>
    (List.mem_append.1 mem).elim (first c) (opens c)
  refine (ofLines mask whole).iff fun x => ?_
  rw [Mask.mem_answers_append silent ended splits]
  simp only [quiet x, or_false]

theorem text {cs : List Char} {names : List β}
    (answers : Mask.answers l question (cs.map Glyph.char) = some names) :
    Mentions l question name [.line (Code.plain (String.ofList cs))] fun x => name x ∈ names :=
  line (Code.hasMask_text cs) answers

end Mentions

/-! ## At most some names -/

def MentionsOnly (l : Lexis) (question : List Lexeme → List β) (name : α → β)
    (steps : List Step) (P : α → Prop) : Prop :=
  ∃ Q, Mentions l question name steps Q ∧ ∀ x, Q x → P x

theorem Mentions.only (mentions : Mentions l question name a Q) (within : ∀ x, Q x → P x) :
    MentionsOnly l question name a P :=
  ⟨Q, mentions, within⟩

namespace MentionsOnly

theorem of_silent (mentions : Mentions l question name a fun _ => False) :
    MentionsOnly l question name a P :=
  mentions.only fun _ => False.elim

theorem congr (same : ∀ w : Writer, w.runAll a = w.runAll b)
    (mentions : MentionsOnly l question name b P) : MentionsOnly l question name a P := by
  obtain ⟨Q, mentions, within⟩ := mentions
  exact (mentions.congr same).only within

theorem append (first : MentionsOnly l question name a P)
    (second : MentionsOnly l question name b P) : MentionsOnly l question name (a ++ b) P := by
  obtain ⟨Q, mentions, within⟩ := first
  obtain ⟨R, mentions', within'⟩ := second
  exact (mentions.append mentions').only fun x => Or.rec (within x) (within' x)

theorem cons {step : Step} (first : MentionsOnly l question name [step] P)
    (second : MentionsOnly l question name b P) : MentionsOnly l question name (step :: b) P :=
  first.append second

theorem block {opening closing : Code} {body : List Step}
    (head : MentionsOnly l question name [.line opening] P)
    (inner : MentionsOnly l question name body P)
    (foot : MentionsOnly l question name [.line closing] P) :
    MentionsOnly l question name [.block opening closing body] P := by
  obtain ⟨Q, mentions, within⟩ := head
  obtain ⟨R, mentions', within'⟩ := inner
  obtain ⟨S, mentions'', within''⟩ := foot
  exact (mentions.block mentions' mentions'').only fun x =>
    Or.rec (within x) (Or.rec (within' x) (within'' x))

theorem when (condition : Bool)
    (mentions : condition = true → MentionsOnly l question name a P) :
    MentionsOnly l question name (Step.when condition a) P := by
  cases condition with
  | false => exact of_silent .nil
  | true => exact mentions rfl

theorem of_each {steps : List Step}
    (each : ∀ step ∈ steps, MentionsOnly l question name [step] P) :
    MentionsOnly l question name steps P := by
  induction steps with
  | nil => exact of_silent .nil
  | cons step rest ih =>
      obtain ⟨here, later⟩ := List.forall_mem_cons.1 each
      exact here.cons (ih later)

theorem map {ι : Type} {items : List ι} {step : ι → Step}
    (each : ∀ item ∈ items, MentionsOnly l question name [step item] P) :
    MentionsOnly l question name (items.map step) P :=
  of_each (List.forall_mem_map.2 each)

end MentionsOnly

end Step

/-! ## Texts of several lines -/

namespace Lexis

open Step

variable {α β : Type} {l : Lexis} {question : List Lexeme → List β} {name : α → β}
  {a b : List Char} {P Q : α → Prop}

/-- A text that gives some of the names of interest in answer to a question. -/
structure Tells (l : Lexis) (question : List Lexeme → List β) (name : α → β) (text : List Char)
    (P : α → Prop) : Prop where
  closes : l.Closes text
  answers : ∀ x, name x ∈ (l.lines text).flatMap question ↔ P x

namespace Tells

theorem iff (tells : Tells l question name a P) (same : ∀ x, P x ↔ Q x) :
    Tells l question name a Q :=
  ⟨tells.closes, fun x => (tells.answers x).trans (same x)⟩

theorem congr (tells : Tells l question name a P) (same : b = a) : Tells l question name b P :=
  same ▸ tells

theorem nil : Tells l question name [] fun _ => False :=
  ⟨Reader.isClear_initial, fun x => by simp [lines_nil]⟩

theorem ofMask {m : Mask} {names : List β} (mask : l.Masks a m)
    (answers : m.answers l question = some names) :
    Tells l question name a fun x => name x ∈ names := by
  obtain ⟨opens, rfl⟩ := Mask.of_answers answers
  refine ⟨Mask.closes mask opens, fun x => ?_⟩
  rw [Mask.lines_eq mask opens]

theorem ofAdds {m : Mask} {xs : List Lexeme} (mask : l.Masks a m) (adds : m.Adds xs)
    (some : xs ≠ []) (opens : ∀ c, .mark c ∈ xs → Mask.isPlain l c = true) :
    Tells l question name a fun x => name x ∈ question xs := by
  have plain := adds.isPlain opens
  refine ⟨Mask.closes mask plain, fun x => ?_⟩
  rw [Mask.lines_eq mask plain, adds.lines_eq some, List.flatMap_singleton]

theorem feed (first : Tells l question name a P) (second : Tells l question name b Q) :
    Tells l question name (a ++ '\n' :: b) fun x => P x ∨ Q x := by
  refine ⟨?_, fun x => ?_⟩
  · have text : a ++ '\n' :: b ++ ['\n'] = (a ++ ['\n']) ++ (b ++ ['\n']) := by simp
    have rest := Reader.IsClear.run_feed first.closes second.closes
    rw [Closes, text, Reader.run_append]
    exact rest.1
  · rw [lines_append_feed first.closes, List.flatMap_append, List.mem_append, first.answers,
      second.answers]

theorem indented {unit : String} (blank : Writer.IsBlankUnit unit)
    (tells : Tells l question name a P) : Tells l question name (unit.toList ++ a) P := by
  have blank : ∀ c ∈ unit.toList, Chars.isBlank c = true := by
    intro c mem
    rcases blank c mem with rfl | rfl <;> decide
  have skipped : Reader.run l {} (unit.toList ++ a ++ ['\n']) = Reader.run l {} (a ++ ['\n']) := by
    have start : ({} : Reader).AtStart l := Reader.isClear_initial.atStart
    rw [List.append_assoc, Reader.run_append, start.run_blank blank]
  refine ⟨?_, fun x => ?_⟩
  · rw [Closes, skipped]
    exact tells.closes
  · rw [Lexis.lines, skipped]
    exact tells.answers x

theorem mentions {c : Code} (tells : Tells l question name c.text.toList P) :
    Mentions l question name [.lines c] P :=
  ⟨_, .lines tells.closes, tells.answers⟩

end Tells

end Lexis

end RequestScribe
