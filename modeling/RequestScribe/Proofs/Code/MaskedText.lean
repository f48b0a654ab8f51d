import RequestScribe.Proofs.Code.Masked

/-!
# Masks that are not known

Of a text that depends on the request only some facts are known: which marks
occur in its mask, and which words.  The names that are read in it are among the
words, and its marks among the marks.  A text with a known beginning is read as
the beginning and the rest if they meet where nothing is pending.
-/

namespace RequestScribe

open Lexis

def Glyph.isLetter : Glyph → Bool
  | .char c => isNameCharacter c
  | .word _ => true
  | .literal => false

namespace Mask

open Reading

variable {l : Lexis} {s t : Reading} {m a b p : Mask}

/-! ## Words and marks -/

/-- The words of a mask, and nothing between two glyphs that are no letters. -/
def words (m : Mask) : List Mask :=
  m.splitOnP fun g => !g.isLetter

theorem words_append_cons {g : Glyph} (between : g.isLetter = false) (a b : Mask) :
    words (a ++ g :: b) = words a ++ words b :=
  List.splitOnP_append_cons a b (by simp [between])

theorem words_of_letters (letters : ∀ g ∈ m, g.isLetter = true) : words m = [m] :=
  List.splitOnP_eq_singleton fun g mem => by simp [letters g mem]

theorem mem_of_mem_words {w : Mask} (mem : w ∈ words m) : ∀ g ∈ w, g ∈ m := by
  induction m generalizing w with
  | nil =>
      obtain rfl := List.mem_singleton.1 mem
      exact fun g here => here
  | cons x rest ih =>
      have deeper {v : Mask} (held : v ∈ words rest) : ∀ g ∈ v, g ∈ x :: rest :=
        fun g here => List.mem_cons_of_mem x (ih held g here)
      rw [words, List.splitOnP_cons_eq_if_modifyHead, ← words] at mem
      split at mem
      · rcases List.mem_cons.1 mem with rfl | later
        · simp
        · exact deeper later
      · obtain ⟨first, others, split⟩ :=
          List.exists_cons_of_ne_nil (List.splitOnP_ne_nil (fun g => !g.isLetter) rest)
        rw [← words] at split
        rw [split] at mem
        rcases List.mem_cons.1 mem with rfl | later
        · refine List.forall_mem_cons.2 ⟨List.mem_cons_self, deeper ?_⟩
          simp [split]
        · exact deeper (by simp [split, later])

theorem step_letter {g : Glyph} (letter : g.isLetter = true) :
    s.step g = { s with word := g :: s.word } := by
  cases g with
  | char c =>
      have word : isNameCharacter c = true := letter
      simp [Reading.step, Reading.plain, word]
  | word text => rfl
  | literal => exact absurd letter (by decide)

/-- A glyph that is no letter ends the word and adds no name. -/
theorem name_of_step {g : Glyph} (between : g.isLetter = false) {n : String}
    (h : Has (s.step g) (.name n)) : Has s.endWord (.name n) := by
  cases g with
  | word text => exact Bool.noConfusion between
  | literal => exact h.imp_left fun mem => by simpa [Reading.step, put] using mem
  | char c =>
      have word : ¬isNameCharacter c = true := Bool.eq_false_iff.1 between
      rw [Reading.step, Reading.plain, if_neg word] at h
      split_ifs at h with feed blank
      · exact has_endLine.1 h
      · exact h
      · exact h.imp_left fun mem => by simpa [put] using mem

theorem step_word {g : Glyph} (between : g.isLetter = false) : (s.step g).word = [] := by
  cases g with
  | word text => exact Bool.noConfusion between
  | literal => exact endWord_word
  | char c =>
      have word : ¬isNameCharacter c = true := Bool.eq_false_iff.1 between
      rw [Reading.step, Reading.plain, if_neg word]
      split_ifs
      · simp
      · simp
      · exact endWord_word

theorem name_of_endWord {n : String} (h : Has s.endWord (.name n)) :
    Has s (.name n) ∨ s.word ≠ [] ∧ n = spelled s.word := by
  unfold endWord at h
  split at h
  · exact .inl h
  · next g gs held =>
      rcases h with here | done
      · rcases List.mem_cons.1 here with same | before
        · exact .inr ⟨by simp [held], by rw [held]; injection same⟩
        · exact .inl (.inl before)
      · exact .inl (.inr done)

theorem name_of_run {n : String} (letters : ∀ g ∈ s.word, g.isLetter = true)
    (h : Has (s.run m).endWord (.name n)) :
    Has s (.name n) ∨ ∃ w ∈ words (s.word.reverse ++ m), w ≠ [] ∧ n = spelled w.reverse := by
  induction m generalizing s with
  | nil =>
      rw [List.append_nil, words_of_letters fun g mem => letters g (List.mem_reverse.1 mem)]
      refine (name_of_endWord (s := s) h).imp_right fun ⟨nonempty, same⟩ =>
        ⟨_, List.mem_singleton_self _, ?_, ?_⟩
      · simpa using nonempty
      · rwa [List.reverse_reverse]
  | cons g rest ih =>
      cases letter : g.isLetter with
      | true =>
          have held := ih (s := s.step g)
          rw [step_letter letter] at held
          have whole := held (List.forall_mem_cons.2 ⟨letter, letters⟩)
            (by rwa [← step_letter letter])
          rwa [List.reverse_cons, List.append_assoc] at whole
      | false =>
          have none : (s.step g).word = [] := step_word letter
          have before : words s.word.reverse = [s.word.reverse] :=
            words_of_letters fun g mem => letters g (List.mem_reverse.1 mem)
          rw [words_append_cons letter, before]
          rcases ih (s := s.step g) (by simp [none]) h with held | ⟨w, mem, nonempty, same⟩
          · refine (name_of_endWord (name_of_step letter held)).imp_right
              fun ⟨nonempty, same⟩ => ⟨_, List.mem_cons_self, ?_, ?_⟩
            · simpa using nonempty
            · rwa [List.reverse_reverse]
          · rw [none] at mem
            exact .inr ⟨w, List.mem_cons_of_mem _ mem, nonempty, same⟩

/-- Every name in the lines of a mask is one of its words. -/
theorem exists_word {n : String} {line : List Lexeme} (held : line ∈ m.lines)
    (inside : .name n ∈ line) : ∃ w ∈ m.words, w ≠ [] ∧ n = spelled w.reverse := by
  have read := mem_lines.1 ⟨line, held, inside⟩
  exact (name_of_run (s := {}) (by simp) read).resolve_left (by simp [Has])

theorem mark_of_run {c : Char} (h : Has (s.run m).endWord (.mark c)) :
    Has s (.mark c) ∨ .char c ∈ m := by
  have ended {s : Reading} (h : Has s.endWord (.mark c)) : Has s (.mark c) := by
    unfold endWord at h
    split at h
    · exact h
    · exact h.imp_left fun mem => by simpa using mem
  induction m generalizing s with
  | nil => exact .inl (ended h)
  | cons g rest ih =>
      refine (ih h).elim (fun held => ?_) fun mem => .inr (List.mem_cons_of_mem _ mem)
      cases g with
      | word text => exact .inl held
      | literal => exact .inl (ended (held.imp_left fun mem => by simpa [Reading.step, put] using mem))
      | char d =>
          simp only [Reading.step, Reading.plain] at held
          split_ifs at held
          · exact .inl held
          · exact .inl (ended (has_endLine.1 held))
          · exact .inl (ended held)
          · rcases held with here | done
            · rcases List.mem_cons.1 here with same | before
              · exact .inr (by injection same with same; simp [same])
              · exact .inl (ended (.inl before))
            · exact .inl (ended (.inr done))

/-- Every mark in the lines of a mask is one of its characters. -/
theorem mem_of_mark {c : Char} {line : List Lexeme} (held : line ∈ m.lines)
    (inside : .mark c ∈ line) : .char c ∈ m := by
  have read := mem_lines.1 ⟨line, held, inside⟩
  exact (mark_of_run (s := {}) read).resolve_left (by simp [Has])

/-! ## A known beginning -/

variable {β : Type} {question : List Lexeme → List β}

/-- Whether a question has the same answers to a line as to a beginning and the rest. -/
def Splits (question : List Lexeme → List β) (first : List Lexeme) : Prop :=
  ∀ rest y, y ∈ question (first ++ rest) ↔ y ∈ question first ∨ y ∈ question rest

/-- The answers that a reading has once its line goes on in some way. -/
def Reading.Answers (question : List Lexeme → List β) (s : Reading) (rest : List Lexeme) (y : β) :
    Prop :=
  (∃ line ∈ s.done, y ∈ question line) ∨ y ∈ question (s.line.reverse ++ rest)

theorem answers_put {y : β} {x : Lexeme} {rest : List Lexeme} :
    (s.put x).Answers question rest y ↔ s.Answers question (x :: rest) y := by
  simp [Answers, put]

theorem answers_endLine (silent : question [] = []) {y : β} {rest : List Lexeme} :
    s.endLine.Answers question rest y ↔ s.Answers question [] y ∨ y ∈ question rest := by
  unfold endLine
  split
  · next none => simp [Answers, none, silent]
  · next none => simp [Answers, none, or_comm]

/-- Two readings that are at the same point but for the answers of the first one's beginning. -/
structure Resumes (question : List Lexeme → List β) (s t : Reading) (known : β → Prop) : Prop where
  word : s.word = t.word
  answers : ∀ rest y, s.Answers question rest y ↔ known y ∨ t.Answers question rest y

namespace Resumes

variable {known : β → Prop}

theorem put (h : Resumes question s t known) (x : Lexeme) :
    Resumes question (s.put x) (t.put x) known :=
  ⟨h.word, fun rest y => by rw [answers_put, answers_put, h.answers]⟩

theorem endWord (h : Resumes question s t known) :
    Resumes question s.endWord t.endWord known := by
  obtain ⟨word, answers⟩ := h
  rcases held : t.word with _ | ⟨g, gs⟩
  · simp only [Reading.endWord, word.trans held, held]
    exact ⟨word, answers⟩
  · simp only [Reading.endWord, word.trans held, held]
    refine ⟨rfl, fun rest y => ?_⟩
    have both := answers (.name (spelled (g :: gs)) :: rest) y
    simpa [Answers] using both

theorem endLine (h : Resumes question s t known) (silent : question [] = []) :
    Resumes question s.endLine t.endLine known := by
  refine ⟨by simpa using h.word, fun rest y => ?_⟩
  rw [answers_endLine silent, answers_endLine silent, h.answers, or_assoc]

theorem step (h : Resumes question s t known) (silent : question [] = []) (g : Glyph) :
    Resumes question (s.step g) (t.step g) known := by
  cases g with
  | word text => exact ⟨congrArg (Glyph.word text :: ·) h.word, h.answers⟩
  | literal => exact h.endWord.put _
  | char c =>
      simp only [Reading.step, Reading.plain]
      split_ifs
      · exact ⟨congrArg (Glyph.char c :: ·) h.word, h.answers⟩
      · exact h.endWord.endLine silent
      · exact h.endWord
      · exact h.endWord.put _

theorem run (h : Resumes question s t known) (silent : question [] = []) :
    Resumes question (s.run m) (t.run m) known := by
  induction m generalizing s t with
  | nil => exact h
  | cons g rest ih => exact ih (h.step silent g)

end Resumes

theorem mem_answers (silent : question [] = []) {y : β} :
    y ∈ m.lines.flatMap question ↔ (Reading.run {} m).endWord.Answers question [] y := by
  have last : (Reading.run {} m).endWord.endLine.Answers question [] y ↔
      (Reading.run {} m).endWord.Answers question [] y ∨ y ∈ question [] := answers_endLine silent
  simp only [silent, List.not_mem_nil, or_false] at last
  rw [← last, lines_eq_done]
  simp [Answers, silent]

/-- A text has the answers of its beginning and of its rest if nothing is pending between them. -/
theorem mem_answers_append (silent : question [] = []) (ended : (Reading.run {} p).word = [])
    (splits : Splits question (Reading.run {} p).line.reverse) {y : β} :
    y ∈ (p ++ m).lines.flatMap question ↔
      y ∈ p.lines.flatMap question ∨ y ∈ m.lines.flatMap question := by
  let first := Reading.run {} p
  have start : Resumes question first {} (first.Answers question [] ·) := by
    refine ⟨ended, fun rest y => ?_⟩
    have split := splits rest y
    simp only [Answers, List.append_nil, first]
    rw [split]
    simp [or_assoc]
  have still : first.endWord = first := by simp [first, Reading.endWord, ended]
  have last := (start.run (m := m) silent).endWord.answers [] y
  have whole : first.run m = Reading.run {} (p ++ m) := (List.foldl_append).symm
  rw [mem_answers silent, mem_answers silent, mem_answers silent, ← whole, last]
  change _ ↔ first.endWord.Answers question [] y ∨ _
  rw [still]

/-! ## Texts with words of one kind -/

/-- A mask in which no mark opens anything and every word is of some kind. -/
structure Calm (l : Lexis) (P : String → Prop) (m : Mask) : Prop where
  opens : m.IsPlain l
  spells : ∀ w ∈ m.words, P (spelled w.reverse)

def isGap (l : Lexis) : Glyph → Bool
  | .char c => !isNameCharacter c && (Chars.isBlank c || isPlain l c)
  | .word _ => false
  | .literal => true

namespace Calm

variable {P : String → Prop}

theorem isLetter_of_isGap {g : Glyph} (gap : isGap l g = true) : g.isLetter = false := by
  cases g with
  | char c =>
      simp only [isGap, Bool.and_eq_true, Bool.not_eq_true'] at gap
      exact gap.1
  | word text => exact Bool.noConfusion gap
  | literal => rfl

theorem isPlain_of_isGap {c : Char} (gap : isGap l (.char c) = true) (mark : isMark c = true) :
    isPlain l c = true := by
  simp only [isGap, isMark, Bool.and_eq_true, Bool.not_eq_true', Bool.or_eq_true] at gap mark
  exact gap.2.resolve_left (by simp [mark.2])

/-- Texts with something between them that parts words. -/
theorem around (ha : Calm l P a) {g : Glyph} (gap : isGap l g = true) (hb : Calm l P b) :
    Calm l P (a ++ g :: b) := by
  refine ⟨fun c mem mark => ?_, ?_⟩
  · rcases List.mem_append.1 mem with here | later
    · exact ha.opens c here mark
    · rcases List.mem_cons.1 later with rfl | later
      · exact isPlain_of_isGap gap mark
      · exact hb.opens c later mark
  · rw [words_append_cons (isLetter_of_isGap gap)]
    exact List.forall_mem_append.2 ⟨ha.spells, hb.spells⟩

theorem letters (letters : ∀ g ∈ m, g.isLetter = true) (spells : P (spelled m.reverse)) :
    Calm l P m := by
  refine ⟨fun c mem mark => ?_, ?_⟩
  · have word : isNameCharacter c = true := letters _ mem
    exact absurd mark (by simp [isMark, word])
  · rw [words_of_letters letters]
    exact List.forall_mem_singleton.2 spells

variable (empty : P "")

include empty

theorem nil : Calm l P [] :=
  letters (by simp) empty

theorem behind {gaps : Mask} (gap : ∀ g ∈ gaps, isGap l g = true) (h : Calm l P m) :
    Calm l P (gaps ++ m) := by
  induction gaps with
  | nil => exact h
  | cons g rest ih =>
      obtain ⟨here, later⟩ := List.forall_mem_cons.1 gap
      exact around (nil empty) here (ih later)

theorem gaps {gaps : Mask} (gap : ∀ g ∈ gaps, isGap l g = true) : Calm l P gaps := by
  have alone := behind empty gap (nil empty)
  rwa [List.append_nil] at alone

theorem apart {gaps : Mask} (ha : Calm l P a) (some : gaps ≠ [])
    (gap : ∀ g ∈ gaps, isGap l g = true) (hb : Calm l P b) : Calm l P (a ++ (gaps ++ b)) := by
  obtain ⟨g, rest, rfl⟩ := List.exists_cons_of_ne_nil some
  obtain ⟨here, later⟩ := List.forall_mem_cons.1 gap
  exact around ha here (behind empty later hb)

end Calm

end Mask

/-! ## The mask of a text by its pieces -/

def Piece.mask : Piece → Mask
  | .plain text => text.toList.map Glyph.char
  | .quoted _ => [.literal]
  | .remark _ => []

def Piece.IsRead (l : Lexis) : Piece → Prop
  | .plain _ => True
  | .quoted written => l.IsLiteral written.toList
  | .remark _ => False

namespace Code

variable {l : Lexis} {a b c : Code}

def mask (c : Code) : Mask :=
  c.pieces.flatMap Piece.mask

def IsRead (l : Lexis) (c : Code) : Prop :=
  ∀ piece ∈ c.pieces, piece.IsRead l

theorem IsRead.append (ha : a.IsRead l) (hb : b.IsRead l) : (a ++ b).IsRead l :=
  List.forall_mem_append.2 ⟨ha, hb⟩

theorem isRead_plain (text : String) : (plain text).IsRead l :=
  List.forall_mem_singleton.2 trivial

theorem isRead_quoted {written : String} (literal : l.IsLiteral written.toList) :
    (quoted written).IsRead l :=
  List.forall_mem_singleton.2 literal

theorem intercalate_singleton (separator part : Code) : intercalate separator [part] = part := by
  simp [Code.intercalate, Code.join]

theorem IsRead.intercalate (ha : a.IsRead l) : ∀ {parts : List Code},
    (∀ part ∈ parts, part.IsRead l) → (Code.intercalate a parts).IsRead l
  | [], _ => fun _ mem => absurd mem List.not_mem_nil
  | [part], each => by
      rw [intercalate_singleton]
      exact each part List.mem_cons_self
  | first :: second :: rest, each => by
      obtain ⟨here, later⟩ := List.forall_mem_cons.1 each
      rw [intercalate_cons_cons]
      exact here.append (ha.append (IsRead.intercalate ha later))

@[simp]
theorem mask_append : (a ++ b).mask = a.mask ++ b.mask :=
  List.flatMap_append

@[simp]
theorem mask_plain (text : String) : (plain text).mask = text.toList.map Glyph.char :=
  List.append_nil _

@[simp]
theorem mask_quoted (written : String) : (quoted written).mask = [.literal] := rfl

/-- A text of which every piece is read as what it is has the mask of its pieces. -/
theorem IsRead.hasMask (h : c.IsRead l) : c.HasMask l c.mask := by
  have masks : ∀ pieces : List Piece, (∀ piece ∈ pieces, piece.IsRead l) →
      l.Masks (String.join (pieces.map Piece.text)).toList (pieces.flatMap Piece.mask) := by
    intro pieces
    induction pieces with
    | nil => exact fun _ => .nil
    | cons piece rest ih =>
        intro each
        obtain ⟨here, later⟩ := List.forall_mem_cons.1 each
        rw [List.map_cons, String.join_cons, String.toList_append, List.flatMap_cons]
        refine .append ?_ (ih later)
        cases piece with
        | plain text => exact .chars text.toList
        | quoted written => exact .literal here
        | remark written => exact here.elim
  exact masks c.pieces h

/-! ## Code of some characters -/

structure IsMadeOf (l : Lexis) (allowed : Char → Bool) (c : Code) : Prop where
  read : c.IsRead l
  characters : ∀ d, .char d ∈ c.mask → allowed d = true

namespace IsMadeOf

variable {allowed : Char → Bool}

theorem plain {text : String} (h : ∀ c ∈ text.toList, allowed c = true) :
    (plain text).IsMadeOf l allowed := by
  refine ⟨isRead_plain text, fun d mem => ?_⟩
  rw [mask_plain] at mem
  obtain ⟨c, held, same⟩ := List.mem_map.1 mem
  cases same
  exact h d held

theorem quoted {written : String} (literal : l.IsLiteral written.toList) :
    (quoted written).IsMadeOf l allowed := by
  refine ⟨isRead_quoted literal, fun d mem => ?_⟩
  rw [mask_quoted] at mem
  exact absurd (List.mem_singleton.1 mem) (by simp)

theorem empty : empty.IsMadeOf l allowed :=
  ⟨fun _ mem => absurd mem List.not_mem_nil, fun _ mem => absurd mem List.not_mem_nil⟩

theorem append (ha : a.IsMadeOf l allowed) (hb : b.IsMadeOf l allowed) :
    (a ++ b).IsMadeOf l allowed := by
  refine ⟨ha.read.append hb.read, fun d mem => ?_⟩
  rw [mask_append] at mem
  exact (List.mem_append.1 mem).elim (ha.characters d) (hb.characters d)

theorem join {parts : List Code} (each : ∀ part ∈ parts, part.IsMadeOf l allowed) :
    (Code.join parts).IsMadeOf l allowed := by
  induction parts with
  | nil => exact empty
  | cons part rest ih =>
      obtain ⟨here, later⟩ := List.forall_mem_cons.1 each
      have split : Code.join (part :: rest) = part ++ Code.join rest := rfl
      rw [split]
      exact here.append (ih later)

theorem intercalate (ha : a.IsMadeOf l allowed) : ∀ {parts : List Code},
    (∀ part ∈ parts, part.IsMadeOf l allowed) → (Code.intercalate a parts).IsMadeOf l allowed
  | [], _ => empty
  | [part], each => by
      rw [intercalate_singleton]
      exact each part List.mem_cons_self
  | first :: second :: rest, each => by
      obtain ⟨here, later⟩ := List.forall_mem_cons.1 each
      rw [intercalate_cons_cons]
      exact here.append (ha.append (intercalate ha later))

end IsMadeOf

end Code

end RequestScribe
