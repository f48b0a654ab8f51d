import RequestScribe.Proofs.Code.LexemeLayout
import RequestScribe.Code.StringLiteral

/-!
# Code with its literals left out

A line of a program is put together from fixed text, words that depend on the
request, and literals.  What a literal holds does not matter to what the line
reads as, and of a word it only matters that it is one.  So a line is read by its
mask, in which literals and such words are single glyphs.
-/

namespace RequestScribe

inductive Glyph where
  | char (c : Char)
  /-- A name or a part of one. -/
  | word (text : String)
  | literal
  deriving DecidableEq, Repr

def Glyph.letters : Glyph → List Char
  | .char c => [c]
  | .word text => text.toList
  | .literal => []

abbrev Mask := List Glyph

def Mask.text (s : String) : Mask :=
  s.toList.map Glyph.char

namespace Lexis

variable {l : Lexis}

/-! ## Literals -/

/-- Text between quotes that does not end the literal. -/
inductive Kept (quote : Char) : List Char → Prop
  | nil : Kept quote []
  | plain {c : Char} {rest : List Char} (other : c ≠ quote) (unescaped : c ≠ '\\')
      (later : Kept quote rest) : Kept quote (c :: rest)
  | escaped (c : Char) {rest : List Char} (later : Kept quote rest) :
      Kept quote ('\\' :: c :: rest)

namespace Kept

variable {quote : Char} {a b : List Char}

theorem append (first : Kept quote a) (second : Kept quote b) : Kept quote (a ++ b) := by
  induction first with
  | nil => exact second
  | plain other unescaped _ ih => exact .plain other unescaped ih
  | escaped c _ ih => exact .escaped c ih

theorem of_forall (plain : ∀ c ∈ a, c ≠ quote ∧ c ≠ '\\') : Kept quote a := by
  induction a with
  | nil => exact .nil
  | cons c rest ih =>
      obtain ⟨here, later⟩ := List.forall_mem_cons.1 plain
      exact .plain here.1 here.2 (ih later)

theorem flatMap {f : Char → List Char} (each : ∀ c, Kept quote (f c)) (cs : List Char) :
    Kept quote (cs.flatMap f) := by
  induction cs with
  | nil => exact .nil
  | cons c rest ih => exact (each c).append ih

theorem run_eq (kept : Kept quote a) {r : Reader} (inside : r.place = .string quote) :
    r.run l a = r := by
  induction kept with
  | nil => rfl
  | @plain c _ other unescaped _ ih =>
      have still : r.step l c = r := by simp [Reader.step, inside, other, unescaped]
      rw [Reader.run_cons, still, ih]
  | escaped c _ ih =>
      have still : (r.step l '\\').step l c = r := by
        obtain ⟨place, word, line, done⟩ := r
        obtain rfl : place = .string quote := inside
        rfl
      rw [Reader.run_cons, Reader.run_cons, still, ih]

end Kept

def IsLiteral (l : Lexis) (text : List Char) : Prop :=
  ∀ r : Reader, r.place = .code → r.run l text = r.endWord.put .literal

/-- Whether a character may be a quote: it is no part of words, no blank and no backslash. -/
def isQuote (c : Char) : Bool :=
  !isNameCharacter c && !Chars.isBlank c && c != '\\'

theorem code_quote {quote : Char} (apart : isQuote quote = true) (r : Reader) :
    r.code l quote = r.endWord.mark l quote := by
  obtain ⟨⟨word, solid⟩, -⟩ : (isNameCharacter quote = false ∧ Chars.isBlank quote = false) ∧
      quote ≠ '\\' := by
    simpa [isQuote] using apart
  have feed : quote ≠ '\n' := by
    rintro rfl
    exact absurd solid (by decide)
  simp [Reader.code, word, solid, feed]

theorem isLiteral_escaping {quote : Char} (known : quote ∈ l.escaping)
    (apart : isQuote quote = true) {inside : List Char} (kept : Kept quote inside) :
    l.IsLiteral (quote :: (inside ++ [quote])) := by
  intro r code
  have opened : r.step l quote = { r.endWord.put .literal with place := .string quote } := by
    rw [Reader.step_code code, code_quote apart, Reader.mark, if_pos known]
  have closes : quote ≠ '\\' := by
    simp only [isQuote, Bool.and_eq_true, bne_iff_ne] at apart
    exact apart.2
  rw [Reader.run_cons, opened, Reader.run_append, kept.run_eq rfl, Reader.run_singleton]
  simp [Reader.step, closes, Reader.put, code]

theorem isLiteral_raw {quote : Char} (known : quote ∈ l.raw) (other : quote ∉ l.escaping)
    (apart : isQuote quote = true) {inside : List Char} (whole : quote ∉ inside) :
    l.IsLiteral (quote :: (inside ++ [quote])) := by
  intro r code
  have opened : r.step l quote = { r.endWord.put .literal with place := .raw quote } := by
    rw [Reader.step_code code, code_quote apart, Reader.mark, if_neg other, if_pos known]
  have stays : ∀ r' : Reader, r'.place = .raw quote → r'.run l inside = r' := by
    intro r' raw
    induction inside with
    | nil => rfl
    | cons c rest ih =>
        rw [List.mem_cons, not_or] at whole
        have still : r'.step l c = r' := by simp [Reader.step, raw, Ne.symm whole.1]
        rw [Reader.run_cons, still, ih whole.2]
  rw [Reader.run_cons, opened, Reader.run_append, stays _ rfl, Reader.run_singleton]
  simp [Reader.step, Reader.put, code]

/-- Whether a text is enclosed in quotes and has neither quotes nor backslashes inside. -/
def isEnclosed (quote : Char) : List Char → Bool
  | [] => false
  | c :: rest =>
      c == quote && rest.getLast? == some quote &&
        rest.dropLast.all fun c => c != quote && c != '\\'

theorem isLiteral_of_isEnclosed (quote : Char) (known : quote ∈ l.escaping)
    (apart : isQuote quote = true) {text : List Char} (enclosed : isEnclosed quote text = true) :
    l.IsLiteral text := by
  cases text with
  | nil => cases enclosed
  | cons c rest =>
      simp only [isEnclosed, Bool.and_eq_true, beq_iff_eq] at enclosed
      obtain ⟨⟨rfl, last⟩, plain⟩ := enclosed
      obtain ⟨inside, rfl⟩ := List.getLast?_eq_some_iff.1 last
      rw [List.dropLast_concat] at plain
      exact isLiteral_escaping known apart (.of_forall (by simpa using plain))

/-! ## Masks -/

/-- Whether a text is a name, so that it needs no escapes in a literal. -/
structure IsName (text : String) : Prop where
  nonempty : text ≠ ""
  letters : ∀ c ∈ text.toList, isNameCharacter c = true

theorem isName_of_all {text : String} (nonempty : text ≠ "")
    (letters : text.toList.all isNameCharacter = true) : IsName text :=
  ⟨nonempty, List.all_eq_true.1 letters⟩

theorem IsName.append {first second : String} (h : IsName first)
    (letters : ∀ c ∈ second.toList, isNameCharacter c = true) : IsName (first ++ second) := by
  refine ⟨by simp [h.nonempty], ?_⟩
  rw [String.toList_append]
  exact List.forall_mem_append.2 ⟨h.letters, letters⟩

/-- A text with glyphs for its characters, for some words in it and for literals. -/
inductive Masks (l : Lexis) : List Char → Mask → Prop
  | nil : Masks l [] []
  | char (c : Char) {text : List Char} {mask : Mask} (later : Masks l text mask) :
      Masks l (c :: text) (.char c :: mask)
  | word {name : String} {text : List Char} {mask : Mask} (isName : IsName name)
      (later : Masks l text mask) : Masks l (name.toList ++ text) (.word name :: mask)
  | gap {written text : List Char} {mask : Mask} (literal : l.IsLiteral written)
      (later : Masks l text mask) : Masks l (written ++ text) (.literal :: mask)

namespace Masks

variable {a b : List Char} {x y : Mask}

theorem append (first : Masks l a x) (second : Masks l b y) : Masks l (a ++ b) (x ++ y) := by
  induction first with
  | nil => exact second
  | char c _ ih => exact .char c ih
  | word isName _ ih =>
      rw [List.append_assoc]
      exact .word isName ih
  | gap literal _ ih =>
      rw [List.append_assoc]
      exact .gap literal ih

theorem chars (cs : List Char) : Masks l cs (cs.map Glyph.char) := by
  induction cs with
  | nil => exact .nil
  | cons c rest ih => exact .char c ih

theorem text (s : String) : Masks l s.toList (Mask.text s) :=
  chars s.toList

theorem name {text : String} (isName : IsName text) : Masks l text.toList [.word text] := by
  have alone := word isName (.nil (l := l))
  rwa [List.append_nil] at alone

theorem literal {written : List Char} (literal : l.IsLiteral written) :
    Masks l written [.literal] := by
  have alone := gap literal (.nil (l := l))
  rwa [List.append_nil] at alone

end Masks

end Lexis

/-! ## Reading a mask -/

namespace Mask

open Lexis

/-- The name that some glyphs make, which are given latest first. -/
def spelled : Mask → String
  | [.word text] => text
  | glyphs => String.ofList (glyphs.reverse.flatMap Glyph.letters)

structure Reading where
  word : Mask := []
  line : List Lexeme := []
  done : List (List Lexeme) := []
  deriving DecidableEq, Repr

namespace Reading

def put (s : Reading) (x : Lexeme) : Reading :=
  { s with line := x :: s.line }

def endWord (s : Reading) : Reading :=
  match s.word with
  | [] => s
  | g :: gs => { s with word := [], line := .name (spelled (g :: gs)) :: s.line }

def endLine (s : Reading) : Reading :=
  match s.line with
  | [] => s
  | x :: xs => { s with line := [], done := (x :: xs).reverse :: s.done }

def plain (s : Reading) (c : Char) : Reading :=
  if isNameCharacter c then { s with word := .char c :: s.word }
  else if c = '\n' then s.endWord.endLine
  else if Chars.isBlank c then s.endWord
  else s.endWord.put (.mark c)

def step (s : Reading) : Glyph → Reading
  | .char c => s.plain c
  | .word text => { s with word := .word text :: s.word }
  | .literal => s.endWord.put .literal

def run (s : Reading) (m : Mask) : Reading :=
  m.foldl step s

end Reading

open Reading

def lines (m : Mask) : List (List Lexeme) :=
  (run {} (m ++ [.char '\n'])).done.reverse

/-- Whether a mark opens neither a literal nor a comment. -/
def isPlain (l : Lexis) (c : Char) : Bool :=
  !l.escaping.contains c && !l.raw.contains c && (l.remark?.map Prod.fst) != some c

def isMark (c : Char) : Bool :=
  !isNameCharacter c && !Chars.isBlank c

def IsPlain (l : Lexis) (m : Mask) : Prop :=
  ∀ c, .char c ∈ m → isMark c = true → isPlain l c = true

variable {l : Lexis} {r : Reader} {s : Reading} {m : Mask}

theorem run_letters {cs : List Char} (letters : ∀ c ∈ cs, isNameCharacter c = true)
    (code : r.place = .code) : r.run l cs = { r with word := cs.reverse ++ r.word } := by
  induction cs generalizing r with
  | nil => rfl
  | cons c rest ih =>
      obtain ⟨here, later⟩ := List.forall_mem_cons.1 letters
      rw [Reader.run_cons, Reader.step_code code, Reader.code, if_pos here]
      refine (ih (r := { r with word := c :: r.word }) later code).trans ?_
      simp

/-- A text and its mask have been read up to the same point. -/
structure Follows (r : Reader) (s : Reading) : Prop where
  place : r.place = .code
  word : r.word = s.word.flatMap fun g => g.letters.reverse
  solid : ∀ g ∈ s.word, g.letters ≠ []
  line : r.line = s.line
  done : r.done = s.done

theorem spelled_eq (glyphs : Mask) :
    spelled glyphs = String.ofList (glyphs.flatMap fun g => g.letters.reverse).reverse := by
  unfold spelled
  split
  · simp [Glyph.letters]
  · simp [List.reverse_flatMap, Function.comp_def]

theorem spelled_chars (cs : List Char) : spelled (cs.map Glyph.char).reverse = String.ofList cs := by
  rw [spelled_eq]
  simp [List.flatMap_map, Glyph.letters, List.flatMap_reverse, Function.comp_def]

namespace Follows

theorem initial : Follows {} {} := ⟨rfl, rfl, by simp, rfl, rfl⟩

theorem endWord (h : Follows r s) : Follows r.endWord s.endWord := by
  obtain ⟨place, word, solid, line, done⟩ := h
  rcases held : s.word with _ | ⟨g, gs⟩
  · have none : r.word = [] := by rw [word, held, List.flatMap_nil]
    have still : s.endWord = s := by simp [Reading.endWord, held]
    rw [Reader.endWord_of_nil none, still]
    exact ⟨place, word, solid, line, done⟩
  · have some : r.word ≠ [] := by
      have first := solid g (by simp [held])
      simp [word, held, first]
    obtain ⟨c, cs, letters⟩ := List.exists_cons_of_ne_nil some
    have name : String.ofList (c :: cs).reverse = spelled (g :: gs) := by
      rw [spelled_eq, ← letters, word, held]
    refine ⟨by simpa using place, ?_, ?_, ?_, ?_⟩
    · simp [Reading.endWord, held]
    · simp [Reading.endWord, held]
    · simp only [Reader.endWord, letters, Reading.endWord, held, name, line]
    · simp only [Reader.endWord, letters, Reading.endWord, held, done]

theorem endLine (h : Follows r s) : Follows r.endLine s.endLine := by
  obtain ⟨place, word, solid, line, done⟩ := h
  rcases held : s.line with _ | ⟨x, xs⟩
  · have still : s.endLine = s := by simp [Reading.endLine, held]
    rw [Reader.endLine_of_nil (line.trans held), still]
    exact ⟨place, word, solid, line, done⟩
  · simp only [Reader.endLine, Reading.endLine, line.trans held, held]
    exact ⟨place, word, solid, rfl, by simp [done]⟩

theorem put (h : Follows r s) (x : Lexeme) : Follows (r.put x) (s.put x) :=
  ⟨h.place, h.word, h.solid, congrArg (x :: ·) h.line, h.done⟩

theorem letter (h : Follows r s) (c : Char) :
    Follows { r with word := c :: r.word } { s with word := .char c :: s.word } :=
  ⟨h.place, congrArg (c :: ·) h.word,
    List.forall_mem_cons.2 ⟨List.cons_ne_nil c [], h.solid⟩, h.line, h.done⟩

theorem plain (h : Follows r s) {c : Char} (opens : isMark c = true → isPlain l c = true) :
    Follows (r.step l c) (s.plain c) := by
  rw [Reader.step_code h.place, Reader.code, Reading.plain]
  split_ifs with word feed blank
  · exact h.letter c
  · exact h.endWord.endLine
  · exact h.endWord
  · obtain ⟨⟨escaping, raw⟩, remark⟩ : (c ∉ l.escaping ∧ c ∉ l.raw) ∧
        l.remark?.map Prod.fst ≠ some c := by
      simpa [isPlain] using opens (by simp [isMark, word, blank])
    unfold Reader.mark
    rw [if_neg escaping, if_neg raw]
    split
    · exact h.endWord.put _
    · next marker doubled known =>
        have other : c ≠ marker := by
          rintro rfl
          exact remark (by rw [known]; rfl)
        rw [if_neg other]
        exact h.endWord.put _

theorem name (h : Follows r s) {text : String} (isName : IsName text) :
    Follows (r.run l text.toList) { s with word := .word text :: s.word } := by
  have nonempty : Glyph.letters (.word text) ≠ [] := by simpa [Glyph.letters] using isName.nonempty
  rw [run_letters isName.letters h.place]
  refine ⟨h.place, ?_, List.forall_mem_cons.2 ⟨nonempty, h.solid⟩, h.line, h.done⟩
  rw [h.word, List.flatMap_cons]
  rfl

theorem run (h : Follows r s) {text : List Char} (masks : l.Masks text m) (opens : IsPlain l m) :
    Follows (r.run l text) (s.run m) := by
  induction masks generalizing r s with
  | nil => exact h
  | char c _ ih =>
      exact ih (h.plain (opens c List.mem_cons_self)) fun d mem =>
        opens d (List.mem_cons_of_mem _ mem)
  | word isName _ ih =>
      rw [Reader.run_append]
      exact ih (h.name isName) fun d mem => opens d (List.mem_cons_of_mem _ mem)
  | gap literal _ ih =>
      rw [Reader.run_append, literal r h.place]
      exact ih (h.endWord.put _) fun d mem => opens d (List.mem_cons_of_mem _ mem)

end Follows

theorem plain_feed (s : Reading) : s.plain '\n' = s.endWord.endLine := by
  have word : isNameCharacter '\n' = false := by decide
  simp [Reading.plain, word]

theorem lines_eq_done (m : Mask) : m.lines = (run {} m).endWord.endLine.done.reverse := by
  simp [lines, run, step, plain_feed]

theorem follows_feed {text : List Char} (masks : l.Masks text m) (opens : IsPlain l m) :
    Follows (Reader.run l {} (text ++ ['\n'])) (run {} m).endWord.endLine := by
  have last : isMark '\n' = true → isPlain l '\n' = true := fun mark =>
    absurd mark (by decide)
  have both := (Follows.initial.run masks opens).plain last
  rwa [plain_feed, ← Reader.run_singleton, ← Reader.run_append] at both

@[simp]
theorem endWord_word : s.endWord.word = [] := by
  unfold Reading.endWord
  split
  · assumption
  · rfl

@[simp]
theorem endLine_word : s.endLine.word = s.word := by
  unfold Reading.endLine
  split <;> rfl

@[simp]
theorem endLine_line : s.endLine.line = [] := by
  unfold Reading.endLine
  split
  · assumption
  · rfl

theorem closes {text : List Char} (masks : l.Masks text m) (opens : IsPlain l m) :
    l.Closes text := by
  have follows := follows_feed masks opens
  exact ⟨follows.place, by simp [follows.word], by simp [follows.line]⟩

theorem lines_eq {text : List Char} (masks : l.Masks text m) (opens : IsPlain l m) :
    l.lines text = m.lines := by
  rw [Lexis.lines, (follows_feed masks opens).done, lines_eq_done]

/-! ## What the lines of a mask hold -/

def Has (s : Reading) (x : Lexeme) : Prop :=
  x ∈ s.line ∨ ∃ line ∈ s.done, x ∈ line

theorem Has.endWord {x : Lexeme} (h : Has s x) : Has s.endWord x := by
  unfold Reading.endWord
  split
  · exact h
  · exact h.imp_left (List.mem_cons_of_mem _)

theorem has_endLine {x : Lexeme} : Has s.endLine x ↔ Has s x := by
  unfold Reading.endLine
  split
  · exact Iff.rfl
  · next first rest held => simp [Has, held, or_comm]

theorem Has.put {x : Lexeme} (h : Has s x) (y : Lexeme) : Has (s.put y) x :=
  h.imp_left (List.mem_cons_of_mem _)

theorem Has.step {x : Lexeme} (h : Has s x) (g : Glyph) : Has (s.step g) x := by
  cases g with
  | word text => exact h
  | literal => exact h.endWord.put _
  | char c =>
      simp only [Reading.step, Reading.plain]
      split_ifs
      · exact h
      · exact has_endLine.2 h.endWord
      · exact h.endWord
      · exact h.endWord.put _

theorem Has.run {x : Lexeme} (h : Has s x) : Has (s.run m) x := by
  induction m generalizing s with
  | nil => exact h
  | cons g rest ih => exact ih (h.step g)

theorem mem_lines {x : Lexeme} :
    (∃ line ∈ m.lines, x ∈ line) ↔ Has (run {} m).endWord x := by
  rw [lines_eq_done, ← has_endLine, Has, endLine_line]
  simp

theorem has_mark {c : Char} (mem : .char c ∈ m) (mark : isMark c = true) :
    Has (s.run m) (.mark c) := by
  induction m generalizing s with
  | nil => exact absurd mem List.not_mem_nil
  | cons g rest ih =>
      rcases List.mem_cons.1 mem with rfl | later
      · have solid : isNameCharacter c = false ∧ Chars.isBlank c = false := by
          simpa [isMark] using mark
        have feed : c ≠ '\n' := by
          rintro rfl
          exact absurd solid.2 (by decide)
        have here : Has (s.step (.char c)) (.mark c) := by
          simp only [Reading.step, Reading.plain, solid, feed]
          exact .inl List.mem_cons_self
        exact here.run
      · exact ih later

/-- A mask opens nothing if no mark of its lines does. -/
theorem isPlain_of_lines (opens : ∀ line ∈ m.lines, ∀ c, .mark c ∈ line → isPlain l c = true) :
    IsPlain l m := by
  intro c mem mark
  obtain ⟨line, held, inside⟩ := mem_lines.2 (has_mark mem mark).endWord
  exact opens line held c inside

end Mask

namespace Code

variable {l : Lexis} {a b : Code} {x y : Mask}

/-- Whether code reads as a mask as long as no character of it opens anything. -/
def HasMask (l : Lexis) (c : Code) (m : Mask) : Prop :=
  l.Masks c.text.toList m

theorem HasMask.append (first : a.HasMask l x) (second : b.HasMask l y) :
    (a ++ b).HasMask l (x ++ y) := by
  rw [HasMask, text_append, String.toList_append]
  exact Lexis.Masks.append first second

theorem hasMask_plain_append {first second : String} (hx : (plain first).HasMask l x)
    (hy : (plain second).HasMask l y) : (plain (first ++ second)).HasMask l (x ++ y) := by
  rw [HasMask, text_plain] at hx hy ⊢
  rw [String.toList_append]
  exact Lexis.Masks.append hx hy

theorem hasMask_plain (text : String) : (plain text).HasMask l (Mask.text text) := by
  rw [HasMask, text_plain]
  exact .chars text.toList

theorem hasMask_remark {written : String} (mask : (plain written).HasMask l x) :
    (remark written).HasMask l x := by
  have text : (remark written).text = (plain written).text := by
    simp [remark, Code.text, Piece.text, plain]
  rwa [HasMask, text]

/-- Fixed text by its characters, which spares decoding the text where the mask is read. -/
theorem hasMask_text (cs : List Char) : (plain (String.ofList cs)).HasMask l (cs.map Glyph.char) := by
  have mask := hasMask_plain (l := l) (String.ofList cs)
  rwa [Mask.text, String.toList_ofList] at mask

theorem hasMask_word {text : String} (isName : Lexis.IsName text) :
    (plain text).HasMask l [.word text] := by
  rw [HasMask, text_plain]
  exact .name isName

theorem hasMask_quoted {written : String} (literal : l.IsLiteral written.toList) :
    (quoted written).HasMask l [.literal] := by
  rw [HasMask, text_quoted]
  exact .literal literal

end Code

end RequestScribe
