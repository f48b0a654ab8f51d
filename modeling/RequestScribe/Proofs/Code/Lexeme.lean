import Mathlib.Tactic.SplitIfs
import RequestScribe.Proofs.Text.Chars

/-!
# Reading code

A program's text is read without knowing how it was written: outside of string
literals and comments it consists of names, marks and blanks, and line feeds
part its lines.  What a language adds to this is which characters open a literal
or a comment.  Blanks at either end of a line, empty lines and the kind of line
break make no difference.
-/

namespace RequestScribe

inductive Lexeme where
  /-- A run of letters, digits, underscores and dollar signs. -/
  | name (text : String)
  | mark (c : Char)
  | literal
  deriving DecidableEq, Repr

namespace Lexeme

def before (marks : List Char) : List Lexeme → List String
  | [] => []
  | .name text :: rest =>
      if (marks.map Lexeme.mark).isPrefixOf rest then text :: before marks rest
      else before marks rest
  | _ :: rest => before marks rest

/-- What is directly before some marks is a name, and the marks are there. -/
theorem mem_of_mem_before {marks : List Char} {line : List Lexeme} {n : String}
    (mem : n ∈ before marks line) :
    .name n ∈ line ∧ ∀ c ∈ marks, .mark c ∈ line := by
  induction line with
  | nil => exact absurd mem List.not_mem_nil
  | cons x rest ih =>
      have later (held : n ∈ before marks rest) :
          .name n ∈ x :: rest ∧ ∀ c ∈ marks, .mark c ∈ x :: rest :=
        ⟨List.mem_cons_of_mem x (ih held).1, fun c inside =>
          List.mem_cons_of_mem x ((ih held).2 c inside)⟩
      cases x with
      | mark c => exact later mem
      | literal => exact later mem
      | name text =>
          rw [before] at mem
          split at mem
          · next begins =>
              rcases List.mem_cons.1 mem with rfl | held
              · refine ⟨List.mem_cons_self, fun c inside => List.mem_cons_of_mem _ ?_⟩
                exact (List.isPrefixOf_iff_prefix.1 begins).subset (List.mem_map_of_mem inside)
              · exact later held
          · exact later mem

def after (keyword : String) : List Lexeme → List String
  | [] => []
  | .name word :: rest =>
      match rest with
      | .name text :: _ =>
          if word = keyword then text :: after keyword rest else after keyword rest
      | _ => after keyword rest
  | _ :: rest => after keyword rest

/-- The names that stand by themselves; `member` if a dot has just been read. -/
def bareFrom (label : Char) (member : Bool) : List Lexeme → List String
  | [] => []
  | .name text :: rest =>
      if member || rest.head? == some (.mark label) then bareFrom label false rest
      else text :: bareFrom label false rest
  | x :: rest => bareFrom label (x == .mark '.') rest

/-- The names that are neither labels, directly before a given mark, nor members, after a dot. -/
def bare (label : Char) (line : List Lexeme) : List String :=
  bareFrom label false line

end Lexeme

structure Lexis where
  /-- The quotes of literals in which a backslash keeps the next character from ending them. -/
  escaping : List Char
  /-- The quotes of literals that end at the next such quote. -/
  raw : List Char
  /-- What opens a comment, and whether it has to be doubled. -/
  remark? : Option (Char × Bool)
  /-- The characters other than the line feed at which a comment ends. -/
  breaks : List Char
  deriving DecidableEq, Repr

namespace Lexis

def script : Lexis :=
  ⟨['\'', '"', '\x60'], [], some ('/', true), ['\r', '\u2028', '\u2029']⟩

def python : Lexis :=
  ⟨['\'', '"'], [], some ('#', false), ['\r']⟩

/-- Go, with its comments read as if they were code. -/
def go : Lexis :=
  ⟨['"', '\''], ['\x60'], none, []⟩

def rust : Lexis :=
  ⟨['"'], [], some ('/', true), []⟩

def isNameCharacter (c : Char) : Bool :=
  Chars.isAlphanumeric c || c == '_' || c == '$'

inductive Place where
  | code
  /-- After the first of two characters that open a comment. -/
  | begun (marker : Char)
  | string (quote : Char)
  /-- After a backslash in a literal. -/
  | escape (quote : Char)
  | raw (quote : Char)
  | remark
  deriving DecidableEq, Repr

/-- Reading under way; everything is kept latest first. -/
structure Reader where
  place : Place := .code
  word : List Char := []
  line : List Lexeme := []
  done : List (List Lexeme) := []
  deriving DecidableEq, Repr

namespace Reader

def put (r : Reader) (x : Lexeme) : Reader :=
  { r with line := x :: r.line }

def endWord (r : Reader) : Reader :=
  match r.word with
  | [] => r
  | c :: cs => { r with word := [], line := .name (String.ofList (c :: cs).reverse) :: r.line }

def endLine (r : Reader) : Reader :=
  match r.line with
  | [] => r
  | x :: xs => { r with line := [], done := (x :: xs).reverse :: r.done }

variable (l : Lexis)

/-- A character that is neither blank nor part of a word. -/
def mark (r : Reader) (c : Char) : Reader :=
  if c ∈ l.escaping then { r.put .literal with place := .string c }
  else if c ∈ l.raw then { r.put .literal with place := .raw c }
  else
    match l.remark? with
    | none => r.put (.mark c)
    | some (marker, doubled) =>
        if c = marker then { r with place := if doubled then .begun c else .remark }
        else r.put (.mark c)

def code (r : Reader) (c : Char) : Reader :=
  if isNameCharacter c then { r with word := c :: r.word }
  else if c = '\n' then r.endWord.endLine
  else if Chars.isBlank c then r.endWord
  else r.endWord.mark l c

def step (r : Reader) (c : Char) : Reader :=
  match r.place with
  | .code => r.code l c
  | .begun marker =>
      if c = marker then { r with place := .remark }
      else ({ r with place := .code }.put (.mark marker)).code l c
  | .string quote =>
      if c = '\\' then { r with place := .escape quote }
      else if c = quote then { r with place := .code }
      else r
  | .escape quote => { r with place := .string quote }
  | .raw quote => if c = quote then { r with place := .code } else r
  | .remark =>
      if c = '\n' then { r with place := .code }.endLine
      else if c ∈ l.breaks then { r with place := .code }
      else r

def run (r : Reader) (cs : List Char) : Reader :=
  cs.foldl (step l) r

end Reader

/-- The lines that hold any code, each with its lexemes in order. -/
def lines (l : Lexis) (text : List Char) : List (List Lexeme) :=
  (Reader.run l {} (text ++ ['\n'])).done.reverse

/-! ## Blanks around a line break -/

namespace Reader

variable {l : Lexis} {r : Reader} {c : Char}

theorem run_append (r : Reader) (a b : List Char) : r.run l (a ++ b) = (r.run l a).run l b :=
  List.foldl_append

theorem run_cons (r : Reader) (c : Char) (cs : List Char) :
    r.run l (c :: cs) = (r.step l c).run l cs := rfl

theorem run_singleton (r : Reader) (c : Char) : r.run l [c] = r.step l c := rfl

/-- Words are read in code only, and no blank opens or ends a literal or a comment. -/
def IsSound (r : Reader) : Prop :=
  match r.place with
  | .code => True
  | .remark => r.word = []
  | .begun c | .string c | .escape c | .raw c => r.word = [] ∧ Chars.isBlank c = false

theorem endWord_of_nil (none : r.word = []) : r.endWord = r := by
  simp [endWord, none]

theorem endLine_of_nil (none : r.line = []) : r.endLine = r := by
  simp [endLine, none]

@[simp]
theorem endWord_word : r.endWord.word = [] := by
  unfold endWord
  split
  · assumption
  · rfl

@[simp]
theorem endWord_place : r.endWord.place = r.place := by
  unfold endWord
  split <;> rfl

@[simp]
theorem endLine_line : r.endLine.line = [] := by
  unfold endLine
  split
  · assumption
  · rfl

@[simp]
theorem endLine_place : r.endLine.place = r.place := by
  unfold endLine
  split <;> rfl

@[simp]
theorem endLine_word : r.endLine.word = r.word := by
  unfold endLine
  split <;> rfl

theorem isNameCharacter_of_isBlank (blank : Chars.isBlank c = true) :
    isNameCharacter c = false := by
  refine Bool.eq_false_iff.2 fun word => ?_
  simp only [isNameCharacter, Bool.or_eq_true, beq_iff_eq] at word
  rcases word with (letter | rfl) | rfl
  · rw [Chars.not_blank_of_isAlphanumeric letter] at blank
    exact absurd blank Bool.false_ne_true
  · exact absurd blank (by decide)
  · exact absurd blank (by decide)

/-- In code a blank does no more than to end a word, or a line as well. -/
theorem code_blank (blank : Chars.isBlank c = true) :
    r.code l c = if c = '\n' then r.endWord.endLine else r.endWord := by
  simp [code, isNameCharacter_of_isBlank blank, blank]

theorem step_code (inside : r.place = .code) : r.step l c = r.code l c := by
  simp [step, inside]

theorem step_begun {marker : Char} (inside : r.place = .begun marker) (other : c ≠ marker) :
    r.step l c = ({ r with place := .code }.put (.mark marker)).code l c := by
  simp [step, inside, other]

theorem isSound_mark (inside : r.place = .code) (outside : r.word = [])
    (solid : Chars.isBlank c = false) : (r.mark l c).IsSound := by
  unfold mark
  split_ifs
  · exact ⟨outside, solid⟩
  · exact ⟨outside, solid⟩
  · split
    · simp [IsSound, put, inside]
    · split_ifs
      · exact ⟨outside, solid⟩
      · exact outside
      · simp [IsSound, put, inside]

theorem isSound_code (inside : r.place = .code) : (r.code l c).IsSound := by
  unfold code
  split_ifs with _ _ blank
  · simp [IsSound, inside]
  · simp [IsSound, inside]
  · simp [IsSound, inside]
  · exact isSound_mark (by simpa using inside) endWord_word (by simpa using blank)

theorem IsSound.step (sound : r.IsSound) (c : Char) : (r.step l c).IsSound := by
  cases inside : r.place with
  | code =>
      rw [step_code inside]
      exact isSound_code inside
  | begun marker =>
      have both := by simpa [IsSound, inside] using sound
      by_cases doubled : c = marker
      · simp [Reader.step, IsSound, inside, doubled, both]
      · rw [step_begun inside doubled]
        exact isSound_code rfl
  | string quote =>
      have both := by simpa [IsSound, inside] using sound
      simp only [Reader.step, inside]
      split_ifs
      · exact both
      · trivial
      · exact sound
  | escape quote =>
      have both := by simpa [IsSound, inside] using sound
      simpa [Reader.step, inside, IsSound] using both
  | raw quote =>
      simp only [Reader.step, inside]
      split_ifs
      · trivial
      · exact sound
  | remark =>
      simp only [Reader.step, inside]
      split_ifs
      · simp [IsSound]
      · trivial
      · exact sound

theorem IsSound.run (sound : r.IsSound) (cs : List Char) : (r.run l cs).IsSound := by
  induction cs generalizing r with
  | nil => exact sound
  | cons c rest ih => exact ih (sound.step c)

theorem code_feed : r.code l '\n' = r.endWord.endLine := by
  have feed : Chars.isBlank '\n' = true := by decide
  rw [code_blank feed, if_pos rfl]

theorem code_place_of_blank (blank : Chars.isBlank c = true) : (r.code l c).place = r.place := by
  rw [code_blank blank]
  split_ifs <;> simp

/-- In code a blank is forgotten at the end of the line. -/
theorem code_blank_feed (blank : Chars.isBlank c = true) :
    (r.code l c).code l '\n' = r.code l '\n' := by
  rw [code_feed, code_feed, code_blank blank]
  split_ifs
  · rw [endWord_of_nil (by simp), endLine_of_nil (by simp)]
  · rw [endWord_of_nil (by simp)]

/-- In code a blank does nothing at the start of a line. -/
theorem code_feed_blank (blank : Chars.isBlank c = true) :
    (r.code l '\n').code l c = r.code l '\n' := by
  rw [code_feed, code_blank blank]
  split_ifs
  · rw [endWord_of_nil (by simp), endLine_of_nil (by simp)]
  · rw [endWord_of_nil (by simp)]

/-- A comment that ends with its line leaves the line as it was in front of the comment. -/
theorem step_remark_feed (inside : r.place = .remark) (outside : r.word = []) :
    r.step l '\n' = ({ r with place := .code } : Reader).code l '\n' := by
  have same : ({ r with place := .code } : Reader).endWord = { r with place := .code } :=
    endWord_of_nil outside
  rw [code_feed, same]
  simp [step, inside]

theorem ne_of_isBlank {d : Char} (blank : Chars.isBlank c = true)
    (solid : Chars.isBlank d = false) : c ≠ d := by
  rintro rfl
  exact absurd blank (by simp [solid])

/-- A blank in front of a line feed makes no difference. -/
theorem step_blank_feed (sound : r.IsSound) (blank : Chars.isBlank c = true) :
    (r.step l c).step l '\n' = r.step l '\n' := by
  have feed : Chars.isBlank '\n' = true := by decide
  have backslash : c ≠ '\\' := ne_of_isBlank blank (by decide)
  cases inside : r.place with
  | code =>
      have stays := (code_place_of_blank (l := l) (r := r) blank).trans inside
      rw [step_code inside, step_code inside, step_code stays, code_blank_feed blank]
  | begun marker =>
      have solid : Chars.isBlank marker = false := by
        simp only [IsSound, inside] at sound
        exact sound.2
      rw [step_begun inside (ne_of_isBlank blank solid),
        step_begun inside (ne_of_isBlank feed solid),
        step_code (code_place_of_blank blank), code_blank_feed blank]
  | string quote | raw quote =>
      have solid : Chars.isBlank quote = false := by
        simp only [IsSound, inside] at sound
        exact sound.2
      simp [step, inside, ne_of_isBlank blank solid, backslash]
  | escape quote =>
      have solid : Chars.isBlank quote = false := by
        simp only [IsSound, inside] at sound
        exact sound.2
      simp [step, inside, ne_of_isBlank feed solid]
  | remark =>
      have outside : r.word = [] := by simpa [IsSound, inside] using sound
      by_cases line : c = '\n'
      · subst line
        rw [step_remark_feed inside outside, step_code (code_place_of_blank feed),
          code_blank_feed feed]
      · by_cases ends : c ∈ l.breaks
        · have back : r.step l c = { r with place := .code } := by
            simp [step, inside, line, ends]
          rw [back, step_code rfl, step_remark_feed inside outside]
        · have still : r.step l c = r := by simp [step, inside, line, ends]
          rw [still]

/-- A blank behind a line feed makes no difference. -/
theorem step_feed_blank (sound : r.IsSound) (blank : Chars.isBlank c = true) :
    (r.step l '\n').step l c = r.step l '\n' := by
  have feed : Chars.isBlank '\n' = true := by decide
  have backslash : c ≠ '\\' := ne_of_isBlank blank (by decide)
  cases inside : r.place with
  | code =>
      have stays := (code_place_of_blank (l := l) (r := r) feed).trans inside
      rw [step_code inside, step_code stays, code_feed_blank blank]
  | begun marker =>
      have solid : Chars.isBlank marker = false := by
        simp only [IsSound, inside] at sound
        exact sound.2
      rw [step_begun inside (ne_of_isBlank feed solid), step_code (code_place_of_blank feed),
        code_feed_blank blank]
  | string quote | escape quote | raw quote =>
      have solid : Chars.isBlank quote = false := by
        simp only [IsSound, inside] at sound
        exact sound.2
      simp [step, inside, ne_of_isBlank feed solid, ne_of_isBlank blank solid, backslash]
  | remark =>
      have outside : r.word = [] := by simpa [IsSound, inside] using sound
      rw [step_remark_feed inside outside, step_code (code_place_of_blank feed),
        code_feed_blank blank]

theorem run_blank_feed {cs : List Char} (sound : r.IsSound)
    (blank : ∀ d ∈ cs, Chars.isBlank d = true) : r.run l (cs ++ ['\n']) = r.step l '\n' := by
  induction cs generalizing r with
  | nil => rfl
  | cons c rest ih =>
      obtain ⟨here, later⟩ := List.forall_mem_cons.1 blank
      rw [List.cons_append, run_cons, ih (sound.step c) later, step_blank_feed sound here]

/-! ## Starts of lines -/

/-- Whether blanks make no difference to what comes next. -/
def AtStart (l : Lexis) (r : Reader) : Prop :=
  r.IsSound ∧ ∀ c, Chars.isBlank c = true → r.step l c = r

theorem IsSound.atStart (sound : r.IsSound) : (r.step l '\n').AtStart l :=
  ⟨sound.step '\n', fun _ blank => step_feed_blank sound blank⟩

theorem AtStart.run_blank {cs : List Char} (start : r.AtStart l)
    (blank : ∀ d ∈ cs, Chars.isBlank d = true) : r.run l cs = r := by
  induction cs with
  | nil => rfl
  | cons c rest ih =>
      obtain ⟨here, later⟩ := List.forall_mem_cons.1 blank
      rw [run_cons, start.2 c here, ih later]

/-- Whether all lines read so far are complete. -/
structure IsClear (r : Reader) : Prop where
  place : r.place = .code
  word : r.word = []
  line : r.line = []

theorem isClear_initial : ({} : Reader).IsClear := ⟨rfl, rfl, rfl⟩

theorem IsClear.isSound (clear : r.IsClear) : r.IsSound := by
  simp [IsSound, clear.place]

theorem IsClear.atStart (clear : r.IsClear) : r.AtStart l := by
  refine ⟨clear.isSound, fun c blank => ?_⟩
  rw [step_code clear.place, code_blank blank, endWord_of_nil clear.word,
    endLine_of_nil clear.line, ite_self]

def behind (r : Reader) (before : List (List Lexeme)) : Reader :=
  { r with done := r.done ++ before }

variable (before : List (List Lexeme))

theorem endWord_behind : (r.behind before).endWord = r.endWord.behind before := by
  cases outside : r.word <;> simp [endWord, behind, outside]

theorem endLine_behind : (r.behind before).endLine = r.endLine.behind before := by
  cases empty : r.line <;> simp [endLine, behind, empty]

theorem mark_behind : (r.behind before).mark l c = (r.mark l c).behind before := by
  unfold mark
  split_ifs
  · rfl
  · rfl
  · split
    · rfl
    · split_ifs <;> rfl

theorem code_behind : (r.behind before).code l c = (r.code l c).behind before := by
  unfold code
  split_ifs
  · rfl
  · rw [endWord_behind, endLine_behind]
  · rw [endWord_behind]
  · rw [endWord_behind, mark_behind]

theorem step_behind : (r.behind before).step l c = (r.step l c).behind before := by
  obtain ⟨place, word, line, done⟩ := r
  cases place with
  | code => exact code_behind before
  | begun marker =>
      by_cases doubled : c = marker
      · simp [step, behind, doubled]
      · rw [step_begun rfl doubled, step_begun rfl doubled, ← code_behind]
        rfl
  | string quote | raw quote =>
      simp only [step, behind]
      split_ifs <;> rfl
  | escape quote => rfl
  | remark =>
      simp only [step, behind]
      split_ifs
      · exact endLine_behind (r := ⟨.code, word, line, done⟩) before
      · rfl
      · rfl

theorem run_behind (cs : List Char) :
    (r.behind before).run l cs = (r.run l cs).behind before := by
  induction cs generalizing r with
  | nil => rfl
  | cons c rest ih => rw [run_cons, run_cons, step_behind, ih]

/-- With complete lines behind it a text reads as it does by itself. -/
theorem IsClear.run_eq (clear : r.IsClear) (cs : List Char) :
    r.run l cs = (run l {} cs).behind r.done := by
  have itself : r = ({} : Reader).behind r.done := by
    obtain ⟨place, word, line⟩ := clear
    cases r
    simp_all [behind]
  have both := run_behind (l := l) (r := {}) r.done cs
  rwa [← itself] at both

end Reader

open Reader

variable {l : Lexis}

/-- Whether what a text opens ends with its last line at the latest. -/
def Closes (l : Lexis) (text : List Char) : Prop :=
  (Reader.run l {} (text ++ ['\n'])).IsClear

theorem Reader.IsClear.run_feed {r : Reader} (clear : r.IsClear) {text : List Char}
    (closes : l.Closes text) :
    (r.run l (text ++ ['\n'])).IsClear ∧
      (r.run l (text ++ ['\n'])).done = (l.lines text).reverse ++ r.done := by
  rw [clear.run_eq]
  exact ⟨⟨closes.place, closes.word, closes.line⟩, by simp [behind, lines]⟩

/-- Lines that close read the same whatever comes after them. -/
theorem lines_append_feed {a : List Char} (closes : l.Closes a) (b : List Char) :
    l.lines (a ++ '\n' :: b) = l.lines a ++ l.lines b := by
  have text : a ++ '\n' :: b ++ ['\n'] = (a ++ ['\n']) ++ (b ++ ['\n']) := by simp
  have rest := Reader.IsClear.run_eq (l := l) closes (b ++ ['\n'])
  rw [lines, text, run_append, rest]
  simp [behind, lines]

theorem lines_nil : l.lines [] = [] := by
  rfl

/-- Blanks at the end make no difference. -/
theorem lines_append_blank (text : List Char) {blanks : List Char}
    (blank : ∀ c ∈ blanks, Chars.isBlank c = true) :
    l.lines (text ++ blanks) = l.lines text := by
  have sound : (Reader.run l {} text).IsSound := isClear_initial.isSound.run text
  rw [lines, lines, List.append_assoc, run_append, run_blank_feed sound blank, run_append,
    run_singleton]

end Lexis

end RequestScribe
