import Mathlib.Data.List.Forall2
import Mathlib.Data.List.TakeWhile
import RequestScribe.Proofs.Code.Layout

/-!
# Texts with other indents

A text is laid out again by putting other indents behind its line feeds, where there are any.  Its
lines are then the same up to the spaces and tabs that they begin with.
-/

namespace RequestScribe

namespace Chars

def isIndent (c : Char) : Bool :=
  c == ' ' || c == '\t'

/-- The lines of a text without the spaces and tabs that they begin with. -/
def outdentedLines (cs : List Char) : List (List Char) :=
  (cs.splitOn '\n').map (List.dropWhile isIndent)

structure Indents (p q : List Char) : Prop where
  left : ∀ c ∈ p, isIndent c = true
  right : ∀ c ∈ q, isIndent c = true
  both : p = [] ↔ q = []

inductive Shifted : List Char → List Char → Prop
  | intro {p q : List Char} (indents : Indents p q) (line : List Char) :
      Shifted (p ++ line) (q ++ line)

/-- The same text but for the indents behind its line feeds. -/
inductive Relaid : List Char → List Char → Prop
  | nil : Relaid [] []
  | cons {a b : List Char} (c : Char) (rest : Relaid a b) : Relaid (c :: a) (c :: b)
  | feed {p q a b : List Char} (indents : Indents p q) (rest : Relaid a b) :
      Relaid ('\n' :: (p ++ a)) ('\n' :: (q ++ b))

/-! ## Indents and lines -/

theorem Indents.nil : Indents [] [] :=
  ⟨List.forall_mem_nil _, List.forall_mem_nil _, Iff.rfl⟩

theorem Indents.append {p q p' q' : List Char} (h : Indents p q) (h' : Indents p' q') :
    Indents (p ++ p') (q ++ q') where
  left := List.forall_mem_append.2 ⟨h.left, h'.left⟩
  right := List.forall_mem_append.2 ⟨h.right, h'.right⟩
  both := by simp only [List.append_eq_nil_iff, h.both, h'.both]

theorem feed_notMem_of_indent {p : List Char} (h : ∀ c ∈ p, isIndent c = true) : '\n' ∉ p :=
  fun mem => absurd (h '\n' mem) (by decide)

namespace Shifted

variable {a b : List Char}

theorem refl (line : List Char) : Shifted line line :=
  .intro .nil line

theorem indent {p q : List Char} (indents : Indents p q) (h : Shifted a b) :
    Shifted (p ++ a) (q ++ b) := by
  obtain ⟨inner, line⟩ := h
  rw [← List.append_assoc, ← List.append_assoc]
  exact .intro (indents.append inner) line

theorem append (h : Shifted a b) (rest : List Char) : Shifted (a ++ rest) (b ++ rest) := by
  obtain ⟨indents, line⟩ := h
  rw [List.append_assoc, List.append_assoc]
  exact .intro indents (line ++ rest)

theorem eq_nil_iff (h : Shifted a b) : a = [] ↔ b = [] := by
  obtain ⟨indents, line⟩ := h
  simp only [List.append_eq_nil_iff, indents.both]

/-- Behind an indent the last character is that of the line, and no indent ends in a line feed. -/
theorem getLast?_eq_feed_iff (h : Shifted a b) :
    a.getLast? = some '\n' ↔ b.getLast? = some '\n' := by
  obtain ⟨indents, line⟩ := h
  by_cases visible : line = []
  · rw [visible, List.append_nil, List.append_nil]
    constructor
    · exact fun last => absurd (List.mem_of_getLast? last) (feed_notMem_of_indent indents.left)
    · exact fun last => absurd (List.mem_of_getLast? last) (feed_notMem_of_indent indents.right)
  · rw [List.getLast?_append_of_ne_nil _ visible, List.getLast?_append_of_ne_nil _ visible]

theorem isBlank_of_isIndent {c : Char} (h : isIndent c = true) : isBlank c = true := by
  simp only [isIndent, Bool.or_eq_true, beq_iff_eq] at h
  rcases h with rfl | rfl <;> decide

/-- Without the blanks at its end an indent alone is nothing. -/
theorem trimEnd_append_of_indent {p : List Char} (h : ∀ c ∈ p, isIndent c = true)
    (line : List Char) :
    Chars.trimEnd (p ++ line) =
      if Chars.trimEnd line = [] then [] else p ++ Chars.trimEnd line := by
  have blank : p.reverse.dropWhile isBlank = [] :=
    List.dropWhile_eq_nil_iff.2 fun c mem => isBlank_of_isIndent (h c (List.mem_reverse.1 mem))
  unfold Chars.trimEnd
  rw [List.reverse_append, List.dropWhile_append, blank]
  simp only [List.isEmpty_iff, List.reverse_eq_nil_iff]
  split <;> simp

theorem trimEnd (h : Shifted a b) : Shifted (Chars.trimEnd a) (Chars.trimEnd b) := by
  obtain ⟨indents, line⟩ := h
  rw [trimEnd_append_of_indent indents.left, trimEnd_append_of_indent indents.right]
  split
  · exact .refl []
  · exact .intro indents _

end Shifted

theorem dropReturn_append (start : List Char) {line : List Char} (nonempty : line ≠ []) :
    dropReturn (start ++ line) = start ++ dropReturn line := by
  have last : (start ++ line).getLast? = line.getLast? :=
    List.getLast?_append_of_ne_nil start nonempty
  unfold dropReturn
  rw [last, List.dropLast_append_of_ne_nil nonempty]
  split <;> rfl

theorem dropReturn_of_indent {p : List Char} (h : ∀ c ∈ p, isIndent c = true) :
    dropReturn p = p := by
  unfold dropReturn
  split
  · next last => exact absurd (h '\r' (List.mem_of_getLast? last)) (by decide)
  · rfl

theorem Shifted.dropReturn {a b : List Char} (h : Shifted a b) :
    Shifted (dropReturn a) (dropReturn b) := by
  obtain ⟨indents, line⟩ := h
  by_cases empty : line = []
  · subst empty
    rw [List.append_nil, List.append_nil, dropReturn_of_indent indents.left,
      dropReturn_of_indent indents.right]
    simpa using Shifted.intro indents []
  · rw [dropReturn_append _ empty, dropReturn_append _ empty]
    exact .intro indents (Chars.dropReturn line)

theorem splitOn_append_of_no_break {start : List Char} (whole : '\n' ∉ start) {cs line : List Char}
    {rest : List (List Char)} (pieces : cs.splitOn '\n' = line :: rest) :
    (start ++ cs).splitOn '\n' = (start ++ line) :: rest := by
  induction start with
  | nil => exact pieces
  | cons c start ih =>
      rw [List.mem_cons, not_or] at whole
      have other : (c == '\n') = false := by simpa using Ne.symm whole.1
      rw [List.cons_append, List.splitOn_cons_eq_if_modifyHead, other, ih whole.2]
      rfl

theorem dropWhile_append_of_indent {p : List Char} (h : ∀ c ∈ p, isIndent c = true)
    (cs : List Char) : (p ++ cs).dropWhile isIndent = cs.dropWhile isIndent :=
  List.dropWhile_append_of_pos h

/-- Of two shifted lines the indents go, also if the lines have line feeds in them. -/
theorem Shifted.outdentedLines_eq {a b : List Char} (h : Shifted a b) :
    outdentedLines a = outdentedLines b := by
  obtain ⟨indents, line⟩ := h
  obtain ⟨first, rest, pieces⟩ := List.exists_cons_of_ne_nil (List.splitOn_ne_nil '\n' line)
  rw [outdentedLines, outdentedLines,
    splitOn_append_of_no_break (feed_notMem_of_indent indents.left) pieces,
    splitOn_append_of_no_break (feed_notMem_of_indent indents.right) pieces, List.map_cons,
    List.map_cons, dropWhile_append_of_indent indents.left,
    dropWhile_append_of_indent indents.right]

theorem outdentedLines_append_feed (cs rest : List Char) :
    outdentedLines (cs ++ '\n' :: rest) = outdentedLines cs ++ outdentedLines rest := by
  rw [outdentedLines, List.splitOn_append_cons_self, List.map_append]
  rfl

/-- The lines of a text, from its pieces between line feeds. -/
theorem forall₂_closed {ps qs : List (List Char)} (h : List.Forall₂ Shifted ps qs) :
    List.Forall₂ Shifted
      (ps.dropLast.map dropReturn ++ if (ps.getLastD []).isEmpty then [] else [ps.getLastD []])
      (qs.dropLast.map dropReturn ++
        if (qs.getLastD []).isEmpty then [] else [qs.getLastD []]) := by
  induction h with
  | nil => exact .nil
  | @cons x y ps qs first rest ih =>
      cases rest with
      | nil =>
          have empty : x.isEmpty = y.isEmpty := by
            rw [Bool.eq_iff_iff, List.isEmpty_iff, List.isEmpty_iff, first.eq_nil_iff]
          simp only [List.dropLast_singleton, List.map_nil, List.nil_append, List.getLastD_cons,
            List.getLastD_nil, empty]
          split
          · exact .nil
          · exact .cons first .nil
      | cons second more =>
          simp only [List.dropLast_cons_cons, List.map_cons, List.cons_append, List.getLastD_cons]
            at ih ⊢
          exact .cons first.dropReturn ih

/-! ## Texts -/

namespace Relaid

variable {a b c d : List Char}

theorem refl (cs : List Char) : Relaid cs cs := by
  induction cs with
  | nil => exact .nil
  | cons c rest ih => exact .cons c ih

theorem append (h : Relaid a b) (h' : Relaid c d) : Relaid (a ++ c) (b ++ d) := by
  induction h with
  | nil => exact h'
  | cons e _ ih => exact .cons e ih
  | feed indents _ ih =>
      rw [List.cons_append, List.cons_append, List.append_assoc, List.append_assoc]
      exact .feed indents ih

/-- Characters that are no indent are the same. -/
theorem mem_iff (h : Relaid a b) {e : Char} (visible : isIndent e = false) : e ∈ a ↔ e ∈ b := by
  induction h with
  | nil => exact Iff.rfl
  | cons f _ ih => simp only [List.mem_cons, ih]
  | feed indents _ ih =>
      have left : e ∉ _ := fun mem => by
        have blank := indents.left e mem
        rw [visible] at blank
        exact absurd blank (by decide)
      have right : e ∉ _ := fun mem => by
        have blank := indents.right e mem
        rw [visible] at blank
        exact absurd blank (by decide)
      simp only [List.mem_cons, List.mem_append, left, right, false_or, ih]

theorem splitOn (h : Relaid a b) :
    ∃ first rest rest', a.splitOn '\n' = first :: rest ∧ b.splitOn '\n' = first :: rest' ∧
      List.Forall₂ Shifted rest rest' := by
  induction h with
  | nil => exact ⟨[], [], [], by simp, by simp, .nil⟩
  | @cons a b e _ ih =>
      obtain ⟨first, rest, rest', left, right, shifted⟩ := ih
      rw [List.splitOn_cons_eq_if_modifyHead, List.splitOn_cons_eq_if_modifyHead, left, right]
      split
      · exact ⟨[], _, _, rfl, rfl, .cons (.refl first) shifted⟩
      · exact ⟨e :: first, rest, rest', rfl, rfl, shifted⟩
  | @feed p q a b indents _ ih =>
      obtain ⟨first, rest, rest', left, right, shifted⟩ := ih
      have broken : ('\n' == '\n') = true := rfl
      rw [List.splitOn_cons_eq_if_modifyHead, List.splitOn_cons_eq_if_modifyHead, if_pos broken,
        if_pos broken, splitOn_append_of_no_break (feed_notMem_of_indent indents.left) left,
        splitOn_append_of_no_break (feed_notMem_of_indent indents.right) right]
      exact ⟨[], _, _, rfl, rfl, .cons (.intro indents first) shifted⟩

theorem lines (h : Relaid a b) : List.Forall₂ Shifted (Chars.lines a) (Chars.lines b) := by
  obtain ⟨first, rest, rest', left, right, shifted⟩ := h.splitOn
  have pieces : List.Forall₂ Shifted (a.splitOn '\n') (b.splitOn '\n') := by
    rw [left, right]
    exact .cons (.refl first) shifted
  exact forall₂_closed pieces

end Relaid

end Chars

end RequestScribe
