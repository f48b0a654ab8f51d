import RequestScribe.Code.Writer

/-!
# What layout does to a text of several lines

The lines of a text are written each at the current level.  So a line break that
was in the text comes out as a line feed alone, and whatever follows it on the
next line is moved to the right by the indent.  The text comes out as it was
just if no line break is of this kind.
-/

namespace RequestScribe

namespace Chars

/-! ## Lines -/

theorem lines_of_no_break {cs : List Char} (whole : '\n' ∉ cs) (nonempty : cs ≠ []) :
    lines cs = [cs] := by
  have pieces : cs.splitOn '\n' = [cs] := List.splitOn_eq_singleton whole
  simp [lines, pieces, nonempty]

theorem lines_append_break {line : List Char} (whole : '\n' ∉ line) (rest : List Char) :
    lines (line ++ '\n' :: rest) = dropReturn line :: lines rest := by
  have pieces : (line ++ '\n' :: rest).splitOn '\n' = line :: rest.splitOn '\n' := by
    rw [List.splitOn_append_cons_self, List.splitOn_eq_singleton whole, List.singleton_append]
  obtain ⟨first, more, hrest⟩ := List.exists_cons_of_ne_nil (List.splitOn_ne_nil '\n' rest)
  unfold lines
  rw [pieces, hrest]
  simp

theorem dropReturn_cons {c : Char} {line : List Char} (h : c ≠ '\r' ∨ line ≠ []) :
    dropReturn (c :: line) = c :: dropReturn line := by
  unfold dropReturn
  cases line with
  | nil =>
      have other : c ≠ '\r' := h.resolve_right (fun ne => ne rfl)
      simp [other]
  | cons d rest =>
      rw [List.getLast?_cons_cons]
      split <;> rfl

/-! ## Text moved to the right -/

def startsEmpty : List Char → Bool
  | [] => false
  | c :: rest => c == '\n' || (c == '\r' && rest.head? == some '\n')

/--
The text with every line break as a line feed alone, and with an indent after it
unless the next line is empty.
-/
def reindent (indent : List Char) : List Char → List Char
  | [] => []
  | c :: rest =>
      if c = '\n' then '\n' :: ((if startsEmpty rest then [] else indent) ++ reindent indent rest)
      else if c = '\r' ∧ rest.head? = some '\n' then reindent indent rest
      else c :: reindent indent rest

variable {indent : List Char}

theorem reindent_of_no_break {cs : List Char} (whole : '\n' ∉ cs) : reindent indent cs = cs := by
  induction cs with
  | nil => rfl
  | cons c rest ih =>
      rw [List.mem_cons, not_or] at whole
      have noBreak : ¬ (c = '\r' ∧ rest.head? = some '\n') := fun ⟨_, next⟩ =>
        whole.2 (List.mem_of_mem_head? next)
      rw [reindent, if_neg (Ne.symm whole.1), if_neg noBreak, ih whole.2]

theorem startsEmpty_of_no_break {cs : List Char} (whole : '\n' ∉ cs) : startsEmpty cs = false := by
  cases cs with
  | nil => rfl
  | cons c rest =>
      rw [List.mem_cons, not_or] at whole
      have noBreak : rest.head? ≠ some '\n' := fun next => whole.2 (List.mem_of_mem_head? next)
      simp [startsEmpty, Ne.symm whole.1, noBreak]

theorem reindent_append_break {line : List Char} (whole : '\n' ∉ line) (rest : List Char) :
    reindent indent (line ++ '\n' :: rest) =
      dropReturn line ++ '\n' :: ((if startsEmpty rest then [] else indent) ++
        reindent indent rest) := by
  induction line with
  | nil => simp [reindent, dropReturn]
  | cons c line ih =>
      rw [List.mem_cons, not_or] at whole
      have later := ih whole.2
      rw [List.cons_append, reindent, if_neg (Ne.symm whole.1), later]
      cases line with
      | nil =>
          by_cases carriage : c = '\r'
          · simp [carriage, dropReturn]
          · rw [if_neg (fun h => carriage h.1), dropReturn_cons (.inl carriage)]
            rfl
      | cons d more =>
          have noBreak : ¬ (c = '\r' ∧ (d :: more ++ '\n' :: rest).head? = some '\n') := by
            rintro ⟨-, next⟩
            exact whole.2 (by simp_all)
          rw [if_neg noBreak, dropReturn_cons (.inr (List.cons_ne_nil d more))]
          rfl

theorem startsEmpty_append_break {line : List Char} (whole : '\n' ∉ line) (rest : List Char) :
    startsEmpty (line ++ '\n' :: rest) = (dropReturn line).isEmpty := by
  match line with
  | [] => rfl
  | [c] =>
      by_cases carriage : c = '\r'
      · simp [carriage, startsEmpty, dropReturn]
      · have other : '\n' ≠ c := by simpa using whole
        simp [dropReturn, startsEmpty, carriage, Ne.symm other]
  | c :: d :: more =>
      have first : c ≠ '\n' := fun same => whole (same ▸ List.mem_cons_self)
      have second : d ≠ '\n' := fun same => whole (by simp [same])
      rw [dropReturn_cons (.inr (List.cons_ne_nil d more))]
      simp [startsEmpty, first, second]

theorem reindent_append {start : List Char} (plain : ∀ c ∈ start, c ≠ '\n' ∧ c ≠ '\r')
    (rest : List Char) : reindent indent (start ++ rest) = start ++ reindent indent rest := by
  induction start with
  | nil => rfl
  | cons c start ih =>
      obtain ⟨here, later⟩ := List.forall_mem_cons.1 plain
      rw [List.cons_append, reindent, if_neg here.1, if_neg fun h => here.2 h.1, ih later]
      rfl

/-- A character that is no part of a line break keeps what is before it and after it apart. -/
theorem reindent_append_cons {c : Char} (feed : c ≠ '\n') (carriage : c ≠ '\r')
    (before after : List Char) :
    reindent indent (before ++ c :: after) =
      reindent indent before ++ c :: reindent indent after := by
  have here : reindent indent (c :: after) = c :: reindent indent after :=
    by
    have single : ∀ d ∈ [c], d ≠ '\n' ∧ d ≠ '\r' := by simpa using ⟨feed, carriage⟩
    exact reindent_append single after
  induction before with
  | nil => exact here
  | cons d rest ih =>
      have head : (rest ++ c :: after).head? = some '\n' ↔ rest.head? = some '\n' := by
        cases rest with
        | nil => simpa using feed
        | cons e more => rfl
      have empty : startsEmpty (rest ++ c :: after) = startsEmpty rest := by
        cases rest with
        | nil => simp [startsEmpty, feed, carriage]
        | cons e more =>
            cases more with
            | nil => simp [startsEmpty, feed]
            | cons f _ => rfl
      rw [List.cons_append, reindent, reindent, ih, empty]
      simp only [head]
      split
      · simp
      · split <;> rfl

def indented (indent line : List Char) : List Char :=
  (if line.isEmpty then [] else indent ++ line) ++ ['\n']

/-- The lines of a text that does not end in a line break, each at an indent. -/
theorem flatMap_indented_lines {cs : List Char} (nonempty : cs ≠ [])
    (last : cs.getLast? ≠ some '\n') :
    (lines cs).flatMap (indented indent) =
      (if startsEmpty cs then [] else indent) ++ reindent indent cs ++ ['\n'] := by
  -- One line is split off at a time, so the induction is on the length.
  induction n_eq : cs.length using Nat.strongRecOn generalizing cs with
  | _ n ih =>
      by_cases whole : '\n' ∈ cs
      · obtain ⟨line, rest, rfl, first⟩ := List.eq_append_cons_of_mem whole
        have more : rest ≠ [] := by
          rintro rfl
          exact last (by simp)
        have last' : rest.getLast? ≠ some '\n' := by
          obtain ⟨d, after, rfl⟩ := List.exists_cons_of_ne_nil more
          rwa [List.getLast?_append, List.getLast?_cons_cons, Option.or_of_isSome (by simp)] at last
        have shorter : rest.length < n := by
          rw [← n_eq, List.length_append, List.length_cons]
          omega
        have later := ih rest.length shorter more last' rfl
        have own : (if (dropReturn line).isEmpty then [] else indent ++ dropReturn line) =
            (if (dropReturn line).isEmpty then [] else indent) ++ dropReturn line := by
          cases dropReturn line <;> simp
        rw [lines_append_break first, List.flatMap_cons, later, startsEmpty_append_break first,
          reindent_append_break first, indented, own]
        simp only [List.append_assoc, List.cons_append, List.nil_append]
      · rw [lines_of_no_break whole nonempty, startsEmpty_of_no_break whole,
          reindent_of_no_break whole]
        simp [indented, nonempty]

theorem mem_reindent {c : Char} {cs : List Char} (h : c ∈ reindent indent cs) :
    c ∈ cs ∨ c ∈ indent := by
  induction cs with
  | nil => exact .inl h
  | cons d rest ih =>
      rw [reindent] at h
      split at h
      · next feed =>
          rcases List.mem_cons.1 h with rfl | h
          · exact .inl (feed ▸ List.mem_cons_self)
          · rcases List.mem_append.1 h with h | h
            · split at h
              · exact absurd h List.not_mem_nil
              · exact .inr h
            · exact (ih h).imp_left (List.mem_cons_of_mem d)
      · split at h
        · exact (ih h).imp_left (List.mem_cons_of_mem d)
        · rcases List.mem_cons.1 h with rfl | h
          · exact .inl List.mem_cons_self
          · exact (ih h).imp_left (List.mem_cons_of_mem d)

/-! ## Text that stays as it is -/

theorem mem_of_startsEmpty {cs : List Char} (h : startsEmpty cs = true) : '\n' ∈ cs := by
  by_cases broken : '\n' ∈ cs
  · exact broken
  · rw [startsEmpty_of_no_break broken] at h
    exact absurd h (by decide)

/-- Nothing but carriage returns is lost. -/
theorem countP_le_countP_reindent (cs : List Char) :
    cs.countP (· != '\r') ≤ (reindent indent cs).countP (· != '\r') := by
  induction cs with
  | nil => exact Nat.le_refl _
  | cons c rest ih =>
      rw [reindent]
      split
      · next feed =>
          rw [feed, List.countP_cons, List.countP_cons, List.countP_append]
          omega
      · split
        · next carriage =>
            rw [carriage.1, List.countP_cons_of_neg (by decide)]
            exact ih
        · rw [List.countP_cons, List.countP_cons]
          omega

/-- After the last line feed the indent is added. -/
theorem countP_lt_countP_reindent (nonempty : indent ≠ []) (plain : '\r' ∉ indent)
    {cs : List Char} (broken : '\n' ∈ cs) :
    cs.countP (· != '\r') < (reindent indent cs).countP (· != '\r') := by
  induction cs with
  | nil => exact absurd broken List.not_mem_nil
  | cons c rest ih =>
      rw [reindent]
      split
      · next feed =>
          rw [feed, List.countP_cons, List.countP_cons, List.countP_append]
          cases empty : startsEmpty rest with
          | true =>
              -- The next line is empty, so there is another line feed to come.
              have later := ih (mem_of_startsEmpty empty)
              omega
          | false =>
              have added : 0 < indent.countP (· != '\r') := by
                obtain ⟨d, more, rfl⟩ := List.exists_cons_of_ne_nil nonempty
                refine List.countP_pos_iff.2 ⟨d, List.mem_cons_self, ?_⟩
                exact bne_iff_ne.2 fun same => plain (same ▸ List.mem_cons_self)
              have later : rest.countP (· != '\r') ≤ (reindent indent rest).countP (· != '\r') :=
                countP_le_countP_reindent rest
              simp only [Bool.false_eq_true, if_false]
              omega
      · next other =>
          have later := ih ((List.mem_cons.1 broken).resolve_left (Ne.symm other))
          split
          · next carriage =>
              rw [carriage.1, List.countP_cons_of_neg (by decide)]
              exact later
          · rw [List.countP_cons, List.countP_cons]
            omega

/-- Without an indent only carriage returns in front of line feeds are lost. -/
theorem reindent_nil_eq_self_iff {cs : List Char} :
    reindent [] cs = cs ↔ ¬ ['\r', '\n'] <:+: cs := by
  induction cs with
  | nil => simp [reindent]
  | cons c rest ih =>
      have next : ['\r', '\n'] <+: c :: rest ↔ c = '\r' ∧ rest.head? = some '\n' := by
        cases rest <;> simp [List.cons_prefix_cons, eq_comm]
      rw [List.infix_cons_iff, next, not_or, ← ih, reindent]
      by_cases feed : c = '\n'
      · simp [feed]
      · rw [if_neg feed]
        by_cases carriage : c = '\r' ∧ rest.head? = some '\n'
        · rw [if_pos carriage]
          obtain ⟨rfl, head⟩ := carriage
          obtain ⟨more, rfl⟩ : ∃ more, rest = '\n' :: more := by
            cases rest with
            | nil => exact absurd head (by simp)
            | cons d more => exact ⟨more, by simpa using head⟩
          simp [reindent]
        · simp [carriage]

/-- A text stays as it is just if it has no line feed, or no indent and no return before one. -/
theorem reindent_eq_self_iff (plain : '\r' ∉ indent) {cs : List Char} :
    reindent indent cs = cs ↔ '\n' ∉ cs ∨ (indent = [] ∧ ¬ ['\r', '\n'] <:+: cs) := by
  constructor
  · intro same
    by_cases broken : '\n' ∈ cs
    · by_cases nonempty : indent = []
      · subst nonempty
        exact .inr ⟨rfl, reindent_nil_eq_self_iff.1 same⟩
      · have more := countP_lt_countP_reindent nonempty plain broken
        rw [same] at more
        exact absurd more (Nat.lt_irrefl _)
    · exact .inl broken
  · rintro (whole | ⟨rfl, whole⟩)
    · exact reindent_of_no_break whole
    · exact reindent_nil_eq_self_iff.2 whole

end Chars

namespace Writer

def indentation (w : Writer) : List Char :=
  (Text.times w.level w.unit).toList

theorem line_eq (w : Writer) (text : String) :
    w.line text =
      { w with written := (Chars.indented w.indentation text.toList).reverse ++ w.written } := by
  unfold line Chars.indented
  cases empty : text.isEmpty with
  | true =>
      obtain rfl := String.isEmpty_iff.1 empty
      rfl
  | false =>
      have nonempty : text.toList.isEmpty = false := by
        simpa using empty
      simp [push, nonempty, indentation]

theorem foldl_line_eq (w : Writer) (texts : List String) :
    texts.foldl line w =
      { w with
        written :=
          (texts.flatMap fun text => Chars.indented w.indentation text.toList).reverse ++
            w.written } := by
  induction texts generalizing w with
  | nil => rfl
  | cons text rest ih =>
      rw [List.foldl_cons, line_eq, ih]
      simp [indentation]

/-- What is written for the lines of a text that does not end in a line break. -/
theorem lines_eq (w : Writer) {text : String} (nonempty : text ≠ "")
    (last : text.toList.getLast? ≠ some '\n') :
    w.lines text =
      { w with
        written :=
          ((if Chars.startsEmpty text.toList then [] else w.indentation) ++
            Chars.reindent w.indentation text.toList ++ ['\n']).reverse ++ w.written } := by
  have some : text.toList ≠ [] := by simpa using nonempty
  rw [lines, Text.lines, foldl_line_eq, List.flatMap_map]
  simp only [String.toList_ofList]
  rw [Chars.flatMap_indented_lines some last]

end Writer

end RequestScribe
