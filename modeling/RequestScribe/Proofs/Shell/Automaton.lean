import Mathlib.Algebra.Group.Nat.Defs
import RequestScribe.Proofs.Shell.BareWord
import RequestScribe.Proofs.Text.Chars

/-!
# Looks at characters

The automaton takes a text by looking at its first character, over and over.  Most looks take the
character; the one that ends a code point early leaves it where it is, to be looked at again.
Nothing bounds how often that may happen, so it is shown that a second look takes the character:
looking at a text comes to an end, and a scan, which has two looks for a character at most, leaves
none of them out.

What holds in every state that is reached from outside of quotes is shown for one look, and from
that for all looks at a text.
-/

namespace RequestScribe

namespace Shell

/-! ## One look -/

/-- A state, and what of the text is still to be taken. -/
structure Position where
  state : State
  rest : List Char
  deriving DecidableEq, Repr

namespace Position

/-- Look at the first character; it stays where it is if it is to be looked at again. -/
def next? (p : Position) : Option Position :=
  match p.rest with
  | [] => none
  | c :: rest =>
      match step p.state c rest.head? with
      | (after, .replay _) => some ⟨after, c :: rest⟩
      | (after, _) => some ⟨after, rest⟩

/-- All looks from a position on, in order, and the position in which the text is at its end. -/
inductive Looks : Position → List Position → Position → Prop where
  | ended {p : Position} : p.next? = none → Looks p [] p
  | look {p q last : Position} {later : List Position} :
      p.next? = some q → Looks q later last → Looks p (p :: later) last

variable {p q last : Position}

theorem next?_of_take {state after : State} {action : Action} {c : Char} {rest : List Char}
    (taken : step state c rest.head? = (after, action)) (once : ∀ d, action ≠ .replay d) :
    (⟨state, c :: rest⟩ : Position).next? = some ⟨after, rest⟩ := by
  unfold next?
  dsimp only
  rw [taken]
  cases action with
  | replay d => exact absurd rfl (once d)
  | _ => rfl

theorem next?_of_replay {state after : State} {c d : Char} {rest : List Char}
    (again : step state c rest.head? = (after, .replay d)) :
    (⟨state, c :: rest⟩ : Position).next? = some ⟨after, c :: rest⟩ := by
  unfold next?
  dsimp only
  rw [again]

/-- A look takes the character, or leads into the string with the character still to be taken. -/
theorem next?_cases (h : p.next? = some q) :
    ∃ c rest, p.rest = c :: rest ∧
      (q = ⟨(step p.state c rest.head?).1, rest⟩ ∨ q = ⟨.ansi, c :: rest⟩) := by
  obtain ⟨state, text⟩ := p
  cases text with
  | nil => cases h
  | cons c rest =>
      refine ⟨c, rest, rfl, ?_⟩
      cases moved : step state c rest.head? with
      | mk after action =>
          by_cases again : ∃ d, action = .replay d
          · obtain ⟨d, rfl⟩ := again
            obtain ⟨rfl, -⟩ := Scan.held_of_replay moved
            rw [next?_of_replay moved] at h
            exact .inr (Option.some.inj h).symm
          · rw [next?_of_take moved fun d same => again ⟨d, same⟩] at h
            exact .inl (Option.some.inj h).symm

end Position

/-- No character of a string is looked at again. -/
theorem step_ansi_ne_replay (c : Char) (next : Option Char) (d : Char) :
    (step .ansi c next).2 ≠ .replay d := by
  intro again
  have kept := (Scan.held_of_replay (Prod.ext rfl again)).2
  exact absurd kept (by decide)

namespace Scan

variable {scan : Scan} {c d : Char} {next : Option Char}

theorem state_feed_of_take {after : State} {action : Action}
    (taken : step scan.state c next = (after, action)) (once : ∀ d, action ≠ .replay d) :
    (scan.feed c next).state = after := by
  unfold feed steps
  rw [taken]
  cases action with
  | replay d => exact absurd rfl (once d)
  | _ => simp

theorem state_feed_of_replay (again : step scan.state c next = (.ansi, .replay d)) :
    (scan.feed c next).state = (step .ansi c next).1 := by
  simp [feed, steps, again]

end Scan

/-! ## What every look keeps -/

structure IsHex (marker : Char) (left read value : Nat) : Prop where
  left_pos : 1 ≤ left
  width : marker = 'x' ∧ left + read = 2 ∨ marker = 'u' ∧ left + read = 4
  value_lt : value < 16 ^ read

namespace IsHex

variable {marker : Char} {left read value digit : Nat}

/-- There is another digit to come. -/
theorem succ (h : IsHex marker left read value) (some : left ≠ 1) (small : digit < 16) :
    IsHex marker (left - 1) (read + 1) (value * 16 + digit) where
  left_pos := by have := h.left_pos; omega
  width := by
    have low := h.left_pos
    rcases h.width with ⟨rfl, sum⟩ | ⟨rfl, sum⟩
    · exact .inl ⟨rfl, by omega⟩
    · exact .inr ⟨rfl, by omega⟩
  value_lt := by
    have low := h.value_lt
    rw [Nat.pow_succ]
    omega

/-- Numbers of one byte count the digits, and one of four bytes holds the code point. -/
theorem fits (h : IsHex marker left read value) (small : digit < 16) :
    left < 2 ^ 8 ∧ read + 1 < 2 ^ 8 ∧ value * 16 + digit < 2 ^ 32 := by
  have low := h.left_pos
  have few : left ≤ 4 ∧ read ≤ 3 := by
    rcases h.width with ⟨-, sum⟩ | ⟨-, sum⟩ <;> omega
  have bound : 16 ^ read ≤ 16 ^ 3 := Nat.pow_le_pow_right (by decide) few.2
  have high := h.value_lt
  omega

end IsHex

/-- Whether the digits are counted right, if any are being read. -/
def State.IsCounted : State → Prop
  | .ansiHex marker left read value => IsHex marker left read value
  | _ => True

theorem isCounted_step {state : State} (counted : state.IsCounted) (c : Char)
    (next : Option Char) : (step state c next).1.IsCounted := by
  cases state with
  | ansiEscaped =>
      unfold step
      dsimp only
      split
      all_goals first | exact trivial | skip
      · exact ⟨by decide, .inl ⟨rfl, rfl⟩, by decide⟩
      · exact ⟨by decide, .inr ⟨rfl, rfl⟩, by decide⟩
  | ansiHex marker left read value =>
      unfold step
      dsimp only
      split
      · next digit found =>
          split
          · exact trivial
          · next some => exact counted.succ some (Chars.hexValue?_small found).1
      · split <;> exact trivial
  | _ =>
      unfold step
      dsimp only
      repeat' split
      all_goals exact trivial

/-- A dollar sign opens a string only in front of a quote. -/
theorem next_of_opening {state : State} {c : Char} {next : Option Char}
    (opening : (step state c next).1 = .ansiOpening) : next = some '\'' := by
  unfold step at opening
  cases state with
  | unquoted =>
      by_cases opens : c = '$' ∧ next = some '\''
      · exact opens.2
      · dsimp only at opening
        rw [if_neg opens] at opening
        repeat' split at opening
        all_goals cases opening
  | _ =>
      dsimp only at opening
      repeat' split at opening
      all_goals cases opening

namespace Position

/-- What holds wherever looking at a text leads to from outside of quotes. -/
structure IsSound (p : Position) : Prop where
  counted : p.state.IsCounted
  opening : p.state = .ansiOpening → p.rest.head? = some '\''

variable {p q last : Position} {looks : List Position}

theorem IsSound.next? (sound : p.IsSound) (h : p.next? = some q) : q.IsSound := by
  obtain ⟨c, rest, -, rfl | rfl⟩ := next?_cases h
  · exact ⟨isCounted_step sound.counted c rest.head?, next_of_opening⟩
  · exact ⟨trivial, fun opening => State.noConfusion opening⟩

theorem IsSound.everywhere (sound : p.IsSound) (h : Looks p looks last) :
    ∀ q ∈ last :: looks, q.IsSound := by
  induction h with
  | ended stop => exact List.forall_mem_singleton.2 sound
  | look first later ih =>
      obtain ⟨behind, others⟩ := List.forall_mem_cons.1 (ih (sound.next? first))
      exact List.forall_mem_cons.2 ⟨behind, List.forall_mem_cons.2 ⟨sound, others⟩⟩

/-! ## All looks -/

/-- A scan that takes a character has looked at it once or twice. -/
theorem exists_looks_feed (scan : Scan) (c : Char) (rest : List Char) :
    ∃ here : List Position, here.length ≤ 2 ∧ (∀ p ∈ here, p.rest = c :: rest) ∧
      ∀ {later : List Position} {last : Position},
        Looks ⟨(scan.feed c rest.head?).state, rest⟩ later last →
          Looks ⟨scan.state, c :: rest⟩ (here ++ later) last := by
  cases moved : step scan.state c rest.head? with
  | mk after action =>
      by_cases again : ∃ d, action = .replay d
      · obtain ⟨d, rfl⟩ := again
        obtain ⟨rfl, -⟩ := Scan.held_of_replay moved
        have second : (⟨.ansi, c :: rest⟩ : Position).next? =
            some ⟨(scan.feed c rest.head?).state, rest⟩ := by
          rw [Scan.state_feed_of_replay moved]
          exact next?_of_take rfl (step_ansi_ne_replay c rest.head?)
        refine ⟨[⟨scan.state, c :: rest⟩, ⟨.ansi, c :: rest⟩], Nat.le_refl 2, ?_, fun later => ?_⟩
        · simp
        · exact .look (next?_of_replay moved) (.look second later)
      · have once : ∀ d, action ≠ .replay d := fun d same => again ⟨d, same⟩
        refine ⟨[⟨scan.state, c :: rest⟩], Nat.le_succ 1, ?_, fun later => ?_⟩
        · simp
        · exact .look (next?_of_take moved once) (Scan.state_feed_of_take moved once ▸ later)

theorem exists_looks_run (scan : Scan) (text : List Char) :
    ∃ looks, Looks ⟨scan.state, text⟩ looks ⟨(scan.run text).state, []⟩ ∧
      (∀ p ∈ looks, p.rest <:+ text) ∧
      ∀ k, looks.countP (fun p => p.rest.length == k) ≤ 2 := by
  induction text generalizing scan with
  | nil => exact ⟨[], .ended rfl, by simp, by simp⟩
  | cons c rest ih =>
      obtain ⟨here, few, front, whole⟩ := exists_looks_feed scan c rest
      obtain ⟨later, looks, behind, count⟩ := ih (scan.feed c rest.head?)
      refine ⟨here ++ later, whole looks,
        List.forall_mem_append.2 ⟨fun p mem => ?_, fun p mem => ?_⟩, fun k => ?_⟩
      · exact front p mem ▸ List.suffix_rfl
      · exact (behind p mem).trans (List.suffix_cons c rest)
      · rw [List.countP_append]
        by_cases own : k = rest.length + 1
        · have none : later.countP (fun p => p.rest.length == k) = 0 := by
            refine List.countP_eq_zero.2 fun p mem => ?_
            have short := (behind p mem).length_le
            simp only [beq_iff_eq]
            omega
          have all : here.countP (fun p => p.rest.length == k) ≤ here.length :=
            List.countP_le_length
          omega
        · have none : here.countP (fun p => p.rest.length == k) = 0 := by
            refine List.countP_eq_zero.2 fun p mem => ?_
            rw [front p mem, List.length_cons, beq_iff_eq]
            exact Ne.symm own
          have all := count k
          omega

/--
Looking at a text from outside of quotes comes to an end, in the state that a scan ends in, with at
most two looks at each character.  Wherever it leads to, a code point is read with its digits
counted right and no number out of bounds, and a dollar sign that opens a string has its quote
behind it, so none is the last character.
-/
theorem exists_sound_looks (text : List Char) :
    ∃ looks, Looks ⟨.unquoted, text⟩ looks ⟨(Scan.run {} text).state, []⟩ ∧
      (∀ state ∈ (Scan.run {} text).state :: looks.map Position.state,
        ∀ marker left read value, state = .ansiHex marker left read value →
          IsHex marker left read value ∧
            ∀ digit < 16, left < 2 ^ 8 ∧ read + 1 < 2 ^ 8 ∧ value * 16 + digit < 2 ^ 32) ∧
      (∀ p ∈ looks, p.state = .ansiOpening → p.rest.head? = some '\'') ∧
      (Scan.run {} text).state ≠ .ansiOpening ∧
      (∀ p ∈ looks, p.rest <:+ text) ∧
      ∀ k, looks.countP (fun p => p.rest.length == k) ≤ 2 := by
  obtain ⟨looks, whole, behind, count⟩ := exists_looks_run {} text
  have start : (⟨.unquoted, text⟩ : Position).IsSound :=
    ⟨trivial, fun opening => State.noConfusion opening⟩
  obtain ⟨last, each⟩ := List.forall_mem_cons.1 (start.everywhere whole)
  have counted : ∀ state ∈ (Scan.run {} text).state :: looks.map Position.state,
      state.IsCounted :=
    List.forall_mem_cons.2 ⟨last.counted, List.forall_mem_map.2 fun p mem => (each p mem).counted⟩
  refine ⟨looks, whole, ?_, fun p mem => (each p mem).opening, ?_, behind, count⟩
  · rintro state mem marker left read value rfl
    have hex : IsHex marker left read value := counted _ mem
    exact ⟨hex, fun digit small => hex.fits small⟩
  · intro opening
    exact absurd (last.opening opening) (by simp)

end Position

end Shell

end RequestScribe
