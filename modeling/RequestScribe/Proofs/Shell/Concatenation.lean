import RequestScribe.Proofs.Shell.BareWord
import RequestScribe.Proofs.Shell.Quoting

/-!
# Lines that are put together

Where no quote is open, a blank separates what stands before it from what
follows: the words of the whole line are those of the first part and then those
of the second.  A line break is no such blank, because a backslash that ends the
first part would continue the line.

A scan that begins behind complete words differs from one that begins at the
start of the line only by these words, so the second part is read as it is by
itself.
-/

namespace RequestScribe

namespace Shell

namespace Scan

/-! ## Words in front -/

/-- The scan with complete words in front of its own, kept latest first. -/
def behind (scan : Scan) (before : List (List Char)) : Scan :=
  { scan with done := scan.done ++ before }

section

variable (scan : Scan) (before : List (List Char))

theorem record_behind (state : State) (action : Action) :
    (scan.behind before).record state action = (scan.record state action).behind before := by
  cases action with
  | split => cases started : scan.started <;> simp [record, split, behind, started]
  | _ => rfl

theorem feed_behind (c : Char) (next : Option Char) :
    (scan.behind before).feed c next = (scan.feed c next).behind before := by
  have all (transitions : List (State × Action)) (scan : Scan) :
      transitions.foldl (fun s taken => s.record taken.1 taken.2) (scan.behind before) =
        (transitions.foldl (fun s taken => s.record taken.1 taken.2) scan).behind before := by
    induction transitions generalizing scan with
    | nil => rfl
    | cons transition rest ih => rw [List.foldl_cons, record_behind, ih, List.foldl_cons]
  exact all (steps scan.state c next) scan

theorem run_behind (text : List Char) :
    run (scan.behind before) text = (run scan text).behind before := by
  induction text generalizing scan with
  | nil => rfl
  | cons c rest ih => rw [run, run, feed_behind, ih]

theorem finish_behind :
    (scan.behind before).finish = scan.finish.map (before.reverse ++ ·) := by
  obtain ⟨state, done, word, started⟩ := scan
  cases state <;> cases started <;> simp [finish, behind, push, split, Except.map]

end

/-! ## Words under construction -/

/-- Whether a word that does not exist has no characters. -/
def IsSettled (scan : Scan) : Prop :=
  scan.started = false → scan.word = []

theorem isSettled_record {scan : Scan} (settled : scan.IsSettled) (state : State)
    (action : Action) : (scan.record state action).IsSettled := by
  cases action with
  | skip => exact settled
  | split =>
      unfold record split
      dsimp only
      split
      · exact fun _ => rfl
      · exact settled
  | _ => exact fun absent => Bool.noConfusion absent

theorem isSettled_feed {scan : Scan} (settled : scan.IsSettled) (c : Char)
    (next : Option Char) : (scan.feed c next).IsSettled := by
  unfold feed
  generalize steps scan.state c next = transitions
  induction transitions generalizing scan with
  | nil => exact settled
  | cons transition rest ih => exact ih (isSettled_record settled transition.1 transition.2)

theorem isSettled_run {scan : Scan} (settled : scan.IsSettled) (text : List Char) :
    (run scan text).IsSettled := by
  induction text generalizing scan with
  | nil => exact settled
  | cons c rest ih => exact ih (isSettled_feed settled c rest.head?)

/-! ## Two parts -/

/-- Outside quotes a blank leaves nothing but the words before it. -/
theorem split_eq_behind {scan : Scan} (settled : scan.IsSettled)
    (closed : scan.state = .unquoted) : scan.split = ({} : Scan).behind scan.split.done := by
  obtain ⟨state, done, word, started⟩ := scan
  obtain rfl : state = .unquoted := closed
  cases started with
  | true => rfl
  | false =>
      obtain rfl : word = [] := settled rfl
      rfl

/-- Two parts with a blank between them, the first of which leaves no quote open. -/
theorem finish_run_append_blank {first : List Char} {c : Char} (blank : Chars.isBlank c = true)
    (closed : (run {} first).state = .unquoted) (second : List Char) :
    ∃ words, finish (run {} first) = .ok words ∧
      finish (run {} (first ++ c :: second)) = (finish (run {} second)).map (words ++ ·) := by
  have settled : (run {} first).IsSettled := isSettled_run (fun _ => rfl) first
  have quote : (c :: second).head? ≠ some '\'' := by
    rintro ⟨⟩
    exact absurd blank (by decide)
  have parted : run {} (first ++ c :: second) = run (run {} first).split second := by
    rw [run_append quote, run]
    generalize run {} first = scan at closed ⊢
    obtain ⟨state, done, word, started⟩ := scan
    obtain rfl : state = .unquoted := closed
    rw [feed_blank blank]
  refine ⟨(run {} first).split.done.reverse, ?_, ?_⟩
  · rw [finish, closed]
  · rw [parted, split_eq_behind settled closed, run_behind, finish_behind]
    rfl

end Scan

/--
Two texts with a blank between them, the first of which leaves no quote open, are
cut into the words of the first and then those of the second.  If a quote is left
open in the second, so it is in the whole.
-/
theorem tokenize_append_blank {a : String} {w : Char} (blank : Chars.isBlank w = true)
    (inLine : w ≠ '\n' ∧ w ≠ '\r')
    (closed : (Scan.run {} (joinContinuations a.toList)).state = .unquoted) (b : String) :
    ∃ words, tokenize a = .ok words ∧
      tokenize (a ++ String.singleton w ++ b) = (tokenize b).map (words ++ ·) := by
  have slash : w ≠ '\\' := by
    rintro rfl
    exact absurd blank (by decide)
  have joined : joinContinuations (a ++ String.singleton w ++ b).toList =
      joinContinuations a.toList ++ w :: joinContinuations b.toList := by
    have begins : StartsInLine (w :: b.toList) := by simpa [StartsInLine] using inLine
    have text : (a ++ String.singleton w ++ b).toList = a.toList ++ w :: b.toList := by simp
    rw [text, joinContinuations_append begins, joinContinuations_cons_of_ne slash]
  obtain ⟨words, first, whole⟩ :=
    Scan.finish_run_append_blank blank closed (joinContinuations b.toList)
  refine ⟨words.map String.ofList, ?_, ?_⟩
  · rw [tokenize, scanWords, first]
  · rw [tokenize, tokenize, scanWords, scanWords, joined, whole]
    cases Scan.finish (Scan.run {} (joinContinuations b.toList)) <;> simp [Except.map]

/-- A continued line and a tab, with a quote after them that is closed or left open. -/
theorem tokenize_append_blank_continued :
    let a := "curl -H 'a b'\\\n x\\\\"
    Chars.isBlank '\t' = true ∧ ('\t' ≠ '\n' ∧ '\t' ≠ '\r') ∧
      (Scan.run {} (joinContinuations a.toList)).state = .unquoted ∧
      tokenize (a ++ String.singleton '\t' ++ "$'\\x41' \"c d\"") =
        .ok ["curl", "-H", "a b", "x\\", "A", "c d"] ∧
      tokenize (a ++ String.singleton '\t' ++ "'c") = .error (.unterminatedQuote .single) := by
  intro a
  have blank : Chars.isBlank '\t' = true := by decide
  have inLine : '\t' ≠ '\n' ∧ '\t' ≠ '\r' := by decide
  have closed : (Scan.run {} (joinContinuations a.toList)).state = .unquoted := by decide
  have first : tokenize "curl -H 'a b'\\\n x\\\\" = .ok ["curl", "-H", "a b", "x\\"] := rfl
  refine ⟨blank, inLine, closed, ?_, ?_⟩
  · obtain ⟨words, read, whole⟩ := tokenize_append_blank blank inLine closed "$'\\x41' \"c d\""
    obtain rfl := Except.ok.inj (first.symm.trans read)
    rw [whole]
    rfl
  · obtain ⟨words, -, whole⟩ := tokenize_append_blank blank inLine closed "'c"
    rw [whole]
    rfl

end Shell

end RequestScribe
