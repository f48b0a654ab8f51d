import RequestScribe.Proofs.Command.Item
import RequestScribe.Proofs.Command.Spelling
import RequestScribe.Proofs.Command.Family

/-!
# Options that change places

Two options that stand side by side and belong to different families may change places: the
outcome is the same, except that their warnings change places too.
-/

namespace RequestScribe

namespace Command

/-- The same failure, or the same request with the same warnings in any order. -/
inductive Outcome.Rearranged : Except Failure Outcome → Except Failure Outcome → Prop
  | failed (failure : Failure) : Rearranged (.error failure) (.error failure)
  | made {request : Request} {warnings warnings' : List Warning}
      (order : warnings.Perm warnings') :
      Rearranged (.ok ⟨request, warnings⟩) (.ok ⟨request, warnings'⟩)

theorem Outcome.rearranged_preceded (result : Except Failure Outcome)
    {earlier earlier' : List Warning} (order : earlier.Perm earlier') :
    Rearranged (result.map fun outcome => outcome.preceded earlier)
      (result.map fun outcome => outcome.preceded earlier') := by
  cases result with
  | error failure => exact .failed failure
  | ok outcome => exact .made (order.append_right outcome.warnings)

/-- Two steps that touch different parts differ in the order of what they note. -/
theorem Confined.exchange {f g : Family} (apart : f ≠ g) {step step' : Draft → Draft}
    (h : Confined f step) (h' : Confined g step') (d : Draft) :
    ∃ base notes notes', notes.Perm notes' ∧
      step' (step d) = Draft.preceded base notes ∧ step (step' d) = Draft.preceded base notes' := by
  obtain ⟨change, noted, spec⟩ := h
  obtain ⟨change', noted', spec'⟩ := h'
  let both := (d.modify f change).modify g change'
  have order : (noted' ++ (noted ++ both.warnings)).Perm (noted ++ (noted' ++ both.warnings)) := by
    rw [← List.append_assoc, ← List.append_assoc]
    exact List.perm_append_comm.append_right both.warnings
  refine ⟨{ both with warnings := [] }, _, _, order, ?_, ?_⟩
  · rw [spec', spec, Draft.modify_note]
    rfl
  · rw [spec, spec', Draft.modify_note, Draft.modify_comm d apart.symm]
    rfl

namespace Draft

theorem rearranged_swap {flag flag' : Flag} {f g : Family} (one : flag.family? = some f)
    (other : flag'.family? = some g) (apart : f ≠ g) (value value' : String)
    (before after : List Item) :
    Outcome.Rearranged
      (ofItems (before ++ .option flag value :: .option flag' value' :: after)).finish
      (ofItems (before ++ .option flag' value' :: .option flag value :: after)).finish := by
  obtain ⟨base, notes, notes', order, first, second⟩ :=
    (confined_applyOption one value).exchange apart (confined_applyOption other value')
      (ofItems before)
  have there : ofItems (before ++ .option flag value :: .option flag' value' :: after) =
      after.foldl apply (base.preceded notes) := by
    rw [← first]
    simp only [ofItems, List.foldl_append, List.foldl_cons, apply]
  have back : ofItems (before ++ .option flag' value' :: .option flag value :: after) =
      after.foldl apply (base.preceded notes') := by
    rw [← second]
    simp only [ofItems, List.foldl_append, List.foldl_cons, apply]
  rw [there, back, finish_foldl_preceded, finish_foldl_preceded]
  exact Outcome.rearranged_preceded _
    ((List.reverse_perm notes).trans (order.trans (List.reverse_perm notes').symm))

end Draft

/-- Two letters of a cluster that take no argument are two options side by side. -/
theorem Item.ofWords_two_letters {c c' : Char} {flag flag' : Flag}
    (known : Flag.ofLetter? c = some flag) (known' : Flag.ofLetter? c' = some flag')
    (single : flag.takesArgument = false) (single' : flag'.takesArgument = false)
    {letters : List Char} (plain : ∀ l ∈ letters, Flag.letterTakes? l = some false)
    (rest : List Char) (after : List String) :
    ofWords (cluster (letters ++ c :: c' :: rest) :: after) =
      letters.map ofLetter ++ .option flag "" :: .option flag' "" ::
        ((Reading.ofLetters rest).items ++ following (Reading.ofLetters rest).waiting? after) := by
  have plain : ∀ l ∈ letters ++ [c, c'], Flag.letterTakes? l = some false := by
    intro l mem
    rcases List.mem_append.1 mem with mem | mem
    · exact plain l mem
    · simp only [List.mem_cons, List.not_mem_nil, or_false] at mem
      rcases mem with rfl | rfl
      · simp [Flag.letterTakes?, known, single]
      · simp [Flag.letterTakes?, known', single']
  have split : letters ++ c :: c' :: rest = (letters ++ [c, c']) ++ rest := by simp
  have nonempty : (letters ++ [c, c']) ++ rest ≠ [] := by simp
  obtain ⟨separate, reading⟩ :=
    ofWord_cluster_append plain nonempty (fun empty => absurd empty (by simp))
  rw [split, ofWords_cons separate reading]
  simp [ofLetter, known, known']

/--
Two options of different families that stand side by side, as words of their own or as letters
of one cluster, may change places.
-/
theorem ofWords_swapped {before : List String} (complete : Item.isComplete before = true)
    (after : List String) {flag flag' : Flag} {f g : Family} (one : flag.family? = some f)
    (other : flag'.family? = some g) (apart : f ≠ g) :
    (∀ value value' first second, Item.Writes first flag value → Item.Writes second flag' value' →
      Outcome.Rearranged (ofWords (before ++ first ++ second ++ after))
        (ofWords (before ++ second ++ first ++ after))) ∧
    ∀ c c', Flag.ofLetter? c = some flag → Flag.ofLetter? c' = some flag' →
      flag.takesArgument = false → flag'.takesArgument = false →
      ∀ letters, (∀ l ∈ letters, Flag.letterTakes? l = some false) → ∀ rest,
        Outcome.Rearranged (ofWords (before ++ cluster (letters ++ c :: c' :: rest) :: after))
          (ofWords (before ++ cluster (letters ++ c' :: c :: rest) :: after)) := by
  constructor
  · intro value value' first second writes writes'
    have there := writes.items (second ++ after)
    have back := writes'.items (first ++ after)
    rw [writes'.items] at there
    rw [writes.items] at back
    simp only [ofWords, List.append_assoc, Item.ofWords_append complete, there, back]
    exact Draft.rearranged_swap one other apart value value' _ _
  · intro c c' known known' single single' letters plain rest
    have there := Item.ofWords_two_letters known known' single single' plain rest after
    have back := Item.ofWords_two_letters known' known single' single plain rest after
    have swap := Draft.rearranged_swap one other apart "" ""
      (Item.ofWords before ++ letters.map Item.ofLetter)
    simp only [List.append_assoc] at swap
    simp only [ofWords, Item.ofWords_append complete, there, back]
    exact swap _

/-- Two options that are warned of, with an argument that looks like an option in front. -/
theorem ofWords_swapped_warned :
    Outcome.Rearranged (ofWords ["-o", "-X", "--request=NONE", "-b", "jar", "x.test"])
        (ofWords ["-o", "-X", "-b", "jar", "--request=NONE", "x.test"]) ∧
      Outcome.Rearranged (ofWords ["-o", "-X", "-sLkm5", "x.test"])
        (ofWords ["-o", "-X", "-skLm5", "x.test"]) := by
  have complete : Item.isComplete ["-o", "-X"] = true := by decide
  have warned := (@ofWords_swapped _ complete ["x.test"] .method .cookie .method .headers rfl rfl
    (by decide)).1
  have letters := (@ofWords_swapped _ complete ["x.test"] .location .insecure
    (.transport .redirects) (.transport .insecure) rfl rfl (by decide)).2
  constructor
  · exact warned "NONE" "jar" ["--request=NONE"] ["-b", "jar"]
      (@Item.Writes.longAttached "request" .method (by decide) rfl "NONE")
      (@Item.Writes.letterApart 'b' .cookie (by decide) rfl "jar")
  · exact letters 'L' 'k' (by decide) (by decide) rfl rfl ['s']
      (List.forall_mem_singleton.2 (by decide)) ['m', '5']

end Command

end RequestScribe
