import RequestScribe.Command.Item

/-!
# Reading words as items

Items are read one word, or an option and its argument, at a time: what was
read before does not matter for what comes after.
-/

namespace RequestScribe

namespace Command

namespace Item

theorem readOnto_append (latest done : List Item) (words : List String) :
    readOnto (latest ++ done) words = done.reverse ++ readOnto latest words := by
  fun_induction readOnto latest words with
  | case1 latest => simp [readOnto]
  | case2 latest rest => simp [readOnto]
  | case3 latest word h reading latest' flag value rest waiting ih =>
      have waiting : (Reading.ofWord word).waiting? = some flag := waiting
      have order : reading.items.reverse ++ (latest ++ done) = latest' ++ done := by
        simp [latest']
      simp only [readOnto, if_neg h, waiting]
      rw [← ih, ← List.cons_append]
      exact congrArg (fun items => readOnto (.option flag value :: items) rest) order
  | case4 latest word h reading latest' rest complete ih =>
      have order : reading.items.reverse ++ (latest ++ done) = latest' ++ done := by
        simp [latest']
      rw [← ih]
      simp only [readOnto, if_neg h]
      split
      · next flag value rest waiting => exact absurd rfl (complete flag value rest waiting)
      · exact congrArg (fun items => readOnto items _) order

/-- Items that are already read stand in front of those of the words that are left. -/
theorem readOnto_eq (done : List Item) (words : List String) :
    readOnto done words = done.reverse ++ ofWords words := by
  have h := readOnto_append [] done words
  rwa [List.nil_append] at h

/-- A word that ends in an option without its argument takes the next word, whatever it is. -/
theorem ofWords_waiting {word : String} {items : List Item} {flag : Flag}
    (waiting : Reading.ofWord word = ⟨items, some flag⟩) (value : String) (rest : List String) :
    ofWords (word :: value :: rest) = items ++ .option flag value :: ofWords rest := by
  have separate : word ≠ "--" := by
    rintro rfl
    have complete : (Reading.ofWord "--").waiting? = none := by decide
    rw [waiting] at complete
    exact absurd complete (by simp)
  have read : ofWords (word :: value :: rest) =
      readOnto (.option flag value :: items.reverse) rest := by
    simp only [ofWords, readOnto, if_neg separate, waiting, List.append_nil]
  rw [read, readOnto_eq]
  simp

theorem ofWords_option {word : String} {flag : Flag}
    (waiting : Reading.ofWord word = ⟨[], some flag⟩) (value : String) (rest : List String) :
    ofWords (word :: value :: rest) = .option flag value :: ofWords rest :=
  ofWords_waiting waiting value rest

theorem ofWords_complete {word : String} {items : List Item} (separate : word ≠ "--")
    (complete : Reading.ofWord word = ⟨items, none⟩) (rest : List String) :
    ofWords (word :: rest) = items ++ ofWords rest := by
  have read : ofWords (word :: rest) = readOnto items.reverse rest := by
    simp only [ofWords, readOnto, if_neg separate, complete, List.append_nil]
  rw [read, readOnto_eq, List.reverse_reverse]

/-- What is read behind a word, of which an option may wait for its argument. -/
def following : Option Flag → List String → List Item
  | some flag, value :: rest => .option flag value :: ofWords rest
  | some _, [] => []
  | none, rest => ofWords rest

theorem ofWords_cons {word : String} {items : List Item} {waiting? : Option Flag}
    (separate : word ≠ "--") (reading : Reading.ofWord word = ⟨items, waiting?⟩)
    (rest : List String) : ofWords (word :: rest) = items ++ following waiting? rest := by
  cases waiting? with
  | none => exact ofWords_complete separate reading rest
  | some flag =>
      cases rest with
      | cons value rest => exact ofWords_waiting reading value rest
      | nil => simp [ofWords, readOnto, separate, reading, following]

theorem ofWords_operand {word : String} (h : word.toList.head? ≠ some '-') (rest : List String) :
    ofWords (word :: rest) = .operand word :: ofWords rest := by
  have separate : word ≠ "--" := by
    rintro rfl
    exact h (by decide)
  have reading : Reading.ofWord word = ⟨[.operand word], none⟩ := by
    unfold Reading.ofWord
    split
    · next text => rw [text] at h; exact absurd rfl h
    · next text => rw [text] at h; exact absurd rfl h
    · rfl
  exact ofWords_complete separate reading rest

/-- Whether words are read to their end: nothing ends the options, and no option is left waiting. -/
def isComplete : List String → Bool
  | [] => true
  | word :: rest =>
      if word = "--" then false
      else
        match (Reading.ofWord word).waiting?, rest with
        | some _, _ :: rest => isComplete rest
        | some _, [] => false
        | none, rest => isComplete rest

theorem ofWords_append {words : List String} (complete : isComplete words = true)
    (rest : List String) : ofWords (words ++ rest) = ofWords words ++ ofWords rest := by
  fun_induction isComplete words with
  | case1 => rfl
  | case2 rest' => exact absurd complete (by simp)
  | case3 word separate flag value more waiting ih =>
      have reading : Reading.ofWord word = ⟨(Reading.ofWord word).items, some flag⟩ := by
        rw [← waiting]
      rw [List.cons_append, List.cons_append, ofWords_waiting reading, ofWords_waiting reading,
        ih complete, List.append_assoc, List.cons_append]
  | case4 word separate flag waiting => exact absurd complete (by simp)
  | case5 word separate more waiting ih =>
      have reading : Reading.ofWord word = ⟨(Reading.ofWord word).items, none⟩ := by
        rw [← waiting]
      rw [List.cons_append, ofWords_complete separate reading, ofWords_complete separate reading,
        ih complete, List.append_assoc]

end Item

end Command

end RequestScribe
