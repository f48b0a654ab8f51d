import RequestScribe.Command.Parse
import RequestScribe.Proofs.Command.Item
import RequestScribe.Proofs.Text.Chars
import RequestScribe.Proofs.Text.Utf8

/-!
# Ways to write an option

An option with an argument has up to four spellings, and letters may stand in one
word or apart.  Whatever the spelling, the same items are read, so the same
outcome is reached.
-/

namespace RequestScribe

namespace Flag

def letterTakes? (c : Char) : Option Bool :=
  (ofLetter? c).map takesArgument

def allLongNames : List String :=
  longNames.map Prod.fst ++ ignoredLongNames ++ ignoredLongNamesWithArgument

theorem mem_allLongNames {name : String} {flag : Flag} (known : ofLongName? name = some flag) :
    name ∈ allLongNames := by
  unfold ofLongName? at known
  unfold allLongNames
  split at known
  · next found =>
      obtain ⟨before, after, entries, -⟩ := List.lookup_eq_some_iff.1 found
      have mem : name ∈ longNames.map Prod.fst := by
        rw [entries]
        simp
      exact List.mem_append_left _ (List.mem_append_left _ mem)
  · split at known
    · next ignored =>
        have mem : name ∈ ignoredLongNames := List.contains_iff_mem.1 ignored
        exact List.mem_append_left _ (List.mem_append_right _ mem)
    · split at known
      · next ignored => exact List.mem_append_right _ (List.contains_iff_mem.1 ignored)
      · exact absurd known (by simp)

/-- A long name has no equals sign, so it is cut off in front of the first one. -/
theorem not_mem_of_ofLongName? {name : String} {flag : Flag}
    (known : ofLongName? name = some flag) : '=' ∉ name.toList := by
  have all : ∀ name ∈ allLongNames, UInt8.ofNat '='.toNat ∉ name.toByteArray.data.toList := by
    decide +kernel
  rw [← Utf8.mem_encode_iff (by decide), Utf8.encode_toList]
  exact all name (mem_allLongNames known)

theorem ne_dash_of_ofLetter? {c : Char} {flag : Flag} (known : ofLetter? c = some flag) :
    c ≠ '-' := by
  rintro rfl
  have none : ofLetter? '-' = none := by decide
  rw [none] at known
  exact absurd known (by simp)

end Flag

namespace Command

def cluster (letters : List Char) : String :=
  String.ofList ('-' :: letters)

namespace Reading

theorem ofWord_long (spec : String) : ofWord ("--" ++ spec) = ofLong spec := by
  have text : ("--" ++ spec).toList = '-' :: '-' :: spec.toList := by simp
  rw [ofWord, text]
  simp

theorem ofLong_name {name : String} {flag : Flag} (known : Flag.ofLongName? name = some flag) :
    ofLong name = if flag.takesArgument then ⟨[], some flag⟩ else ⟨[.option flag ""], none⟩ := by
  have whole : Text.cut? '=' name = none := by
    simp [Text.cut?, Chars.cut?_eq_none (Flag.not_mem_of_ofLongName? known)]
  unfold ofLong
  simp [whole, known]

/-- What stands behind an equals sign is the argument, unless none is taken. -/
theorem ofLong_equals {name : String} {flag : Flag} (known : Flag.ofLongName? name = some flag)
    (value : String) :
    ofLong (name ++ ("=" ++ value)) =
      ⟨[.option flag (if flag.takesArgument then value else "")], none⟩ := by
  have cut : Text.cut? '=' (name ++ ("=" ++ value)) = some (name, value) :=
    Text.cut?_append (Flag.not_mem_of_ofLongName? known) (by simp)
  unfold ofLong
  cases takes : flag.takesArgument <;> simp [cut, known, takes]

theorem ofWord_cluster {c : Char} (noDash : c ≠ '-') (letters : List Char) :
    ofWord (cluster (c :: letters)) = ofLetters (c :: letters) := by
  unfold ofWord cluster
  rw [String.toList_ofList]
  split
  · next text =>
      obtain ⟨-, rest⟩ := List.cons.inj text
      exact absurd (List.cons.inj rest).1 noDash
  · next text =>
      obtain ⟨-, rest⟩ := List.cons.inj text
      rw [rest]
  · next other => exact absurd rfl (other c letters)

theorem ofLetters_waiting {letter : Char} {flag : Flag}
    (known : Flag.ofLetter? letter = some flag) (takes : flag.takesArgument = true) :
    ofLetters [letter] = ⟨[], some flag⟩ := by
  simp [ofLetters, known, takes]

theorem ofLetters_attached {letter : Char} {flag : Flag}
    (known : Flag.ofLetter? letter = some flag) (takes : flag.takesArgument = true)
    {value : String} (given : value ≠ "") :
    ofLetters (letter :: value.toList) = ⟨[.option flag value], none⟩ := by
  have some : value.toList.isEmpty = false := by simpa using given
  simp [ofLetters, known, takes, some]

end Reading

theorem cluster_ne {c : Char} (noDash : c ≠ '-') (letters : List Char) :
    cluster (c :: letters) ≠ "--" := by
  intro same
  have lists := congrArg String.toList same
  simp [cluster, noDash] at lists

theorem cluster_append (letters : List Char) (value : String) :
    cluster letters ++ value = cluster (letters ++ value.toList) := by
  simp [cluster, ← String.toList_inj]

namespace Item

/-! ## Clusters -/

def ofLetter (c : Char) : Item :=
  match Flag.ofLetter? c with
  | some flag => .option flag ""
  | none => .unknownLetter c

section Cluster

variable {letters : List Char} (plain : ∀ c ∈ letters, Flag.letterTakes? c = some false)

include plain

theorem ofLetters_append (rest : List Char) :
    Reading.ofLetters (letters ++ rest) =
      ⟨letters.map ofLetter ++ (Reading.ofLetters rest).items,
        (Reading.ofLetters rest).waiting?⟩ := by
  induction letters with
  | nil => rfl
  | cons c letters ih =>
      obtain ⟨here, later⟩ := List.forall_mem_cons.1 plain
      obtain ⟨flag, known, none⟩ := Option.map_eq_some_iff.1 here
      rw [List.cons_append, Reading.ofLetters]
      simp [known, none, ih later, ofLetter]

/-- A cluster goes on with its first letter that takes an argument, or ends. -/
theorem ofWord_cluster_append {rest : List Char} (nonempty : letters ++ rest ≠ [])
    (first : letters = [] → ∀ c ∈ rest.head?, c ≠ '-') :
    cluster (letters ++ rest) ≠ "--" ∧
      Reading.ofWord (cluster (letters ++ rest)) =
        ⟨letters.map ofLetter ++ (Reading.ofLetters rest).items,
          (Reading.ofLetters rest).waiting?⟩ := by
  have noDash : ∀ c ∈ (letters ++ rest).head?, c ≠ '-' := by
    cases letters with
    | nil => exact first rfl
    | cons c letters =>
        obtain ⟨flag, known, -⟩ := Option.map_eq_some_iff.1 (plain c List.mem_cons_self)
        simpa using Flag.ne_dash_of_ofLetter? known
  have split := ofLetters_append plain rest
  generalize letters ++ rest = all at nonempty noDash split
  obtain ⟨c, more, rfl⟩ := List.exists_cons_of_ne_nil nonempty
  have dash : c ≠ '-' := noDash c rfl
  exact ⟨cluster_ne dash more, by rw [Reading.ofWord_cluster dash, split]⟩

theorem ofWords_cluster (nonempty : letters ≠ []) (rest : List String) :
    ofWords (cluster letters :: rest) = letters.map ofLetter ++ ofWords rest := by
  have some : letters ++ [] ≠ [] := by simpa using nonempty
  obtain ⟨separate, reading⟩ := ofWord_cluster_append plain some (by simp)
  rw [List.append_nil] at separate reading
  rw [ofWords_complete separate reading]
  simp [Reading.ofLetters]

/-- Letters in words of their own make the same items. -/
theorem ofWords_letters (rest : List String) :
    ofWords (letters.map (fun c => cluster [c]) ++ rest) = letters.map ofLetter ++ ofWords rest := by
  induction letters with
  | nil => rfl
  | cons c letters ih =>
      obtain ⟨here, later⟩ := List.forall_mem_cons.1 plain
      have single := ofWords_cluster (List.forall_mem_singleton.2 here) (List.cons_ne_nil c [])
      rw [List.map_cons, List.cons_append, single, ih later]
      rfl

variable {letter : Char} {flag : Flag} (known : Flag.ofLetter? letter = some flag)
  (takes : flag.takesArgument = true)

include known takes

theorem ofWords_cluster_following (value : String) (rest : List String) :
    ofWords (cluster (letters ++ [letter]) :: value :: rest) =
      letters.map ofLetter ++ .option flag value :: ofWords rest := by
  have first : ∀ c ∈ [letter].head?, c ≠ '-' := by
    simpa using Flag.ne_dash_of_ofLetter? known
  have reading := (ofWord_cluster_append plain (by simp) fun _ => first).2
  rw [Reading.ofLetters_waiting known takes, List.append_nil] at reading
  exact ofWords_waiting reading value rest

theorem ofWords_cluster_attached {value : String} (given : value ≠ "") (rest : List String) :
    ofWords ((cluster (letters ++ [letter]) ++ value) :: rest) =
      letters.map ofLetter ++ .option flag value :: ofWords rest := by
  have first : ∀ c ∈ (letter :: value.toList).head?, c ≠ '-' := by
    simpa using Flag.ne_dash_of_ofLetter? known
  obtain ⟨separate, reading⟩ := ofWord_cluster_append plain (by simp) fun _ => first
  rw [Reading.ofLetters_attached known takes given] at reading
  rw [cluster_append, List.append_assoc, List.singleton_append, ofWords_complete separate reading,
    List.append_assoc, List.singleton_append]

end Cluster

/-! ## Single options -/

/-- Words that write one option, by its long name or its letter, with its argument if it takes one. -/
inductive Writes : List String → Flag → String → Prop
  | long {name : String} {flag : Flag} (known : Flag.ofLongName? name = some flag)
      (single : flag.takesArgument = false) : Writes ["--" ++ name] flag ""
  /-- What stands behind the equals sign is not looked at. -/
  | longUnused {name : String} {flag : Flag} (known : Flag.ofLongName? name = some flag)
      (single : flag.takesArgument = false) (unused : String) :
      Writes ["--" ++ name ++ "=" ++ unused] flag ""
  | longAttached {name : String} {flag : Flag} (known : Flag.ofLongName? name = some flag)
      (takes : flag.takesArgument = true) (value : String) :
      Writes ["--" ++ name ++ "=" ++ value] flag value
  | longApart {name : String} {flag : Flag} (known : Flag.ofLongName? name = some flag)
      (takes : flag.takesArgument = true) (value : String) : Writes ["--" ++ name, value] flag value
  | letter {c : Char} {flag : Flag} (known : Flag.ofLetter? c = some flag)
      (single : flag.takesArgument = false) : Writes [cluster [c]] flag ""
  | letterAttached {c : Char} {flag : Flag} (known : Flag.ofLetter? c = some flag)
      (takes : flag.takesArgument = true) {value : String} (given : value ≠ "") :
      Writes [cluster [c] ++ value] flag value
  | letterApart {c : Char} {flag : Flag} (known : Flag.ofLetter? c = some flag)
      (takes : flag.takesArgument = true) (value : String) : Writes [cluster [c], value] flag value

theorem ofWords_equals {name : String} {flag : Flag} (known : Flag.ofLongName? name = some flag)
    (value : String) (rest : List String) :
    ofWords (("--" ++ name ++ "=" ++ value) :: rest) =
      .option flag (if flag.takesArgument then value else "") :: ofWords rest := by
  have separate : "--" ++ (name ++ ("=" ++ value)) ≠ "--" := by
    intro same
    have lists := congrArg String.toList same
    simp at lists
  have reading := (Reading.ofWord_long _).trans (Reading.ofLong_equals known value)
  rw [String.append_assoc, String.append_assoc]
  exact ofWords_complete separate reading rest

theorem Writes.items {words : List String} {flag : Flag} {value : String}
    (h : Writes words flag value) (rest : List String) :
    ofWords (words ++ rest) = .option flag value :: ofWords rest := by
  have alone : ∀ c ∈ ([] : List Char), Flag.letterTakes? c = some false := List.forall_mem_nil _
  cases h with
  | @long name flag known single =>
      have separate : "--" ++ name ≠ "--" := by
        intro same
        obtain rfl : name = "" := by simpa using same
        have unknown : Flag.ofLongName? "" = none := by decide
        rw [unknown] at known
        exact absurd known (by simp)
      have reading := (Reading.ofWord_long name).trans (Reading.ofLong_name known)
      rw [single] at reading
      exact ofWords_complete separate reading rest
  | longUnused known single unused => simpa [single] using ofWords_equals known unused rest
  | longAttached known takes value => simpa [takes] using ofWords_equals known value rest
  | @longApart name flag known takes value =>
      have reading := (Reading.ofWord_long name).trans (Reading.ofLong_name known)
      rw [takes] at reading
      exact ofWords_option reading value rest
  | @letter c flag known single =>
      have plain : ∀ d ∈ [c], Flag.letterTakes? d = some false := by
        simp [Flag.letterTakes?, known, single]
      have item : ofLetter c = .option flag "" := by simp only [ofLetter, known]
      rw [← item]
      exact ofWords_cluster plain (List.cons_ne_nil c []) rest
  | letterAttached known takes given => exact ofWords_cluster_attached alone known takes given rest
  | letterApart known takes value => exact ofWords_cluster_following alone known takes value rest

def spellings (name : String) (letter : Char) (value : String) : List (List String) :=
  [["--" ++ name ++ "=" ++ value], ["--" ++ name, value], [cluster [letter], value]] ++
    if value = "" then [] else [[cluster [letter] ++ value]]

theorem ofWords_spelling {name : String} {letter : Char} {flag : Flag} {value : String}
    (long : Flag.ofLongName? name = some flag) (short : Flag.ofLetter? letter = some flag)
    (takes : flag.takesArgument = true) {words : List String}
    (spelled : words ∈ spellings name letter value) (rest : List String) :
    ofWords (words ++ rest) = .option flag value :: ofWords rest := by
  unfold spellings at spelled
  rcases List.mem_append.1 spelled with always | attached
  · simp only [List.mem_cons, List.not_mem_nil, or_false] at always
    rcases always with rfl | rfl | rfl
    · exact (Writes.longAttached long takes value).items rest
    · exact (Writes.longApart long takes value).items rest
    · exact (Writes.letterApart short takes value).items rest
  · by_cases empty : value = ""
    · rw [if_pos empty] at attached
      exact absurd attached List.not_mem_nil
    · rw [if_neg empty, List.mem_singleton] at attached
      rw [attached]
      exact (Writes.letterAttached short takes empty).items rest

end Item

/--
Between words that are read to their end and any others, all spellings of an
option with an argument lead to the same outcome, as an option with this
argument; and so do a cluster and its letters apart, also if the last letter
takes an argument, attached to it or in the next word.
-/
theorem ofWords_spelled {before : List String} (complete : Item.isComplete before = true)
    (after : List String) :
    (∀ name letter flag, Flag.ofLongName? name = some flag → Flag.ofLetter? letter = some flag →
      flag.takesArgument = true → ∀ value, ∀ words ∈ Item.spellings name letter value,
        Item.ofWords (before ++ words ++ after) =
            Item.ofWords before ++ .option flag value :: Item.ofWords after ∧
          ∀ other ∈ Item.spellings name letter value,
            ofWords (before ++ words ++ after) = ofWords (before ++ other ++ after)) ∧
    ∀ letters : List Char, (∀ c ∈ letters, Flag.letterTakes? c = some false) →
      (letters ≠ [] →
        ofWords (before ++ [cluster letters] ++ after) =
          ofWords (before ++ letters.map (fun c => cluster [c]) ++ after)) ∧
      ∀ letter flag, Flag.ofLetter? letter = some flag → flag.takesArgument = true → ∀ value,
        ofWords (before ++ [cluster (letters ++ [letter]), value] ++ after) =
            ofWords (before ++ (letters.map (fun c => cluster [c]) ++ [cluster [letter], value]) ++
              after) ∧
          (value ≠ "" →
            ofWords (before ++ [cluster (letters ++ [letter]) ++ value] ++ after) =
              ofWords (before ++ (letters.map (fun c => cluster [c]) ++ [cluster [letter] ++ value]) ++
                after)) := by
  have between (words : List String) : Item.ofWords (before ++ words ++ after) =
      Item.ofWords before ++ Item.ofWords (words ++ after) := by
    rw [List.append_assoc, Item.ofWords_append complete]
  -- The outcome depends on the items alone, and those of the words in between stand apart.
  have outcome {words other : List String}
      (same : Item.ofWords (words ++ after) = Item.ofWords (other ++ after)) :
      ofWords (before ++ words ++ after) = ofWords (before ++ other ++ after) := by
    rw [ofWords, ofWords, between, between, same]
  constructor
  · intro name letter flag long short takes value words spelled
    have read := Item.ofWords_spelling long short takes spelled after
    refine ⟨by rw [between, read], fun other spelled' => outcome ?_⟩
    rw [read, Item.ofWords_spelling long short takes spelled' after]
  · intro letters plain
    refine ⟨fun nonempty => outcome ?_, fun letter flag known takes value => ⟨outcome ?_, ?_⟩⟩
    · rw [Item.ofWords_letters plain, ← Item.ofWords_cluster plain nonempty]
      rfl
    · have single := Item.ofWords_cluster_following (List.forall_mem_nil _) known takes value after
      rw [List.append_assoc, Item.ofWords_letters plain]
      exact (Item.ofWords_cluster_following plain known takes value after).trans
        (congrArg (letters.map Item.ofLetter ++ ·) single.symm)
    · intro given
      have single := Item.ofWords_cluster_attached (List.forall_mem_nil _) known takes given after
      refine outcome ?_
      rw [List.append_assoc, Item.ofWords_letters plain]
      exact (Item.ofWords_cluster_attached plain known takes given after).trans
        (congrArg (letters.map Item.ofLetter ++ ·) single.symm)

/-- After an option whose argument is two dashes, an attached header and a cluster with a method. -/
theorem ofWords_spelled_header :
    ofWords ["-o", "--", "--header=A: b", "https://x.test"] =
        ofWords ["-o", "--", "-HA: b", "https://x.test"] ∧
      ofWords ["-o", "--", "-sLXPUT", "https://x.test"] =
        ofWords ["-o", "--", "-s", "-L", "-XPUT", "https://x.test"] := by
  have complete : Item.isComplete ["-o", "--"] = true := by decide
  have letters : ∀ c ∈ ['s', 'L'], Flag.letterTakes? c = some false :=
    List.forall_mem_cons.2 ⟨rfl, List.forall_mem_singleton.2 rfl⟩
  obtain ⟨spelled, clustered⟩ := ofWords_spelled complete ["https://x.test"]
  constructor
  · exact (spelled "header" 'H' .header (by decide) (by decide) rfl "A: b" ["--header=A: b"]
      (by decide)).2 ["-HA: b"] (by decide)
  · exact ((clustered ['s', 'L'] letters).2 'X' .method (by decide) rfl "PUT").2 (by decide)

end Command

end RequestScribe
