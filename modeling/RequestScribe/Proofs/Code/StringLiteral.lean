import RequestScribe.Code.StringLiteral
import RequestScribe.Proofs.Code.Layout

/-!
# Reading single-quoted literals

A reader goes through program text and collects what its single-quoted literals
stand for.  Between the quotes only an escaped backslash and an escaped quote
are special; everything else, line breaks included, stands for itself.  Text in
which the quotes are just those of some literals is read as these literals, and
when its lines are indented, each literal is read as its text with the lines
indented.
-/

namespace RequestScribe

namespace StringLiteral

/-- Where a reader stands; inside of a literal it has read some characters, latest first. -/
inductive Place where
  | outside
  | inside (latest : List Char)
  /-- After a backslash. -/
  | escaped (latest : List Char)

/-- What the single-quoted literals of a text stand for. -/
def readSingle : Place → List Char → List (List Char)
  | _, [] => []
  | .outside, c :: rest => if c = '\'' then readSingle (.inside []) rest else readSingle .outside rest
  | .inside latest, c :: rest =>
      if c = '\'' then latest.reverse :: readSingle .outside rest
      else if c = '\\' then readSingle (.escaped latest) rest
      else readSingle (.inside (c :: latest)) rest
  | .escaped latest, c :: rest =>
      if c = '\\' ∨ c = '\'' then readSingle (.inside (c :: latest)) rest
      else readSingle (.inside (c :: '\\' :: latest)) rest

def singleQuoted (text : List Char) : List (List Char) :=
  readSingle .outside text

theorem plainCharacter_cases (c : Char) :
    (c = '\\' ∨ c = '\'') ∧ plainCharacter c = ['\\', c] ∨
      (c ≠ '\\' ∧ c ≠ '\'') ∧ plainCharacter c = [c] := by
  by_cases backslash : c = '\\'
  · exact .inl ⟨.inl backslash, by rw [plainCharacter, if_pos backslash, backslash]⟩
  · by_cases quote : c = '\''
    · exact .inl ⟨.inr quote, by rw [plainCharacter, if_neg backslash, if_pos quote, quote]⟩
    · exact .inr ⟨⟨backslash, quote⟩, by rw [plainCharacter, if_neg backslash, if_neg quote]⟩

theorem flatMap_plainCharacter_eq_self {cs : List Char} (plain : ∀ c ∈ cs, c ≠ '\\' ∧ c ≠ '\'') :
    cs.flatMap plainCharacter = cs := by
  induction cs with
  | nil => rfl
  | cons c rest ih =>
      obtain ⟨here, later⟩ := List.forall_mem_cons.1 plain
      rw [List.flatMap_cons, plainCharacter, if_neg here.1, if_neg here.2, ih later]
      rfl

theorem readSingle_outside_append {start : List Char} (absent : '\'' ∉ start) (rest : List Char) :
    readSingle .outside (start ++ rest) = readSingle .outside rest := by
  induction start with
  | nil => rfl
  | cons c start ih =>
      rw [List.mem_cons, not_or] at absent
      rw [List.cons_append, readSingle, if_neg (Ne.symm absent.1), ih absent.2]

theorem readSingle_inside_append (latest cs rest : List Char) :
    readSingle (.inside latest) (cs.flatMap plainCharacter ++ '\'' :: rest) =
      (latest.reverse ++ cs) :: readSingle .outside rest := by
  induction cs generalizing latest with
  | nil => simp [readSingle]
  | cons c cs ih =>
      have later := ih (c :: latest)
      rw [List.reverse_cons, List.append_assoc, List.singleton_append] at later
      rw [List.flatMap_cons, List.append_assoc]
      rcases plainCharacter_cases c with ⟨special, written⟩ | ⟨⟨backslash, quote⟩, written⟩
      · rw [written, List.cons_append, List.singleton_append, readSingle, if_neg (by decide),
          if_pos rfl, readSingle, if_pos special, later]
      · rw [written, List.singleton_append, readSingle, if_neg quote, if_neg backslash, later]

/-! ## Indented text -/

variable {indent : List Char}

theorem head?_flatMap_plainCharacter (cs : List Char) :
    ((cs.flatMap plainCharacter).head? == some '\n') = (cs.head? == some '\n') := by
  cases cs with
  | nil => rfl
  | cons c rest =>
      rw [List.flatMap_cons]
      rcases plainCharacter_cases c with ⟨rfl | rfl, written⟩ | ⟨-, written⟩
      · rw [written]
        rfl
      · rw [written]
        rfl
      · rw [written]
        rfl

theorem startsEmpty_flatMap_plainCharacter (cs : List Char) :
    Chars.startsEmpty (cs.flatMap plainCharacter) = Chars.startsEmpty cs := by
  cases cs with
  | nil => rfl
  | cons c rest =>
      rw [List.flatMap_cons]
      rcases plainCharacter_cases c with ⟨rfl | rfl, written⟩ | ⟨-, written⟩
      · rw [written]
        rfl
      · rw [written]
        rfl
      · rw [written, List.singleton_append, Chars.startsEmpty, Chars.startsEmpty,
          head?_flatMap_plainCharacter]

/-- Indenting goes on under the escapes, since an indent has nothing to escape. -/
theorem reindent_flatMap_plainCharacter (plain : indent.flatMap plainCharacter = indent)
    (cs : List Char) :
    Chars.reindent indent (cs.flatMap plainCharacter) =
      (Chars.reindent indent cs).flatMap plainCharacter := by
  induction cs with
  | nil => rfl
  | cons c rest ih =>
      have head : (rest.flatMap plainCharacter).head? = some '\n' ↔ rest.head? = some '\n' := by
        rw [← beq_iff_eq, head?_flatMap_plainCharacter, beq_iff_eq]
      have empty := startsEmpty_flatMap_plainCharacter rest
      rw [List.flatMap_cons, Chars.reindent]
      -- Line breaks are written as they are, and what decides about the indent is not escaped.
      by_cases feed : c = '\n'
      · subst feed
        have itself : plainCharacter '\n' = ['\n'] := by decide
        rw [itself, if_pos rfl, List.singleton_append, Chars.reindent, if_pos rfl, empty, ih,
          List.flatMap_cons, itself, List.flatMap_append]
        split
        · rfl
        · rw [plain]
          rfl
      · rw [if_neg feed]
        by_cases carriage : c = '\r'
        · subst carriage
          have itself : plainCharacter '\r' = ['\r'] := by decide
          rw [itself, List.singleton_append, Chars.reindent, if_neg feed]
          simp only [head]
          split
          · exact ih
          · rw [List.flatMap_cons, itself, ih]
            rfl
        · have none : ∀ d ∈ plainCharacter c, d ≠ '\n' ∧ d ≠ '\r' := by
            rcases plainCharacter_cases c with ⟨-, written⟩ | ⟨-, written⟩
            · rw [written]
              simpa using ⟨feed, carriage⟩
            · rw [written]
              simpa using ⟨feed, carriage⟩
          rw [if_neg fun h => carriage h.1, Chars.reindent_append none, ih, List.flatMap_cons]

/-! ## Text and its literals -/

/-- Text whose quotes are those of literals for some texts, in order. -/
inductive Spells : List Char → List (List Char) → Prop where
  | plain {start : List Char} : '\'' ∉ start → Spells start []
  | literal {start rest : List Char} (cs : List Char) {texts : List (List Char)} :
      '\'' ∉ start → Spells rest texts →
        Spells (start ++ '\'' :: (cs.flatMap plainCharacter ++ '\'' :: rest)) (cs :: texts)

theorem Spells.plain_append {start text : List Char} {texts : List (List Char)}
    (absent : '\'' ∉ start) (h : Spells text texts) : Spells (start ++ text) texts := by
  cases h with
  | plain absent' => exact .plain fun mem => (List.mem_append.1 mem).elim absent absent'
  | literal cs absent' later =>
      rw [← List.append_assoc]
      exact .literal cs (fun mem => (List.mem_append.1 mem).elim absent absent') later

theorem Spells.append {a b : List Char} {as bs : List (List Char)} (ha : Spells a as)
    (hb : Spells b bs) : Spells (a ++ b) (as ++ bs) := by
  induction ha with
  | plain absent => exact hb.plain_append absent
  | literal cs absent _ ih =>
      have whole := Spells.literal cs absent ih
      simpa using whole

theorem spells_singlePlain (s : String) : Spells (singlePlain s).toList [s.toList] := by
  have empty : '\'' ∉ ([] : List Char) := List.not_mem_nil
  have whole := Spells.literal s.toList empty (.plain empty)
  simpa [singlePlain, enclose] using whole

/-- Literals in a text with indented lines are read as their texts with indented lines. -/
theorem Spells.singleQuoted_reindent {text : List Char} {texts : List (List Char)}
    (h : Spells text texts) (absent : '\'' ∉ indent)
    (plain : indent.flatMap plainCharacter = indent) {after : List Char}
    (silent : '\'' ∉ after) :
    singleQuoted (Chars.reindent indent text ++ after) = texts.map (Chars.reindent indent) := by
  have apart (before after : List Char) : Chars.reindent indent (before ++ '\'' :: after) =
      Chars.reindent indent before ++ '\'' :: Chars.reindent indent after :=
    Chars.reindent_append_cons (by decide) (by decide) before after
  have skipped {start : List Char} (h : '\'' ∉ start) : '\'' ∉ Chars.reindent indent start :=
    fun mem => (Chars.mem_reindent mem).elim h absent
  induction h with
  | plain outside =>
      rw [singleQuoted, readSingle_outside_append (skipped outside)]
      have read := readSingle_outside_append silent []
      rwa [List.append_nil] at read
  | literal cs outside _ ih =>
      rw [apart, apart, reindent_flatMap_plainCharacter plain, singleQuoted, List.append_assoc,
        readSingle_outside_append (skipped outside), List.cons_append, readSingle, if_pos rfl,
        List.append_assoc, List.cons_append, readSingle_inside_append, List.map_cons, ← ih]
      rfl

end StringLiteral

end RequestScribe
