import RequestScribe.Proofs.Code.StringDenotation
import RequestScribe.Proofs.Program.GoPayload
import RequestScribe.Proofs.Shape.Declared

/-!
# Tags of Go fields

The key of a field stands in three notations: a raw string is the tag, the tag has
a quoted string for JSON, and in this string a comma ends the key.  The writer
only cares about quotes in the key, so a key comes back if it has nothing else
that one of the notations takes for its own.
-/

namespace RequestScribe

namespace Units

theorem utf8_of_ascii {c : Char} (ascii : c.toNat < 0x80) : utf8 c = [c.toNat] := by
  have small : c.toNat % 256 = c.toNat := Nat.mod_eq_of_lt (by omega)
  have bytes : Utf8.encode [c] = [UInt8.ofNat c.toNat] := by
    rw [Utf8.encode_cons, Utf8.encode_of_ascii ascii]
    rfl
  simp [utf8, bytes, small]

theorem length_utf8 (c : Char) : 0 < (utf8 c).length ∧ (utf8 c).length ≤ 4 := by
  have bytes : Utf8.encode [c] = String.utf8EncodeChar c := List.append_nil _
  rw [utf8, List.length_map, bytes, String.length_utf8EncodeChar]
  exact ⟨c.utf8Size_pos, c.utf8Size_le_four⟩

theorem length_utf8?_le {n : Nat} {bytes : List Nat} (h : utf8? n = some bytes) :
    bytes.length ≤ 4 := by
  unfold utf8? at h
  split at h
  · obtain rfl := Option.some.inj h
    exact (length_utf8 _).2
  · cases h

/-- The byte of an ASCII character is no part of another character. -/
theorem mem_utf8_iff {c d : Char} (ascii : d.toNat < 0x80) : d.toNat ∈ utf8 c ↔ c = d := by
  constructor
  · intro mem
    by_cases wide : c.toNat < 0x80
    · rw [utf8_of_ascii wide, List.mem_singleton] at mem
      exact (Char.toNat_inj.1 mem).symm
    · have bytes : Utf8.encode [c] = String.utf8EncodeChar c := List.append_nil _
      rw [utf8, bytes] at mem
      obtain ⟨b, held, same⟩ := List.mem_map.1 mem
      have high := Utf8.le_of_mem_utf8EncodeChar (Nat.not_lt.1 wide) held
      omega
  · rintro rfl
    rw [utf8_of_ascii ascii]
    exact List.mem_singleton_self _

end Units

namespace Go

/-! ## Reading a tag -/

def leadingName (units : List Nat) : List Nat :=
  units.takeWhile (· != ','.toNat)

/-- The name that a tag, written as a raw string, gives a field in JSON. -/
def jsonName? (written : List Char) : Option (List Nat) :=
  match readLiteral written with
  | some ('j' :: 's' :: 'o' :: 'n' :: ':' :: value, []) =>
      match StringGrammar.go.read? value with
      | some (units, []) => some (leadingName units)
      | _ => none
  | _ => none

/-- The characters that mean something in one of the three notations. -/
def isTagCharacter (c : Char) : Bool :=
  !(['\x60', '\\', ',', '\n', '\r'].contains c)

def tagCharacter (c : Char) : List Char :=
  if c = '"' then ['\\', '"'] else [c]

def tagEnding (f : Field) : List Char :=
  if f.optional then ",omitempty\"".toList else ['"']

theorem toList_fieldTag (f : Field) :
    (fieldTag f).toList =
      "json:\"".toList ++ (f.key.toList.flatMap tagCharacter ++ tagEnding f) := by
  have same : f.key.toList.flatMap tagCharacter =
      f.key.toList.flatMap fun c => if c = '"' then ['\\', '"'] else [c] := rfl
  unfold fieldTag tagEnding Text.replaceChar
  cases f.optional <;> simp [same]

/-! ## How much is read -/

/-- The bytes of a text, quotes not counted. -/
def weight : List Char → Nat
  | [] => 0
  | c :: cs => (if c = '"' then 0 else (Units.utf8 c).length) + weight cs

@[simp] theorem weight_nil : weight [] = 0 := rfl

theorem weight_cons (c : Char) (cs : List Char) :
    weight (c :: cs) = (if c = '"' then 0 else (Units.utf8 c).length) + weight cs := rfl

theorem weight_append (a b : List Char) : weight (a ++ b) = weight a + weight b := by
  induction a with
  | nil => rw [List.nil_append, weight_nil, Nat.zero_add]
  | cons c a ih => rw [List.cons_append, weight_cons, weight_cons, ih, Nat.add_assoc]

theorem length_le_weight {cs : List Char} (unquoted : '"' ∉ cs) : cs.length ≤ weight cs := by
  induction cs with
  | nil => exact Nat.le_refl 0
  | cons c cs ih =>
      rw [List.mem_cons, not_or] at unquoted
      have own := (Units.length_utf8 c).1
      have later := ih unquoted.2
      rw [weight_cons, if_neg (Ne.symm unquoted.1), List.length_cons]
      omega

theorem hexValue?_of_hexNumber? {cs : List Char} {n : Nat}
    (h : StringGrammar.hexNumber? cs = some n) : ∀ c ∈ cs, (Chars.hexValue? c).isSome := by
  unfold StringGrammar.hexNumber? at h
  generalize 0 = start at h
  induction cs generalizing start with
  | nil => exact List.forall_mem_nil _
  | cons c cs ih =>
      rw [List.foldlM_cons] at h
      obtain ⟨next, first, later⟩ := Option.bind_eq_some_iff.1 h
      obtain ⟨v, digit, -⟩ := Option.map_eq_some_iff.1 first
      exact List.forall_mem_cons.2 ⟨Option.isSome_iff_exists.2 ⟨v, digit⟩, ih next later⟩

/--
The characters of an escape are no commas, and only an escaped quote denotes more
than they weigh.
-/
structure Taken (text : List Char) (here : List Nat) (taken : Nat) : Prop where
  plain : ',' ∉ text.take taken
  bound : here.length ≤ weight (text.take taken) ∨ text.head? = some '"' ∧ here.length = 1

theorem taken_hex {mark : Char} (letter : mark ≠ ',' ∧ mark ≠ '"') {width n : Nat}
    {rest : List Char} (digits : StringGrammar.hexAt? width rest = some n) {here : List Nat}
    (small : here.length ≤ width + 1) : Taken (mark :: rest) here (width + 1) := by
  unfold StringGrammar.hexAt? at digits
  split at digits
  · next fits =>
      have known := hexValue?_of_hexNumber? digits
      have other {c : Char} (unknown : Chars.hexValue? c = none) : c ∉ rest.take width := by
        intro mem
        have digit := known c mem
        rw [unknown] at digit
        cases digit
      have unquoted : '"' ∉ mark :: rest.take width := by
        rw [List.mem_cons, not_or]
        exact ⟨Ne.symm letter.2, other rfl⟩
      have length := length_le_weight unquoted
      rw [List.length_cons, List.length_take, Nat.min_eq_left fits] at length
      constructor
      · rw [List.take_succ_cons, List.mem_cons, not_or]
        exact ⟨Ne.symm letter.1, other rfl⟩
      · rw [List.take_succ_cons]
        exact .inl (by omega)
  · cases digits

theorem taken_octal {c : Char} {rest : List Char}
    (octal : (c :: rest.take 2).all StringGrammar.isOctal = true) (n : Nat) :
    Taken (c :: rest) [n] 3 := by
  have known := List.all_eq_true.1 octal
  have other {d : Char} (unknown : StringGrammar.isOctal d = false) : d ∉ c :: rest.take 2 := by
    intro mem
    rw [known d mem] at unknown
    cases unknown
  have length := length_le_weight (other (d := '"') (by decide))
  constructor
  · rw [List.take_succ_cons]
    exact other (by decide)
  · rw [List.take_succ_cons]
    rw [List.length_cons] at length
    exact .inl (by rw [List.length_singleton]; omega)

theorem taken_letter {c d : Char} {rest : List Char}
    (known : (c, d) ∈ ('\\', '\\') :: ('"', '"') :: ('a', '\x07') :: StringGrammar.controlLetters) :
    Taken (c :: rest) (Units.utf8 d) 1 := by
  have each : (('\\', '\\') :: ('"', '"') :: ('a', '\x07') :: StringGrammar.controlLetters).all
      (fun p => p.1 ≠ ',' ∧ (Units.utf8 p.2).length = 1 ∧ (weight [p.1] = 1 ∨ p.1 = '"')) = true := by
    decide
  obtain ⟨other, single, weighs⟩ := of_decide_eq_true (List.all_eq_true.1 each (c, d) known)
  constructor
  · simpa using Ne.symm other
  · rcases weighs with one | rfl
    · exact .inl (by simpa using (single.trans one.symm).le)
    · exact .inr ⟨rfl, single⟩

theorem taken_of_escape {text : List Char} {here : List Nat} {taken : Nat}
    (h : StringGrammar.goEscape? text = some (here, taken)) : Taken text here taken := by
  unfold StringGrammar.goEscape? at h
  split at h
  · cases h
  · obtain ⟨n, digits, same⟩ := Option.map_eq_some_iff.1 h
    obtain ⟨rfl, rfl⟩ := Prod.mk.inj same
    exact taken_hex (by decide) digits (by simp)
  · obtain ⟨bytes, made, same⟩ := Option.map_eq_some_iff.1 h
    obtain ⟨rfl, rfl⟩ := Prod.mk.inj same
    obtain ⟨n, digits, char⟩ := Option.bind_eq_some_iff.1 made
    exact taken_hex (by decide) digits (Nat.le_trans (Units.length_utf8?_le char) (by decide))
  · obtain ⟨bytes, made, same⟩ := Option.map_eq_some_iff.1 h
    obtain ⟨rfl, rfl⟩ := Prod.mk.inj same
    obtain ⟨n, digits, char⟩ := Option.bind_eq_some_iff.1 made
    exact taken_hex (by decide) digits (Nat.le_trans (Units.length_utf8?_le char) (by decide))
  · split at h
    · dsimp only at h
      split at h
      · next octal =>
          obtain ⟨rfl, rfl⟩ := Prod.mk.inj (Option.some.inj h)
          simp only [Bool.and_eq_true] at octal
          exact taken_octal octal.1.2 _
      · cases h
    · obtain ⟨d, found, same⟩ := Option.map_eq_some_iff.1 h
      obtain ⟨rfl, rfl⟩ := Prod.mk.inj same
      obtain ⟨before, after, split, -⟩ := List.lookup_eq_some_iff.1 found
      exact taken_letter (by rw [split]; simp)

def beforeComma (text : List Char) : List Char :=
  text.takeWhile (· != ',')

theorem leadingName_append_le (a b : List Nat) :
    (leadingName (a ++ b)).length ≤ a.length + (leadingName b).length := by
  induction a with
  | nil => simp
  | cons x a ih =>
      rw [List.cons_append, leadingName, List.takeWhile_cons]
      split
      · rw [List.length_cons, List.length_cons]
        have later : (List.takeWhile (· != ','.toNat) (a ++ b)).length ≤ _ := ih
        omega
      · simp

theorem beforeComma_append {a : List Char} (plain : ',' ∉ a) (b : List Char) :
    beforeComma (a ++ b) = a ++ beforeComma b := by
  refine List.takeWhile_append_of_pos fun c mem => ?_
  exact bne_iff_ne.2 fun same => plain (same ▸ mem)

/-- The name is read from what stands in front of the first comma, and is not longer than that. -/
theorem length_leadingName_le {skip : Nat} {text : List Char} {units : List Nat} {after : List Char}
    (h : StringGrammar.go.readFrom skip text = some (units, after)) :
    (leadingName units).length ≤ weight (beforeComma (text.drop skip)) := by
  induction text generalizing skip units with
  | nil => cases h
  | cons c rest ih =>
      cases skip with
      | succ skip => exact ih h
      | zero =>
          rw [List.drop_zero]
          obtain ⟨-, rfl⟩ | ⟨rfl, here, taken, later, escape, read, rfl⟩ |
            ⟨other, -, -, later, read, rfl⟩ := StringGrammar.readFrom_cases h
          · exact Nat.zero_le _
          · have known := taken_of_escape escape
            have behind := ih read
            have split : '\\' :: rest = ('\\' :: rest.take taken) ++ rest.drop taken := by
              rw [List.cons_append, List.take_append_drop]
            have plain : ',' ∉ '\\' :: rest.take taken := by
              rw [List.mem_cons, not_or]
              exact ⟨by decide, known.plain⟩
            have one : weight ['\\'] = 1 := by decide
            have first : weight ('\\' :: rest.take taken) = 1 + weight (rest.take taken) := by
              rw [← one, ← weight_append]
              rfl
            have bound : here.length ≤ 1 + weight (rest.take taken) := by
              rcases known.bound with small | ⟨-, single⟩ <;> omega
            have whole := leadingName_append_le here later
            rw [split, beforeComma_append plain, weight_append, first]
            omega
          · by_cases comma : c = ','
            · subst comma
              exact Nat.zero_le _
            · have behind := ih read
              have whole := leadingName_append_le (Units.utf8 c) later
              have unquoted : c ≠ '"' := other
              have plain : ',' ∉ [c] := by simpa using Ne.symm comma
              rw [← List.singleton_append, beforeComma_append plain, weight_append, weight_cons,
                if_neg unquoted]
              rw [List.drop_zero] at behind
              simp only [weight_nil]
              exact Nat.le_trans whole (by omega)

/-- A key weighs at most its bytes, whatever follows it in the tag. -/
theorem weight_tag_le (f : Field) (cs : List Char) :
    weight (beforeComma (cs.flatMap tagCharacter ++ tagEnding f)) ≤
      (cs.flatMap Units.utf8).length := by
  induction cs with
  | nil =>
      unfold tagEnding
      cases f.optional <;> decide
  | cons c cs ih =>
      rw [List.flatMap_cons, List.flatMap_cons, List.append_assoc, List.length_append]
      have own := (Units.length_utf8 c).1
      by_cases quote : c = '"'
      · have plain : ',' ∉ tagCharacter c := by
          rw [quote]
          decide
        have one : weight (tagCharacter c) = 1 := by
          rw [quote]
          decide
        rw [beforeComma_append plain, weight_append, one]
        omega
      · rw [tagCharacter, if_neg quote]
        by_cases comma : c = ','
        · rw [comma]
          exact Nat.zero_le _
        · have plain : ',' ∉ [c] := by simpa using Ne.symm comma
          rw [beforeComma_append plain, weight_append, weight_cons, if_neg quote]
          simp only [weight_nil]
          omega

/-! ## Keys -/

theorem leadingName_append {a : List Nat} (plain : ','.toNat ∉ a) (b : List Nat) :
    leadingName (a ++ b) = a ++ leadingName b := by
  refine List.takeWhile_append_of_pos fun n mem => ?_
  exact bne_iff_ne.2 fun same => plain (same ▸ mem)

theorem comma_not_mem_utf8 {c : Char} (other : c ≠ ',') : ','.toNat ∉ Units.utf8 c :=
  fun mem => other ((Units.mem_utf8_iff (by decide)).1 mem)

/-- An escaped quote that starts in a key does not end the tag. -/
theorem head?_tag_ne {f : Field} {cs : List Char} {here : List Nat} {taken : Nat}
    {later : List Nat} {after : List Char}
    (escape : StringGrammar.goEscape? (cs.flatMap tagCharacter ++ tagEnding f) = some (here, taken))
    (read : StringGrammar.go.readFrom taken (cs.flatMap tagCharacter ++ tagEnding f) =
      some (later, after)) :
    (cs.flatMap tagCharacter ++ tagEnding f).head? ≠ some '"' := by
  intro head
  cases cs with
  | nil =>
      unfold tagEnding at escape read head
      cases optional : f.optional with
      | true =>
          rw [optional] at head
          exact absurd head (by decide)
      | false =>
          rw [optional] at escape read
          have quote : StringGrammar.goEscape? ['"'] = some ([34], 1) := rfl
          obtain ⟨-, rfl⟩ := Prod.mk.inj (Option.some.inj (quote.symm.trans escape))
          cases read
  | cons d cs =>
      rw [List.flatMap_cons, tagCharacter] at head
      split at head
      · exact absurd head (by simp)
      · next other => exact other (Option.some.inj head)

/-- If the name is the whole key, nothing in the key was an escape, a comma or a line feed. -/
theorem plain_of_leadingName_eq {f : Field} {cs : List Char} {units : List Nat} {after : List Char}
    (h : StringGrammar.go.readFrom 0 (cs.flatMap tagCharacter ++ tagEnding f) = some (units, after))
    (same : leadingName units = cs.flatMap Units.utf8) : ∀ c ∈ cs, c ≠ '\\' ∧ c ≠ ',' ∧ c ≠ '\n' := by
  induction cs generalizing units with
  | nil => exact List.forall_mem_nil _
  | cons c cs ih =>
      rw [List.flatMap_cons, List.append_assoc] at h
      rw [List.flatMap_cons] at same
      by_cases quote : c = '"'
      · subst quote
        obtain ⟨no, -⟩ | ⟨-, here, taken, later, escape, read, rfl⟩ | ⟨-, no, -⟩ :=
          StringGrammar.readFrom_cases h
        · exact absurd no (by decide)
        · have itself : StringGrammar.go.escape? ('"' :: (cs.flatMap tagCharacter ++ tagEnding f)) =
              some ([34], 1) := rfl
          obtain ⟨rfl, rfl⟩ := Prod.mk.inj (Option.some.inj (itself.symm.trans escape))
          have key : leadingName later = cs.flatMap Units.utf8 := by
            rw [leadingName_append (by decide)] at same
            exact List.append_cancel_left same
          exact List.forall_mem_cons.2 ⟨by decide, ih read key⟩
        · exact absurd rfl no
      · rw [tagCharacter, if_neg quote, List.singleton_append] at h
        obtain ⟨no, -⟩ | ⟨rfl, here, taken, later, escape, read, rfl⟩ |
          ⟨-, unescaped, whole, later, read, rfl⟩ := StringGrammar.readFrom_cases h
        · exact absurd no quote
        · -- An escape denotes no more than what it takes, so the backslash itself is missing.
          have known := taken_of_escape escape
          have unquoted := head?_tag_ne escape read
          have first := leadingName_append_le here later
          have behind := length_leadingName_le read
          have all := weight_tag_le f cs
          rw [← List.take_append_drop taken (cs.flatMap tagCharacter ++ tagEnding f),
            beforeComma_append known.plain, weight_append] at all
          have one : (Units.utf8 '\\').length = 1 := by decide
          have lengths := congrArg List.length same
          rw [List.length_append, one] at lengths
          rcases known.bound with small | ⟨head, -⟩
          · omega
          · exact absurd head unquoted
        · have feed : c ≠ '\n' := fun same => whole (same ▸ List.mem_singleton_self _)
          by_cases comma : c = ','
          · subst comma
            exact absurd same (by simp [leadingName, StringGrammar.go, Units.utf8_of_ascii])
          · have key : leadingName later = cs.flatMap Units.utf8 := by
              have split : leadingName (Units.utf8 c ++ later) = Units.utf8 c ++ leadingName later :=
                leadingName_append (comma_not_mem_utf8 comma) later
              exact List.append_cancel_left (split.symm.trans same)
            exact List.forall_mem_cons.2 ⟨⟨unescaped, comma, feed⟩, ih read key⟩

/-- A text has more bytes than what is left of it when some of its characters are dropped. -/
theorem length_filter_le (p : Char → Bool) (cs : List Char) :
    ((cs.filter p).flatMap Units.utf8).length ≤ (cs.flatMap Units.utf8).length ∧
      ((cs.flatMap Units.utf8).length ≤ ((cs.filter p).flatMap Units.utf8).length →
        ∀ c ∈ cs, p c = true) := by
  induction cs with
  | nil => exact ⟨Nat.le_refl 0, fun _ => List.forall_mem_nil _⟩
  | cons c cs ih =>
      have own := (Units.length_utf8 c).1
      obtain ⟨shorter, all⟩ := ih
      by_cases kept : p c = true
      · rw [List.filter_cons_of_pos kept]
        simp only [List.flatMap_cons, List.length_append]
        refine ⟨by omega, fun whole => List.forall_mem_cons.2 ⟨kept, all (by omega)⟩⟩
      · rw [List.filter_cons_of_neg kept]
        simp only [List.flatMap_cons, List.length_append]
        exact ⟨by omega, fun whole => by omega⟩

theorem filter_tag (f : Field) (cs : List Char) :
    (cs.flatMap tagCharacter ++ tagEnding f).filter (· != '\r') =
      (cs.filter (· != '\r')).flatMap tagCharacter ++ tagEnding f := by
  have ending : (tagEnding f).filter (· != '\r') = tagEnding f := by
    unfold tagEnding
    cases f.optional <;> rfl
  rw [List.filter_append, ending]
  congr 1
  induction cs with
  | nil => rfl
  | cons c cs ih =>
      rw [List.flatMap_cons, List.filter_append, ih]
      by_cases carriage : c = '\r'
      · subst carriage
        rfl
      · have kept (rest : List Char) : (c :: rest).filter (· != '\r') = c :: rest.filter (· != '\r') :=
          List.filter_cons_of_pos (bne_iff_ne.2 carriage)
        rw [kept, List.flatMap_cons]
        congr 1
        unfold tagCharacter
        split
        · rfl
        · exact kept []

/-- Of a key without special characters everything is read. -/
theorem read?_tag {f : Field} (plain : ∀ c ∈ f.key.toList, isTagCharacter c = true) :
    ∃ units, StringGrammar.go.read? ('"' :: (f.key.toList.flatMap tagCharacter ++ tagEnding f)) =
      some (units, []) ∧ leadingName units = f.key.toList.flatMap Units.utf8 := by
  have special {c : Char} (mem : c ∈ f.key.toList) : c ∉ ['\x60', '\\', ',', '\n', '\r'] := by
    have known := plain c mem
    simpa [isTagCharacter] using known
  have key : StringGrammar.go.Reads (f.key.toList.flatMap tagCharacter)
      (f.key.toList.flatMap Units.utf8) := by
    refine .flatMap fun c mem => ?_
    have other := special mem
    simp only [List.mem_cons, List.not_mem_nil, or_false, not_or] at other
    unfold tagCharacter
    split
    · next quote =>
        subst quote
        exact .escaped (by decide) fun _ => rfl
    · next unquoted =>
        exact .plain unquoted other.2.1 (by simpa [StringGrammar.go] using other.2.2.2.1)
  have whole : leadingName (f.key.toList.flatMap Units.utf8) = f.key.toList.flatMap Units.utf8 ∧
      ∀ rest, leadingName (f.key.toList.flatMap Units.utf8 ++ ','.toNat :: rest) =
        f.key.toList.flatMap Units.utf8 := by
    have unseparated : ','.toNat ∉ f.key.toList.flatMap Units.utf8 := by
      intro mem
      obtain ⟨c, held, own⟩ := List.mem_flatMap.1 mem
      exact comma_not_mem_utf8 (fun same => special held (by simp [same])) own
    have none : leadingName [] = [] := rfl
    refine ⟨?_, fun rest => ?_⟩
    · rw [← List.append_nil (f.key.toList.flatMap Units.utf8), leadingName_append unseparated, none]
    · have ended : leadingName (','.toNat :: rest) = [] := rfl
      rw [leadingName_append unseparated, ended, List.append_nil]
  have opens (text : List Char) : StringGrammar.go.read? ('"' :: text) =
      StringGrammar.go.readFrom 0 text := rfl
  rw [opens]
  unfold tagEnding
  cases f.optional with
  | false => exact ⟨_, key.closed [], whole.1⟩
  | true =>
      let option : List Char := ",omitempty".toList
      have letters : option.all
          (fun c => c ≠ '"' ∧ c ≠ '\\' ∧ c ∉ StringGrammar.go.breaks) = true := by decide
      have omitted : StringGrammar.go.Reads (option.flatMap fun c => [c])
          (option.flatMap Units.utf8) := by
        refine .flatMap fun c mem => ?_
        obtain ⟨unquoted, unescaped, whole⟩ := of_decide_eq_true (List.all_eq_true.1 letters c mem)
        exact .plain unquoted unescaped whole
      have both := (key.append omitted).closed []
      rw [List.append_assoc] at both
      exact ⟨_, both, whole.2 _⟩

theorem toList_raw (tag : String) :
    ("\x60" ++ tag ++ "\x60").toList = '\x60' :: (tag.toList ++ ['\x60']) := by
  simp

/-- A text between backticks that is one literal has no backtick, and loses carriage returns. -/
theorem eq_of_readLiteral {tag content : List Char}
    (h : readLiteral ('\x60' :: (tag ++ ['\x60'])) = some (content, [])) :
    '\x60' ∉ tag ∧ content = tag.filter (· != '\r') := by
  rw [readLiteral] at h
  obtain ⟨⟨text, rest⟩, cut, raw⟩ := Option.map_eq_some_iff.1 h
  obtain ⟨rfl, rfl⟩ := Prod.mk.inj raw
  obtain ⟨same, whole⟩ := Chars.cut?_eq_some_iff.1 cut
  obtain rfl := List.append_cancel_right same
  exact ⟨whole, rfl⟩

/-- What is read where a tag gives a name. -/
theorem exists_of_jsonName? {f : Field} {bytes : List Nat}
    (h : jsonName? ("\x60" ++ fieldTag f ++ "\x60").toList = some bytes) :
    '\x60' ∉ (fieldTag f).toList ∧ ∃ units,
      StringGrammar.go.readFrom 0
        ((f.key.toList.filter (· != '\r')).flatMap tagCharacter ++ tagEnding f) =
          some (units, []) ∧ leadingName units = bytes := by
  rw [toList_raw] at h
  unfold jsonName? at h
  split at h
  · next value read =>
      split at h
      · next units inside =>
          obtain ⟨whole, content⟩ := eq_of_readLiteral read
          rw [toList_fieldTag, List.filter_append, filter_tag] at content
          have both : "json:".toList ++ value = "json:".toList ++
              '"' :: ((f.key.toList.filter (· != '\r')).flatMap tagCharacter ++ tagEnding f) :=
            content
          rw [List.append_cancel_left both] at inside
          exact ⟨whole, units, inside, Option.some.inj h⟩
      · cases h
  · cases h

/-- A key that comes back from its tag has no special characters. -/
theorem isTagCharacter_of_jsonName? {f : Field}
    (named : jsonName? ("\x60" ++ fieldTag f ++ "\x60").toList =
      some (f.key.toList.flatMap Units.utf8)) : ∀ c ∈ f.key.toList, isTagCharacter c = true := by
  obtain ⟨whole, units, inside, key⟩ := exists_of_jsonName? named
  have length := length_leadingName_le inside
  rw [List.drop_zero, key] at length
  -- All bytes of the key come back, so no carriage return was dropped.
  have kept := (length_filter_le (· != '\r') f.key.toList).2
    (Nat.le_trans length (weight_tag_le f _))
  rw [List.filter_eq_self.2 kept] at inside
  intro c mem
  obtain ⟨backslash, comma, feed⟩ := plain_of_leadingName_eq inside key c mem
  have carriage : c ≠ '\r' := bne_iff_ne.1 (kept c mem)
  have tick : c ≠ '\x60' := by
    rintro rfl
    refine whole ?_
    rw [toList_fieldTag]
    refine List.mem_append_right _ (List.mem_append_left _ ?_)
    exact List.mem_flatMap.2 ⟨_, mem, List.mem_singleton_self _⟩
  simp [isTagCharacter, backslash, comma, feed, carriage, tick]

/-- A key without special characters comes back from its tag. -/
theorem jsonName?_eq_some {f : Field} (plain : ∀ c ∈ f.key.toList, isTagCharacter c = true) :
    jsonName? ("\x60" ++ fieldTag f ++ "\x60").toList =
      some (f.key.toList.flatMap Units.utf8) := by
  have special {c : Char} (mem : c ∈ f.key.toList) : c ≠ '\x60' ∧ c ≠ '\r' := by
    constructor
    · rintro rfl
      exact absurd (plain _ mem) (by decide)
    · rintro rfl
      exact absurd (plain _ mem) (by decide)
  have whole : '\x60' ∉ (fieldTag f).toList := not_mem_fieldTag fun mem => (special mem).1 rfl
  have kept : f.key.toList.filter (· != '\r') = f.key.toList :=
    List.filter_eq_self.2 fun c mem => bne_iff_ne.2 (special mem).2
  have unreturned : '\r' ∉ (fieldTag f).toList := by
    have dropped : (fieldTag f).toList.filter (· != '\r') = (fieldTag f).toList := by
      rw [toList_fieldTag, List.filter_append, filter_tag, kept]
      rfl
    intro mem
    rw [← dropped, List.mem_filter] at mem
    exact absurd mem.2 (by decide)
  have read := readLiteral_raw whole unreturned []
  obtain ⟨units, inside, key⟩ := read?_tag plain
  unfold jsonName?
  rw [toList_raw, read, toList_fieldTag]
  simp [inside, key]

end Go

/-! ## Declarations -/

def Code.literals (c : Code) : List String :=
  c.pieces.filterMap fun
    | .quoted written => some written
    | _ => none

namespace Go

theorem literals_declaration (indent : String) (d : Declaration) :
    (declaration indent d).literals =
      (structFields [] d.fields).map fun f => "\x60" ++ f.tag ++ "\x60" := by
  have fields : ∀ fs : List StructField,
      (Code.join (fs.map (fieldLine indent)) ++ ("\x7d" : Code)).literals =
        fs.map fun f => "\x60" ++ f.tag ++ "\x60" := by
    intro fs
    induction fs with
    | nil => rfl
    | cons f fs ih =>
        have first : (Code.join ((f :: fs).map (fieldLine indent)) ++ ("\x7d" : Code)).literals =
            ("\x60" ++ f.tag ++ "\x60") ::
              (Code.join (fs.map (fieldLine indent)) ++ ("\x7d" : Code)).literals := rfl
        rw [first, ih, List.map_cons]
  exact fields (structFields [] d.fields)

theorem map_tag_structFields (taken : List String) (fields : List Field) :
    (structFields taken fields).map StructField.tag = fields.map fieldTag := by
  induction fields generalizing taken with
  | nil => rfl
  | cons f fields ih =>
      rw [structFields, List.map_cons, List.map_cons]
      exact congrArg _ (ih _)

/--
A struct has one literal for each of its fields, in their order.  Read as a raw
string, as a quoted string in it and up to the first comma, it gives the key of
the field, byte for byte, just if the key has no backtick, backslash, comma, line
feed or carriage return.
-/
theorem declaration_jsonNames (indent : String) (d : Declaration) :
    List.Forall₂ (fun (written : String) (f : Field) =>
        jsonName? written.toList = some (f.key.toList.flatMap Units.utf8) ↔
          ∀ c ∈ f.key.toList, c ∉ ['\x60', '\\', ',', '\n', '\r'])
      (declaration indent d).literals d.fields := by
  have tags : (declaration indent d).literals =
      d.fields.map fun f => "\x60" ++ fieldTag f ++ "\x60" := by
    have quoted := congrArg (List.map fun tag => "\x60" ++ tag ++ "\x60")
      (map_tag_structFields [] d.fields)
    rw [List.map_map, List.map_map] at quoted
    exact (literals_declaration indent d).trans quoted
  rw [tags, List.forall₂_map_left_iff, List.forall₂_same]
  intro f _
  have special (c : Char) : isTagCharacter c = true ↔ c ∉ ['\x60', '\\', ',', '\n', '\r'] := by
    simp [isTagCharacter]
  simp only [← special]
  exact ⟨isTagCharacter_of_jsonName?, jsonName?_eq_some⟩

/-- A backslash and a letter in a key are read as an escape. -/
theorem declaration_jsonNames_backslash :
    let d : Declaration := ⟨"RequestBody", [⟨"a\\b", .integer, false⟩]⟩
    (declaration "\t" d).literals = ["\x60json:\"a\\b\"\x60"] ∧
      ((declaration "\t" d).literals.map fun written => jsonName? written.toList) = [some [97, 8]] ∧
      d.fields.map (fun f => f.key.toList.flatMap Units.utf8) = [[97, 92, 98]] := by
  decide +kernel

end Go

end RequestScribe
