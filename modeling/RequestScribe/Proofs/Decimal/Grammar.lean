import RequestScribe.Decimal.Numeral
import RequestScribe.Proofs.Text.Chars

/-!
# Texts that write numbers

Integers and finite numerals are read from the texts that write them, and from no others.
-/

namespace RequestScribe

namespace Chars

def IsDigits (cs : List Char) : Prop :=
  cs ≠ [] ∧ ∀ c ∈ cs, isDigit c = true

theorem isDigits_iff {cs : List Char} :
    (!cs.isEmpty && cs.all isDigit) = true ↔ IsDigits cs := by
  simp [IsDigits]

/-- Digits with at most one sign in front, and the integer that they write. -/
inductive WritesInt : List Char → Int → Prop
  | unsigned {digits : List Char} (h : IsDigits digits) : WritesInt digits (natValue digits)
  | plus {digits : List Char} (h : IsDigits digits) : WritesInt ('+' :: digits) (natValue digits)
  | minus {digits : List Char} (h : IsDigits digits) :
      WritesInt ('-' :: digits) (-(natValue digits : Int))

theorem readNat?_eq_some_iff {cs : List Char} {n : Nat} :
    readNat? cs = some n ↔
      ∃ digits, (cs = digits ∨ cs = '+' :: digits) ∧ IsDigits digits ∧ natValue digits = n := by
  unfold readNat?
  constructor
  · intro read
    dsimp only at read
    split at read <;> split at read
    · next rest spelled => exact ⟨rest, .inr rfl, isDigits_iff.1 spelled, Option.some.inj read⟩
    · exact absurd read (by simp)
    · next spelled => exact ⟨cs, .inl rfl, isDigits_iff.1 spelled, Option.some.inj read⟩
    · exact absurd read (by simp)
  · rintro ⟨digits, rfl | rfl, spelled, rfl⟩
    · split
      · next rest =>
          have plus := spelled.2 '+' List.mem_cons_self
          exact absurd plus (by decide)
      · exact if_pos (isDigits_iff.2 spelled)
    · exact if_pos (isDigits_iff.2 spelled)

theorem readInt?_eq_some_iff {cs : List Char} {n : Int} :
    readInt? cs = some n ↔ WritesInt cs n := by
  unfold readInt?
  constructor
  · intro read
    split at read
    · split at read
      · next spelled =>
          rw [← Option.some.inj read]
          exact .minus (isDigits_iff.1 spelled)
      · exact absurd read (by simp)
    · obtain ⟨k, natural, rfl⟩ := Option.map_eq_some_iff.1 read
      obtain ⟨digits, rfl | rfl, spelled, rfl⟩ := readNat?_eq_some_iff.1 natural
      · exact .unsigned spelled
      · exact .plus spelled
  · intro written
    cases written with
    | unsigned spelled =>
        split
        · next rest =>
            have minus := spelled.2 '-' List.mem_cons_self
            exact absurd minus (by decide)
        · rw [readNat?_eq_some_iff.2 ⟨_, .inl rfl, spelled, rfl⟩]
          rfl
    | plus spelled =>
        rw [readNat?_eq_some_iff.2 ⟨_, .inr rfl, spelled, rfl⟩]
        rfl
    | minus spelled => exact if_pos (isDigits_iff.2 spelled)

end Chars

namespace Numeral

/-! ## Without a sign -/

inductive WritesExponent : List Char → Int → Prop
  | none : WritesExponent [] 0
  | some {c : Char} {cs : List Char} {n : Int} (letter : c = 'e' ∨ c = 'E')
      (h : Chars.WritesInt cs n) : WritesExponent (c :: cs) n

theorem exponent?_eq_some_iff {cs : List Char} {n : Int} :
    exponent? cs = some n ↔ WritesExponent cs n := by
  constructor
  · intro read
    cases cs with
    | nil =>
        rw [← Option.some.inj read]
        exact .none
    | cons c rest =>
        rw [exponent?] at read
        split at read
        · next letter => exact .some letter (Chars.readInt?_eq_some_iff.1 read)
        · exact absurd read (by simp)
  · intro written
    cases written with
    | none => rfl
    | some letter h =>
        rw [exponent?, if_pos letter]
        exact Chars.readInt?_eq_some_iff.2 h

theorem WritesExponent.stop {cs : List Char} {n : Int} (h : WritesExponent cs n) :
    ∀ c ∈ cs.head?, Chars.isDigit c = false := by
  cases h with
  | none => simp
  | some letter _ => rcases letter with rfl | rfl <;> simp <;> decide

/-- Digits around at most one point, of which one side may be missing, and perhaps an exponent. -/
inductive WritesUnsigned : List Char → Numeral → Prop
  | whole {negative : Bool} {whole rest : List Char} {exponent : Int} (h : Chars.IsDigits whole)
      (after : WritesExponent rest exponent) :
      WritesUnsigned (whole ++ rest) { negative, whole, exponent }
  | point {negative : Bool} {whole fraction rest : List Char} {exponent : Int}
      (h : Chars.IsDigits (whole ++ fraction)) (after : WritesExponent rest exponent) :
      WritesUnsigned (whole ++ '.' :: (fraction ++ rest)) { negative, whole, fraction, exponent }

theorem unsigned?_eq_some_iff {negative : Bool} {cs : List Char} {n : Numeral} :
    unsigned? negative cs = some n ↔ WritesUnsigned cs n ∧ n.negative = negative := by
  constructor
  · intro read
    unfold unsigned? at read
    obtain ⟨whole, rest, first⟩ : ∃ whole rest, cs.span Chars.isDigit = (whole, rest) :=
      ⟨_, _, rfl⟩
    obtain ⟨rfl, inside, -⟩ := Chars.span_eq_iff.1 first
    rw [first] at read
    dsimp only at read
    split at read
    · next behind =>
        obtain ⟨fraction, rest, second⟩ :
            ∃ fraction rest, behind.span Chars.isDigit = (fraction, rest) := ⟨_, _, rfl⟩
        obtain ⟨rfl, inside', -⟩ := Chars.span_eq_iff.1 second
        rw [second] at read
        dsimp only at read
        split at read
        · exact absurd read (by simp)
        · next some =>
            obtain ⟨exponent, after, rfl⟩ := Option.map_eq_some_iff.1 read
            have digits : Chars.IsDigits (whole ++ fraction) :=
              ⟨by simpa using some, List.forall_mem_append.2 ⟨inside, inside'⟩⟩
            exact ⟨.point digits (exponent?_eq_some_iff.1 after), rfl⟩
    · split at read
      · exact absurd read (by simp)
      · next some =>
          obtain ⟨exponent, after, rfl⟩ := Option.map_eq_some_iff.1 read
          exact ⟨.whole ⟨by simpa using some, inside⟩ (exponent?_eq_some_iff.1 after), rfl⟩
  · rintro ⟨written, rfl⟩
    unfold unsigned?
    cases written with
    | whole digits after =>
        rw [Chars.span_append digits.2 after.stop]
        dsimp only
        split
        · cases after with
          | some letter _ => exact absurd letter (by decide)
        · simp [digits.1, exponent?_eq_some_iff.2 after]
    | point digits after =>
        obtain ⟨inside, inside'⟩ := List.forall_mem_append.1 digits.2
        have point (cs : List Char) : ∀ c ∈ ('.' :: cs).head?, Chars.isDigit c = false := by
          intro c first
          obtain rfl := Option.some.inj first
          decide
        have some := digits.1
        simp only [ne_eq, List.append_eq_nil_iff] at some
        simp only [Chars.span_append inside (point _), Chars.span_append inside' after.stop]
        simp [some, exponent?_eq_some_iff.2 after]

theorem WritesUnsigned.first {cs : List Char} {n : Numeral} (h : WritesUnsigned cs n) :
    ∃ c rest, cs = c :: rest ∧ (Chars.isDigit c = true ∨ c = '.') := by
  have leading {whole : List Char} (digits : Chars.IsDigits whole) (rest : List Char) :
      ∃ c more, whole ++ rest = c :: more ∧ (Chars.isDigit c = true ∨ c = '.') := by
    obtain ⟨c, more, rfl⟩ := List.exists_cons_of_ne_nil digits.1
    exact ⟨c, more ++ rest, rfl, .inl (digits.2 c List.mem_cons_self)⟩
  cases h with
  | whole digits after => exact leading digits _
  | @point _ whole fraction rest _ digits after =>
      by_cases empty : whole = []
      · rw [empty]
        exact ⟨'.', fraction ++ rest, rfl, .inr rfl⟩
      · exact leading ⟨empty, (List.forall_mem_append.1 digits.2).1⟩ _

/-! ## With a sign -/

def readBehind? (negative : Bool) (body : List Char) : Option Reading :=
  let word := String.ofList (Chars.lower body)
  if word = "inf" ∨ word = "infinity" then some (.tooGreat negative)
  else if word = "nan" then some .notANumber
  else (unsigned? negative body).map toBinary

theorem read?_eq (cs : List Char) :
    read? cs =
      match cs with
      | '-' :: rest => readBehind? true rest
      | '+' :: rest => readBehind? false rest
      | _ => readBehind? false cs := by
  cases cs with
  | nil => rfl
  | cons c rest =>
      by_cases minus : c = '-'
      · subst minus
        rfl
      · by_cases plus : c = '+'
        · subst plus
          rfl
        · simp [read?, readBehind?, minus, plus]

theorem readBehind?_eq_finite_iff {negative : Bool} {body : List Char} {x : Binary64} :
    readBehind? negative body = some (.finite x) ↔
      ∃ n, WritesUnsigned body n ∧ n.negative = negative ∧ n.toBinary = .finite x := by
  unfold readBehind?
  constructor
  · intro read
    dsimp only at read
    split at read
    · exact absurd read (by simp)
    · split at read
      · exact absurd read (by simp)
      · obtain ⟨n, unsigned, finite⟩ := Option.map_eq_some_iff.1 read
        obtain ⟨written, sign⟩ := unsigned?_eq_some_iff.1 unsigned
        exact ⟨n, written, sign, finite⟩
  · rintro ⟨n, written, sign, finite⟩
    obtain ⟨c, rest, rfl, first⟩ := written.first
    have same : c.toLower = c := by
      rcases first with digit | rfl
      · exact Chars.toLower_of_isDigit digit
      · decide
    -- A numeral begins like none of the words.
    have other {word : String} {letter : Char} (begins : word.toList.head? = some letter)
        (apart : ¬ (Chars.isDigit letter = true ∨ letter = '.')) :
        String.ofList (Chars.lower (c :: rest)) ≠ word := by
      rintro rfl
      simp only [String.toList_ofList, Chars.lower, List.map_cons, List.head?_cons, same,
        Option.some.injEq] at begins
      exact apart (begins ▸ first)
    have infinite : String.ofList (Chars.lower (c :: rest)) ≠ "inf" :=
      @other _ 'i' (by decide) (by decide)
    have infinite' : String.ofList (Chars.lower (c :: rest)) ≠ "infinity" :=
      @other _ 'i' (by decide) (by decide)
    have number : String.ofList (Chars.lower (c :: rest)) ≠ "nan" :=
      @other _ 'n' (by decide) (by decide)
    dsimp only
    rw [if_neg (not_or.2 ⟨infinite, infinite'⟩), if_neg number,
      unsigned?_eq_some_iff.2 ⟨written, sign⟩, ← finite]
    rfl

/-- An unsigned numeral with at most one sign in front. -/
inductive Writes : List Char → Numeral → Prop
  | unsigned {cs : List Char} {n : Numeral} (h : WritesUnsigned cs n)
      (positive : n.negative = false) : Writes cs n
  | plus {cs : List Char} {n : Numeral} (h : WritesUnsigned cs n) (positive : n.negative = false) :
      Writes ('+' :: cs) n
  | minus {cs : List Char} {n : Numeral} (h : WritesUnsigned cs n) (negative : n.negative = true) :
      Writes ('-' :: cs) n

theorem read?_eq_finite_iff {cs : List Char} {x : Binary64} :
    read? cs = some (.finite x) ↔ ∃ n, Writes cs n ∧ n.toBinary = .finite x := by
  rw [read?_eq]
  constructor
  · intro read
    split at read
    · obtain ⟨n, written, sign, finite⟩ := readBehind?_eq_finite_iff.1 read
      exact ⟨n, .minus written sign, finite⟩
    · obtain ⟨n, written, sign, finite⟩ := readBehind?_eq_finite_iff.1 read
      exact ⟨n, .plus written sign, finite⟩
    · obtain ⟨n, written, sign, finite⟩ := readBehind?_eq_finite_iff.1 read
      exact ⟨n, .unsigned written sign, finite⟩
  · rintro ⟨n, written, finite⟩
    cases written with
    | unsigned written positive =>
        obtain ⟨c, rest, rfl, first⟩ := written.first
        have behind := readBehind?_eq_finite_iff.2 ⟨n, written, positive, finite⟩
        split
        · next text =>
            obtain rfl := (List.cons.inj text).1
            exact absurd first (by decide)
        · next text =>
            obtain rfl := (List.cons.inj text).1
            exact absurd first (by decide)
        · exact behind
    | plus written positive =>
        exact readBehind?_eq_finite_iff.2 ⟨n, written, positive, finite⟩
    | minus written negative =>
        exact readBehind?_eq_finite_iff.2 ⟨n, written, negative, finite⟩

end Numeral

end RequestScribe
