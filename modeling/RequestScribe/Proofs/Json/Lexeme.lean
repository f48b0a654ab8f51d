import Mathlib.Data.List.TakeDrop
import Mathlib.Data.List.TakeWhile
import RequestScribe.Json.Lexeme
import RequestScribe.Json.Printer
import RequestScribe.Proofs.Text.Chars

/-!
# Strings and numbers as they are written

A written string has one code unit for each of its characters, escaped or not,
and they make up the string again.  An integer of the range that stays integral
is read back from its digits.

A number is written with digits, signs, a point and the letter in front of an
exponent, so no character that a program gives a meaning to can come from it.
-/

namespace RequestScribe

namespace Json

/-! ## Strings -/

theorem hex4?_lowerHex {n : Nat} (small : n < 0xa0) :
    ∃ a b c d, Chars.lowerHex 4 n = [a, b, c, d] ∧ hex4? a b c d = some n ∧
      ∀ x ∈ [a, b, c, d], 0x20 ≤ x.toNat ∧ x ≠ '"' ∧ x ≠ '\\' := by
  have digits : ∀ n < 0xa0,
      let high := Chars.lowerHexDigit (n / 16)
      let low := Chars.lowerHexDigit (n % 16)
      Chars.lowerHex 4 n = ['0', '0', high, low] ∧ hex4? '0' '0' high low = some n ∧
        [high, low].all fun x => decide (0x20 ≤ x.toNat ∧ x ≠ '"' ∧ x ≠ '\\') := by
    decide +kernel
  obtain ⟨written, value, plain⟩ := digits n small
  refine ⟨'0', '0', _, _, written, value, ?_⟩
  have zero : 0x20 ≤ '0'.toNat ∧ '0' ≠ '"' ∧ '0' ≠ '\\' := by decide
  exact List.forall_mem_cons.2 ⟨zero, List.forall_mem_cons.2 ⟨zero, by simpa using plain⟩⟩

/-- A character in a string: itself, or a backslash, a letter and perhaps digits. -/
theorem escapeCharacter_cases (c : Char) :
    (escapeCharacter c = [c] ∧ 0x20 ≤ c.toNat ∧ c ≠ '"' ∧ c ≠ '\\') ∨
      (∃ e, escapeCharacter c = ['\\', e] ∧ shortEscape? e = some c ∧ 0x20 ≤ e.toNat) ∨
      ∃ a b x y, escapeCharacter c = ['\\', 'u', a, b, x, y] ∧ hex4? a b x y = some c.toNat ∧
        ∀ d ∈ [a, b, x, y], 0x20 ≤ d.toNat ∧ d ≠ '"' ∧ d ≠ '\\' := by
  by_cases quote : c = '"'
  · subst quote
    exact .inr (.inl ⟨'"', rfl, rfl, by decide⟩)
  by_cases backslash : c = '\\'
  · subst backslash
    exact .inr (.inl ⟨'\\', rfl, rfl, by decide⟩)
  by_cases feed : c = '\n'
  · subst feed
    exact .inr (.inl ⟨'n', rfl, rfl, by decide⟩)
  by_cases carriage : c = '\r'
  · subst carriage
    exact .inr (.inl ⟨'r', rfl, rfl, by decide⟩)
  by_cases tab : c = '\t'
  · subst tab
    exact .inr (.inl ⟨'t', rfl, rfl, by decide⟩)
  by_cases backspace : c = '\x08'
  · subst backspace
    exact .inr (.inl ⟨'b', rfl, rfl, by decide⟩)
  by_cases formFeed : c = '\x0c'
  · subst formFeed
    exact .inr (.inl ⟨'f', rfl, rfl, by decide⟩)
  have text : escapeCharacter c =
      if c.toNat < 0x20 then '\\' :: 'u' :: Chars.lowerHex 4 c.toNat else [c] := by
    rw [escapeCharacter, if_neg quote, if_neg backslash, if_neg feed, if_neg carriage, if_neg tab,
      if_neg backspace, if_neg formFeed]
  by_cases control : c.toNat < 0x20
  · have small : c.toNat < 0xa0 := Nat.lt_trans control (by decide)
    obtain ⟨x, y, z, t, digits, value, plain⟩ := hex4?_lowerHex small
    rw [if_pos control, digits] at text
    exact .inr (.inr ⟨x, y, z, t, text, value, plain⟩)
  · rw [if_neg control] at text
    exact .inl ⟨text, Nat.not_lt.1 control, quote, backslash⟩

theorem unitsOnto?_cons_of_ne {c : Char} (plain : c ≠ '\\') (done : List Nat)
    (rest : List Char) : unitsOnto? done (c :: rest) = unitsOnto? (c.toNat :: done) rest := by
  rw [unitsOnto?.eq_def]
  simp only [if_neg plain]

theorem unitsOnto?_short {e c : Char} (value : shortEscape? e = some c) (done : List Nat)
    (rest : List Char) :
    unitsOnto? done ('\\' :: e :: rest) = unitsOnto? (c.toNat :: done) rest := by
  have other : e ≠ 'u' := by
    rintro rfl
    cases value
  rw [unitsOnto?.eq_def]
  simp only [if_true]
  split
  · next none => exact absurd none (by simp)
  · next same => exact absurd (List.cons.inj same).1 other
  · next same =>
      obtain ⟨rfl, rfl⟩ := List.cons.inj same
      rw [value]

theorem unitsOnto?_escapeCharacter (c : Char) (done : List Nat) (rest : List Char) :
    unitsOnto? done (escapeCharacter c ++ rest) = unitsOnto? (c.toNat :: done) rest := by
  rcases escapeCharacter_cases c with ⟨written, -, -, plain⟩ | ⟨e, written, value, -⟩ |
    ⟨a, b, x, y, written, value, -⟩
  · rw [written, List.singleton_append, unitsOnto?_cons_of_ne plain]
  · rw [written, List.cons_append, List.singleton_append, unitsOnto?_short value]
  · rw [written, unitsOnto?.eq_def]
    simp only [List.cons_append, List.nil_append, if_true]
    rw [value]

theorem units?_flatMap_escapeCharacter (cs : List Char) :
    units? (cs.flatMap escapeCharacter) = some (cs.map Char.toNat) := by
  have onto (done : List Nat) : unitsOnto? done (cs.flatMap escapeCharacter) =
      some (done.reverse ++ cs.map Char.toNat) := by
    induction cs generalizing done with
    | nil => simp [unitsOnto?]
    | cons c rest ih => rw [List.flatMap_cons, unitsOnto?_escapeCharacter, ih]; simp
  exact onto []

theorem text?_map_toNat (s : String) : text? (s.toList.map Char.toNat) = some s := by
  have onto (cs done : List Char) :
      charactersOnto? done (cs.map Char.toNat) = some (done.reverse ++ cs) := by
    induction cs generalizing done with
    | nil =>
        have none : charactersOnto? done [] = some done.reverse := rfl
        rw [List.map_nil, none, List.append_nil]
    | cons c rest ih =>
        have valid : c.toNat.isValidChar := c.valid
        have first (units : List Nat) :
            charactersOnto? done (c.toNat :: units) = charactersOnto? (c :: done) units := by
          cases units <;> exact dif_pos valid
        rw [List.map_cons, first, ih]
        simp
  rw [text?, onto]
  simp

/-! ## Integers -/

theorem natValue_toDigits (n : Nat) : Chars.natValue (Nat.toDigits 10 n) = n := by
  have value := Nat.ofDigitChars_ten_toDigits (n := n)
  rw [Nat.ofDigitChars_eq_foldl] at value
  simpa only [Chars.natValue, Nat.mul_comm] using value

theorem head?_toDigits {n : Nat} (pos : 0 < n) : (Nat.toDigits 10 n).head? ≠ some '0' := by
  induction n using Nat.strongRecOn with
  | _ n ih =>
      rw [Nat.toDigits_eq_if (by decide)]
      split
      · next small =>
          have all : ∀ n < 10, 0 < n → [Nat.digitChar n].head? ≠ some '0' := by decide
          exact all n small pos
      · next large =>
          have first := ih (n / 10) (by omega) (by omega)
          obtain ⟨d, digits, leading⟩ := List.exists_cons_of_ne_nil
            (Nat.toDigits_ne_nil (n := n / 10) (b := 10))
          rw [leading] at first ⊢
          simpa using first

theorem isDigit_of_mem_toDigits {n : Nat} {c : Char} (h : c ∈ Nat.toDigits 10 n) :
    Chars.isDigit c = true := by
  rw [Chars.isDigit_eq]
  exact Nat.isDigit_of_mem_toDigits (by decide) (by decide) h

theorem numberText?_toDigits (negative : Bool) (n : Nat) :
    numberText? ((if negative then ['-'] else []) ++ Nat.toDigits 10 n) =
      some ⟨{ negative, whole := Nat.toDigits 10 n }, true⟩ := by
  obtain ⟨d, digits, written⟩ := List.exists_cons_of_ne_nil (Nat.toDigits_ne_nil (n := n) (b := 10))
  have isDigit : ∀ c ∈ d :: digits, Chars.isDigit c = true := by
    intro c mem
    exact isDigit_of_mem_toDigits (written ▸ mem)
  have whole : (d :: digits).span Chars.isDigit = (d :: digits, []) := by
    rw [List.span_eq_takeWhile_dropWhile, List.takeWhile_eq_self_iff.2 isDigit,
      List.dropWhile_eq_nil_iff.2 isDigit]
  have unsigned : d ≠ '-' := by
    rintro rfl
    exact absurd (isDigit '-' List.mem_cons_self) (by decide)
  -- Only zero begins with a zero, and it has no other digit.
  have proper : ¬ (digits ≠ [] ∧ d = '0') := by
    rintro ⟨more, rfl⟩
    by_cases zero : n = 0
    · rw [zero, Nat.toDigits_zero] at written
      exact more (List.cons.inj written).2.symm
    · exact head?_toDigits (Nat.pos_of_ne_zero zero) (by rw [written]; rfl)
  have zeros : ((d :: digits).length > 1 && (d :: digits).head? == some '0') = false := by
    simpa [Nat.pos_iff_ne_zero] using proper
  rw [written]
  unfold numberText?
  cases negative with
  | true =>
      simp only [if_true, List.singleton_append, whole, zeros, List.isEmpty_cons, Bool.or_self,
        Bool.false_eq_true, if_false]
      rfl
  | false =>
      rw [if_neg Bool.false_ne_true, List.nil_append]
      split
      next sign body cut =>
      have split : (sign, body) = (false, d :: digits) := by
        rw [← cut]
        simp [unsigned]
      cases split
      simp only [whole, zeros, List.isEmpty_cons, Bool.or_self, Bool.false_eq_true, if_false]
      rfl

theorem first_of_numberText? {c : Char} {rest : List Char} {t : NumberText}
    (h : numberText? (c :: rest) = some t) : c = '-' ∨ Chars.isDigit c = true := by
  by_cases digit : Chars.isDigit c = true
  · exact .inr digit
  · refine .inl ?_
    by_cases minus : c = '-'
    · exact minus
    · have none : (c :: rest).span Chars.isDigit = ([], c :: rest) := by
        simp [List.span_eq_takeWhile_dropWhile, digit]
      unfold numberText? at h
      split at h
      next sign body cut =>
      have split : (sign, body) = (false, c :: rest) := by
        rw [← cut]
        simp [minus]
      cases split
      simp only [none, List.isEmpty_nil, Bool.true_or, if_true] at h
      exact absurd h (by simp)

theorem integer?_toDigits (negative : Bool) {n : Nat}
    (fits : if negative then 0 < n ∧ n ≤ negativeBound else n < naturalBound) :
    integer? { negative, whole := Nat.toDigits 10 n } =
      some (if negative then -(n : Int) else n) := by
  have short : ¬ integerDigits < (Nat.toDigits 10 n).length := by
    have bound : n < 10 ^ 20 := by
      cases negative
      · exact Nat.lt_trans fits (by decide)
      · exact Nat.lt_of_le_of_lt fits.2 (by decide)
    exact Nat.not_lt.2 ((Nat.length_toDigits_le_iff (by decide) (by decide)).2 bound)
  unfold integer?
  simp only [if_neg short, natValue_toDigits]
  cases negative
  · simpa using fits
  · simpa using fits

theorem value?_integerText {n : Int} (least : -(negativeBound : Int) ≤ n)
    (most : n < naturalBound) :
    (numberText? (integerText n).toList).bind NumberText.value? = some (.integer n) := by
  by_cases negative : n < 0
  · have written : (integerText n).toList = '-' :: Nat.toDigits 10 n.natAbs := by
      simp [integerText, negative]
    have read : numberText? ('-' :: Nat.toDigits 10 n.natAbs) = _ :=
      numberText?_toDigits true n.natAbs
    have fits : 0 < n.natAbs ∧ n.natAbs ≤ negativeBound := by omega
    have value := integer?_toDigits true fits
    have same : -(n.natAbs : Int) = n := by omega
    rw [if_pos rfl, same] at value
    rw [written, read]
    simp [NumberText.value?, value]
  · have written : (integerText n).toList = Nat.toDigits 10 n.natAbs := by
      simp [integerText, negative]
    have read : numberText? (Nat.toDigits 10 n.natAbs) = _ :=
      numberText?_toDigits false n.natAbs
    have fits : n.natAbs < naturalBound := by omega
    have value := integer?_toDigits false fits
    have same : (n.natAbs : Int) = n := by omega
    rw [if_neg Bool.false_ne_true, same] at value
    rw [written, read]
    simp [NumberText.value?, value]

end Json

/-! ## Characters of numbers -/

namespace Json

def isNumberCharacter (c : Char) : Bool :=
  c.isDigit || "+-.e".toList.contains c

theorem isNumberCharacter_iff {c : Char} :
    isNumberCharacter c = true ↔ c.isDigit = true ∨ c = '+' ∨ c = '-' ∨ c = '.' ∨ c = 'e' := by
  simp [isNumberCharacter]

theorem isNumberCharacter_of_mem_toDigits {n : Nat} :
    ∀ c ∈ Nat.toDigits 10 n, isNumberCharacter c = true := by
  intro c hc
  rw [isNumberCharacter, Nat.isDigit_of_mem_toDigits (by decide) (by decide) hc, Bool.true_or]

theorem isNumberCharacter_of_mem_zeros {n : Nat} :
    ∀ c ∈ List.replicate n '0', isNumberCharacter c = true := by
  intro c hc
  rw [(List.mem_replicate.1 hc).2]
  decide

theorem isNumberCharacter_of_mem_positional (d : Decimal) :
    (∀ c ∈ d.positional.1, isNumberCharacter c = true) ∧
      ∀ c ∈ d.positional.2, isNumberCharacter c = true := by
  have digits : ∀ c ∈ d.digits, isNumberCharacter c = true := isNumberCharacter_of_mem_toDigits
  unfold Decimal.positional
  split
  · exact ⟨List.forall_mem_append.2 ⟨digits, isNumberCharacter_of_mem_zeros⟩, by simp⟩
  · dsimp only
    split
    · exact ⟨fun c hc => digits c (List.mem_of_mem_take hc),
        fun c hc => digits c (List.mem_of_mem_drop hc)⟩
    · have zero : ∀ c ∈ ['0'], isNumberCharacter c = true :=
        List.forall_mem_singleton.2 (by decide)
      exact ⟨zero, List.forall_mem_append.2 ⟨isNumberCharacter_of_mem_zeros, digits⟩⟩

theorem isNumberCharacter_of_mem_fraction {cs : List Char}
    (h : ∀ c ∈ cs, isNumberCharacter c = true) :
    ∀ c ∈ if cs.isEmpty then ['0'] else cs, isNumberCharacter c = true := by
  split
  · exact List.forall_mem_singleton.2 (by decide)
  · exact h

theorem isNumberCharacter_of_mem_exponentText (e : Int) :
    ∀ c ∈ exponentText e, isNumberCharacter c = true := by
  refine List.forall_mem_cons.2 ⟨?_, isNumberCharacter_of_mem_toDigits⟩
  split <;> decide

theorem isNumberCharacter_of_mem_text (n : Number) :
    ∀ c ∈ n.text.toList, isNumberCharacter c = true := by
  cases n with
  | integer n =>
      rw [Number.text, integerText, String.toList_ofList]
      split
      · exact List.forall_mem_cons.2 ⟨by decide, isNumberCharacter_of_mem_toDigits⟩
      · exact isNumberCharacter_of_mem_toDigits
  | float x =>
      have body {sign : Prop} [Decidable sign] {cs : List Char}
          (h : ∀ c ∈ cs, isNumberCharacter c = true) :
          ∀ c ∈ if sign then '-' :: cs else cs, isNumberCharacter c = true := by
        split
        · exact List.forall_mem_cons.2 ⟨by decide, h⟩
        · exact h
      have digits : ∀ c ∈ (Decimal.shortest .toEven x).digits, isNumberCharacter c = true :=
        isNumberCharacter_of_mem_toDigits
      rw [Number.text, floatText, String.toList_ofList]
      apply body
      split
      · obtain ⟨whole, fraction⟩ := isNumberCharacter_of_mem_positional (.shortest .toEven x)
        exact List.forall_mem_append.2 ⟨whole, List.forall_mem_cons.2 ⟨by decide,
          isNumberCharacter_of_mem_fraction fraction⟩⟩
      · refine List.forall_mem_append.2 ⟨?_, List.forall_mem_cons.2 ⟨by decide,
          isNumberCharacter_of_mem_exponentText _⟩⟩
        split
        · next text =>
            rw [text] at digits
            simp only [List.forall_mem_cons] at digits ⊢
            exact ⟨digits.1, by decide, digits.2⟩
        · exact digits

theorem Number.text_ne (n : Number) : n.text.toList ≠ [] := by
  cases n with
  | integer n =>
      rw [Number.text, integerText, String.toList_ofList]
      split
      · simp
      · exact Nat.toDigits_ne_nil
  | float x =>
      rw [Number.text, floatText, String.toList_ofList]
      split
      · simp
      · split <;> simp

end Json

end RequestScribe
