import RequestScribe.Proofs.Decimal.Numeral
import RequestScribe.Proofs.Json.Lexeme
import RequestScribe.Proofs.Text.Chars

/-!
# Floating-point numbers are read back

The digits of the shortest decimal, with a point or an exponent among them, are
read as a numeral for the same magnitude.  That magnitude lies in the interval of
the number, so the number is read back.
-/

namespace RequestScribe

namespace Json

def pointText (fraction : List Char) : List Char :=
  if fraction.isEmpty then [] else '.' :: fraction

section Written

variable {whole fraction tail : List Char} {e : Int}

theorem fraction?_pointText (digits : ∀ c ∈ fraction, Chars.isDigit c = true)
    (stop : ∀ c ∈ tail.head?, Chars.isDigit c = false ∧ c ≠ '.') :
    fraction? (pointText fraction ++ tail) =
      some (if fraction.isEmpty then none else some fraction, tail) := by
  cases fraction with
  | nil =>
      cases tail with
      | nil => rfl
      | cons c rest =>
          have point : c ≠ '.' := (stop c rfl).2
          unfold fraction?
          split
          · next same => exact absurd (List.cons.inj same).1 point
          · rfl
  | cons d ds =>
      have parts := Chars.span_append digits fun c mem => (stop c mem).1
      have text : pointText (d :: ds) ++ tail = '.' :: (d :: ds ++ tail) := rfl
      rw [text, fraction?, parts]
      rfl

/-- A number is read from its digits, its point and what is left for the exponent. -/
theorem numberText?_written (negative : Bool) (digits : ∀ c ∈ whole ++ fraction, Chars.isDigit c)
    (nonempty : whole ≠ []) (proper : 1 < whole.length → whole.head? ≠ some '0')
    (exponent : Numeral.exponent? tail = some e)
    (stop : ∀ c ∈ tail.head?, Chars.isDigit c = false ∧ c ≠ '.') :
    numberText? ((if negative then ['-'] else []) ++ (whole ++ (pointText fraction ++ tail))) =
      some ⟨⟨negative, whole, fraction, e⟩, fraction.isEmpty && tail.isEmpty⟩ := by
  obtain ⟨wholeDigits, fractionDigits⟩ := List.forall_mem_append.1 digits
  have parts : (whole ++ (pointText fraction ++ tail)).span Chars.isDigit =
      (whole, pointText fraction ++ tail) := by
    refine Chars.span_append wholeDigits ?_
    intro c mem
    cases fraction with
    | nil => exact (stop c mem).1
    | cons d ds =>
        obtain rfl : '.' = c := Option.some.inj mem
        decide
  have zeros : (whole.isEmpty || (whole.length > 1 && whole.head? == some '0')) = false := by
    simpa [nonempty] using proper
  have point := fraction?_pointText fractionDigits stop
  have value : (if fraction.isEmpty then none else some fraction).getD [] = fraction ∧
      (if fraction.isEmpty then none else some fraction).isNone = fraction.isEmpty := by
    cases fraction <;> exact ⟨rfl, rfl⟩
  obtain ⟨d, ds, rfl⟩ := List.exists_cons_of_ne_nil nonempty
  have unsigned : d ≠ '-' := by
    rintro rfl
    exact absurd (wholeDigits '-' List.mem_cons_self) (by decide)
  unfold numberText?
  split
  next sign body cut =>
  have split : (sign, body) = (negative, d :: ds ++ (pointText fraction ++ tail)) := by
    rw [← cut]
    cases negative with
    | true => rfl
    | false => simp [unsigned]
  cases split
  simp only [parts, zeros, Bool.false_eq_true, if_false, point, exponent, Option.map_some, value]

end Written

theorem exponent?_exponentText (e : Int) :
    Numeral.exponent? ('e' :: exponentText e) = some e := by
  have digits (n : Nat) : (Nat.toDigits 10 n).all Chars.isDigit = true :=
    List.all_eq_true.2 fun c mem => isDigit_of_mem_toDigits mem
  rw [Numeral.exponent?, if_pos (.inl rfl), exponentText]
  by_cases negative : e < 0
  · have value : -(e.natAbs : Int) = e := by omega
    rw [if_pos negative, Chars.readInt?, digits, natValue_toDigits, value]
    simp
  · have value : (e.natAbs : Int) = e := by omega
    rw [if_neg negative, Chars.readInt?]
    · simp [Chars.readNat?, digits, natValue_toDigits, value]
    · simp

/-- A numeral of digits that stands for a decimal with a sign. -/
structure Spells (n : Numeral) (negative : Bool) (d : Decimal) : Prop where
  negative_eq : n.negative = negative
  digits : ∀ c ∈ n.whole ++ n.fraction, Chars.isDigit c = true
  value_eq : n.value = d.value

section Spelling

variable {d : Decimal} (negative : Bool)

theorem isDigit_of_mem_digits : ∀ c ∈ d.digits, Chars.isDigit c = true :=
  fun _ mem => isDigit_of_mem_toDigits mem

theorem natValue_digits (d : Decimal) : Chars.natValue d.digits = d.significand :=
  natValue_toDigits d.significand

theorem isDigit_of_mem_zeros {k : Nat} : ∀ c ∈ List.replicate k '0', Chars.isDigit c = true := by
  intro c mem
  rw [List.eq_of_mem_replicate mem]
  decide

theorem value_of_digits {n : Numeral}
    (digits : Chars.natValue (n.whole ++ n.fraction) = d.significand)
    (place : n.exponent - n.fraction.length = d.exponent) : n.value = d.value := by
  rw [Numeral.value, Decimal.value, digits, place]

theorem head?_digits (some : d.significand ≠ 0) : d.digits.head? ≠ Option.some '0' :=
  head?_toDigits (Nat.pos_of_ne_zero some)

/-- Digits on both sides of a point are read as they stand. -/
theorem numberText?_point {whole fraction : List Char}
    (digits : ∀ c ∈ whole ++ fraction, Chars.isDigit c = true) (nonempty : whole ≠ [])
    (leading : 1 < whole.length → whole.head? ≠ some '0') (point : fraction ≠ [])
    (value : Numeral.value ⟨negative, whole, fraction, 0⟩ = d.value) :
    ∃ n, numberText? ((if negative then ['-'] else []) ++ (whole ++ '.' :: fraction)) =
        some ⟨n, false⟩ ∧ Spells n negative d := by
  have none : Numeral.exponent? [] = some 0 := rfl
  have read := numberText?_written negative digits nonempty leading none (by simp)
  have text : pointText fraction ++ [] = '.' :: fraction := by simp [pointText, point]
  have real : fraction.isEmpty = false := by simp [point]
  rw [text, real] at read
  exact ⟨_, read, rfl, digits, value⟩

theorem numberText?_whole {zeros : Nat} (place : d.exponent = zeros)
    (proper : d.significand = 0 → d.exponent = 0) :
    ∃ n, numberText? ((if negative then ['-'] else []) ++
        ((d.digits ++ List.replicate zeros '0') ++ ['.', '0'])) = some ⟨n, false⟩ ∧
      Spells n negative d := by
  have nonempty : d.digits ≠ [] := Nat.toDigits_ne_nil
  have digits : ∀ c ∈ (d.digits ++ List.replicate zeros '0') ++ ['0'], Chars.isDigit c = true :=
    List.forall_mem_append.2 ⟨List.forall_mem_append.2
      ⟨isDigit_of_mem_digits, isDigit_of_mem_zeros⟩, List.forall_mem_singleton.2 (by decide)⟩
  refine numberText?_point negative digits (by simp [nonempty]) ?_ (by simp) ?_
  · intro long
    by_cases zero : d.significand = 0
    · have none : zeros = 0 := by
        have first := proper zero
        omega
      have single : d.digits.length = 1 := by
        rw [Decimal.digits, zero]
        rfl
      simp [none, single] at long
    · rw [List.head?_append_of_ne_nil _ nonempty]
      exact head?_digits zero
  · have tail : Chars.natValue (List.replicate zeros '0' ++ ['0']) = 0 :=
      Chars.natValue_zeros zeros _
    rw [Numeral.value, Decimal.value, place, List.append_assoc, Chars.natValue_append, tail,
      natValue_digits]
    simp only [List.length_append, List.length_replicate, List.length_singleton]
    push_cast
    rw [zpow_natCast, pow_succ]
    norm_num
    ring

theorem numberText?_split {k : Nat} (place : d.exponent = -((k + 1 : Nat) : Int))
    (inside : k + 1 < d.digits.length) (some : d.significand ≠ 0) :
    ∃ n, numberText? ((if negative then ['-'] else []) ++
        (d.digits.take (d.digits.length - (k + 1)) ++
          '.' :: d.digits.drop (d.digits.length - (k + 1)))) = Option.some ⟨n, false⟩ ∧
      Spells n negative d := by
  have nonempty : d.digits.take (d.digits.length - (k + 1)) ≠ [] := by
    intro none
    have length := congrArg List.length none
    simp only [List.length_take, List.length_nil] at length
    omega
  have point : d.digits.drop (d.digits.length - (k + 1)) ≠ [] := by
    intro none
    have length := congrArg List.length none
    simp only [List.length_drop, List.length_nil] at length
    omega
  have whole := List.take_append_drop (d.digits.length - (k + 1)) d.digits
  refine numberText?_point negative (by rw [whole]; exact isDigit_of_mem_digits) nonempty ?_ point
    (value_of_digits (by rw [whole, natValue_digits]) ?_)
  · intro _
    have first := head?_digits some
    rwa [← whole, List.head?_append_of_ne_nil _ nonempty] at first
  · simp only [List.length_drop]
    omega

theorem numberText?_below {k : Nat} (place : d.exponent = -((k + 1 : Nat) : Int))
    (outside : d.digits.length ≤ k + 1) :
    ∃ n, numberText? ((if negative then ['-'] else []) ++
        (['0'] ++ '.' :: (List.replicate (k + 1 - d.digits.length) '0' ++ d.digits))) =
        some ⟨n, false⟩ ∧ Spells n negative d := by
  have nonempty : d.digits ≠ [] := Nat.toDigits_ne_nil
  have digits : ∀ c ∈ ['0'] ++ (List.replicate (k + 1 - d.digits.length) '0' ++ d.digits),
      Chars.isDigit c = true :=
    List.forall_mem_append.2 ⟨List.forall_mem_singleton.2 (by decide),
      List.forall_mem_append.2 ⟨isDigit_of_mem_zeros, isDigit_of_mem_digits⟩⟩
  refine numberText?_point negative digits (by simp) (by simp) (by simp [nonempty])
    (value_of_digits ?_ ?_)
  · have front := Chars.natValue_zeros 1 (List.replicate (k + 1 - d.digits.length) '0' ++ d.digits)
    exact front.trans ((Chars.natValue_zeros _ _).trans (natValue_digits d))
  · simp only [List.length_append, List.length_replicate]
    omega

theorem numberText?_positional (proper : d.significand = 0 → d.exponent = 0) :
    ∃ n, numberText? ((if negative then ['-'] else []) ++ (d.positional.1 ++
        '.' :: if d.positional.2.isEmpty then ['0'] else d.positional.2)) = some ⟨n, false⟩ ∧
      Spells n negative d := by
  cases place : d.exponent with
  | ofNat zeros =>
      have parts : d.positional = (d.digits ++ List.replicate zeros '0', []) := by
        simp [Decimal.positional, place]
      rw [parts]
      exact numberText?_whole negative place proper
  | negSucc k =>
      by_cases inside : k + 1 < d.digits.length
      · have some : d.significand ≠ 0 := by
          intro zero
          have none := proper zero
          omega
        have parts : d.positional = (d.digits.take (d.digits.length - (k + 1)),
            d.digits.drop (d.digits.length - (k + 1))) := by
          simp [Decimal.positional, place, inside]
        have point : ¬ (d.digits.drop (d.digits.length - (k + 1))).isEmpty = true := by
          rw [List.isEmpty_iff, ← List.length_eq_zero_iff, List.length_drop]
          omega
        rw [parts, if_neg point]
        exact numberText?_split negative place inside some
      · have parts : d.positional =
            (['0'], List.replicate (k + 1 - d.digits.length) '0' ++ d.digits) := by
          simp [Decimal.positional, place, inside]
        have point :
            ¬ (List.replicate (k + 1 - d.digits.length) '0' ++ d.digits).isEmpty = true := by
          have nonempty : d.digits ≠ [] := Nat.toDigits_ne_nil
          simp [nonempty]
        rw [parts, if_neg point]
        exact numberText?_below negative place (Nat.not_lt.1 inside)

theorem numberText?_scientific :
    ∃ n, numberText? ((if negative then ['-'] else []) ++
        ((match d.digits with
          | first :: second :: rest => first :: '.' :: second :: rest
          | _ => d.digits) ++ 'e' :: exponentText (d.exponent + d.digits.length - 1))) =
        some ⟨n, false⟩ ∧ Spells n negative d := by
  have exponent := exponent?_exponentText (d.exponent + d.digits.length - 1)
  have stop : ∀ c ∈ ('e' :: exponentText (d.exponent + d.digits.length - 1)).head?,
      Chars.isDigit c = false ∧ c ≠ '.' := by
    intro c mem
    obtain rfl : 'e' = c := Option.some.inj mem
    decide
  have written := isDigit_of_mem_digits (d := d)
  have nonempty : d.digits ≠ [] := Nat.toDigits_ne_nil
  have value := natValue_digits d
  generalize d.digits = ds at exponent stop written nonempty value ⊢
  match ds with
  | [] => exact absurd rfl nonempty
  | [first] =>
      have digits : ∀ c ∈ [first] ++ [], Chars.isDigit c = true := written
      have read := numberText?_written negative digits (by simp) (by simp) exponent stop
      refine ⟨_, read, rfl, digits, value_of_digits value ?_⟩
      simp
  | first :: second :: rest =>
      have digits : ∀ c ∈ [first] ++ second :: rest, Chars.isDigit c = true := written
      have read := numberText?_written negative digits (by simp) (by simp) exponent stop
      refine ⟨_, read, rfl, digits, value_of_digits value ?_⟩
      simp only [List.length_cons]
      omega

end Spelling

theorem significand_shortest {x : Binary64} (canonical : x.IsCanonical)
    (nonzero : x.mantissa ≠ 0) : (Decimal.shortest .toEven x).significand ≠ 0 := by
  intro zero
  have held := Decimal.holds_shortest .toEven canonical nonzero
  have least := (Numeral.bounds_of_holds canonical nonzero held).1
  rw [Decimal.value, zero, Nat.cast_zero, zero_mul] at least
  exact absurd least (not_le.2 (zpow_pos (by norm_num) _))

/-- The text of a number is read as that number. -/
theorem toBinary_floatText {x : Binary64} (canonical : x.IsCanonical) :
    ∃ n, numberText? (floatText x).toList = some ⟨n, false⟩ ∧ n.toBinary = .finite x := by
  have text (proper : (Decimal.shortest .toEven x).significand = 0 →
      (Decimal.shortest .toEven x).exponent = 0) :
      ∃ n, numberText? (floatText x).toList = some ⟨n, false⟩ ∧
        Spells n x.negative (Decimal.shortest .toEven x) := by
    have sign (body : List Char) : (if x.negative then '-' :: body else body) =
        (if x.negative then ['-'] else []) ++ body := by
      cases x.negative <;> rfl
    unfold floatText
    dsimp only
    rw [String.toList_ofList, sign]
    generalize Decimal.shortest .toEven x = d at proper ⊢
    by_cases positional : isPositional (d.exponent + d.digits.length - 1) = true
    · rw [if_pos positional]
      exact numberText?_positional x.negative proper
    · rw [if_neg positional]
      exact numberText?_scientific x.negative
  by_cases nothing : x.mantissa = 0
  · have zero : Decimal.shortest .toEven x = ⟨0, 0⟩ := by
      unfold Decimal.shortest
      rw [if_pos nothing]
    obtain ⟨n, read, spells⟩ := text (by rw [zero]; exact fun _ => rfl)
    have value : (Chars.natValue (n.whole ++ n.fraction) : ℚ) = 0 := by
      have product := spells.value_eq
      rw [zero, Decimal.value, Nat.cast_zero, zero_mul, Numeral.value] at product
      exact (mul_eq_zero.1 product).resolve_right (zpow_pos (by norm_num) _).ne'
    refine ⟨n, read, ?_⟩
    rw [Numeral.toBinary_of_zero spells.digits (by exact_mod_cast value), spells.negative_eq]
    obtain ⟨negative, mantissa, shift⟩ := x
    obtain ⟨-, normal, -⟩ := canonical
    dsimp only at nothing normal ⊢
    subst nothing
    obtain rfl : shift = 0 := by omega
    rfl
  · have some := significand_shortest canonical nothing
    obtain ⟨n, read, spells⟩ := text fun zero => absurd zero some
    refine ⟨n, read, Numeral.toBinary_of_holds spells.digits canonical nothing
      spells.negative_eq ?_⟩
    rw [spells.value_eq]
    exact Decimal.holds_shortest .toEven canonical nothing

end Json

end RequestScribe
