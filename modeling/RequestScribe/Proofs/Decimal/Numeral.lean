import RequestScribe.Decimal.Numeral
import RequestScribe.Proofs.Decimal.Shortest
import RequestScribe.Proofs.Text.Chars

/-!
# Numerals that denote a binary number

What a numeral stands for is the value of its digits at the place that point and
exponent give them.  A numeral in the interval of a binary number is read as that
number.
-/

namespace RequestScribe

namespace Chars

theorem natValue_append (ds es : List Char) :
    natValue (ds ++ es) = natValue ds * 10 ^ es.length + natValue es := by
  have onto (n : Nat) :
      es.foldl (fun n c => n * 10 + (c.toNat - '0'.toNat)) n =
        n * 10 ^ es.length + natValue es := by
    induction es generalizing n with
    | nil => simp [natValue]
    | cons e rest ih =>
        have tail := ih (n * 10 + (e.toNat - '0'.toNat))
        have head := ih (0 * 10 + (e.toNat - '0'.toNat))
        rw [natValue, List.foldl_cons, List.foldl_cons, tail, head, List.length_cons, Nat.pow_succ]
        ring
  rw [natValue, List.foldl_append]
  exact onto (natValue ds)

theorem natValue_cons (d : Char) (ds : List Char) :
    natValue (d :: ds) = (d.toNat - '0'.toNat) * 10 ^ ds.length + natValue ds := by
  have single : natValue [d] = d.toNat - '0'.toNat := by
    rw [natValue, List.foldl_cons, List.foldl_nil, Nat.zero_mul, Nat.zero_add]
  rw [← List.singleton_append, natValue_append, single]

theorem natValue_zeros (k : Nat) (ds : List Char) :
    natValue (List.replicate k '0' ++ ds) = natValue ds := by
  induction k with
  | zero => rfl
  | succ k ih => rw [List.replicate_succ, List.cons_append, natValue_cons, ih]; simp

theorem natValue_dropZeros (ds : List Char) :
    natValue (ds.dropWhile (· == '0')) = natValue ds := by
  induction ds with
  | nil => rfl
  | cons d rest ih =>
      by_cases zero : d = '0'
      · subst zero
        rw [List.dropWhile_cons_of_pos rfl, ih, natValue_cons]
        simp
      · rw [List.dropWhile_cons_of_neg (by simpa using zero)]

theorem natValue_lt {ds : List Char} (digits : ∀ d ∈ ds, isDigit d = true) :
    natValue ds < 10 ^ ds.length := by
  induction ds with
  | nil => exact Nat.one_pos
  | cons d rest ih =>
      obtain ⟨first, later⟩ := List.forall_mem_cons.1 digits
      have small : d.toNat - '0'.toNat ≤ 9 := by
        have most : d.toNat ≤ 57 := (isDigit_iff.1 first).2
        have zero : '0'.toNat = 48 := rfl
        omega
      have bound := Nat.mul_le_mul_right (10 ^ rest.length) small
      have below := ih later
      rw [natValue_cons, List.length_cons, Nat.pow_succ]
      omega

theorem pow_le_natValue {d : Char} (digit : isDigit d = true) (nonzero : d ≠ '0')
    (ds : List Char) : 10 ^ ds.length ≤ natValue (d :: ds) := by
  have least : 1 ≤ d.toNat - '0'.toNat := by
    have zero : '0'.toNat ≤ d.toNat := (isDigit_iff.1 digit).1
    have other : d.toNat ≠ '0'.toNat := fun same => nonzero (Char.toNat_inj.1 same)
    omega
  have bound := Nat.mul_le_mul_right (10 ^ ds.length) least
  rw [natValue_cons]
  omega

end Chars

namespace Numeral

open Decimal Binary64

def value (n : Numeral) : ℚ :=
  Chars.natValue (n.whole ++ n.fraction) * (10 : ℚ) ^ (n.exponent - n.fraction.length)

/-! ## Bounds of an interval -/

theorem two_pow_le_ten_pow {a b : Nat} (h : a ≤ 3 * b) : 2 ^ a ≤ 10 ^ b := by
  calc 2 ^ a ≤ 2 ^ (3 * b) := Nat.pow_le_pow_right (by decide) h
    _ = 8 ^ b := Nat.pow_mul 2 3 b
    _ ≤ 10 ^ b := Nat.pow_le_pow_left (by decide) b

theorem one_eq : one = 2 ^ scaleBits := by
  unfold one
  generalize scaleBits = bits
  rfl

theorem bounds_of_units {q unit ten : ℚ} (positive : 0 < unit) (half : 2 * unit ≤ ten)
    (low : 2 ≤ 4 * (q * unit)) (high : 4 * (q * unit) < 4 * (unit * ten)) :
    ten⁻¹ ≤ q ∧ q < ten := by
  have some : 0 < q := by
    by_contra none
    have product : q * unit ≤ 0 := mul_nonpos_of_nonpos_of_nonneg (not_lt.1 none) positive.le
    linarith
  constructor
  · rw [inv_le_iff_one_le_mul₀ (by linarith)]
    have product := mul_le_mul_of_nonneg_left half some.le
    linarith
  · by_contra beyond
    have product := mul_le_mul_of_nonneg_left (not_lt.1 beyond) positive.le
    linarith

/-- What rounds to a number that is not zero is neither too great nor too small to be read. -/
theorem bounds_of_holds {x : Binary64} (canonical : x.IsCanonical) (nonzero : x.mantissa ≠ 0)
    {q : ℚ} (h : (Interval.ofBinary x).Holds q) :
    (10 : ℚ) ^ (-decisiveExponent) ≤ q ∧ q < (10 : ℚ) ^ decisiveExponent := by
  obtain ⟨low, high, -⟩ := h
  obtain ⟨negative, m, shift⟩ := x
  obtain ⟨lt, -, le⟩ := canonical
  dsimp only at lt le nonzero
  obtain ⟨k, decisive, small, great⟩ : ∃ k : Nat, decisiveExponent = k ∧
      1 + scaleBits ≤ 3 * k ∧ 53 + maxShift ≤ scaleBits + 3 * k :=
    ⟨400, rfl, by decide, by decide⟩
  have positive : (0 : ℚ) < one := by exact_mod_cast one_pos
  have least : 2 ≤ (Interval.ofBinary ⟨negative, m, shift⟩).low := by
    have factor : 2 ≤ 4 * m - (if m = 2 ^ 52 ∧ 0 < shift then 1 else 2) := by
      split <;> omega
    exact Nat.mul_le_mul factor (Nat.one_le_two_pow (n := shift))
  have most : (Interval.ofBinary ⟨negative, m, shift⟩).high < 4 * (one * 10 ^ k) := by
    have factor : 4 * m + 2 < 4 * 2 ^ 53 := by omega
    calc (4 * m + 2) * 2 ^ shift
        ≤ (4 * m + 2) * 2 ^ maxShift :=
          Nat.mul_le_mul_left _ (Nat.pow_le_pow_right (by decide) le)
      _ < 4 * 2 ^ 53 * 2 ^ maxShift := Nat.mul_lt_mul_of_pos_right factor (Nat.two_pow_pos _)
      _ = 4 * 2 ^ (53 + maxShift) := by rw [Nat.mul_assoc, Nat.pow_add]
      _ ≤ 4 * 2 ^ (scaleBits + 3 * k) :=
          Nat.mul_le_mul_left 4 (Nat.pow_le_pow_right (by decide) great)
      _ = 4 * (one * 2 ^ (3 * k)) := by rw [Nat.pow_add, ← one_eq]
      _ ≤ 4 * (one * 10 ^ k) :=
          Nat.mul_le_mul_left 4 (Nat.mul_le_mul_left one (two_pow_le_ten_pow (Nat.le_refl _)))
  have half : 2 * one ≤ 10 ^ k := by
    have double : 2 * one = 2 ^ (1 + scaleBits) := by rw [Nat.pow_add, ← one_eq, Nat.pow_one]
    rw [double]
    exact two_pow_le_ten_pow small
  generalize Interval.ofBinary ⟨negative, m, shift⟩ = i at low high least most
  have leastQ : (2 : ℚ) ≤ i.low := by exact_mod_cast least
  have mostQ : (i.high : ℚ) < 4 * (one * 10 ^ k) := by exact_mod_cast most
  have halfQ : 2 * (one : ℚ) ≤ 10 ^ k := by exact_mod_cast half
  clear least most half
  rw [decisive, zpow_neg, zpow_natCast]
  exact bounds_of_units positive halfQ (leastQ.trans low) (high.trans_lt mostQ)

/-! ## Reading -/

/-- The number of digits before the point says whether a magnitude is to be read at all. -/
theorem readable_of_bounds {d : Char} {rest : List Char} {e : Int}
    (digits : ∀ c ∈ d :: rest, Chars.isDigit c = true) (first : d ≠ '0')
    (least : (10 : ℚ) ^ (-decisiveExponent) ≤ Chars.natValue (d :: rest) * (10 : ℚ) ^ e)
    (most : Chars.natValue (d :: rest) * (10 : ℚ) ^ e < (10 : ℚ) ^ decisiveExponent) :
    ¬ decisiveExponent < ((d :: rest).length : Int) + e ∧
      ¬ ((d :: rest).length : Int) + e < -decisiveExponent := by
  have low := Chars.pow_le_natValue (digits d List.mem_cons_self) first rest
  have high := Chars.natValue_lt digits
  rw [List.length_cons] at high ⊢
  have lowQ : (10 : ℚ) ^ (rest.length : Int) ≤ Chars.natValue (d :: rest) := by
    rw [zpow_natCast]
    exact_mod_cast low
  have highQ : (Chars.natValue (d :: rest) : ℚ) < (10 : ℚ) ^ ((rest.length + 1 : Nat) : Int) := by
    rw [zpow_natCast]
    exact_mod_cast high
  have scale : (0 : ℚ) < 10 ^ e := zpow_pos (by norm_num) e
  constructor
  · intro great
    have power : (10 : ℚ) ^ decisiveExponent ≤ 10 ^ (rest.length : Int) * 10 ^ e := by
      rw [← zpow_add₀ (by norm_num)]
      exact zpow_le_zpow_right₀ (by norm_num) (by omega)
    exact absurd most (not_lt.2 (power.trans (mul_le_mul_of_nonneg_right lowQ scale.le)))
  · intro small
    have power :
        (10 : ℚ) ^ ((rest.length + 1 : Nat) : Int) * 10 ^ e ≤ 10 ^ (-decisiveExponent) := by
      rw [← zpow_add₀ (by norm_num)]
      exact zpow_le_zpow_right₀ (by norm_num) (by omega)
    exact absurd least (not_le.2 ((mul_lt_mul_of_pos_right highQ scale).trans_le power))

/-- Digits at their place are rounded to the number in whose interval they are. -/
theorem rounded_of_holds {x : Binary64} (canonical : x.IsCanonical) {v : Nat} {e : Int} :
    (Interval.ofBinary x).Holds (v * (10 : ℚ) ^ e) →
      (match e with
        | .ofNat e => ofRatio? x.negative (v * Nat.pow 10 e) 1
        | .negSucc e => ofRatio? x.negative v (Nat.pow 10 (e + 1))) = some x := by
  intro h
  cases e with
  | ofNat e =>
      refine ofRatio?_of_contains canonical Nat.one_pos
        ((Interval.contains_scale_iff Nat.one_pos).2 ?_)
      simpa using h
  | negSucc e =>
      have ten : 0 < Nat.pow 10 (e + 1) := Nat.pow_pos (by decide)
      refine ofRatio?_of_contains canonical ten ((Interval.contains_scale_iff ten).2 ?_)
      simpa [zpow_negSucc, div_eq_mul_inv] using h

section Reading

variable {n : Numeral} (digits : ∀ d ∈ n.whole ++ n.fraction, Chars.isDigit d = true)

include digits

/-- Digits that are all zero make zero, wherever the point is. -/
theorem toBinary_of_zero (zero : Chars.natValue (n.whole ++ n.fraction) = 0) :
    n.toBinary = .finite ⟨n.negative, 0, 0⟩ := by
  have none : (n.whole ++ n.fraction).dropWhile (· == '0') = [] := by
    cases left : (n.whole ++ n.fraction).dropWhile (· == '0') with
    | nil => rfl
    | cons d rest =>
        have first : d ≠ '0' := by
          have head :=
            List.head_dropWhile_not (· == '0') (l := n.whole ++ n.fraction) (by simp [left])
          simpa [left] using head
        have digit := digits d (List.dropWhile_subset _ (by rw [left]; exact List.mem_cons_self))
        have some := Chars.pow_le_natValue digit first rest
        rw [← left, Chars.natValue_dropZeros, zero] at some
        exact absurd some (Nat.not_le.2 (Nat.pow_pos (by decide)))
  unfold toBinary
  rw [none]
  rfl

/-- A numeral that stands for a magnitude in the interval of a number is read as that number. -/
theorem toBinary_of_holds {x : Binary64} (canonical : x.IsCanonical) (nonzero : x.mantissa ≠ 0)
    (sign : n.negative = x.negative) (h : (Interval.ofBinary x).Holds n.value) :
    n.toBinary = .finite x := by
  obtain ⟨least, most⟩ := bounds_of_holds canonical nonzero h
  obtain ⟨e, place⟩ : ∃ e : Int, n.exponent - n.fraction.length = e := ⟨_, rfl⟩
  have same := Chars.natValue_dropZeros (n.whole ++ n.fraction)
  have digit : ∀ d ∈ (n.whole ++ n.fraction).dropWhile (· == '0'), Chars.isDigit d = true :=
    fun d mem => digits d (List.dropWhile_subset _ mem)
  have head := List.head?_dropWhile_not (· == '0') (n.whole ++ n.fraction)
  unfold toBinary
  rw [place]
  rw [value, place, ← same] at h least most
  generalize (n.whole ++ n.fraction).dropWhile (· == '0') = ds at h least most digit head ⊢
  match ds with
  | [] =>
      have none : (Chars.natValue [] : ℚ) = 0 := Nat.cast_zero
      rw [none, zero_mul] at least
      exact absurd least (not_le.2 (zpow_pos (by norm_num) _))
  | d :: rest =>
      have first : d ≠ '0' := by simpa using head
      have written : ¬ (d :: rest).isEmpty = true := by simp
      obtain ⟨readable, noticed⟩ := readable_of_bounds digit first least most
      dsimp only
      rw [if_neg written, if_neg readable, if_neg noticed, sign]
      have rounded := rounded_of_holds canonical h
      split
      · next y found => exact congrArg _ (Option.some.inj (found.symm.trans rounded))
      · next missing => exact absurd (missing.symm.trans rounded) (by simp)

end Reading

end Numeral

end RequestScribe
