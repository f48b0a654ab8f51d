import Mathlib.Tactic.Linarith
import Mathlib.Tactic.Ring
import RequestScribe.Decimal.Shortest

/-!
# Rounding to a binary number

Every quotient in the interval of a binary number is rounded to that number.
Quotients are compared with the ends of the interval by cross products, so all
of this is about integers.  The one number whose lower neighbour is nearer than
its upper one is reached from below by a carry.
-/

namespace RequestScribe

namespace Binary64

/-- The numbers there are: 53 bits unless the shift is least, and no shift beyond the greatest. -/
structure IsCanonical (x : Binary64) : Prop where
  lt : x.mantissa < 2 ^ 53
  normal : x.shift = 0 ∨ 2 ^ 52 ≤ x.mantissa
  le : x.shift ≤ maxShift

theorem isCanonical_iff (x : Binary64) :
    x.IsCanonical ↔
      x.mantissa < 2 ^ 53 ∧ (x.shift = 0 ∨ 2 ^ 52 ≤ x.mantissa) ∧ x.shift ≤ maxShift :=
  ⟨fun h => ⟨h.lt, h.normal, h.le⟩, fun ⟨lt, normal, le⟩ => ⟨lt, normal, le⟩⟩

instance (x : Binary64) : Decidable x.IsCanonical :=
  decidable_of_iff _ x.isCanonical_iff.symm

/-! ## The nearest integer -/

theorem roundQuotient_eq {num den m : Nat} (pos : 0 < den)
    (low : 2 * m * den ≤ 2 * num + den) (high : 2 * num ≤ 2 * m * den + den)
    (inside : m % 2 = 1 → 2 * m * den < 2 * num + den ∧ 2 * num < 2 * m * den + den) :
    roundQuotient num den = m := by
  have parts := Nat.div_add_mod' num den
  have rest := Nat.mod_lt num pos
  rw [Nat.mul_assoc] at low high inside
  unfold roundQuotient
  generalize num / den = q, num % den = r at parts rest ⊢
  have atLeast : q ≤ m := by
    by_contra above
    have step : (m + 1) * den ≤ q * den := Nat.mul_le_mul_right den (by omega)
    rw [Nat.add_mul, Nat.one_mul] at step
    omega
  have atMost : m ≤ q + 1 := by
    by_contra below
    have step : (q + 2) * den ≤ m * den := Nat.mul_le_mul_right den (by omega)
    rw [Nat.add_mul] at step
    omega
  dsimp only
  rcases Nat.eq_or_lt_of_le atLeast with same | less
  · subst same
    have half : 2 * r ≤ den := by omega
    split
    · rfl
    · have tie : 2 * r = den := by omega
      rw [if_neg (by omega)]
      by_contra odd
      have ends := inside (by omega)
      omega
  · obtain rfl : m = q + 1 := by omega
    rw [Nat.add_mul, Nat.one_mul] at low high inside
    have half : den ≤ 2 * r := by omega
    rw [if_neg (by omega)]
    split
    · rfl
    · have tie : 2 * r = den := by omega
      by_contra even
      have ends := inside (by omega)
      omega

theorem roundQuotient_bounds (num den : Nat) :
    num / den ≤ roundQuotient num den ∧ roundQuotient num den ≤ num / den + 1 := by
  unfold roundQuotient
  dsimp only
  split
  · omega
  · split <;> omega

/-! ## The shift -/

theorem log2_sub_eq {n shift : Nat} (high : n < 2 ^ (53 + shift))
    (low : shift = 0 ∨ 2 ^ (52 + shift) ≤ n) : n.log2 - 52 = shift := by
  by_cases zero : n = 0
  · subst zero
    rcases low with rfl | low
    · rfl
    · exact absurd low (by have := Nat.two_pow_pos (52 + shift); omega)
  · have most : n.log2 < 53 + shift := (Nat.log2_lt zero).2 high
    rcases low with rfl | low
    · omega
    · have least : 52 + shift ≤ n.log2 := (Nat.le_log2 zero).2 low
      omega

theorem shift_eq {scaled den shift : Nat} (pos : 0 < den)
    (high : scaled < 2 ^ 53 * (den * 2 ^ shift))
    (low : shift = 0 ∨ 2 ^ 52 * (den * 2 ^ shift) ≤ scaled) :
    (scaled / den).log2 - 52 = shift := by
  refine log2_sub_eq ?_ (low.imp_right fun low => ?_)
  · rwa [Nat.div_lt_iff_lt_mul pos, Nat.pow_add, Nat.mul_assoc, Nat.mul_comm _ den]
  · rwa [Nat.le_div_iff_mul_le pos, Nat.pow_add, Nat.mul_assoc, Nat.mul_comm _ den]

section Parts

variable {negative : Bool} {num den shift m : Nat}

theorem ofRatio?_of_rounded (exponent : (num * one / den).log2 - 52 = shift)
    (rounded : roundQuotient (num * one) (den * 2 ^ shift) = m) (lt : m < 2 ^ 53)
    (le : shift ≤ maxShift) : ofRatio? negative num den = some ⟨negative, m, shift⟩ := by
  have whole : ¬ m = 2 ^ 53 := by omega
  unfold ofRatio?
  simp only [exponent, Nat.pow_eq, rounded]
  rw [if_neg whole, inRange?, if_pos le]

theorem ofRatio?_of_carry (exponent : (num * one / den).log2 - 52 = shift)
    (rounded : roundQuotient (num * one) (den * 2 ^ shift) = 2 ^ 53) (le : shift + 1 ≤ maxShift) :
    ofRatio? negative num den = some ⟨negative, 2 ^ 52, shift + 1⟩ := by
  unfold ofRatio?
  simp only [exponent, Nat.pow_eq, rounded]
  rw [if_pos trivial, inRange?, if_pos le]

end Parts

theorem eq_of_inRange? {x y : Binary64} (h : inRange? x = some y) :
    x = y ∧ y.shift ≤ maxShift := by
  unfold inRange? at h
  split at h
  · next le =>
      obtain rfl := Option.some.inj h
      exact ⟨rfl, le⟩
  · exact absurd h (by simp)

/-- Whatever a quotient is rounded to is a canonical number. -/
theorem isCanonical_of_ofRatio? {negative : Bool} {num den : Nat} {x : Binary64}
    (h : ofRatio? negative num den = some x) : x.IsCanonical := by
  obtain ⟨shift, exponent⟩ : ∃ shift, (num * one / den).log2 - 52 = shift := ⟨_, rfl⟩
  obtain ⟨m, rounded⟩ : ∃ m, roundQuotient (num * one) (den * 2 ^ shift) = m := ⟨_, rfl⟩
  obtain ⟨floor, most⟩ := roundQuotient_bounds (num * one) (den * 2 ^ shift)
  rw [rounded, ← Nat.div_div_eq_div_mul] at floor most
  have small : num * one / den / 2 ^ shift < 2 ^ 53 := by
    rw [Nat.div_lt_iff_lt_mul (Nat.two_pow_pos shift), ← Nat.pow_add]
    refine Nat.lt_of_lt_of_le Nat.lt_log2_self (Nat.pow_le_pow_right (by decide) ?_)
    omega
  have normal : shift = 0 ∨ 2 ^ 52 ≤ m := by
    by_cases least : shift = 0
    · exact .inl least
    · refine .inr (Nat.le_trans ?_ floor)
      rw [Nat.le_div_iff_mul_le (Nat.two_pow_pos shift), ← Nat.pow_add]
      have some : num * one / den ≠ 0 := by
        intro zero
        rw [zero] at exponent
        exact least exponent.symm
      exact (Nat.le_log2 some).1 (by omega)
  unfold ofRatio? at h
  simp only [exponent, Nat.pow_eq, rounded] at h
  split at h
  · obtain ⟨rfl, le⟩ := eq_of_inRange? h
    exact ⟨Nat.pow_lt_pow_right (by decide) (by decide), .inr (Nat.le_refl _), le⟩
  · next whole =>
      obtain ⟨rfl, le⟩ := eq_of_inRange? h
      exact ⟨by dsimp only; omega, normal, le⟩

end Binary64

/-! ## Intervals -/

namespace Decimal

namespace Interval

def scale (i : Interval) (factor : Nat) : Interval :=
  ⟨i.low * factor, i.value * factor, i.high * factor, i.closed⟩

theorem contains_iff {i : Interval} {n : Nat} :
    i.contains n = true ↔
      i.low ≤ n ∧ n ≤ i.high ∧ (i.closed = false → i.low < n ∧ n < i.high) := by
  unfold contains
  cases i.closed with
  | true => simp
  | false =>
      simp only [Bool.false_eq_true, if_false, Bool.and_eq_true, decide_eq_true_eq, true_implies]
      omega

end Interval

end Decimal

namespace Binary64

open Decimal

section Bounds

variable {negative : Bool} {m shift den n : Nat}

/-- The ends of an interval are half a unit away, or a quarter below the least mantissa. -/
theorem bounds_of_contains
    (h : ((Interval.ofBinary ⟨negative, m, shift⟩).scale den).contains (4 * n) = true) :
    2 * m * (den * 2 ^ shift) ≤ 2 * n + den * 2 ^ shift ∧
      2 * n ≤ 2 * m * (den * 2 ^ shift) + den * 2 ^ shift ∧
      (m % 2 = 1 → 2 * m * (den * 2 ^ shift) < 2 * n + den * 2 ^ shift ∧
        2 * n < 2 * m * (den * 2 ^ shift) + den * 2 ^ shift) ∧
      (m = 2 ^ 52 → 0 < shift → 4 * m * (den * 2 ^ shift) ≤ 4 * n + den * 2 ^ shift) := by
  obtain ⟨low, high, ends⟩ := Interval.contains_iff.1 h
  simp only [Interval.scale, Interval.ofBinary, Nat.pow_eq, beq_eq_false_iff_ne] at low high ends
  have spread (k : Nat) : k * 2 ^ shift * den = k * (den * 2 ^ shift) := by
    rw [Nat.mul_assoc, Nat.mul_comm (2 ^ shift)]
  simp only [spread, Nat.sub_mul, Nat.add_mul, Nat.mul_assoc] at low high ends ⊢
  generalize den * 2 ^ shift = unit at low high ends ⊢
  generalize m * unit = product at low high ends ⊢
  by_cases least : m = 2 ^ 52 ∧ 0 < shift
  · rw [if_pos least] at low ends
    have even : ¬ m % 2 = 1 := by omega
    exact ⟨by omega, by omega, fun odd => absurd odd even, fun _ _ => by omega⟩
  · rw [if_neg least] at low ends
    refine ⟨by omega, by omega, fun odd => ?_, fun same pos => absurd ⟨same, pos⟩ least⟩
    have inside := ends (by omega)
    omega

end Bounds

/-- A quotient in the interval of a number is rounded to the number. -/
theorem ofRatio?_of_contains {x : Binary64} (canonical : x.IsCanonical) {num den : Nat}
    (pos : 0 < den)
    (h : ((Interval.ofBinary x).scale den).contains (4 * (num * one)) = true) :
    ofRatio? x.negative num den = some x := by
  obtain ⟨negative, m, shift⟩ := x
  obtain ⟨lt, normal, le⟩ := canonical
  obtain ⟨low, high, inside, carried⟩ := bounds_of_contains h
  dsimp only at lt normal le ⊢
  by_cases below : 0 < shift ∧ num * one < 2 ^ 52 * (den * 2 ^ shift)
  · -- Below the least mantissa one bit more is kept, and carried.
    obtain ⟨shifted, below⟩ := below
    have least : m = 2 ^ 52 := by
      by_contra other
      have more : 2 ^ 52 + 1 ≤ m := by omega
      have step := Nat.mul_le_mul_right (den * 2 ^ shift) more
      rw [Nat.add_mul, Nat.one_mul] at step
      rw [Nat.mul_assoc] at low
      omega
    obtain ⟨t, rfl⟩ : ∃ t, shift = t + 1 := ⟨shift - 1, by omega⟩
    have double : den * 2 ^ (t + 1) = 2 * (den * 2 ^ t) := by
      rw [Nat.pow_succ, ← Nat.mul_assoc, Nat.mul_comm]
    have quarter := carried least shifted
    subst least
    rw [double] at below quarter
    refine ofRatio?_of_carry (shift_eq pos ?_ (.inr ?_)) (roundQuotient_eq ?_ ?_ ?_ ?_) le
    · omega
    · omega
    · exact Nat.mul_pos pos (Nat.two_pow_pos t)
    · omega
    · omega
    · intro odd
      exact absurd odd (by decide)
  · have unit : 0 < den * 2 ^ shift := Nat.mul_pos pos (Nat.two_pow_pos shift)
    have beyond : m + 1 ≤ 2 ^ 53 := lt
    have step := Nat.mul_le_mul_right (den * 2 ^ shift) beyond
    have less : num * one < 2 ^ 53 * (den * 2 ^ shift) := by
      rw [Nat.add_mul, Nat.one_mul] at step
      rw [Nat.mul_assoc] at high
      omega
    refine ofRatio?_of_rounded (shift_eq pos less ?_) (roundQuotient_eq unit low high inside) lt le
    rcases Nat.eq_zero_or_pos shift with zero | shifted
    · exact .inl zero
    · exact .inr (by omega)

end Binary64

end RequestScribe
