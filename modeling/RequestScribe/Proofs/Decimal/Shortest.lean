import Mathlib.Algebra.Order.Field.Power
import Mathlib.Data.Nat.Cast.Order.Field
import Mathlib.Data.Rat.Cast.Order
import Mathlib.Tactic.FieldSimp
import Mathlib.Tactic.NormNum
import Mathlib.Tactic.Positivity
import RequestScribe.Proofs.Decimal.Rounding

/-!
# Shortest decimals round to their number

Decimals are compared with the interval of a number as rationals.  A grid on
which the interval is longer than one step has a multiple in the interval, and
with seventeen digits the grid is that fine.  So there is a shortest decimal, and
it lies in the interval.
-/

namespace RequestScribe

open Binary64 (one)

def Decimal.value (d : Decimal) : ℚ :=
  d.significand * (10 : ℚ) ^ d.exponent

namespace Decimal

theorem one_pos : 0 < one := by
  unfold one
  generalize Binary64.scaleBits = bits
  exact Nat.two_pow_pos bits

namespace Interval

def Holds (i : Interval) (q : ℚ) : Prop :=
  (i.low : ℚ) ≤ 4 * (q * one) ∧ 4 * (q * one) ≤ i.high ∧
    (i.closed = false → (i.low : ℚ) < 4 * (q * one) ∧ 4 * (q * one) < i.high)

theorem contains_scale_iff {i : Interval} {num den : Nat} (pos : 0 < den) :
    (i.scale den).contains (4 * (num * one)) = true ↔ i.Holds ((num : ℚ) / den) := by
  have positive : (0 : ℚ) < den := by exact_mod_cast pos
  have product : 4 * ((num : ℚ) / den * one) = (4 * (num * one) : ℕ) / den := by
    push_cast
    ring
  unfold Holds
  rw [contains_iff, product, le_div_iff₀ positive, div_le_iff₀ positive, lt_div_iff₀ positive,
    div_lt_iff₀ positive]
  unfold scale
  norm_cast

theorem contains_onGrid_iff {i : Interval} {n : Nat} {e : Int} :
    (i.onGrid e).1.contains (n * (i.onGrid e).2) = true ↔ i.Holds (n * (10 : ℚ) ^ e) := by
  cases e with
  | ofNat p =>
      have whole : (n : ℚ) * (10 : ℚ) ^ (Int.ofNat p) = ((n * 10 ^ p : ℕ) : ℚ) / (1 : ℕ) := by
        rw [Int.ofNat_eq_natCast, zpow_natCast]
        push_cast
        ring
      have units : n * (4 * one * Nat.pow 10 p) = 4 * (n * 10 ^ p * one) := by
        rw [Nat.pow_eq]
        ring
      have same : i.scale 1 = i := by simp [scale]
      rw [whole, ← contains_scale_iff Nat.one_pos, same, ← units]
      rfl
  | negSucc p =>
      have quotient : (n : ℚ) * (10 : ℚ) ^ (Int.negSucc p) = (n : ℚ) / (10 ^ (p + 1) : ℕ) := by
        rw [zpow_negSucc]
        push_cast
        rw [div_eq_mul_inv]
      have units : n * (4 * one) = 4 * (n * one) := by ring
      rw [quotient, ← contains_scale_iff (Nat.pow_pos (by decide)), ← units]
      rfl

end Interval

/-! ## Grids -/

theorem holds_of_onGrid? {tie : Tie} {i : Interval} {e : Int} {d : Decimal}
    (h : onGrid? tie i e = some d) : i.Holds d.value := by
  have held (n : Nat) (inside : (i.onGrid e).1.contains (n * (i.onGrid e).2) = true) :
      i.Holds (Decimal.value ⟨n, e⟩) :=
    Interval.contains_onGrid_iff.1 inside
  unfold onGrid? at h
  dsimp only at h
  generalize (i.onGrid e).1.value / (i.onGrid e).2 = below at h
  generalize (i.onGrid e).1.value % (i.onGrid e).2 = rest at h
  cases lower : (i.onGrid e).1.contains (below * (i.onGrid e).2) <;>
    cases upper : (i.onGrid e).1.contains ((below + 1) * (i.onGrid e).2) <;>
    simp only [lower, upper] at h
  · exact absurd h (by simp)
  · obtain rfl := Option.some.inj h
    exact held (below + 1) upper
  · obtain rfl := Option.some.inj h
    exact held below lower
  · have both (n : Nat) (near : n = below ∨ n = below + 1) : i.Holds (Decimal.value ⟨n, e⟩) := by
      rcases near with rfl | rfl
      · exact held n lower
      · exact held (below + 1) upper
    split at h
    · obtain rfl := Option.some.inj h
      exact both below (.inl rfl)
    · split at h
      · obtain rfl := Option.some.inj h
        exact both (below + 1) (.inr rfl)
      · cases tie with
        | up =>
            obtain rfl := Option.some.inj h
            exact both (below + 1) (.inr rfl)
        | toEven =>
            obtain rfl := Option.some.inj h
            exact both (below + below % 2) (by omega)

theorem misses_of_onGrid? {tie : Tie} {i : Interval} {e : Int} (h : onGrid? tie i e = none) :
    let (grid, step) := i.onGrid e
    grid.contains (grid.value / step * step) = false ∧
      grid.contains ((grid.value / step + 1) * step) = false := by
  unfold onGrid? at h
  dsimp only at h ⊢
  split at h
  · exact absurd h (by simp)
  · exact absurd h (by simp)
  · next lower upper => exact ⟨lower, upper⟩
  · split at h
    · exact absurd h (by simp)
    · split at h
      · exact absurd h (by simp)
      · cases tie <;> exact absurd h (by simp)

/-- A step that is shorter than the interval does not miss it. -/
theorem onGrid?_ne_none (tie : Tie) {i : Interval} {e : Int}
    (low : (i.onGrid e).1.low ≤ (i.onGrid e).1.value)
    (high : (i.onGrid e).1.value < (i.onGrid e).1.high)
    (fine : (i.onGrid e).1.low + (i.onGrid e).2 < (i.onGrid e).1.high)
    (step : 0 < (i.onGrid e).2) : onGrid? tie i e ≠ none := by
  intro none
  have misses := misses_of_onGrid? none
  dsimp only at misses
  generalize (i.onGrid e).1 = grid, (i.onGrid e).2 = length at low high fine step misses
  obtain ⟨lower, upper⟩ := misses
  have parts := Nat.div_add_mod' grid.value length
  have rest := Nat.mod_lt grid.value step
  rw [Nat.succ_mul] at upper
  generalize grid.value / length * length = below at lower upper parts
  by_cases near : grid.low < below
  · rw [Interval.contains_iff.2 (by omega)] at lower
    exact absurd lower (by simp)
  · rw [Interval.contains_iff.2 (by omega)] at upper
    exact absurd upper (by simp)

/-! ## The greatest power of ten -/

theorem lt_pow_digitCount (n : Nat) : n < 10 ^ digitCount n :=
  (Nat.length_toDigits_le_iff (by decide) Nat.length_toDigits_pos).1 (Nat.le_refl _)

theorem pow_digitCount_le {n : Nat} (pos : 0 < n) : 10 ^ (digitCount n - 1) ≤ n := by
  by_cases single : digitCount n - 1 = 0
  · rw [single]
    exact pos
  · by_contra less
    have short := (Nat.length_toDigits_le_iff (by decide) (Nat.pos_of_ne_zero single)).2
      (Nat.not_le.1 less)
    unfold digitCount at single short
    omega

theorem pow_magnitude_le {num den : Nat} (hnum : 0 < num) (hden : 0 < den) :
    (10 : ℚ) ^ magnitude num den ≤ (num : ℚ) / den := by
  have positive : (0 : ℚ) < den := by exact_mod_cast hden
  -- A power below one, by the number of digits of the inverse quotient.
  have inverse (k : Nat) (h : den ≤ num * 10 ^ k) : (10 : ℚ) ^ (-(k : Int)) ≤ (num : ℚ) / den := by
    have cross : (den : ℚ) ≤ num * 10 ^ k := by exact_mod_cast h
    rw [zpow_neg, zpow_natCast, le_div_iff₀ positive, inv_mul_le_iff₀ (by positivity)]
    linarith
  unfold magnitude
  split
  · next whole =>
      have quotient : 0 < num / den := Nat.div_pos whole hden
      obtain ⟨k, length⟩ : ∃ k, digitCount (num / den) = k + 1 :=
        ⟨digitCount (num / den) - 1, by
          have := Nat.length_toDigits_pos (b := 10) (n := num / den)
          unfold digitCount
          omega⟩
      have least := pow_digitCount_le quotient
      have exponent : ((digitCount (num / den) : Nat) : Int) - 1 = (k : Int) := by omega
      rw [length, Nat.add_sub_cancel] at least
      rw [exponent, zpow_natCast]
      calc (10 : ℚ) ^ k ≤ (num / den : ℕ) := by exact_mod_cast least
        _ ≤ (num : ℚ) / den := Nat.cast_div_le
  · dsimp only
    obtain ⟨k, length⟩ : ∃ k, digitCount (den / num) = k + 1 :=
      ⟨digitCount (den / num) - 1, by
        have := Nat.length_toDigits_pos (b := 10) (n := den / num)
        unfold digitCount
        omega⟩
    rw [length, Nat.add_sub_cancel, Nat.pow_eq]
    split
    · next covers =>
        have exponent : 1 - ((k + 1 : ℕ) : Int) = -(k : Int) := by omega
        rw [exponent]
        exact inverse k covers
    · refine inverse (k + 1) ?_
      have above : den / num + 1 ≤ 10 ^ (k + 1) := length ▸ lt_pow_digitCount (den / num)
      have step := Nat.lt_mul_div_succ den hnum
      exact (Nat.le_of_lt step).trans (Nat.mul_le_mul_left num above)

/-! ## Seventeen digits suffice -/

theorem value_stripZeros (fuel n : Nat) (e : Int) :
    (stripZeros fuel n e).value = n * (10 : ℚ) ^ e := by
  induction fuel generalizing n e with
  | zero => rfl
  | succ fuel ih =>
      unfold stripZeros
      split
      · next zero =>
          have tenfold : n = n / 10 * 10 := by omega
          have cast : (n : ℚ) = (n / 10 : ℕ) * 10 := by exact_mod_cast tenfold
          rw [ih, zpow_add_one₀ (by norm_num), cast]
          ring
      · rfl

theorem value_normalize (d : Decimal) : d.normalize.value = d.value :=
  value_stripZeros _ _ _

section Grid

variable {x : Binary64}

theorem ofBinary_low_le : (Interval.ofBinary x).low ≤ (Interval.ofBinary x).value :=
  Nat.mul_le_mul_right _ (Nat.sub_le _ _)

theorem ofBinary_value_lt : (Interval.ofBinary x).value < (Interval.ofBinary x).high :=
  Nat.mul_lt_mul_of_pos_right (by omega) (Nat.two_pow_pos _)

theorem ofBinary_length (canonical : x.IsCanonical) (nonzero : x.mantissa ≠ 0) :
    (Interval.ofBinary x).value + (Interval.ofBinary x).low * 10 ^ 16 <
      (Interval.ofBinary x).high * 10 ^ 16 := by
  obtain ⟨negative, m, shift⟩ := x
  obtain ⟨lt, -, -⟩ := canonical
  simp only [Interval.ofBinary, Nat.pow_eq] at lt nonzero ⊢
  have unit : 0 < 2 ^ shift := Nat.two_pow_pos shift
  have common (k : Nat) : k * 2 ^ shift * 10 ^ 16 = k * 10 ^ 16 * 2 ^ shift := Nat.mul_right_comm ..
  rw [common, common, ← Nat.add_mul]
  refine Nat.mul_lt_mul_of_pos_right ?_ unit
  split <;> omega

/-- The step of a grid in the unit of the interval. -/
theorem onGrid_spec (i : Interval) (e : Int) :
    ∃ factor : Nat, 0 < factor ∧ (i.onGrid e).1 = i.scale factor ∧
      ((i.onGrid e).2 : ℚ) = (4 * one : ℕ) * (10 : ℚ) ^ e * factor := by
  cases e with
  | ofNat p =>
      refine ⟨1, Nat.one_pos, by simp [Interval.scale, Interval.onGrid], ?_⟩
      rw [Int.ofNat_eq_natCast, zpow_natCast]
      simp only [Interval.onGrid]
      generalize one = unit
      simp
  | negSucc p =>
      refine ⟨10 ^ (p + 1), Nat.pow_pos (by decide), rfl, ?_⟩
      rw [zpow_negSucc]
      simp only [Interval.onGrid]
      generalize one = unit
      simp

/-- Sixteen places below the first digit, a step is shorter than the interval. -/
theorem step_lt {low value high step factor unit : Nat} {e : Int}
    (length : value + low * 10 ^ 16 < high * 10 ^ 16) (scaled : 0 < factor) (units : 0 < unit)
    (top : (10 : ℚ) ^ e ≤ (value : ℚ) / unit)
    (size : (step : ℚ) = unit * (10 : ℚ) ^ (e - (16 : Nat)) * factor) :
    0 < step ∧ low * factor + step < high * factor := by
  have unitQ : (0 : ℚ) < unit := by exact_mod_cast units
  have factorQ : (0 : ℚ) < factor := by exact_mod_cast scaled
  have some : (0 : ℚ) < step := by
    rw [size]
    positivity
  have tens : (10 : ℚ) ^ (e - (16 : Nat)) * (10 : ℚ) ^ 16 = (10 : ℚ) ^ e := by
    rw [zpow_sub₀ (by norm_num), zpow_natCast, div_mul_cancel₀ _ (by positivity)]
  have cross : (10 : ℚ) ^ e * unit ≤ value := (le_div_iff₀ unitQ).1 top
  have bound : (step : ℚ) * (10 : ℚ) ^ 16 ≤ value * factor := by
    calc (step : ℚ) * (10 : ℚ) ^ 16
        = (10 : ℚ) ^ (e - (16 : Nat)) * (10 : ℚ) ^ 16 * unit * factor := by rw [size]; ring
      _ = (10 : ℚ) ^ e * unit * factor := by rw [tens]
      _ ≤ value * factor := mul_le_mul_of_nonneg_right cross factorQ.le
  have short : step * 10 ^ 16 ≤ value * factor := by exact_mod_cast bound
  have wide := Nat.mul_lt_mul_of_pos_right length scaled
  exact ⟨by exact_mod_cast some, by nlinarith⟩

theorem exists_onGrid? (tie : Tie) (canonical : x.IsCanonical) (nonzero : x.mantissa ≠ 0) :
    onGrid? tie (Interval.ofBinary x)
      (magnitude (Interval.ofBinary x).value (4 * one) - (16 : Nat)) ≠ none := by
  have positive : 0 < (Interval.ofBinary x).value :=
    Nat.mul_pos (Nat.mul_pos (by decide) (Nat.pos_of_ne_zero nonzero)) (Nat.two_pow_pos _)
  have unit : 0 < 4 * one := Nat.mul_pos (by decide) one_pos
  have top := pow_magnitude_le positive unit
  generalize magnitude (Interval.ofBinary x).value (4 * one) = e at top ⊢
  obtain ⟨factor, scaled, grid, size⟩ := onGrid_spec (Interval.ofBinary x) (e - (16 : Nat))
  obtain ⟨some, fine⟩ := step_lt (ofBinary_length canonical nonzero) scaled unit top size
  apply onGrid?_ne_none
  · rw [grid]
    exact Nat.mul_le_mul_right factor ofBinary_low_le
  · rw [grid]
    exact Nat.mul_lt_mul_of_pos_right ofBinary_value_lt scaled
  · rw [grid]
    exact fine
  · exact some

end Grid

/-- The shortest decimal of a number lies in the interval of the number. -/
theorem holds_shortest {x : Binary64} (tie : Tie) (canonical : x.IsCanonical)
    (nonzero : x.mantissa ≠ 0) : (Interval.ofBinary x).Holds (shortest tie x).value := by
  unfold shortest
  rw [if_neg nonzero]
  dsimp only
  split
  · next d found =>
      obtain ⟨k, -, onGrid⟩ := List.exists_of_findSome?_eq_some found
      rw [value_normalize]
      exact holds_of_onGrid? onGrid
  · next missing =>
      rw [List.findSome?_eq_none_iff] at missing
      exact absurd (missing 16 (by decide)) (exists_onGrid? tie canonical nonzero)

end Decimal

end RequestScribe
