import Mathlib.Algebra.Order.Field.Basic
import Mathlib.Algebra.Order.Field.Power
import Mathlib.Algebra.Order.Ring.Abs
import Mathlib.Data.Rat.Cast.Order
import Mathlib.Tactic.FieldSimp
import Mathlib.Tactic.Linarith
import Mathlib.Tactic.Positivity
import Mathlib.Tactic.Ring
import RecordComparison.Binary.Rounding

/-!
Rounding is to nearest, ties to even. The magnitudes of a format are a list that could go on
past its end: a place of the list is nearest to a number if no other place is nearer, and a
tie is won by the even one. What lies past the end is infinite. Main statement:
`Binary.of_int_iff`.
-/
namespace RecordComparison

/-- No value of a list that goes on without end is nearer to the number than the one at the
place, and of two nearest values the one at an even place is taken. -/
structure Nearest (value : Nat → ℚ) (r : ℚ) (place : Nat) : Prop where
  near : ∀ other, |value place - r| ≤ |value other - r|
  even : ∀ other, other ≠ place → |value place - r| = |value other - r| → place % 2 = 0

theorem nearest_unique {value : Nat → ℚ} (increasing : StrictMono value) {r : ℚ} {a b : Nat}
    (first : Nearest value r a) (second : Nearest value r b) : a = b := by
  by_contra apart
  wlog less : a < b generalizing a b
  · exact this second first (Ne.symm apart) (by omega)
  have same := le_antisymm (first.near b) (second.near a)
  have evenA := first.even b (Ne.symm apart) same
  have evenB := second.even a apart same.symm
  have below := increasing (show a < a + 1 by omega)
  have above := increasing (show a + 1 < b by omega)
  have between := first.near (a + 1)
  rcases abs_eq_abs.mp same with equal | opposite
  · linarith
  · have nearer : |value (a + 1) - r| < |value a - r| := by
      rw [abs_of_neg (by linarith : value a - r < 0), abs_lt]
      constructor <;> linarith
    linarith

namespace BinaryFormat

def magnitude (f : BinaryFormat) (place : Nat) : ℚ :=
  let run := place / 2 ^ f.fractionBits
  let fraction := place % 2 ^ f.fractionBits
  let significand := if run = 0 then fraction else 2 ^ f.fractionBits + fraction
  significand * 2 ^ (f.leastExponent + (run - 1 : Nat))

section Magnitudes

variable (f : BinaryFormat)

theorem magnitude_of_steps (s steps : Nat) (least : steps = 0 ∨ 2 ^ f.fractionBits ≤ s)
    (most : s ≤ 2 * 2 ^ f.fractionBits) :
    f.magnitude (s + steps * 2 ^ f.fractionBits) = s * 2 ^ (f.leastExponent + steps) := by
  have positive : 0 < 2 ^ f.fractionBits := Nat.two_pow_pos _
  simp only [magnitude]
  generalize 2 ^ f.fractionBits = full at *
  rw [Nat.add_mul_div_right _ _ positive, Nat.add_mul_mod_self_right]
  rcases Nat.lt_or_ge s full with low | high
  · obtain rfl : steps = 0 := by omega
    simp [Nat.div_eq_of_lt low, Nat.mod_eq_of_lt low]
  rcases Nat.lt_or_ge s (2 * full) with inside | past
  · have run : s / full = 1 := Nat.div_eq_of_lt_le (by omega) (by omega)
    have fraction : s % full = s - full := by
      rw [Nat.mod_eq_sub_mod high, Nat.mod_eq_of_lt (by omega)]
    rw [run, fraction, if_neg (by omega), show 1 + steps - 1 = steps by omega,
      show full + (s - full) = s by omega]
  · obtain rfl : s = 2 * full := by omega
    rw [Nat.mul_div_cancel _ positive, Nat.mul_mod_left, if_neg (by omega),
      show 2 + steps - 1 = steps + 1 by omega, Nat.add_zero]
    push_cast
    rw [← add_assoc, zpow_add_one₀ two_ne_zero]
    ring

theorem place_in_steps (place : Nat) :
    ∃ s steps, place = s + steps * 2 ^ f.fractionBits ∧
      (steps = 0 ∨ 2 ^ f.fractionBits ≤ s) ∧ s < 2 * 2 ^ f.fractionBits := by
  have positive : 0 < 2 ^ f.fractionBits := Nat.two_pow_pos _
  generalize 2 ^ f.fractionBits = full at *
  have below := Nat.mod_lt place positive
  have split := Nat.div_add_mod place full
  rcases Nat.eq_zero_or_pos (place / full) with first | later
  · refine ⟨place % full, 0, ?_, Or.inl rfl, by omega⟩
    rw [first] at split
    omega
  · refine ⟨full + place % full, place / full - 1, ?_, Or.inr (by omega), by omega⟩
    obtain ⟨run, same⟩ : ∃ run, place / full = run + 1 := ⟨place / full - 1, by omega⟩
    rw [same] at split ⊢
    rw [Nat.mul_add_one] at split
    rw [Nat.add_sub_cancel, Nat.mul_comm run]
    omega

theorem magnitude_lt_next (place : Nat) : f.magnitude place < f.magnitude (place + 1) := by
  obtain ⟨s, steps, rfl, least, most⟩ := f.place_in_steps place
  rw [f.magnitude_of_steps s steps least (by omega), Nat.add_right_comm,
    f.magnitude_of_steps (s + 1) steps (by omega) (by omega)]
  have unit : (0 : ℚ) < 2 ^ (f.leastExponent + steps) := by positivity
  push_cast
  linarith

theorem magnitude_strict_mono : StrictMono f.magnitude :=
  strictMono_nat_of_lt_succ f.magnitude_lt_next

theorem multiple_or_below (place steps : Nat) :
    (∃ c : Nat, f.magnitude place = c * 2 ^ (f.leastExponent + steps)) ∨
      0 < steps ∧
        f.magnitude place < (2 ^ f.fractionBits : Nat) * 2 ^ (f.leastExponent + steps) := by
  obtain ⟨s, own, rfl, least, most⟩ := f.place_in_steps place
  rw [f.magnitude_of_steps s own least (by omega)]
  rcases Nat.lt_or_ge own steps with below | above
  · right
    refine ⟨by omega, ?_⟩
    have step : (2 : ℚ) ^ (f.leastExponent + own) * 2 ≤ 2 ^ (f.leastExponent + steps) := by
      rw [← zpow_add_one₀ two_ne_zero]
      exact zpow_le_zpow_right₀ one_le_two (by omega)
    have unit : (0 : ℚ) < 2 ^ (f.leastExponent + own) := by positivity
    have small : (s : ℚ) < 2 * (2 ^ f.fractionBits : Nat) := by exact_mod_cast most
    nlinarith
  · left
    obtain ⟨more, rfl⟩ := Nat.exists_eq_add_of_le above
    refine ⟨s * 2 ^ more, ?_⟩
    have split : (2 : ℚ) ^ (f.leastExponent + (steps + more : Nat)) =
        2 ^ more * 2 ^ (f.leastExponent + steps) := by
      rw [Nat.cast_add, ← add_assoc, zpow_add₀ two_ne_zero, zpow_natCast, mul_comm]
    rw [split]
    push_cast
    ring

end Magnitudes

end BinaryFormat

section Quotients

theorem quotient_distance (p q k : Nat) (positive : 0 < q) :
    |(k : ℚ) - p / q| = ((k * q - p : ℤ).natAbs : ℚ) / q := by
  have unit : (0 : ℚ) < q := by exact_mod_cast positive
  have scaled : (k : ℚ) - p / q = (k * q - p : ℤ) / q := by
    push_cast
    field_simp
  rw [scaled, abs_div, abs_of_pos unit, ← Int.cast_abs, Int.abs_eq_natAbs, Int.cast_natCast]

/-- Distances are counted in parts of the denominator. The integers next to the fraction are
the quotient and its successor, and all others are at least a whole part further off. -/
theorem rounded_quotient_parts (p q : Nat) (positive : 0 < q) (c : Nat) :
    (roundedQuotient p q * q - p : ℤ).natAbs ≤ (c * q - p : ℤ).natAbs ∧
      (c ≠ roundedQuotient p q →
        (roundedQuotient p q * q - p : ℤ).natAbs = (c * q - p : ℤ).natAbs →
        roundedQuotient p q % 2 = 0) := by
  have small := Nat.mod_lt p positive
  have split : (p : ℤ) = (p / q : Nat) * q + (p % q : Nat) := by
    rw [mul_comm]
    exact_mod_cast (Nat.div_add_mod p q).symm
  have apart : (c : ℤ) * q + q ≤ (p / q : Nat) * q ∨ c = p / q ∨ c = p / q + 1 ∨
      ((p / q : Nat) : ℤ) * q + 2 * q ≤ c * q := by
    rcases Nat.lt_or_ge c (p / q) with below | above
    · left
      exact_mod_cast Nat.succ_mul c q ▸ Nat.mul_le_mul_right q below
    · rcases Nat.lt_or_ge c (p / q + 2) with next | past
      · omega
      · right; right; right
        exact_mod_cast Nat.add_mul (p / q) 2 q ▸ Nat.mul_le_mul_right q past
  simp only [roundedQuotient]
  generalize p / q = a at *
  generalize p % q = b at *
  have next : ((a + 1 : Nat) : ℤ) * q = a * q + q := by
    push_cast
    ring
  split
  next low => rcases apart with h | rfl | rfl | h <;> omega
  next high => rcases apart with h | rfl | rfl | h <;> omega

theorem rounded_quotient_nearest (p q : Nat) (positive : 0 < q) :
    Nearest Nat.cast (p / q) (roundedQuotient p q) := by
  have unit : (0 : ℚ) < q := by exact_mod_cast positive
  constructor
  · intro c
    rw [quotient_distance _ _ _ positive, quotient_distance _ _ _ positive,
      div_le_div_iff_of_pos_right unit, Nat.cast_le]
    exact (rounded_quotient_parts p q positive c).1
  · intro c
    rw [quotient_distance _ _ _ positive, quotient_distance _ _ _ positive,
      div_left_inj' unit.ne', Nat.cast_inj]
    exact (rounded_quotient_parts p q positive c).2

theorem power_fits_iff (p q : Nat) (positive : 0 < q) (e : Int) :
    powerFits p q e = true ↔ (2 : ℚ) ^ e ≤ p / q := by
  have unit : (0 : ℚ) < q := by exact_mod_cast positive
  rw [le_div_iff₀ unit]
  cases e with
  | ofNat e =>
    simp only [powerFits, decide_eq_true_eq, Int.ofNat_eq_natCast, zpow_natCast]
    rw [mul_comm]
    exact_mod_cast Iff.rfl
  | negSucc e =>
    simp only [powerFits, decide_eq_true_eq, zpow_negSucc]
    rw [inv_mul_le_iff₀ (by positivity), mul_comm]
    exact_mod_cast Iff.rfl

theorem log2_bounds (n : Nat) (positive : 0 < n) :
    (2 : ℚ) ^ (n.log2 : ℤ) ≤ n ∧ (n : ℚ) < 2 ^ ((n.log2 : ℤ) + 1) := by
  constructor
  · rw [zpow_natCast]
    exact_mod_cast Nat.log2_self_le positive.ne'
  · rw [← Nat.cast_add_one, zpow_natCast]
    exact_mod_cast Nat.lt_log2_self

theorem binary_exponent_bounds (p q : Nat) (nonzero : 0 < p) (positive : 0 < q) :
    (2 : ℚ) ^ binaryExponent p q ≤ p / q ∧ (p : ℚ) / q < 2 ^ (binaryExponent p q + 1) := by
  have unit : (0 : ℚ) < q := by exact_mod_cast positive
  obtain ⟨lowP, highP⟩ := log2_bounds p nonzero
  obtain ⟨lowQ, highQ⟩ := log2_bounds q positive
  have above : (p : ℚ) / q < 2 ^ ((p.log2 : ℤ) - q.log2 + 1) := by
    rw [div_lt_iff₀ unit]
    calc (p : ℚ) < 2 ^ ((p.log2 : ℤ) + 1) := highP
      _ = 2 ^ ((p.log2 : ℤ) - q.log2 + 1) * 2 ^ (q.log2 : ℤ) := by
        rw [← zpow_add₀ two_ne_zero]
        ring_nf
      _ ≤ _ := by gcongr
  have below : (2 : ℚ) ^ ((p.log2 : ℤ) - q.log2 - 1) ≤ p / q := by
    rw [le_div_iff₀ unit]
    calc (2 : ℚ) ^ ((p.log2 : ℤ) - q.log2 - 1) * q
        ≤ 2 ^ ((p.log2 : ℤ) - q.log2 - 1) * 2 ^ ((q.log2 : ℤ) + 1) := by gcongr
      _ = 2 ^ (p.log2 : ℤ) := by
        rw [← zpow_add₀ two_ne_zero]
        ring_nf
      _ ≤ p := lowP
  simp only [binaryExponent]
  split
  next fits => exact ⟨(power_fits_iff p q positive _).mp fits, above⟩
  next past =>
    rw [power_fits_iff p q positive, not_le] at past
    rw [sub_add_cancel]
    exact ⟨below, past⟩

end Quotients

theorem le_nearest_integer {x : ℚ} {s k : Nat} (rounded : Nearest Nat.cast x s)
    (low : (k : ℚ) ≤ x) : k ≤ s := by
  have near := rounded.near k
  rw [abs_of_nonpos (sub_nonpos.mpr low)] at near
  have distance := neg_le_of_abs_le near
  exact_mod_cast (by linarith : (k : ℚ) ≤ s)

theorem nearest_integer_le {x : ℚ} {s k : Nat} (rounded : Nearest Nat.cast x s)
    (high : x ≤ (k : ℚ)) : s ≤ k := by
  have near := rounded.near k
  rw [abs_of_nonneg (sub_nonneg.mpr high)] at near
  have distance := le_of_abs_le near
  exact_mod_cast (by linarith : (s : ℚ) ≤ k)

namespace BinaryFormat

/-- The nearest integer number of steps of one size gives the nearest place, if the number lies
among the places of that size. Places of other sizes are multiples of the step size too, or lie
below the least place of the size. -/
theorem nearest_of_significand (f : BinaryFormat) (halves : 0 < f.fractionBits) {x : ℚ}
    {s steps : Nat} (rounded : Nearest Nat.cast x s)
    (least : steps = 0 ∨ ((2 ^ f.fractionBits : Nat) : ℚ) ≤ x)
    (most : x ≤ 2 * (2 ^ f.fractionBits : Nat)) :
    Nearest f.magnitude (x * 2 ^ (f.leastExponent + steps)) (s + steps * 2 ^ f.fractionBits) := by
  have even : 2 ^ f.fractionBits % 2 = 0 := by
    obtain ⟨bits, same⟩ := Nat.exists_eq_succ_of_ne_zero halves.ne'
    rw [same, Nat.pow_succ, Nat.mul_mod_left]
  have multiple (k : Nat) := f.multiple_or_below k steps
  have counted := f.magnitude_of_steps s steps
  generalize 2 ^ f.fractionBits = full at *
  have unit : (0 : ℚ) < 2 ^ (f.leastExponent + steps) := by positivity
  have aboveLeast : steps = 0 ∨ full ≤ s := least.imp_right (le_nearest_integer rounded)
  have belowMost : s ≤ 2 * full := nearest_integer_le rounded (by exact_mod_cast most)
  have here := counted aboveLeast belowMost
  have scaled (c : ℚ) : |c * 2 ^ (f.leastExponent + steps) - x * 2 ^ (f.leastExponent + steps)| =
      |c - x| * 2 ^ (f.leastExponent + steps) := by
    rw [← sub_mul, abs_mul, abs_of_pos unit]
  generalize (2 : ℚ) ^ (f.leastExponent + steps) = step at *
  have others (k : Nat) :
      |f.magnitude (s + steps * full) - x * step| ≤ |f.magnitude k - x * step| ∧
        (k ≠ s + steps * full →
          |f.magnitude (s + steps * full) - x * step| = |f.magnitude k - x * step| →
          s % 2 = 0) := by
    rw [here, scaled]
    rcases multiple k with ⟨c, same⟩ | ⟨later, below⟩
    · rw [same, scaled]
      have near := rounded.near c
      refine ⟨by gcongr, fun apart equal => rounded.even c ?_ (mul_right_cancel₀ unit.ne' equal)⟩
      rintro rfl
      exact apart (f.magnitude_strict_mono.injective (same.trans here.symm))
    · have low : (full : ℚ) ≤ x := least.resolve_left later.ne'
      have near := rounded.near full
      rw [abs_of_nonpos (sub_nonpos.mpr low), neg_sub] at near
      have further : |(s : ℚ) - x| * step < |f.magnitude k - x * step| := by
        calc |(s : ℚ) - x| * step ≤ (x - full) * step := by gcongr
          _ < x * step - f.magnitude k := by linarith
          _ ≤ |f.magnitude k - x * step| := by rw [abs_sub_comm]; exact le_abs_self _
      exact ⟨further.le, fun _ equal => absurd equal further.ne⟩
  refine ⟨fun k => (others k).1, fun k apart equal => ?_⟩
  have significand := (others k).2 apart equal
  rw [Nat.add_mod, Nat.mul_mod, even, significand, Nat.mul_zero]

end BinaryFormat

namespace Binary

variable {f : BinaryFormat}

def Rounds (r : ℚ) (x : Binary f) : Prop :=
  ∃ place, Nearest f.magnitude |r| place ∧ x = ofPlace (decide (r < 0)) place

theorem scaled_significand_nearest (p q : Nat) (positive : 0 < q) (e : Int) :
    Nearest Nat.cast (p / q / 2 ^ e)
      (match e with
        | .ofNat e => roundedQuotient p (q * 2 ^ e)
        | .negSucc e => roundedQuotient (p * 2 ^ (e + 1)) q) := by
  cases e with
  | ofNat e =>
    have nearest := rounded_quotient_nearest p (q * 2 ^ e)
      (Nat.mul_pos positive (Nat.two_pow_pos e))
    have fraction : (p : ℚ) / (q * 2 ^ e : Nat) = p / q / 2 ^ (Int.ofNat e) := by
      rw [Int.ofNat_eq_natCast, zpow_natCast, div_div]
      push_cast
      rfl
    rwa [fraction] at nearest
  | negSucc e =>
    have nearest := rounded_quotient_nearest (p * 2 ^ (e + 1)) q positive
    have fraction : ((p * 2 ^ (e + 1) : Nat) : ℚ) / q = p / q / 2 ^ (Int.negSucc e) := by
      rw [zpow_negSucc, div_inv_eq_mul, div_mul_eq_mul_div]
      push_cast
      rfl
    rwa [fraction] at nearest

theorem of_ratio_nearest (halves : 0 < f.fractionBits) (negative : Bool) (p q : Nat)
    (positive : 0 < q) :
    ∃ place, Nearest f.magnitude (p / q) place ∧
      ofRatio (f := f) negative p q = ofPlace negative place := by
  by_cases zero : p = 0
  · refine ⟨0, ⟨fun other => ?_, fun _ _ _ => rfl⟩, if_pos zero⟩
    simp [zero, BinaryFormat.magnitude]
  obtain ⟨low, high⟩ := binary_exponent_bounds p q (Nat.pos_of_ne_zero zero) positive
  refine ⟨_, ?_, if_neg zero⟩
  generalize binaryExponent p q = e at *
  generalize counted : (e - f.fractionBits - f.leastExponent).toNat = steps
  have unit : (0 : ℚ) < 2 ^ (f.leastExponent + steps) := by positivity
  have full : ((2 ^ f.fractionBits : Nat) : ℚ) = 2 ^ (f.fractionBits : ℤ) := by
    rw [zpow_natCast]
    exact_mod_cast rfl
  have whole : (p : ℚ) / q = p / q / 2 ^ (f.leastExponent + steps) *
      2 ^ (f.leastExponent + steps) := (div_mul_cancel₀ _ unit.ne').symm
  rw [whole]
  refine f.nearest_of_significand halves
    (scaled_significand_nearest p q positive (f.leastExponent + steps)) ?_ ?_
  · rcases Nat.eq_zero_or_pos steps with first | later
    · exact Or.inl first
    · right
      rw [le_div_iff₀ unit, full, ← zpow_add₀ two_ne_zero]
      refine le_trans (zpow_le_zpow_right₀ one_le_two ?_) low
      omega
  · rw [div_le_iff₀ unit, full, ← zpow_one_add₀ two_ne_zero, ← zpow_add₀ two_ne_zero]
    refine le_trans high.le (zpow_le_zpow_right₀ one_le_two ?_)
    omega

theorem of_int_iff (halves : 0 < f.fractionBits) (n : Int) (x : Binary f) :
    ofInt n = x ↔ x.Rounds n := by
  obtain ⟨place, nearest, same⟩ := of_ratio_nearest halves (decide (n < 0)) n.natAbs 1 one_pos
  have size : (n.natAbs : ℚ) / (1 : Nat) = |(n : ℚ)| := by
    rw [Nat.cast_one, div_one, ← Int.cast_abs, Int.abs_eq_natAbs, Int.cast_natCast]
  have sign : decide ((n : ℚ) < 0) = decide (n < 0) := by simp
  rw [size] at nearest
  constructor
  · rintro rfl
    exact ⟨place, nearest, sign ▸ same⟩
  · rintro ⟨other, also, rfl⟩
    rw [nearest_unique f.magnitude_strict_mono also nearest, sign]
    exact same

theorem double_of_int_iff (n : Int) (x : Double) : ofInt n = x ↔ x.Rounds n :=
  of_int_iff (by decide) n x

end Binary

end RecordComparison
