import CallFlow.Decimal
import Mathlib.Algebra.Order.Field.Power
import Mathlib.Algebra.Order.Round
import Mathlib.Data.Nat.Cast.Order.Field
import Mathlib.Data.Rat.Floor
import Mathlib.Tactic.FieldSimp
import Mathlib.Tactic.Linarith
import Mathlib.Tactic.NormNum
import Mathlib.Tactic.Positivity
import Mathlib.Tactic.Ring

/-!
# Nearest numbers

Whole numbers, products and decimals are rounded to a binary64 number that no other one is nearer
than. Nothing else about rounding is needed: what the format holds is met exactly, and rounded
numbers are in the order of those they come from.
-/

namespace CallFlow
set_option autoImplicit false

namespace Binary64

variable {p q n : Nat} {x y : Binary64} {v w : ℚ}

/-! Whole numbers near to a quotient. -/

theorem abs_roundQuotient_sub_le (p : Nat) (hq : 0 < q) :
    |(roundQuotient p q : ℚ) - p / q| ≤ 1 / 2 := by
  have hbounds : 2 * p ≤ 2 * (roundQuotient p q * q) + q ∧
      2 * (roundQuotient p q * q) ≤ 2 * p + q := by
    have hdiv := Nat.div_add_mod' p q
    have hmod := Nat.mod_lt p hq
    have hsucc := Nat.add_one_mul (p / q) q
    unfold roundQuotient
    dsimp only
    split
    · omega
    · split
      · omega
      · split <;> omega
  obtain ⟨hlow, hhigh⟩ : (2 * p : ℚ) ≤ 2 * (roundQuotient p q * q) + q ∧
      (2 * (roundQuotient p q * q) : ℚ) ≤ 2 * p + q := by exact_mod_cast hbounds
  have hpos : (0 : ℚ) < q := by exact_mod_cast hq
  have hv : (p / q : ℚ) * q = p := div_mul_cancel₀ _ hpos.ne'
  rw [abs_le]
  constructor <;> nlinarith

theorem roundQuotient_nearest (p : Nat) (hq : 0 < q) (t : Nat) :
    |(roundQuotient p q : ℚ) - p / q| ≤ |(t : ℚ) - p / q| := by
  by_cases heq : t = roundQuotient p q
  · rw [heq]
  · -- Different whole numbers are one apart or more, the quotient and its own half of that.
    have hapart : (1 : ℚ) ≤ |(t : ℚ) - roundQuotient p q| := by
      have hint : (1 : ℤ) ≤ |(t : ℤ) - roundQuotient p q| := by
        apply Int.one_le_abs
        omega
      exact_mod_cast hint
    have htri := abs_sub_le (t : ℚ) (p / q) (roundQuotient p q)
    rw [abs_sub_comm (p / q : ℚ)] at htri
    have hhalf := abs_roundQuotient_sub_le p hq
    linarith

/-! Counts of steps with 53 significant bits. -/

/-- A count of steps with at most 53 significant bits, however large. -/
def Spaced (n : Nat) : Prop := ∃ m k, m < 1 <<< 53 ∧ n = m <<< k

theorem roundSteps_nearest_multiple (p : Nat) (hq : 0 < q) (t : Nat) :
    |(roundSteps p q : ℚ) - p / q| ≤
      |((t * 2 ^ ((p / q).log2 - 52) : Nat) : ℚ) - p / q| := by
  set s := (p / q).log2 - 52 with hs
  have hround : roundSteps p q = roundQuotient p (q * 2 ^ s) * 2 ^ s := by
    rw [roundSteps, ← hs, Nat.shiftLeft_eq, Nat.shiftLeft_eq]
  have hpow : (0 : ℚ) < 2 ^ s := by positivity
  have hscale : ∀ a : Nat, |((a * 2 ^ s : Nat) : ℚ) - p / q| =
      |(a : ℚ) - p / ((q * 2 ^ s : Nat) : ℚ)| * 2 ^ s := by
    intro a
    have hfactor : ((a * 2 ^ s : Nat) : ℚ) - p / q =
        ((a : ℚ) - p / ((q * 2 ^ s : Nat) : ℚ)) * 2 ^ s := by
      have hne : (q : ℚ) ≠ 0 := by exact_mod_cast hq.ne'
      push_cast
      field_simp
    rw [hfactor, abs_mul, abs_of_pos hpow]
  rw [hround, hscale, hscale]
  apply mul_le_mul_of_nonneg_right _ hpow.le
  exact roundQuotient_nearest p (by positivity) t

theorem roundSteps_nearest (p : Nat) (hq : 0 < q) (hn : Spaced n) :
    |(roundSteps p q : ℚ) - p / q| ≤ |(n : ℚ) - p / q| := by
  have hmultiple := roundSteps_nearest_multiple p hq
  set s := (p / q).log2 - 52 with hs
  obtain ⟨m, k, hm, rfl⟩ := hn
  rw [Nat.one_shiftLeft] at hm
  rw [Nat.shiftLeft_eq]
  rcases Nat.lt_or_ge k s with hk | hk
  · -- Finer counts are below the power of two that the quotient begins with.
    have hlog : (p / q).log2 = 52 + s := by omega
    have hfloor : 2 ^ (52 + s) ≤ p / q := by
      rw [← hlog]
      apply Nat.log2_self_le
      intro hdiv
      rw [hdiv, Nat.log2_zero] at hlog
      omega
    have hbelow : m * 2 ^ k ≤ 2 ^ (52 + s) := by
      calc m * 2 ^ k ≤ 2 ^ 53 * 2 ^ k := Nat.mul_le_mul_right _ hm.le
        _ = 2 ^ (53 + k) := (Nat.pow_add ..).symm
        _ ≤ 2 ^ (52 + s) := Nat.pow_le_pow_right (by decide) (by omega)
    have hpower : ((2 ^ 52 * 2 ^ s : Nat) : ℚ) ≤ p / q := by
      rw [← Nat.pow_add]
      exact (Nat.cast_le.mpr hfloor).trans Nat.cast_div_le
    have hfine : ((m * 2 ^ k : Nat) : ℚ) ≤ ((2 ^ 52 * 2 ^ s : Nat) : ℚ) := by
      rw [← Nat.pow_add]
      exact_mod_cast hbelow
    exact (hmultiple (2 ^ 52)).trans
      (abs_le_abs_of_nonpos (sub_nonpos.mpr hpower) (sub_le_sub_right hfine _))
  · have hsplit : m * 2 ^ k = m * 2 ^ (k - s) * 2 ^ s := by
      rw [Nat.mul_assoc, ← Nat.pow_add, Nat.sub_add_cancel hk]
    rw [hsplit]
    exact hmultiple _

theorem roundSteps_le (hq : 0 < q) (hn : Spaced n) (hle : p ≤ n * q) : roundSteps p q ≤ n := by
  have hv : (p / q : ℚ) ≤ n := by
    rw [div_le_iff₀ (by exact_mod_cast hq)]
    exact_mod_cast hle
  have hnear := roundSteps_nearest p hq hn
  rw [abs_of_nonneg (sub_nonneg.mpr hv)] at hnear
  have hle := (abs_le.mp hnear).2
  exact_mod_cast (by linarith : (roundSteps p q : ℚ) ≤ n)

/-! Signed numbers. -/

def signed (negative : Bool) (v : ℚ) : ℚ := if negative then -v else v

theorem abs_signed (negative : Bool) (v : ℚ) : |signed negative v| = |v| := by
  cases negative
  · rfl
  · exact abs_neg v

theorem abs_signed_sub_signed (negative : Bool) (v w : ℚ) :
    |signed negative v - signed negative w| = |v - w| := by
  cases negative
  · rfl
  · rw [signed, signed, if_pos rfl, if_pos rfl, neg_sub_neg, abs_sub_comm]

theorem signed_mul_signed (b c : Bool) (v w : ℚ) :
    signed b v * signed c w = signed (b != c) (v * w) := by
  cases b <;> cases c <;> simp [signed]

def toRat (x : Binary64) : ℚ := x.signedSteps / unit

theorem unit_pos : 0 < unit := shiftLeft_pos (by decide) places

theorem cast_unit_pos : (0 : ℚ) < unit := Nat.cast_pos.mpr unit_pos

theorem toRat_eq_signed (x : Binary64) : x.toRat = signed x.negative (x.steps / unit) := by
  unfold toRat signedSteps signed
  split
  · rw [Int.cast_neg, Int.cast_natCast, neg_div]
  · rw [Int.cast_natCast]

theorem toRat_of_steps (x : Binary64) (h : (x.steps : ℚ) = v * unit) :
    x.toRat = signed x.negative v := by
  rw [toRat_eq_signed, h, mul_div_cancel_right₀ _ cast_unit_pos.ne']

theorem abs_toRat (x : Binary64) : |x.toRat| = x.steps / unit := by
  rw [toRat_eq_signed, abs_signed]
  exact abs_of_nonneg (div_nonneg (Nat.cast_nonneg _) cast_unit_pos.le)

theorem toRat_nonneg_iff : 0 ≤ x.toRat ↔ 0 ≤ x.signedSteps := by
  rw [toRat, le_div_iff₀ cast_unit_pos, zero_mul, Int.cast_nonneg_iff]

theorem le_iff_toRat_le : x ≤ y ↔ x.toRat ≤ y.toRat := by
  rw [toRat, toRat, div_le_div_iff_of_pos_right cast_unit_pos, Int.cast_le]
  rfl

theorem eq_of_signed_eq {b c : Bool} (h : signed b v = signed c v) (hv : v ≠ 0) : b = c := by
  cases b <;> cases c
  · rfl
  · exact absurd (self_eq_neg.mp h) hv
  · exact absurd (self_eq_neg.mp h.symm) hv
  · rfl

/-- Only zero is there twice. -/
theorem eq_of_toRat_eq (h : x.toRat = y.toRat) (hne : x.toRat ≠ 0) : x = y := by
  have hsteps : x.steps = y.steps := by
    have habs := congrArg abs h
    rw [abs_toRat, abs_toRat, div_left_inj' cast_unit_pos.ne', Nat.cast_inj] at habs
    exact habs
  have hnegative : x.negative = y.negative := by
    have hmagnitude : (x.steps / unit : ℚ) ≠ 0 := by
      rw [← abs_toRat]
      exact abs_ne_zero.mpr hne
    rw [toRat_eq_signed, toRat_eq_signed, ← hsteps] at h
    exact eq_of_signed_eq h hmagnitude
  obtain ⟨b, m, hm⟩ := x
  obtain ⟨c, n, hn⟩ := y
  obtain rfl : b = c := hnegative
  obtain rfl : m = n := hsteps
  rfl

theorem toRat_clamp {low high : Binary64} (h : low ≤ high) (x : Binary64) :
    (x.clamp low high).toRat = max low.toRat (min high.toRat x.toRat) := by
  have hrange := le_iff_toRat_le.mp h
  unfold clamp
  split
  next hlow =>
    have hlow : x.toRat < low.toRat := not_le.mp (mt le_iff_toRat_le.mpr hlow)
    rw [max_eq_left (min_le_of_right_le hlow.le)]
  next hlow =>
    have hlow := le_iff_toRat_le.mp (not_not.mp hlow)
    split
    next hhigh =>
      have hhigh : high.toRat < x.toRat := not_le.mp (mt le_iff_toRat_le.mpr hhigh)
      rw [min_eq_left hhigh.le, max_eq_right hrange]
    next hhigh =>
      have hhigh := le_iff_toRat_le.mp (not_not.mp hhigh)
      rw [min_eq_right hhigh, max_eq_right hlow]

/-- No binary64 number is nearer than this one. -/
def IsNearest (x : Binary64) (v : ℚ) : Prop := ∀ y : Binary64, |x.toRat - v| ≤ |y.toRat - v|

theorem isNearest_toRat (x : Binary64) : x.IsNearest x.toRat := by
  intro y
  rw [sub_self, abs_zero]
  exact abs_nonneg _

namespace IsNearest

theorem toRat_eq (h : x.IsNearest y.toRat) : x.toRat = y.toRat := by
  have hzero := h y
  rw [sub_self, abs_zero] at hzero
  exact sub_eq_zero.mp (abs_nonpos_iff.mp hzero)

theorem le_of_lt (hx : x.IsNearest v) (hy : y.IsNearest w) (hlt : v < w) : x.toRat ≤ y.toRat := by
  by_contra hgt
  have hgt : y.toRat < x.toRat := not_le.mp hgt
  -- With the roundings in the wrong order, both numbers would be on both sides of their middle.
  have hv : x.toRat + y.toRat ≤ 2 * v := by
    by_contra hmiddle
    refine absurd (hx y) (not_le.mpr (lt_of_lt_of_le ?_ (le_abs_self _)))
    rw [abs_lt]
    constructor <;> linarith
  have hw : 2 * w ≤ x.toRat + y.toRat := by
    by_contra hmiddle
    refine absurd (hy x) (not_le.mpr (lt_of_lt_of_le ?_ (neg_le_abs _)))
    rw [abs_lt]
    constructor <;> linarith
  linarith

theorem le_toRat (h : x.IsNearest v) (hle : v ≤ y.toRat) : x.toRat ≤ y.toRat := by
  rcases hle.lt_or_eq with hlt | rfl
  · exact h.le_of_lt y.isNearest_toRat hlt
  · exact h.toRat_eq.le

theorem toRat_le (h : x.IsNearest v) (hle : y.toRat ≤ v) : y.toRat ≤ x.toRat := by
  rcases hle.lt_or_eq with hlt | rfl
  · exact y.isNearest_toRat.le_of_lt h hlt
  · exact h.toRat_eq.ge

end IsNearest

/-! Conversions. -/

variable {negative : Bool}

theorem isNearest_ofRatio (hq : 0 < q) (h : ofRatio negative p q = some x) :
    x.IsNearest (signed negative (p / q)) := by
  unfold ofRatio at h
  split at h
  next hlimit =>
    obtain rfl := Option.some.inj h
    intro y
    have hunit := cast_unit_pos
    have hq : (0 : ℚ) < q := Nat.cast_pos.mpr hq
    have hscale : ∀ steps : Nat, |(steps / unit : ℚ) - p / q| =
        |(steps : ℚ) - ((p * unit : Nat) : ℚ) / q| / unit := by
      intro steps
      rw [eq_div_iff hunit.ne', ← abs_of_pos hunit, ← abs_mul, abs_of_pos hunit, sub_mul]
      push_cast
      rw [div_mul_cancel₀ _ hunit.ne', mul_comm (p : ℚ), mul_div_assoc, mul_comm (unit : ℚ)]
    calc |toRat _ - signed negative (p / q)|
        = |(roundSteps (p * unit) q / unit : ℚ) - p / q| := by
          rw [toRat_eq_signed, abs_signed_sub_signed]
      _ ≤ |(y.steps / unit : ℚ) - p / q| := by
          rw [hscale, hscale]
          apply div_le_div_of_nonneg_right _ hunit.le
          exact roundSteps_nearest _ (Nat.cast_pos.mp hq) y.fits.2
      _ = |(|y.toRat| - |signed negative (p / q)| : ℚ)| := by
          rw [abs_toRat, abs_signed, abs_of_nonneg (div_nonneg (Nat.cast_nonneg _) hq.le)]
      _ ≤ |y.toRat - signed negative (p / q)| := abs_abs_sub_abs_le _ _
  next => cases h

/-- Only what is larger than every number is not rounded to one. -/
theorem exists_ofRatio (negative : Bool) (hq : 0 < q) (hle : (p / q : ℚ) ≤ |y.toRat|) :
    ∃ x, ofRatio negative p q = some x := by
  have hsteps : roundSteps (p * unit) q ≤ y.steps := by
    apply roundSteps_le hq y.fits.2
    rw [abs_toRat, div_le_div_iff₀ (Nat.cast_pos.mpr hq) cast_unit_pos] at hle
    exact_mod_cast hle
  exact ⟨_, dif_pos (Nat.lt_of_le_of_lt hsteps y.fits.1)⟩

theorem signed_natAbs (n : Int) : signed (decide (n < 0)) n.natAbs = n := by
  rw [Nat.cast_natAbs, Int.cast_abs]
  unfold signed
  split
  next hneg =>
    have hneg : (n : ℚ) < 0 := Int.cast_lt_zero.mpr (of_decide_eq_true hneg)
    rw [abs_of_neg hneg, neg_neg]
  next hneg =>
    exact abs_of_nonneg (Int.cast_nonneg (not_lt.mp fun h => hneg (decide_eq_true h)))

theorem isNearest_ofInt {n : Int} (h : ofInt n = some x) : x.IsNearest n := by
  have hnear := isNearest_ofRatio Nat.one_pos h
  rwa [Nat.cast_one, div_one, signed_natAbs] at hnear

theorem cast_shiftLeft_places (n : Nat) : ((n <<< places : Nat) : ℚ) = n * unit := by
  rw [Nat.shiftLeft_eq, unit, Nat.one_shiftLeft, Nat.cast_mul]

theorem toRat_ofSmall (n : Nat) (h : n < 1 <<< 53) : (ofSmall n h).toRat = n := by
  have hsteps : (ofSmall n h).steps = n <<< places := rfl
  exact toRat_of_steps _ (hsteps ▸ cast_shiftLeft_places n)

theorem toRat_half : half.toRat = 1 / 2 := by
  have hdouble : half.steps * 2 = unit := by decide +kernel
  have hsteps : (half.steps : ℚ) = 1 / 2 * unit := by
    rw [← hdouble]
    push_cast
    ring
  exact toRat_of_steps _ hsteps

theorem exists_toRat_eq_int {n : Int} (h : n.natAbs < 1 <<< 53) : ∃ y : Binary64, y.toRat = n := by
  let y : Binary64 := { ofSmall n.natAbs h with negative := decide (n < 0) }
  have hsteps : y.steps = n.natAbs <<< places := rfl
  refine ⟨y, ?_⟩
  rw [toRat_of_steps y (hsteps ▸ cast_shiftLeft_places n.natAbs)]
  exact signed_natAbs n

namespace IsNearest

/-! Rounding takes no number past a whole one. -/

variable {n : Int}

theorem toRat_le_int (h : x.IsNearest v) (hn : n.natAbs < 1 <<< 53) (hle : v ≤ n) :
    x.toRat ≤ n := by
  obtain ⟨y, hy⟩ := exists_toRat_eq_int hn
  rw [← hy] at hle ⊢
  exact h.le_toRat hle

theorem int_le_toRat (h : x.IsNearest v) (hn : n.natAbs < 1 <<< 53) (hle : n ≤ v) :
    n ≤ x.toRat := by
  obtain ⟨y, hy⟩ := exists_toRat_eq_int hn
  rw [← hy] at hle ⊢
  exact h.toRat_le hle

end IsNearest

theorem exists_toRat_eq_two_pow {k : Nat} (h : k + places < width) :
    ∃ y : Binary64, y.toRat = 2 ^ k := by
  let y : Binary64 := ⟨false, 1 <<< (k + places), one_shiftLeft_lt_limit h, 1, _, by decide, rfl⟩
  have hsteps : y.steps = 1 <<< (k + places) := rfl
  refine ⟨y, toRat_of_steps y ?_⟩
  rw [hsteps, Nat.shiftLeft_add, cast_shiftLeft_places, Nat.one_shiftLeft, Nat.cast_pow,
    Nat.cast_two]

theorem exists_ofInt {n : Int} (h : n.natAbs ≤ 2 ^ 64) : ∃ x, ofInt n = some x := by
  obtain ⟨y, hy⟩ := exists_toRat_eq_two_pow (k := 64) (by decide)
  apply exists_ofRatio (decide (n < 0)) Nat.one_pos (y := y)
  rw [hy, abs_of_pos (by positivity), Nat.cast_one, div_one]
  exact_mod_cast h

theorem isNearest_mul {z : Binary64} (h : x.mul y = some z) :
    z.IsNearest (x.toRat * y.toRat) := by
  have hnear := isNearest_ofRatio (Nat.mul_pos unit_pos unit_pos) h
  rw [Nat.cast_mul, Nat.cast_mul, mul_div_mul_comm, ← signed_mul_signed, ← toRat_eq_signed,
    ← toRat_eq_signed] at hnear
  exact hnear

theorem exists_mul {z : Binary64} (h : |x.toRat * y.toRat| ≤ |z.toRat|) :
    ∃ w, x.mul y = some w := by
  apply exists_ofRatio _ (Nat.mul_pos unit_pos unit_pos) (y := z)
  rw [Nat.cast_mul, Nat.cast_mul, mul_div_mul_comm, ← abs_toRat, ← abs_toRat, ← abs_mul]
  exact h

theorem isNearest_zero (negative : Bool) (h : 2 * |v| ≤ 1 / unit) :
    (zero negative).IsNearest v := by
  have hzero : (zero negative).toRat = 0 := by
    rw [toRat_eq_signed]
    simp [zero, signed]
  intro y
  rw [hzero, zero_sub, abs_neg]
  rcases Nat.eq_zero_or_pos y.steps with hy | hy
  · have hy : y.toRat = 0 := by
      rw [← abs_eq_zero, abs_toRat, hy, Nat.cast_zero, zero_div]
    rw [hy, zero_sub, abs_neg]
  · have hstep : (1 / unit : ℚ) ≤ |y.toRat| := by
      rw [abs_toRat]
      exact div_le_div_of_nonneg_right (Nat.one_le_cast.mpr hy) cast_unit_pos.le
    have htri := abs_sub_abs_le_abs_sub y.toRat v
    linarith

theorem two_mul_decimal_le {m k : Nat} {e : Int} (he : e ≤ -(k : Int))
    (hm : m * (2 * unit) ≤ 10 ^ k) : 2 * (m * 10 ^ e : ℚ) ≤ 1 / unit := by
  have hpower : (10 : ℚ) ^ e ≤ (10 ^ k)⁻¹ := by
    rw [← zpow_natCast, ← zpow_neg]
    exact zpow_le_zpow_right₀ (by norm_num) he
  have hm : (m * (2 * unit) : ℚ) ≤ 10 ^ k := by exact_mod_cast hm
  rw [le_div_iff₀ cast_unit_pos]
  calc 2 * (m * 10 ^ e : ℚ) * unit = m * (2 * unit) * 10 ^ e := by ring
    _ ≤ 10 ^ k * (10 ^ k)⁻¹ := by
        apply mul_le_mul hm hpower <;> positivity
    _ = 1 := mul_inv_cancel₀ (by positivity)

theorem two_pow_le_ten_pow (k : Nat) : 2 ^ (3 * k) ≤ 10 ^ k := by
  rw [Nat.pow_mul]
  exact Nat.pow_le_pow_left (by decide) k

theorem two_mul_unit_le : 2 * unit ≤ 10 ^ 400 := by
  have hunit : 2 * unit = 2 ^ (places + 1) := by rw [unit, Nat.one_shiftLeft, Nat.pow_succ']
  rw [hunit]
  exact (Nat.pow_le_pow_right (by decide) (by decide)).trans (two_pow_le_ten_pow 400)

theorem lt_decimal {m : Nat} {e : Int} (hm : m ≠ 0) (he : 400 ≤ e) (x : Binary64) :
    |x.toRat| < m * 10 ^ e := by
  obtain ⟨k, rfl⟩ := Int.eq_ofNat_of_zero_le (show 0 ≤ e by omega)
  have hk : 400 ≤ k := by omega
  have hlimit : limit ≤ 10 ^ k * unit := by
    rw [limit, unit, Nat.one_shiftLeft, Nat.one_shiftLeft]
    calc 2 ^ width ≤ 2 ^ (3 * k + places) :=
          Nat.pow_le_pow_right (by decide) (by simp only [width, places]; omega)
      _ ≤ 10 ^ k * 2 ^ places := by
        rw [Nat.pow_add]
        exact Nat.mul_le_mul_right _ (two_pow_le_ten_pow k)
  have hsteps : x.steps < 10 ^ k * unit := Nat.lt_of_lt_of_le x.fits.1 hlimit
  have hpower : |x.toRat| < 10 ^ k := by
    rw [abs_toRat, div_lt_iff₀ cast_unit_pos]
    exact_mod_cast hsteps
  rw [zpow_natCast]
  exact hpower.trans_le
    (le_mul_of_one_le_left (by positivity) (Nat.one_le_cast.mpr (Nat.pos_of_ne_zero hm)))

/-- Powers of ten far outside the format's range are not built: the number is then nearest to zero,
or larger than every one. -/
theorem ofDecimal_cases (negative : Bool) (m : Nat) (e : Int) :
    (ofDecimal negative m e = some (zero negative) ∧ 2 * (m * 10 ^ e : ℚ) ≤ 1 / unit) ∨
    (ofDecimal negative m e = none ∧ ∀ x : Binary64, |x.toRat| < m * 10 ^ e) ∨
    ∃ p q : Nat, 0 < q ∧ (p / q : ℚ) = m * 10 ^ e ∧
      ofDecimal negative m e = ofRatio negative p q := by
  unfold ofDecimal
  split
  next hzero =>
    refine .inl ⟨rfl, ?_⟩
    rw [hzero, Nat.cast_zero, zero_mul, mul_zero]
    exact (one_div_pos.mpr cast_unit_pos).le
  next hm =>
  split
  next he => exact .inr (.inl ⟨rfl, lt_decimal hm (by omega)⟩)
  next =>
  split
  next hsmall =>
    refine .inl ⟨rfl, two_mul_decimal_le (k := m.log2 + 1 + 400) (by omega) ?_⟩
    rw [Nat.pow_add]
    apply Nat.mul_le_mul _ two_mul_unit_le
    exact Nat.lt_log2_self.le.trans (Nat.pow_le_pow_left (by decide) _)
  next =>
  split
  next he =>
    obtain ⟨k, rfl⟩ := Int.eq_ofNat_of_zero_le he
    refine .inr (.inr ⟨_, 1, Nat.one_pos, ?_, rfl⟩)
    rw [Nat.cast_one, div_one]
    exact_mod_cast rfl
  next he =>
    obtain ⟨k, rfl⟩ := Int.exists_eq_neg_ofNat (not_le.mp he).le
    refine .inr (.inr ⟨m, _, Nat.pow_pos (by decide), ?_, rfl⟩)
    rw [neg_neg, Int.toNat_natCast, div_eq_mul_inv, zpow_neg]
    exact_mod_cast rfl

theorem isNearest_ofDecimal {m : Nat} {e : Int} (h : ofDecimal negative m e = some x) :
    x.IsNearest (signed negative (m * 10 ^ e)) := by
  rcases ofDecimal_cases negative m e with ⟨hzero, hsmall⟩ | ⟨hnone, -⟩ | ⟨p, q, hq, hv, hratio⟩
  · obtain rfl := Option.some.inj (hzero.symm.trans h)
    apply isNearest_zero
    rwa [abs_signed, abs_of_nonneg (by positivity)]
  · cases hnone.symm.trans h
  · rw [← hv]
    exact isNearest_ofRatio hq (hratio.symm.trans h)

theorem exists_ofDecimal (negative : Bool) {m : Nat} {e : Int}
    (hle : (m * 10 ^ e : ℚ) ≤ |y.toRat|) : ∃ x, ofDecimal negative m e = some x := by
  rcases ofDecimal_cases negative m e with ⟨hzero, -⟩ | ⟨-, hlarge⟩ | ⟨p, q, hq, hv, hratio⟩
  · exact ⟨_, hzero⟩
  · exact absurd (hlarge y) (not_lt.mpr hle)
  · rw [hratio]
    exact exists_ofRatio negative hq (hv ▸ hle)

end Binary64

namespace Decimal

def toRat (d : Decimal) : ℚ := Binary64.signed d.negative (d.coefficient * 10 ^ d.exponent)

theorem isNearest_nearest? {d : Decimal} {x : Binary64} (h : d.nearest? = some x) :
    x.IsNearest d.toRat := Binary64.isNearest_ofDecimal h

/-- Only what is larger than every binary64 number has no nearest one. -/
theorem exists_nearest? {d : Decimal} {y : Binary64} (hle : |d.toRat| ≤ |y.toRat|) :
    ∃ x, d.nearest? = some x := by
  rw [toRat, Binary64.abs_signed, abs_of_nonneg (by positivity)] at hle
  exact Binary64.exists_ofDecimal d.negative hle

end Decimal

theorem round_toRat {x : Binary64} (h : 0 ≤ x.toRat) : round x.toRat = x.round := by
  have hunit := Binary64.cast_unit_pos
  have hmagnitude : x.toRat = x.steps / Binary64.unit := by
    rw [← Binary64.abs_toRat, abs_of_nonneg h]
  have hround : round x.toRat = ((2 * x.steps + Binary64.unit) / (2 * Binary64.unit) : Nat) := by
    rw [round_eq, hmagnitude]
    have hhalf : (x.steps / Binary64.unit + 1 / 2 : ℚ) =
        ((2 * x.steps + Binary64.unit : Nat) : ℚ) / ((2 * Binary64.unit : Nat) : ℚ) := by
      push_cast
      field_simp
    rw [hhalf, Rat.floor_natCast_div_natCast]
    rfl
  rw [hround, Binary64.round]
  split
  next hnegative =>
    -- The number is minus zero.
    have hsteps : x.steps = 0 := by
      have hsigned := Binary64.toRat_nonneg_iff.mp h
      rw [Binary64.signedSteps, if_pos hnegative] at hsigned
      omega
    have hzero : (2 * x.steps + Binary64.unit) / (2 * Binary64.unit) = 0 := by
      have hpos := Binary64.unit_pos
      apply Nat.div_eq_of_lt
      omega
    rw [hzero]
    rfl
  next => rfl

end CallFlow
