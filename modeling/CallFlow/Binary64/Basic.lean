/-! Finite numbers of the binary64 format. Every such number is a whole multiple of the smallest
positive one, 2⁻¹⁰⁷⁴, so its magnitude is stored as a count of those steps. -/

namespace CallFlow
set_option autoImplicit false

namespace Binary64

/-- Bits behind the point of the smallest positive number. -/
def places : Nat := 1074

/-- Steps in the number one. -/
def unit : Nat := 1 <<< places

def width : Nat := 2098

def limit : Nat := 1 <<< width

theorem shiftLeft_pos {m : Nat} (h : 0 < m) (k : Nat) : 0 < m <<< k := by
  rw [Nat.shiftLeft_eq]
  exact Nat.mul_pos h (Nat.pow_pos (by decide))

theorem limit_pos : 0 < limit := shiftLeft_pos (by decide) width

theorem one_shiftLeft_lt_limit {k : Nat} (h : k < width) : 1 <<< k < limit := by
  rw [limit, Nat.one_shiftLeft, Nat.one_shiftLeft]
  exact Nat.pow_lt_pow_right (by decide) h

/-- A count of steps with at most 53 significant bits. -/
def Fits (steps : Nat) : Prop := steps < limit ∧ ∃ m k, m < 1 <<< 53 ∧ steps = m <<< k

end Binary64

/-- A finite binary64 number. The sign is kept for zero too. -/
structure Binary64 where
  negative : Bool
  steps : Nat
  fits : Binary64.Fits steps

namespace Binary64

instance : DecidableEq Binary64 := fun x y =>
  if h : x.negative = y.negative ∧ x.steps = y.steps then
    isTrue (by cases x; cases y; obtain ⟨rfl, rfl⟩ := h; rfl)
  else isFalse (by rintro rfl; exact h ⟨rfl, rfl⟩)

/-- The whole number nearest to `p / q`; a tie goes to the even one. -/
def roundQuotient (p q : Nat) : Nat :=
  let d := p / q
  let r := p % q
  if 2 * r < q then d else if q < 2 * r then d + 1 else if d % 2 = 0 then d else d + 1

/-- The multiple of a power of two nearest to `p / q` that keeps 53 significant bits. -/
def roundSteps (p q : Nat) : Nat :=
  let shift := (p / q).log2 - 52
  roundQuotient p (q <<< shift) <<< shift

theorem roundQuotient_le (p q : Nat) : roundQuotient p q ≤ p / q + 1 := by
  unfold roundQuotient
  dsimp only
  split
  · omega
  · split
    · omega
    · split <;> omega

theorem div_shift_lt (p q : Nat) : p / (q <<< ((p / q).log2 - 52)) < 1 <<< 53 := by
  rw [Nat.shiftLeft_eq, Nat.one_shiftLeft, ← Nat.div_div_eq_div_mul]
  rcases Nat.eq_zero_or_pos (p / q) with h | h
  · simp [h]
  · have hlt : p / q < 2 ^ ((p / q).log2 + 1) := Nat.lt_log2_self
    apply Nat.div_lt_of_lt_mul
    refine Nat.lt_of_lt_of_le hlt ?_
    rw [← Nat.pow_add]
    exact Nat.pow_le_pow_right (by decide) (by omega)

theorem exists_roundSteps (p q : Nat) : ∃ m k, m < 1 <<< 53 ∧ roundSteps p q = m <<< k := by
  have hle := Nat.le_trans (roundQuotient_le p (q <<< ((p / q).log2 - 52)))
    (div_shift_lt p q)
  rcases Nat.lt_or_eq_of_le hle with h | h
  · exact ⟨_, _, h, rfl⟩
  · refine ⟨1 <<< 52, (p / q).log2 - 52 + 1, by decide, ?_⟩
    simp only [roundSteps, h]
    rw [← Nat.shiftLeft_add, ← Nat.shiftLeft_add, Nat.add_left_comm, Nat.add_comm 53]

def ofRatio (negative : Bool) (p q : Nat) : Option Binary64 :=
  if h : roundSteps (p * unit) q < limit then
    some ⟨negative, roundSteps (p * unit) q, h, exists_roundSteps _ _⟩
  else none

def zero (negative : Bool) : Binary64 :=
  ⟨negative, 0, limit_pos, 0, 0, by decide, rfl⟩

def ofSmall (n : Nat) (h : n < 1 <<< 53) : Binary64 where
  negative := false
  steps := n <<< places
  fits := by
    refine ⟨?_, n, places, h, rfl⟩
    rw [Nat.shiftLeft_eq]
    refine Nat.lt_of_lt_of_le (Nat.mul_lt_mul_of_pos_right h (Nat.pow_pos (by decide))) ?_
    rw [limit, Nat.one_shiftLeft, Nat.one_shiftLeft, ← Nat.pow_add]
    exact Nat.pow_le_pow_right (by decide) (by decide)

def half : Binary64 :=
  ⟨false, 1 <<< 1073, one_shiftLeft_lt_limit (by decide), 1, 1073, by decide, rfl⟩
def one : Binary64 := ofSmall 1 (by decide)
def two : Binary64 := ofSmall 2 (by decide)
def hundred : Binary64 := ofSmall 100 (by decide)

def ofInt (n : Int) : Option Binary64 := ofRatio (n < 0) n.natAbs 1

/-- The number nearest to `± m · 10^e`. Exponents far outside the format's range are answered
without building the power. -/
def ofDecimal (negative : Bool) (m : Nat) (e : Int) : Option Binary64 :=
  if m = 0 then some (zero negative)
  else if 400 < e then none
  else if e < -(m.log2 + 400 : Int) then some (zero negative)
  else if 0 ≤ e then ofRatio negative (m * Nat.pow 10 e.toNat) 1
  else ofRatio negative m (Nat.pow 10 (-e).toNat)

def mul (x y : Binary64) : Option Binary64 :=
  ofRatio (x.negative != y.negative) (x.steps * y.steps) (unit * unit)

def div (x y : Binary64) : Option Binary64 :=
  ofRatio (x.negative != y.negative) x.steps y.steps

def neg (x : Binary64) : Binary64 := { x with negative := !x.negative }

def signedSteps (x : Binary64) : Int := if x.negative then -(x.steps : Int) else x.steps

instance : LE Binary64 := ⟨fun x y => x.signedSteps ≤ y.signedSteps⟩

instance (x y : Binary64) : Decidable (x ≤ y) :=
  inferInstanceAs (Decidable (x.signedSteps ≤ y.signedSteps))

/-- The nearest whole number; a half goes away from zero. -/
def round (x : Binary64) : Int :=
  let magnitude := (2 * x.steps + unit) / (2 * unit)
  if x.negative then -(magnitude : Int) else magnitude

def clamp (x low high : Binary64) : Binary64 :=
  if ¬ low ≤ x then low else if ¬ x ≤ high then high else x

end Binary64
end CallFlow
