import Mathlib.Tactic

namespace EmbeddedAlerts

/-!
# Single and double precision values by their fields

A value is its sign, biased exponent and fraction.  Widening is exact.
Narrowing rounds to nearest, ties to even.  Its result is computed as one
integer: the fraction carries into the exponent exactly as the bit patterns
do, so a rounded significand needs no separate renormalization.
-/

structure F32 where
  negative : Bool
  exponent : Fin 256
  fraction : Fin (2 ^ 23)
deriving DecidableEq

structure F64 where
  negative : Bool
  exponent : Fin 2048
  fraction : Fin (2 ^ 52)
deriving DecidableEq

namespace F32

/-- Neither infinite nor a NaN. -/
def isFinite (number : F32) : Bool := decide (number.exponent.val ≠ 255)

/-- `(0.0..=1.0).contains`: negative zero compares equal to zero. -/
def inUnitInterval (number : F32) : Bool :=
  decide (number.exponent.val = 0 ∧ number.fraction.val = 0) ||
    (!number.negative && decide (number.exponent.val < 127 ∨
      number.exponent.val = 127 ∧ number.fraction.val = 0))

/-- `f64::from`.  A subnormal becomes normal: its leading bit moves into the
exponent. -/
def widen (number : F32) : F64 :=
  let exponent := number.exponent.val
  let fraction := number.fraction.val
  if exponent = 255 then ⟨number.negative, 2047, Fin.ofNat _ (fraction * 2 ^ 29)⟩
  else if exponent = 0 then
    if fraction = 0 then ⟨number.negative, 0, 0⟩
    else
      let leading := Nat.log2 fraction
      ⟨number.negative, Fin.ofNat _ (leading + 874),
        Fin.ofNat _ ((fraction - 2 ^ leading) * 2 ^ (52 - leading))⟩
  else ⟨number.negative, Fin.ofNat _ (exponent + 896), Fin.ofNat _ (fraction * 2 ^ 29)⟩

end F32

namespace F64

/-- Divide by a power of two, rounding to nearest with ties to even. -/
def roundShift (significand shift : Nat) : Nat :=
  let quotient := significand / 2 ^ shift
  let remainder := significand % 2 ^ shift
  let half := 2 ^ (shift - 1)
  if half < remainder ∨ remainder = half ∧ quotient % 2 = 1 then quotient + 1 else quotient

/-- `as f32`. -/
def narrow (number : F64) : F32 :=
  let exponent := number.exponent.val
  let fraction := number.fraction.val
  if exponent = 2047 then
    if fraction = 0 then ⟨number.negative, 255, 0⟩
    else ⟨number.negative, 255, Fin.ofNat _ (2 ^ 22 ||| fraction / 2 ^ 29)⟩
  else if exponent = 0 then ⟨number.negative, 0, 0⟩
  else
    let rounded := roundShift (2 ^ 52 + fraction) (max 29 (926 - exponent))
    let code := (exponent - 897) * 2 ^ 23 + rounded
    if 255 * 2 ^ 23 ≤ code then ⟨number.negative, 255, 0⟩
    else ⟨number.negative, Fin.ofNat _ (code / 2 ^ 23), Fin.ofNat _ (code % 2 ^ 23)⟩

end F64

/-! ## Widening loses nothing -/

/-- A multiple of the divisor leaves nothing to round. -/
theorem F64.roundShift_mul (quotient shift : Nat) :
    F64.roundShift (quotient * 2 ^ shift) shift = quotient := by
  have positive : 0 < 2 ^ shift := Nat.two_pow_pos shift
  have half : 0 < 2 ^ (shift - 1) := Nat.two_pow_pos (shift - 1)
  simp only [F64.roundShift, Nat.mul_div_cancel _ positive, Nat.mul_mod_left]
  rw [if_neg]
  rintro (above | ⟨tie, _⟩)
  · exact absurd above (Nat.not_lt_zero _)
  · exact absurd tie (Nat.ne_of_lt half)

namespace F32

/-- A nonzero fraction is a leading bit below the 23rd and what follows it. -/
private theorem leading_bit (number : F32) (nonzero : number.fraction.val ≠ 0) :
    Nat.log2 number.fraction.val ≤ 22 ∧
      2 ^ Nat.log2 number.fraction.val ≤ number.fraction.val ∧
      number.fraction.val < 2 * 2 ^ Nat.log2 number.fraction.val := by
  have below : number.fraction.val < 2 ^ 23 := number.fraction.isLt
  refine ⟨?_, Nat.log2_self_le nonzero, ?_⟩
  · exact Nat.le_of_lt_succ ((Nat.log2_lt nonzero).mpr below)
  · calc
      number.fraction.val < 2 ^ (Nat.log2 number.fraction.val + 1) := Nat.lt_log2_self
      _ = 2 * 2 ^ Nat.log2 number.fraction.val := by rw [Nat.pow_succ, Nat.mul_comm]

theorem log2_fraction_le (number : F32) (nonzero : number.fraction.val ≠ 0) :
    Nat.log2 number.fraction.val ≤ 22 :=
  (leading_bit number nonzero).1

/-- What follows the leading bit, moved to the top of the wide fraction. -/
private theorem shifted_fraction (number : F32) (nonzero : number.fraction.val ≠ 0) :
    (number.fraction.val - 2 ^ Nat.log2 number.fraction.val) *
        2 ^ (52 - Nat.log2 number.fraction.val) < 2 ^ 52 ∧
      2 ^ 52 + (number.fraction.val - 2 ^ Nat.log2 number.fraction.val) *
          2 ^ (52 - Nat.log2 number.fraction.val) =
        number.fraction.val * 2 ^ (52 - Nat.log2 number.fraction.val) := by
  rcases leading_bit number nonzero with ⟨small, lower, upper⟩
  have split : 2 ^ 52 = 2 ^ Nat.log2 number.fraction.val *
      2 ^ (52 - Nat.log2 number.fraction.val) := by
    rw [← Nat.pow_add]
    congr 1
    omega
  constructor
  · calc
      (number.fraction.val - 2 ^ Nat.log2 number.fraction.val) *
          2 ^ (52 - Nat.log2 number.fraction.val)
          < 2 ^ Nat.log2 number.fraction.val * 2 ^ (52 - Nat.log2 number.fraction.val) :=
        Nat.mul_lt_mul_of_pos_right (by omega) (Nat.two_pow_pos _)
      _ = 2 ^ 52 := split.symm
  · rw [split, ← Nat.add_mul, Nat.add_sub_cancel' lower]

theorem widen_normal (number : F32) (finite : number.exponent.val ≠ 255)
    (normal : number.exponent.val ≠ 0) :
    number.widen.negative = number.negative ∧
      number.widen.exponent.val = number.exponent.val + 896 ∧
      number.widen.fraction.val = number.fraction.val * 2 ^ 29 := by
  have exponentBound := number.exponent.isLt
  have fractionBound := number.fraction.isLt
  simp only [widen, if_neg finite, if_neg normal, Fin.val_ofNat]
  exact ⟨trivial, Nat.mod_eq_of_lt (by omega), Nat.mod_eq_of_lt (by omega)⟩

theorem widen_subnormal (number : F32) (subnormal : number.exponent.val = 0)
    (nonzero : number.fraction.val ≠ 0) :
    number.widen.negative = number.negative ∧
      number.widen.exponent.val = Nat.log2 number.fraction.val + 874 ∧
      number.widen.fraction.val = (number.fraction.val - 2 ^ Nat.log2 number.fraction.val) *
        2 ^ (52 - Nat.log2 number.fraction.val) := by
  have small := (leading_bit number nonzero).1
  have bounded := (shifted_fraction number nonzero).1
  have finite : number.exponent.val ≠ 255 := by omega
  simp only [widen, if_neg finite, if_pos subnormal, if_neg nonzero, Fin.val_ofNat]
  exact ⟨trivial, Nat.mod_eq_of_lt (by omega), Nat.mod_eq_of_lt bounded⟩

theorem widen_zero (number : F32) (subnormal : number.exponent.val = 0)
    (zero : number.fraction.val = 0) :
    number.widen.negative = number.negative ∧ number.widen.exponent.val = 0 ∧
      number.widen.fraction.val = 0 := by
  have finite : number.exponent.val ≠ 255 := by omega
  simp only [widen, if_neg finite, if_pos subnormal, if_pos zero]
  exact ⟨trivial, rfl, rfl⟩

/-- The fields of a number narrowed from a significand that rounds to an
exactly representable code. -/
private theorem narrow_of_code (wide : F64) (number : F32)
    (sign : wide.negative = number.negative) (finite : number.exponent.val ≠ 255)
    (regular : wide.exponent.val ≠ 2047) (normal : wide.exponent.val ≠ 0)
    (code : (wide.exponent.val - 897) * 2 ^ 23 +
        F64.roundShift (2 ^ 52 + wide.fraction.val) (max 29 (926 - wide.exponent.val)) =
      number.exponent.val * 2 ^ 23 + number.fraction.val) :
    wide.narrow = number := by
  have exponentBound := number.exponent.isLt
  have fractionBound := number.fraction.isLt
  have small : ¬ 255 * 2 ^ 23 ≤ number.exponent.val * 2 ^ 23 + number.fraction.val := by omega
  simp only [F64.narrow, if_neg regular, if_neg normal, code, if_neg small, sign]
  cases number with
  | mk negative exponent fraction =>
      congr 1
      · apply Fin.ext
        simp only at exponentBound fractionBound ⊢
        rw [Fin.val_ofNat]
        omega
      · apply Fin.ext
        simp only at exponentBound fractionBound ⊢
        rw [Fin.val_ofNat]
        omega

/-- A finite number survives `f64::from` followed by `as f32`. -/
theorem narrow_widen (number : F32) (finite : number.isFinite = true) :
    number.widen.narrow = number := by
  have exponentBound := number.exponent.isLt
  have regular : number.exponent.val ≠ 255 := of_decide_eq_true finite
  by_cases subnormal : number.exponent.val = 0
  · by_cases zero : number.fraction.val = 0
    · rcases widen_zero number subnormal zero with ⟨sign, exponent, fraction⟩
      have special : ¬ number.widen.exponent.val = 2047 := by omega
      simp only [F64.narrow, if_neg special, if_pos exponent, sign]
      cases number with
      | mk negative exponent fraction =>
          congr 1
          · exact Fin.ext subnormal.symm
          · exact Fin.ext zero.symm
    · rcases widen_subnormal number subnormal zero with ⟨sign, exponent, fraction⟩
      have small := (leading_bit number zero).1
      have shift : max 29 (926 - (Nat.log2 number.fraction.val + 874)) =
          52 - Nat.log2 number.fraction.val := by omega
      apply narrow_of_code number.widen number sign regular (by omega) (by omega)
      rw [exponent, fraction, shift, (shifted_fraction number zero).2, F64.roundShift_mul,
        subnormal]
      omega
  · rcases widen_normal number regular subnormal with ⟨sign, exponent, fraction⟩
    have shift : max 29 (926 - (number.exponent.val + 896)) = 29 := by omega
    have significand : 2 ^ 52 + number.fraction.val * 2 ^ 29 =
        (2 ^ 23 + number.fraction.val) * 2 ^ 29 := by omega
    apply narrow_of_code number.widen number sign regular (by omega) (by omega)
    rw [exponent, fraction, shift, significand, F64.roundShift_mul]
    omega

end F32
end EmbeddedAlerts
