import Mathlib.Algebra.Order.Field.Power
import Mathlib.Tactic.Linarith
import Mathlib.Tactic.Positivity
import SqlStatement.Proofs.Number.Widening

/-!
# Reading numbers

A reader who rounds to the nearest number takes for it what lies around it, up to the points half
way to its neighbours.  The numbers of one sign follow each other in the order of their fields, and
half way above one of them is half way below the next, so nothing reads as two numbers.

* `Binary.IsReadFrom` says that a rational reads as a number.
* `BinaryFormat.halfway_succ` is the step from a number to the next one, and
  `BinaryFormat.halfway_strictMono` follows by induction.
* `Binary.eq_of_isReadFrom` is the main result.
-/

namespace SqlStatement

/-- The rational number that an encoding stands for, its sign apart; zero if there is none. -/
def Magnitude.value : Magnitude → ℚ
  | finite significand exponent _ => significand * 2 ^ exponent
  | _ => 0

/--
Whether a reader who rounds to the nearest number takes `v` for this number.  Half way to a
neighbour lies what reads as the number with the even significand.
-/
def Magnitude.IsReadFrom (v : ℚ) : Magnitude → Prop
  | finite significand exponent closeBelow =>
    let low := (significand - if closeBelow then 1 / 4 else 1 / 2 : ℚ) * 2 ^ exponent
    let high := (significand + 1 / 2 : ℚ) * 2 ^ exponent
    if significand % 2 = 0 then low ≤ v ∧ v ≤ high else low < v ∧ v < high
  | _ => False

namespace BinaryFormat

variable (format : BinaryFormat)

/-- The significand of the number with the given fields. -/
def significandOf (storedExponent fraction : Nat) : Nat :=
  (if storedExponent = 0 then 0 else format.leadingBit) + fraction

/-- The exponent of the numbers with the given stored exponent. -/
def exponentOf (storedExponent : Nat) : Int :=
  (max storedExponent 1 : Nat) - (format.bias + format.fractionBits : Nat)

/-- The point half way between the number with the given fields and the next smaller one. -/
def halfwayBelow (storedExponent fraction : Nat) : ℚ :=
  (format.significandOf storedExponent fraction -
      if fraction == 0 && decide (1 < storedExponent) then 1 / 4 else 1 / 2) *
    2 ^ format.exponentOf storedExponent

/-- The point half way between the number with the given fields and the next larger one. -/
def halfwayAbove (storedExponent fraction : Nat) : ℚ :=
  (format.significandOf storedExponent fraction + 1 / 2) * 2 ^ format.exponentOf storedExponent

variable {format}

theorem halfwayBelow_lt_halfwayAbove (storedExponent fraction : Nat) :
    format.halfwayBelow storedExponent fraction < format.halfwayAbove storedExponent fraction := by
  have hpower : (0 : ℚ) < 2 ^ format.exponentOf storedExponent := by
    positivity
  refine mul_lt_mul_of_pos_right ?_ hpower
  split <;> linarith

theorem halfwayBelow_next (storedExponent fraction : Nat) :
    format.halfwayBelow storedExponent (fraction + 1) =
      format.halfwayAbove storedExponent fraction := by
  have hfar : ¬(fraction + 1 == 0 && decide (1 < storedExponent)) = true := by
    simp
  rw [halfwayBelow, halfwayAbove, if_neg hfar, significandOf, significandOf]
  push_cast
  ring

/-- Behind the last fraction, the first number with the next exponent follows.  Its neighbour below
is half as far away as the one above, but for the first exponent. -/
theorem halfwayBelow_carry (storedExponent : Nat) :
    format.halfwayBelow (storedExponent + 1) 0 =
      format.halfwayAbove storedExponent (format.leadingBit - 1) := by
  have hlast : ((format.leadingBit - 1 : Nat) : ℚ) = format.leadingBit - 1 := by
    rw [Nat.cast_sub (Binary.leadingBit_pos format), Nat.cast_one]
  cases storedExponent with
  | zero =>
      have hexponent : format.exponentOf (0 + 1) = format.exponentOf 0 := rfl
      rw [halfwayBelow, halfwayAbove, hexponent]
      congr 1
      simp [significandOf, hlast]
      ring
  | succ e =>
      have hexponent : format.exponentOf (e + 1 + 1) = format.exponentOf (e + 1) + 1 := by
        simp only [exponentOf]
        omega
      have hclose : (0 == 0 && decide (1 < e + 1 + 1)) = true := by
        simp
      rw [halfwayBelow, halfwayAbove, hexponent, zpow_add_one₀ (by norm_num), if_pos hclose,
        significandOf, significandOf, if_neg (Nat.succ_ne_zero _), if_neg (Nat.succ_ne_zero _)]
      push_cast
      rw [hlast]
      ring

variable (format)

/-- The point half way below the number that stands at an index in the order of the fields. -/
def halfway (index : Nat) : ℚ :=
  format.halfwayBelow (index / format.leadingBit) (index % format.leadingBit)

variable {format}

/-- Half way above a number is half way below the next one. -/
theorem halfway_succ (index : Nat) :
    format.halfway (index + 1) =
      format.halfwayAbove (index / format.leadingBit) (index % format.leadingBit) := by
  have hpos := Binary.leadingBit_pos format
  have hlt := Nat.mod_lt index hpos
  have hindex := Nat.mod_add_div index format.leadingBit
  by_cases hnext : index % format.leadingBit + 1 < format.leadingBit
  · obtain ⟨hdiv, hmod⟩ := (Nat.div_mod_unique hpos).2
      ⟨show index % format.leadingBit + 1 + format.leadingBit * (index / format.leadingBit) =
        index + 1 by omega, hnext⟩
    rw [halfway, hdiv, hmod, halfwayBelow_next]
  · have hlast : index % format.leadingBit = format.leadingBit - 1 := by
      omega
    obtain ⟨hdiv, hmod⟩ := (Nat.div_mod_unique hpos).2
      ⟨show 0 + format.leadingBit * (index / format.leadingBit + 1) = index + 1 by
        rw [Nat.mul_succ]
        omega, hpos⟩
    rw [halfway, hdiv, hmod, halfwayBelow_carry, hlast]

theorem halfway_strictMono : StrictMono format.halfway :=
  strictMono_nat_of_lt_succ fun index => by
    rw [halfway_succ]
    exact halfwayBelow_lt_halfwayAbove _ _

variable (format)

/-- Whether a rational lies around the number at an index, its ends included if the index is
even. -/
def IsAround (index : Nat) (v : ℚ) : Prop :=
  if index % 2 = 0 then
    format.halfway index ≤ v ∧ v ≤ format.halfway (index + 1)
  else
    format.halfway index < v ∧ v < format.halfway (index + 1)

variable {format} {index other : Nat} {v : ℚ}

theorem IsAround.le
    (h : format.IsAround index v) :
    format.halfway index ≤ v ∧ v ≤ format.halfway (index + 1) := by
  unfold IsAround at h
  split at h
  · exact h
  · exact ⟨h.1.le, h.2.le⟩

/-- Of two numbers around which a rational lies, none stands behind the other. -/
theorem IsAround.not_lt
    (hindex : format.IsAround index v)
    (hother : format.IsAround other v) :
    ¬index < other := by
  intro hlt
  have hbetween : format.halfway (index + 1) ≤ format.halfway other :=
    halfway_strictMono.monotone hlt
  have hends : format.halfway (index + 1) = v ∧ format.halfway other = v :=
    ⟨le_antisymm (hbetween.trans hother.le.1) hindex.le.2,
      le_antisymm hother.le.1 (hindex.le.2.trans hbetween)⟩
  -- The rational is half way between neighbours, and only one of them has an even index.
  have hnext : index + 1 = other :=
    halfway_strictMono.injective (hends.1.trans hends.2.symm)
  by_cases heven : index % 2 = 0
  · rw [IsAround, if_neg (by omega)] at hother
    exact absurd hends.2 hother.1.ne
  · rw [IsAround, if_neg heven] at hindex
    exact absurd hends.1 hindex.2.ne'

end BinaryFormat

namespace Binary

variable {format : BinaryFormat} {x y : Binary format} {v : ℚ}

/-- The rational number that an encoding stands for; zero if there is none. -/
def value (x : Binary format) : ℚ :=
  if x.isNegative then -x.magnitude.value else x.magnitude.value

/-- Whether a reader who rounds to the nearest number takes `v` for this number, its sign known. -/
def IsReadFrom (x : Binary format) (v : ℚ) : Prop :=
  x.magnitude.IsReadFrom (if x.isNegative then -v else v)

/-- The index of a number in the order of the fields. -/
def index (x : Binary format) : Nat :=
  x.storedExponent * format.leadingBit + x.fraction

theorem index_div (x : Binary format) : x.index / format.leadingBit = x.storedExponent := by
  rw [index, Nat.mul_comm, Nat.mul_add_div (leadingBit_pos format), Nat.div_eq_of_lt x.fraction_lt,
    Nat.add_zero]

theorem index_mod (x : Binary format) : x.index % format.leadingBit = x.fraction := by
  rw [index, Nat.mul_add_mod', Nat.mod_eq_of_lt x.fraction_lt]

/-- The sign and the index tell the encoding. -/
theorem toNat_bits_eq (x : Binary format) :
    x.bits.toNat = (if x.isNegative then format.signBit else 0) + x.index := by
  have hpos := leadingBit_pos format
  have hbits : x.bits.toNat < 2 * format.exponentCount * format.leadingBit := by
    rw [Nat.mul_assoc]
    exact (two_pow_width format) ▸ x.bits.isLt
  have hdiv : x.bits.toNat / format.leadingBit < 2 * format.exponentCount :=
    (Nat.div_lt_iff_lt_mul hpos).2 hbits
  have hsplit := Nat.div_add_mod x.bits.toNat format.leadingBit
  have hsign : x.isNegative = true ↔
      format.exponentCount ≤ x.bits.toNat / format.leadingBit := by
    rw [isNegative, decide_eq_true_eq, Nat.le_div_iff_mul_le hpos, BinaryFormat.signBit]
  by_cases hle : format.exponentCount ≤ x.bits.toNat / format.leadingBit
  · obtain ⟨e, he⟩ := Nat.exists_eq_add_of_le hle
    have hexponent : x.storedExponent = e := by
      rw [storedExponent, he, Nat.add_mod_left, Nat.mod_eq_of_lt (by omega)]
    rw [if_pos (hsign.2 hle), index, hexponent, fraction, ← Nat.add_assoc, BinaryFormat.signBit,
      ← Nat.add_mul, ← he, Nat.mul_comm, hsplit]
  · have hexponent : x.storedExponent = x.bits.toNat / format.leadingBit :=
      Nat.mod_eq_of_lt (Nat.lt_of_not_le hle)
    rw [if_neg (hsign.not.2 hle), index, hexponent, fraction, Nat.zero_add, Nat.mul_comm, hsplit]

theorem eq_of_index_eq
    (hsign : x.isNegative = y.isNegative)
    (hindex : x.index = y.index) :
    x = y := by
  have hbits : x.bits = y.bits := by
    apply BitVec.eq_of_toNat_eq
    rw [toNat_bits_eq, toNat_bits_eq, hsign, hindex]
  cases x
  cases y
  cases hbits
  rfl

/-- A finite number reads from what lies between the points half way to its neighbours. -/
theorem magnitude_isReadFrom_iff
    (hformat : 0 < format.fractionBits)
    (h : x.isFinite = true) :
    x.magnitude.IsReadFrom v ↔ format.IsAround x.index v := by
  have heven : format.leadingBit % 2 = 0 :=
    Nat.mod_eq_zero_of_dvd (dvd_pow_self 2 hformat.ne')
  have hparity : format.significandOf x.storedExponent x.fraction % 2 = x.index % 2 := by
    rw [BinaryFormat.significandOf, index, Nat.add_mod, Nat.add_mod (_ * _), Nat.mul_mod, heven]
    split <;> simp [heven]
  rw [magnitude_of_isFinite h, BinaryFormat.IsAround, ← hparity, BinaryFormat.halfway_succ,
    BinaryFormat.halfway, index_div, index_mod]
  rfl

/-- Nothing reads as two numbers of one sign. -/
theorem eq_of_isReadFrom
    (hformat : 0 < format.fractionBits)
    (hx : x.isFinite = true)
    (hy : y.isFinite = true)
    (hsign : x.isNegative = y.isNegative)
    (hxv : x.IsReadFrom v)
    (hyv : y.IsReadFrom v) :
    x = y := by
  rw [IsReadFrom, magnitude_isReadFrom_iff hformat hx] at hxv
  rw [IsReadFrom, ← hsign, magnitude_isReadFrom_iff hformat hy] at hyv
  exact eq_of_index_eq hsign
    (Nat.le_antisymm (Nat.le_of_not_lt (hyv.not_lt hxv)) (Nat.le_of_not_lt (hxv.not_lt hyv)))

/-- What reads as one number reads as no other. -/
theorem isReadFrom_iff_eq
    (hformat : 0 < format.fractionBits)
    (hx : x.isFinite = true)
    (hxv : x.IsReadFrom v)
    (hy : y.isFinite = true)
    (hsign : y.isNegative = x.isNegative) :
    y.IsReadFrom v ↔ y = x := by
  constructor
  · exact fun hyv => eq_of_isReadFrom hformat hy hx hsign hyv hxv
  · rintro rfl
    exact hxv

end Binary

end SqlStatement
