import Mathlib.Data.Nat.Log
import Mathlib.Tactic.Ring
import SqlStatement.Number.Binary

/-!
# Widening

The double-precision encoding of a single-precision number stands for the same number.  Its
significand has more zeros behind it, and its exponent is smaller accordingly.

* `Binary.magnitude_ofFields` reads an encoding that was put together from its fields.
* `Binary32.isNegative_widen` and `Binary32.exists_magnitude_widen` are the main results.
-/

namespace SqlStatement

namespace Binary

variable {format : BinaryFormat}

/-! ### Fields -/

theorem leadingBit_pos (format : BinaryFormat) : 0 < format.leadingBit :=
  Nat.two_pow_pos format.fractionBits

theorem two_pow_width (format : BinaryFormat) : 2 ^ format.width = 2 * format.signBit := by
  rw [BinaryFormat.width, Nat.pow_add, Nat.pow_add, Nat.pow_one, Nat.mul_assoc]
  rfl

theorem storedExponent_lt (x : Binary format) : x.storedExponent < format.exponentCount :=
  Nat.mod_lt _ (Nat.two_pow_pos format.exponentBits)

theorem fraction_lt (x : Binary format) : x.fraction < format.leadingBit :=
  Nat.mod_lt _ (leadingBit_pos format)

section OfFields

variable {negative : Bool} {e f : Nat}

theorem fields_lt_signBit
    (he : e < format.exponentCount)
    (hf : f < format.leadingBit) :
    e * format.leadingBit + f < format.signBit :=
  calc e * format.leadingBit + f
      < e * format.leadingBit + format.leadingBit := Nat.add_lt_add_left hf _
    _ = (e + 1) * format.leadingBit := (Nat.succ_mul _ _).symm
    _ ≤ format.signBit := Nat.mul_le_mul_right _ he

theorem toNat_ofFields
    (he : e < format.exponentCount)
    (hf : f < format.leadingBit) :
    (ofFields format negative e f).bits.toNat =
      (if negative then format.signBit else 0) + (e * format.leadingBit + f) := by
  have hfields := fields_lt_signBit he hf
  rw [ofFields, ofNat, BitVec.toNat_ofNat, two_pow_width, Nat.add_assoc, Nat.mod_eq_of_lt]
  split <;> omega

theorem isNegative_ofFields
    (he : e < format.exponentCount)
    (hf : f < format.leadingBit) :
    (ofFields format negative e f).isNegative = negative := by
  have hfields := fields_lt_signBit he hf
  rw [isNegative, toNat_ofFields he hf]
  cases negative with
  | false =>
      simpa using hfields
  | true =>
      simp

theorem fraction_ofFields
    (he : e < format.exponentCount)
    (hf : f < format.leadingBit) :
    (ofFields format negative e f).fraction = f := by
  have hsign : (if negative then format.signBit else 0) % format.leadingBit = 0 := by
    cases negative with
    | false =>
        rfl
    | true =>
        exact Nat.mul_mod_left _ _
  rw [fraction, toNat_ofFields he hf, Nat.add_mod, hsign, Nat.zero_add, Nat.mod_mod,
    Nat.mul_add_mod', Nat.mod_eq_of_lt hf]

theorem storedExponent_ofFields
    (he : e < format.exponentCount)
    (hf : f < format.leadingBit) :
    (ofFields format negative e f).storedExponent = e := by
  have hdiv : (e * format.leadingBit + f) / format.leadingBit = e := by
    rw [Nat.mul_comm, Nat.mul_add_div (leadingBit_pos format), Nat.div_eq_of_lt hf, Nat.add_zero]
  rw [storedExponent, toNat_ofFields he hf]
  cases negative with
  | false =>
      rw [if_neg Bool.false_ne_true, Nat.zero_add, hdiv, Nat.mod_eq_of_lt he]
  | true =>
      rw [if_pos rfl, BinaryFormat.signBit, Nat.mul_comm format.exponentCount,
        Nat.mul_add_div (leadingBit_pos format), hdiv, Nat.add_mod_left, Nat.mod_eq_of_lt he]

/-- What an encoding stands for that was put together from its fields. -/
theorem magnitude_ofFields
    (he : e < format.topExponent)
    (hf : f < format.leadingBit) :
    (ofFields format negative e f).magnitude =
      .finite ((if e = 0 then 0 else format.leadingBit) + f)
        ((max e 1 : Nat) - (format.bias + format.fractionBits : Nat))
        (f == 0 && decide (1 < e)) := by
  have hcount : e < format.exponentCount := Nat.lt_of_lt_of_le he (Nat.sub_le _ _)
  rw [magnitude, storedExponent_ofFields hcount hf, fraction_ofFields hcount hf,
    if_neg (Nat.ne_of_lt he)]

end OfFields

theorem magnitude_of_isFinite
    {x : Binary format}
    (h : x.isFinite = true) :
    x.magnitude =
      .finite ((if x.storedExponent = 0 then 0 else format.leadingBit) + x.fraction)
        ((max x.storedExponent 1 : Nat) - (format.bias + format.fractionBits : Nat))
        (x.fraction == 0 && decide (1 < x.storedExponent)) := by
  rw [magnitude, if_neg (of_decide_eq_true h)]

theorem isFinite_of_magnitude
    {x : Binary format}
    {significand : Nat}
    {exponent : Int}
    {closeBelow : Bool}
    (h : x.magnitude = .finite significand exponent closeBelow) :
    x.isFinite = true := by
  rw [isFinite, decide_eq_true_eq]
  intro htop
  rw [magnitude, if_pos htop] at h
  split at h <;> cases h

end Binary

namespace Binary32

open Binary

variable {x : Binary32}

theorem storedExponent_lt_top
    (h : x.isFinite = true) :
    x.storedExponent < 255 := by
  have hne : x.storedExponent ≠ 255 := of_decide_eq_true h
  have hlt : x.storedExponent < 256 := x.storedExponent_lt
  omega

theorem widen_of_normal
    (hfinite : x.isFinite = true)
    (h : x.storedExponent ≠ 0) :
    x.widen = .ofFields .double x.isNegative (x.storedExponent + 896) (x.fraction * 2 ^ 29) := by
  have htop : x.storedExponent ≠ BinaryFormat.single.topExponent := of_decide_eq_true hfinite
  rw [widen, if_neg htop, if_pos h]
  rfl

theorem widen_of_zero
    (h : x.storedExponent = 0)
    (hfraction : x.fraction = 0) :
    x.widen = .ofFields .double x.isNegative 0 0 := by
  have htop : x.storedExponent ≠ BinaryFormat.single.topExponent := by
    rw [h]
    decide
  rw [widen, if_neg htop, if_neg (not_not.2 h), hfraction, Nat.zero_mul, if_pos rfl]

theorem widen_of_subnormal
    (h : x.storedExponent = 0)
    (hfraction : x.fraction ≠ 0) :
    x.widen =
      .ofFields .double x.isNegative (x.fraction.log2 + 874)
        (x.fraction * 2 ^ (52 - x.fraction.log2) - 2 ^ 52) := by
  have htop : x.storedExponent ≠ BinaryFormat.single.topExponent := by
    rw [h]
    decide
  have hscaled :
      x.fraction * (BinaryFormat.double.leadingBit / BinaryFormat.single.leadingBit) ≠ 0 :=
    Nat.mul_ne_zero hfraction (by decide)
  rw [widen, if_neg htop, if_neg (not_not.2 h), if_neg hscaled]
  rfl

/-- The highest bit of a fraction is moved to the place of the leading bit. -/
theorem shifted_fraction
    (hfraction : x.fraction ≠ 0) :
    x.fraction.log2 < 23 ∧
      2 ^ 52 ≤ x.fraction * 2 ^ (52 - x.fraction.log2) ∧
      x.fraction * 2 ^ (52 - x.fraction.log2) < 2 * 2 ^ 52 := by
  have htop : x.fraction.log2 < 23 := (Nat.log2_lt hfraction).2 x.fraction_lt
  have hpower : 2 ^ x.fraction.log2 * 2 ^ (52 - x.fraction.log2) = 2 ^ 52 := by
    rw [← Nat.pow_add, Nat.add_sub_cancel' (by omega)]
  refine ⟨htop, ?_, ?_⟩
  · rw [← hpower]
    exact Nat.mul_le_mul_right _ (Nat.log2_self_le hfraction)
  · rw [← hpower, ← Nat.mul_assoc, ← Nat.pow_succ']
    exact Nat.mul_lt_mul_of_pos_right Nat.lt_log2_self (Nat.two_pow_pos _)

/-- Widening keeps the sign. -/
theorem isNegative_widen
    (h : x.isFinite = true) :
    x.widen.isNegative = x.isNegative := by
  have hexponent := storedExponent_lt_top h
  have hfraction : x.fraction < 2 ^ 23 := x.fraction_lt
  have hbounds : BinaryFormat.double.exponentCount = 2048 ∧
      BinaryFormat.double.leadingBit = 2 ^ 52 := ⟨rfl, rfl⟩
  by_cases hnormal : x.storedExponent = 0
  · by_cases hzero : x.fraction = 0
    · rw [widen_of_zero hnormal hzero]
      exact isNegative_ofFields (by decide) (by decide)
    · obtain ⟨htop, hlow, hhigh⟩ := shifted_fraction hzero
      rw [widen_of_subnormal hnormal hzero]
      exact isNegative_ofFields (by omega) (by omega)
  · rw [widen_of_normal h hnormal]
    exact isNegative_ofFields (by omega) (by omega)

section Magnitude

variable {significand : Nat} {exponent : Int} {closeBelow : Bool}

theorem bias_add_fractionBits :
    BinaryFormat.single.bias + BinaryFormat.single.fractionBits = 150 ∧
      BinaryFormat.double.bias + BinaryFormat.double.fractionBits = 1075 :=
  ⟨rfl, rfl⟩

theorem leadingBit_eq :
    BinaryFormat.single.leadingBit = 2 ^ 23 ∧ BinaryFormat.double.leadingBit = 2 ^ 52 :=
  ⟨rfl, rfl⟩

theorem eq_fields_of_magnitude
    (h : x.magnitude = .finite significand exponent closeBelow) :
    significand = (if x.storedExponent = 0 then 0 else 2 ^ 23) + x.fraction ∧
      exponent = (max x.storedExponent 1 : Nat) - (150 : Nat) := by
  rw [magnitude_of_isFinite (isFinite_of_magnitude h), Magnitude.finite.injEq,
    bias_add_fractionBits.1, leadingBit_eq.1] at h
  exact ⟨h.1.symm, h.2.1.symm⟩

/-- A zero has the least exponent in both precisions. -/
theorem magnitude_widen_of_zero
    (h : x.magnitude = .finite significand exponent closeBelow)
    (hexponent : x.storedExponent = 0)
    (hfraction : x.fraction = 0) :
    x.widen.magnitude = .finite (significand * 2 ^ 925) (exponent - (925 : Nat)) false := by
  obtain ⟨rfl, rfl⟩ := eq_fields_of_magnitude h
  rw [widen_of_zero hexponent hfraction, magnitude_ofFields (by decide) (by decide), hexponent,
    hfraction, if_pos rfl, if_pos rfl, Nat.add_zero, Nat.zero_mul, bias_add_fractionBits.2]
  rfl

/-- The fraction of a subnormal number gets as many zeros as bring its highest bit in front. -/
theorem exists_magnitude_widen_of_subnormal
    (h : x.magnitude = .finite significand exponent closeBelow)
    (hexponent : x.storedExponent = 0)
    (hfraction : x.fraction ≠ 0) :
    ∃ close, x.widen.magnitude =
      .finite (significand * 2 ^ (52 - x.fraction.log2))
        (exponent - (52 - x.fraction.log2 : Nat)) close := by
  obtain ⟨rfl, rfl⟩ := eq_fields_of_magnitude h
  obtain ⟨htop, hlow, hhigh⟩ := shifted_fraction hfraction
  have hbounds : BinaryFormat.double.topExponent = 2047 := rfl
  refine ⟨(x.fraction * 2 ^ (52 - x.fraction.log2) - 2 ^ 52 == 0 &&
    decide (1 < x.fraction.log2 + 874)), ?_⟩
  rw [widen_of_subnormal hexponent hfraction,
    magnitude_ofFields (by omega) (by rw [leadingBit_eq.2]; omega), hexponent, if_pos rfl,
    if_neg (by omega), leadingBit_eq.2, bias_add_fractionBits.2, Nat.add_sub_cancel' hlow,
    Nat.zero_add, Magnitude.finite.injEq]
  refine ⟨rfl, ?_, rfl⟩
  omega

/-- The significand of a normal number gets as many zeros as the wide fraction is longer. -/
theorem exists_magnitude_widen_of_normal
    (h : x.magnitude = .finite significand exponent closeBelow)
    (hexponent : x.storedExponent ≠ 0) :
    ∃ close, x.widen.magnitude =
      .finite (significand * 2 ^ 29) (exponent - (29 : Nat)) close := by
  have hfinite := isFinite_of_magnitude h
  have htop := storedExponent_lt_top hfinite
  have hfraction : x.fraction < 2 ^ 23 := x.fraction_lt
  have hbounds : BinaryFormat.double.topExponent = 2047 := rfl
  obtain ⟨rfl, rfl⟩ := eq_fields_of_magnitude h
  refine ⟨(x.fraction * 2 ^ 29 == 0 && decide (1 < x.storedExponent + 896)), ?_⟩
  rw [widen_of_normal hfinite hexponent,
    magnitude_ofFields (by omega) (by rw [leadingBit_eq.2]; omega), if_neg hexponent,
    if_neg (by omega), leadingBit_eq.2, bias_add_fractionBits.2, Magnitude.finite.injEq]
  refine ⟨?_, ?_, rfl⟩
  · ring
  · omega

/-- Widening adds zeros behind the significand and makes the exponent smaller by as many. -/
theorem exists_magnitude_widen
    (h : x.magnitude = .finite significand exponent closeBelow) :
    ∃ (zeros : Nat) (close : Bool),
      2 ≤ zeros ∧
      x.widen.magnitude = .finite (significand * 2 ^ zeros) (exponent - zeros) close := by
  by_cases hexponent : x.storedExponent = 0
  · by_cases hfraction : x.fraction = 0
    · exact ⟨925, false, by decide, magnitude_widen_of_zero h hexponent hfraction⟩
    · obtain ⟨htop, -, -⟩ := shifted_fraction hfraction
      obtain ⟨close, hwiden⟩ := exists_magnitude_widen_of_subnormal h hexponent hfraction
      exact ⟨52 - x.fraction.log2, close, by omega, hwiden⟩
  · obtain ⟨close, hwiden⟩ := exists_magnitude_widen_of_normal h hexponent
    exact ⟨29, close, by decide, hwiden⟩

end Magnitude

end Binary32

end SqlStatement
