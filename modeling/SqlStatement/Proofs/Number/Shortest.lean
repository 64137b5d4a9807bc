import Mathlib.Tactic.FieldSimp
import SqlStatement.Proofs.Number.Reading
import SqlStatement.Proofs.Number.Text

/-!
# Shortest decimals of a number in two precisions

A single-precision number has nearer neighbours among the double-precision numbers, so fewer
decimals round to it there.

* `Binary.isReadFrom_text` says that a number is read from its text.
* `RoundingInterval.shortest_scaled` and `RoundingInterval.shortest_eq_of_holds` are the two steps
  from one precision to the other: a smaller unit changes nothing, and a narrower interval changes
  nothing if it still holds the decimal.
* `Binary32.text_widen_eq_iff` is the main result: both precisions write the same digits exactly if
  those of the single precision are read as the same number in double precision.
-/

namespace SqlStatement

namespace RoundingInterval

variable {interval fine wide : RoundingInterval} {tie : TieRule} {v : ℚ}

/-- Whether a number lies in the interval. -/
def Holds (interval : RoundingInterval) (v : ℚ) : Prop :=
  let low := interval.low * (10 : ℚ) ^ interval.exponent
  let high := interval.high * (10 : ℚ) ^ interval.exponent
  if interval.endsIncluded then low ≤ v ∧ v ≤ high else low < v ∧ v < high

theorem contains_iff_holds
    {n : Nat} :
    interval.contains n = true ↔ interval.Holds (n * 10 ^ interval.exponent) := by
  have hpower : (0 : ℚ) < 10 ^ interval.exponent := by
    positivity
  unfold contains Holds
  split <;> simp [hpower]

/-- A decimal on one of the grids lies in the interval if its multiple of the unit does. -/
theorem holds_value_iff
    {digits power : Nat} :
    interval.Holds (Decimal.value ⟨digits, interval.exponent + power⟩) ↔
      interval.contains (digits * gridUnit power) = true := by
  have hvalue : Decimal.value ⟨digits, interval.exponent + power⟩ =
      (digits * gridUnit power : Nat) * 10 ^ interval.exponent := by
    rw [Decimal.value, zpow_add₀ (by norm_num), zpow_natCast, gridUnit, Nat.cast_mul]
    simp only [Nat.pow_eq, Nat.cast_pow, Nat.cast_ofNat]
    ring
  rw [hvalue, contains_iff_holds]

/-! ### The search -/

theorem onGrid?_eq_none_iff
    {power : Nat} :
    interval.onGrid? tie power = none ↔
      interval.contains (interval.center / gridUnit power * gridUnit power) = false ∧
        interval.contains ((interval.center / gridUnit power + 1) * gridUnit power) = false := by
  unfold onGrid?
  cases hbelow : interval.contains (interval.center / gridUnit power * gridUnit power) <;>
    cases habove : interval.contains ((interval.center / gridUnit power + 1) * gridUnit power) <;>
    simp [hbelow, habove]

/-- One of the two multiples around the centre is hit, and the other one is not in the interval or
less wanted. -/
theorem onGrid?_eq_some_iff
    {power digits : Nat} :
    interval.onGrid? tie power = some digits ↔
      interval.contains (digits * gridUnit power) = true ∧
        (digits = interval.center / gridUnit power ∧
            (interval.contains ((interval.center / gridUnit power + 1) * gridUnit power) = true →
              interval.prefersBelow tie (gridUnit power) = true) ∨
          digits = interval.center / gridUnit power + 1 ∧
            (interval.contains (interval.center / gridUnit power * gridUnit power) = true →
              interval.prefersBelow tie (gridUnit power) = false)) := by
  unfold onGrid?
  cases hbelow : interval.contains (interval.center / gridUnit power * gridUnit power) <;>
    cases habove : interval.contains ((interval.center / gridUnit power + 1) * gridUnit power) <;>
    cases hprefers : interval.prefersBelow tie (gridUnit power) <;>
    grind

theorem searchFrom_of_onGrid?
    {power digits : Nat}
    (h : interval.onGrid? tie power = some digits) :
    interval.searchFrom tie power = ⟨digits, interval.exponent + power⟩ := by
  cases power with
  | zero =>
      simp [searchFrom, h]
  | succ power =>
      simp [searchFrom, h]

theorem searchFrom_succ
    {power : Nat}
    (h : interval.onGrid? tie (power + 1) = none) :
    interval.searchFrom tie (power + 1) = interval.searchFrom tie power := by
  simp [searchFrom, h]

/-- The centre is on the unit grid. -/
theorem exists_onGrid?_zero
    (tie : TieRule)
    (h : interval.contains interval.center = true) :
    ∃ digits, interval.onGrid? tie 0 = some digits := by
  have hcenter : interval.contains (interval.center / gridUnit 0 * gridUnit 0) = true := by
    rwa [gridUnit, Nat.pow_eq, pow_zero, Nat.div_one, Nat.mul_one]
  rw [onGrid?, hcenter]
  cases interval.contains ((interval.center / gridUnit 0 + 1) * gridUnit 0) with
  | true =>
      exact ⟨_, rfl⟩
  | false =>
      exact ⟨_, rfl⟩

/-- The shortest decimal lies in the interval if the centre does. -/
theorem holds_shortest
    (tie : TieRule)
    (h : interval.contains interval.center = true) :
    interval.Holds (interval.shortest tie).value := by
  obtain ⟨power, hexponent, hcontains⟩ :=
    contains_searchFrom tie h (Nat.toDigits 10 interval.center).length
  rw [← holds_value_iff, ← hexponent] at hcontains
  exact hcontains

/-! ### A smaller unit -/

/-- The same interval in a unit that is smaller by a power of ten. -/
def scaled (interval : RoundingInterval) (k : Nat) : RoundingInterval :=
  { low := interval.low * 10 ^ k
    center := interval.center * 10 ^ k
    high := interval.high * 10 ^ k
    endsIncluded := interval.endsIncluded
    exponent := interval.exponent - k }

section Scaled

variable (interval tie) (k : Nat)

theorem mul_pow_scaled (n : Nat) :
    ((n * 10 ^ k : Nat) : ℚ) * 10 ^ (interval.exponent - k) = n * 10 ^ interval.exponent := by
  rw [zpow_sub₀ (by norm_num), zpow_natCast, Nat.cast_mul, Nat.cast_pow, Nat.cast_ofNat]
  field_simp

theorem holds_scaled : (interval.scaled k).Holds v ↔ interval.Holds v := by
  simp only [Holds, scaled, mul_pow_scaled]

theorem contains_scaled (n : Nat) :
    (interval.scaled k).contains (n * 10 ^ k) = interval.contains n := by
  simp [contains, scaled]

theorem prefersBelow_scaled (unit : Nat) :
    (interval.scaled k).prefersBelow tie (unit * 10 ^ k) = interval.prefersBelow tie unit := by
  have hpower : 0 < 10 ^ k := by
    positivity
  have hequal : ∀ a b : Nat, a * 10 ^ k = b * 10 ^ k ↔ a = b := fun a b =>
    Nat.mul_left_inj hpower.ne'
  simp only [prefersBelow, scaled, Nat.mul_div_mul_right _ _ hpower, ← Nat.mul_assoc,
    ← Nat.sub_mul, hequal, Nat.mul_lt_mul_right hpower]

theorem onGrid?_scaled (power : Nat) :
    (interval.scaled k).onGrid? tie (power + k) = interval.onGrid? tie power := by
  have hpower : 0 < 10 ^ k := by
    positivity
  have hunit : gridUnit (power + k) = gridUnit power * 10 ^ k :=
    Nat.pow_add 10 power k
  have hbelow : (interval.scaled k).center / (gridUnit power * 10 ^ k) =
      interval.center / gridUnit power :=
    Nat.mul_div_mul_right _ _ hpower
  simp only [onGrid?, hunit, hbelow, ← Nat.mul_assoc, contains_scaled, prefersBelow_scaled]

theorem searchFrom_scaled
    (h : interval.contains interval.center = true)
    (power : Nat) :
    (interval.scaled k).searchFrom tie (power + k) = interval.searchFrom tie power := by
  have hhit : ∀ {power digits}, interval.onGrid? tie power = some digits →
      (interval.scaled k).searchFrom tie (power + k) = interval.searchFrom tie power := by
    intro power digits hdigits
    rw [searchFrom_of_onGrid? hdigits,
      searchFrom_of_onGrid? ((onGrid?_scaled interval tie k power).trans hdigits)]
    simp [scaled]
  induction power with
  | zero =>
      obtain ⟨digits, hdigits⟩ := exists_onGrid?_zero tie h
      exact hhit hdigits
  | succ power ih =>
      cases hgrid : interval.onGrid? tie (power + 1) with
      | some digits =>
          exact hhit hgrid
      | none =>
          rw [searchFrom_succ hgrid, ← ih, Nat.add_right_comm]
          exact searchFrom_succ (by rw [Nat.add_right_comm, onGrid?_scaled, hgrid])

theorem length_toDigits_mul_pow
    {n : Nat}
    (hn : 0 < n) :
    (Nat.toDigits 10 (n * 10 ^ k)).length = (Nat.toDigits 10 n).length + k := by
  induction k with
  | zero =>
      simp
  | succ k ih =>
      have happend := Nat.toDigits_append_toDigits (b := 10) (n := n * 10 ^ k) (d := 0)
        (by decide) (by positivity) (by decide)
      have hpower : n * 10 ^ (k + 1) = 10 * (n * 10 ^ k) + 0 := by
        ring
      rw [hpower, ← happend, List.length_append, ih]
      rfl

/-- A smaller unit does not change the shortest decimal. -/
theorem shortest_scaled
    (h : interval.contains interval.center = true)
    (hcenter : 0 < interval.center) :
    (interval.scaled k).shortest tie = interval.shortest tie := by
  have hlength : (Nat.toDigits 10 (interval.scaled k).center).length =
      (Nat.toDigits 10 interval.center).length + k :=
    length_toDigits_mul_pow k hcenter
  rw [shortest, hlength, searchFrom_scaled interval tie k h]
  rfl

end Scaled

/-! ### A narrower interval -/

section Narrow

variable
  (hcenter : fine.center = wide.center)
  (hexponent : fine.exponent = wide.exponent)
  (hinside : ∀ v, fine.Holds v → wide.Holds v)

include hexponent hinside

theorem contains_wide
    {n : Nat}
    (h : fine.contains n = true) :
    wide.contains n = true := by
  rw [contains_iff_holds, hexponent] at h
  exact contains_iff_holds.2 (hinside _ h)

include hcenter

theorem onGrid?_eq_none
    {power : Nat}
    (h : wide.onGrid? tie power = none) :
    fine.onGrid? tie power = none := by
  have hfine : ∀ {n}, wide.contains n = false → fine.contains n = false := by
    intro n hwide
    by_contra hcontains
    rw [Bool.not_eq_false] at hcontains
    rw [contains_wide hexponent hinside hcontains] at hwide
    cases hwide
  rw [onGrid?_eq_none_iff, hcenter]
  exact (onGrid?_eq_none_iff.1 h).imp hfine hfine

/-- A hit on a grid of the wide interval is one of the narrow interval if it lies in it. -/
theorem onGrid?_eq_some
    {power digits : Nat}
    (h : wide.onGrid? tie power = some digits)
    (hcontains : fine.contains (digits * gridUnit power) = true) :
    fine.onGrid? tie power = some digits := by
  have hprefers : fine.prefersBelow tie (gridUnit power) =
      wide.prefersBelow tie (gridUnit power) := by
    simp only [prefersBelow, hcenter]
  rw [onGrid?_eq_some_iff, hcenter, hprefers]
  refine ⟨hcontains, (onGrid?_eq_some_iff.1 h).2.imp ?_ ?_⟩
  · exact fun ⟨hdigits, hbelow⟩ =>
      ⟨hdigits, fun habove => hbelow (contains_wide hexponent hinside habove)⟩
  · exact fun ⟨hdigits, habove⟩ =>
      ⟨hdigits, fun hbelow => habove (contains_wide hexponent hinside hbelow)⟩

theorem searchFrom_eq_of_holds
    {power : Nat}
    (h : fine.Holds (wide.searchFrom tie power).value) :
    fine.searchFrom tie power = wide.searchFrom tie power := by
  have hhit : ∀ {power digits}, wide.onGrid? tie power = some digits →
      fine.Holds (wide.searchFrom tie power).value →
      fine.searchFrom tie power = wide.searchFrom tie power := by
    intro power digits hdigits h
    rw [searchFrom_of_onGrid? hdigits, ← hexponent, holds_value_iff] at h
    rw [searchFrom_of_onGrid? hdigits, ← hexponent]
    exact searchFrom_of_onGrid? (onGrid?_eq_some hcenter hexponent hinside hdigits h)
  induction power with
  | zero =>
      cases hgrid : wide.onGrid? tie 0 with
      | some digits =>
          exact hhit hgrid h
      | none =>
          simp only [searchFrom, hgrid, onGrid?_eq_none hcenter hexponent hinside hgrid, hcenter,
            hexponent]
  | succ power ih =>
      cases hgrid : wide.onGrid? tie (power + 1) with
      | some digits =>
          exact hhit hgrid h
      | none =>
          rw [searchFrom_succ hgrid] at h ⊢
          rw [searchFrom_succ (onGrid?_eq_none hcenter hexponent hinside hgrid), ih h]

/-- A narrower interval has the same shortest decimal if it still holds it. -/
theorem shortest_eq_of_holds
    (h : fine.Holds (wide.shortest tie).value) :
    fine.shortest tie = wide.shortest tie := by
  rw [shortest, hcenter]
  exact searchFrom_eq_of_holds hcenter hexponent hinside h

end Narrow

/-! ### The interval of a number -/

section OfFinite

variable {significand : Nat} {exponent : Int} {closeBelow : Bool}

/-- The scale and the unit of the interval make up one fourth of the unit of the significand. -/
theorem mul_scale_ofFinite
    (exponent : Int)
    (n : Nat) :
    ((n * (Nat.pow 2 (exponent - 2).toNat * Nat.pow 5 (2 - exponent).toNat) : Nat) : ℚ) *
        10 ^ min (exponent - 2) 0 =
      n * (2 ^ exponent / 4) := by
  have hfourth : (2 : ℚ) ^ exponent / 4 = 2 ^ (exponent - 2) := by
    rw [zpow_sub₀ (by norm_num)]
    norm_num
  rw [Nat.cast_mul, mul_assoc, hfourth]
  congr 1
  rcases Int.le_total 0 (exponent - 2) with hle | hle
  · obtain ⟨n, hn⟩ := Int.eq_ofNat_of_zero_le hle
    have hneg : (2 - exponent).toNat = 0 := by
      omega
    rw [hneg, min_eq_right hle, hn]
    simp
  · obtain ⟨n, hn⟩ := Int.eq_ofNat_of_zero_le (show 0 ≤ 2 - exponent by omega)
    have hneg : exponent - 2 = -(n : Int) := by
      omega
    have hpos : (-(n : Int)).toNat = 0 := by
      omega
    rw [min_eq_left hle, hneg, hn, hpos, zpow_neg, zpow_neg]
    have hten : (10 : ℚ) ^ n = 2 ^ n * 5 ^ n := by
      rw [← mul_pow]
      norm_num
    simp [hten]

theorem center_ofFinite_mul :
    ((ofFinite significand exponent closeBelow).center : ℚ) *
        10 ^ (ofFinite significand exponent closeBelow).exponent =
      significand * 2 ^ exponent := by
  simp only [ofFinite]
  rw [mul_scale_ofFinite]
  push_cast
  ring

/-- The interval of a number other than zero holds what reads as the number. -/
theorem holds_ofFinite_iff
    (hpos : 0 < significand) :
    (ofFinite significand exponent closeBelow).Holds v ↔
      (Magnitude.finite significand exponent closeBelow).IsReadFrom v := by
  have hlow : ((4 * significand - if closeBelow then 1 else 2 : Nat) : ℚ) * (2 ^ exponent / 4) =
      (significand - if closeBelow then 1 / 4 else 1 / 2 : ℚ) * 2 ^ exponent := by
    cases closeBelow with
    | false =>
        rw [if_neg Bool.false_ne_true, if_neg Bool.false_ne_true, Nat.cast_sub (by omega)]
        push_cast
        ring
    | true =>
        rw [if_pos rfl, if_pos rfl, Nat.cast_sub (by omega)]
        push_cast
        ring
  have hhigh : ((4 * significand + 2 : Nat) : ℚ) * (2 ^ exponent / 4) =
      (significand + 1 / 2 : ℚ) * 2 ^ exponent := by
    push_cast
    ring
  simp only [Holds, ofFinite, Magnitude.IsReadFrom, beq_iff_eq]
  rw [mul_scale_ofFinite, mul_scale_ofFinite, hlow, hhigh]

theorem center_ofFinite_pos
    (hpos : 0 < significand) :
    0 < (ofFinite significand exponent closeBelow).center :=
  Nat.mul_pos (Nat.mul_pos (by decide) hpos)
    (Nat.mul_pos (Nat.pow_pos (by decide)) (Nat.pow_pos (by decide)))

theorem contains_center_ofFinite
    (hpos : 0 < significand) :
    (ofFinite significand exponent closeBelow).contains
      (ofFinite significand exponent closeBelow).center = true := by
  have hpower : (0 : ℚ) < 2 ^ exponent := by
    positivity
  have hclose : (0 : ℚ) < if closeBelow then 1 / 4 else 1 / 2 := by
    split <;> norm_num
  rw [contains_iff_holds, center_ofFinite_mul, holds_ofFinite_iff hpos, Magnitude.IsReadFrom]
  split
  · constructor <;> nlinarith
  · constructor <;> nlinarith

end OfFinite

end RoundingInterval

/-! ### More zeros behind the significand -/

section Zeros

variable {significand zeros : Nat} {exponent : Int} {closeBelow close : Bool} {v : ℚ}

theorem mul_pow_zeros
    (significand zeros : Nat)
    (exponent : Int) :
    ((significand * 2 ^ zeros : Nat) : ℚ) * 2 ^ (exponent - zeros) =
      significand * 2 ^ exponent := by
  rw [zpow_sub₀ (by norm_num), zpow_natCast, Nat.cast_mul, Nat.cast_pow, Nat.cast_ofNat]
  field_simp

/-- What reads as a number among nearer neighbours reads as it among the farther ones. -/
theorem Magnitude.IsReadFrom.of_zeros
    (hzeros : 2 ≤ zeros)
    (h : (finite (significand * 2 ^ zeros) (exponent - zeros) close).IsReadFrom v) :
    (finite significand exponent closeBelow).IsReadFrom v := by
  have hunit : (0 : ℚ) < 2 ^ (exponent - zeros) := by
    positivity
  have hfour : 4 * (2 : ℚ) ^ (exponent - zeros) ≤ 2 ^ exponent := by
    have hpower := mul_pow_zeros 1 zeros exponent
    have hpow : (2 : ℚ) ^ 2 ≤ 2 ^ zeros := pow_le_pow_right₀ (by norm_num) hzeros
    rw [Nat.one_mul, Nat.cast_one, one_mul, Nat.cast_pow, Nat.cast_ofNat] at hpower
    rw [← hpower]
    exact mul_le_mul_of_nonneg_right (by linarith) hunit.le
  -- The nearer neighbours leave no more than one eighth of the unit on each side.
  have hnear : significand * 2 ^ exponent - 2 ^ exponent / 8 ≤ v ∧
      v ≤ significand * 2 ^ exponent + 2 ^ exponent / 8 := by
    have hclose : (if close then 1 / 4 else 1 / 2 : ℚ) ≤ 1 / 2 := by
      split <;> norm_num
    simp only [IsReadFrom] at h
    rw [sub_mul, add_mul, mul_pow_zeros] at h
    have hside := mul_le_mul_of_nonneg_right hclose hunit.le
    split at h <;> constructor <;> linarith [h.1, h.2]
  have hwide : (1 / 4 : ℚ) ≤ if closeBelow then 1 / 4 else 1 / 2 := by
    split <;> norm_num
  have hside := mul_le_mul_of_nonneg_right hwide (by linarith : (0 : ℚ) ≤ 2 ^ exponent)
  simp only [IsReadFrom]
  rw [sub_mul, add_mul]
  split <;> constructor <;> linarith [hnear.1, hnear.2]

/-- The shortest decimal of a number reads as the number. -/
theorem Magnitude.isReadFrom_ofFinite
    (tie : TieRule)
    (significand : Nat)
    (exponent : Int)
    (closeBelow : Bool) :
    (finite significand exponent closeBelow).IsReadFrom
      (Decimal.ofFinite tie significand exponent closeBelow).value := by
  rcases Nat.eq_zero_or_pos significand with rfl | hpos
  · have hpower : (0 : ℚ) < 2 ^ exponent := by
      positivity
    have hclose : (0 : ℚ) < if closeBelow then 1 / 4 else 1 / 2 := by
      split <;> norm_num
    have hvalue : (Decimal.ofFinite tie 0 exponent closeBelow).value = 0 := by
      simp [Decimal.ofFinite, Decimal.value]
    rw [hvalue, IsReadFrom, if_pos rfl]
    refine ⟨mul_nonpos_of_nonpos_of_nonneg ?_ hpower.le, mul_nonneg (by norm_num) hpower.le⟩
    rw [Nat.cast_zero, zero_sub]
    exact neg_nonpos_of_nonneg hclose.le
  · rw [← RoundingInterval.holds_ofFinite_iff hpos, Decimal.ofFinite, if_neg hpos.ne']
    exact RoundingInterval.holds_shortest tie (RoundingInterval.contains_center_ofFinite hpos)

/-- Among nearer neighbours the shortest decimal is the same if it still reads as the number. -/
theorem Decimal.ofFinite_zeros
    (tie : TieRule)
    (hzeros : 2 ≤ zeros)
    (h : (Magnitude.finite (significand * 2 ^ zeros) (exponent - zeros) close).IsReadFrom
      (Decimal.ofFinite tie significand exponent closeBelow).value) :
    Decimal.ofFinite tie (significand * 2 ^ zeros) (exponent - zeros) close =
      Decimal.ofFinite tie significand exponent closeBelow := by
  rcases Nat.eq_zero_or_pos significand with rfl | hpos
  · simp [Decimal.ofFinite]
  have hshifted : 0 < significand * 2 ^ zeros := by
    positivity
  let coarse := RoundingInterval.ofFinite significand exponent closeBelow
  let fine := RoundingInterval.ofFinite (significand * 2 ^ zeros) (exponent - zeros) close
  obtain ⟨k, hk⟩ : ∃ k : Nat, fine.exponent = coarse.exponent - k := by
    refine ⟨(coarse.exponent - fine.exponent).toNat, ?_⟩
    simp only [coarse, fine, RoundingInterval.ofFinite]
    omega
  have hcenter : fine.center = (coarse.scaled k).center := by
    have hunit : (10 : ℚ) ^ fine.exponent ≠ 0 := by
      positivity
    have hvalue : (fine.center : ℚ) * 10 ^ fine.exponent =
        (coarse.scaled k).center * 10 ^ fine.exponent :=
      calc (fine.center : ℚ) * 10 ^ fine.exponent
          = (significand * 2 ^ zeros : Nat) * 2 ^ (exponent - zeros) :=
            RoundingInterval.center_ofFinite_mul
        _ = significand * 2 ^ exponent := mul_pow_zeros significand zeros exponent
        _ = coarse.center * 10 ^ coarse.exponent :=
            RoundingInterval.center_ofFinite_mul.symm
        _ = (coarse.scaled k).center * 10 ^ fine.exponent := by
            rw [hk]
            exact (coarse.mul_pow_scaled k coarse.center).symm
    exact_mod_cast mul_right_cancel₀ hunit hvalue
  have hinside : ∀ v, fine.Holds v → (coarse.scaled k).Holds v := by
    intro v hv
    rw [RoundingInterval.holds_scaled, RoundingInterval.holds_ofFinite_iff hpos]
    exact ((RoundingInterval.holds_ofFinite_iff hshifted).1 hv).of_zeros hzeros
  have hscaled : (coarse.scaled k).shortest tie = coarse.shortest tie :=
    coarse.shortest_scaled tie k (RoundingInterval.contains_center_ofFinite hpos)
      (RoundingInterval.center_ofFinite_pos hpos)
  rw [Decimal.ofFinite, if_neg hpos.ne', ← RoundingInterval.holds_ofFinite_iff hshifted] at h
  rw [Decimal.ofFinite, Decimal.ofFinite, if_neg hshifted.ne', if_neg hpos.ne']
  calc fine.shortest tie
      = (coarse.scaled k).shortest tie :=
        RoundingInterval.shortest_eq_of_holds hcenter hk hinside (hscaled ▸ h)
    _ = coarse.shortest tie := hscaled

end Zeros

/-! ### Texts -/

namespace Binary

variable {format : BinaryFormat}

theorem isReadFrom_readNumber_text_iff
    {x : Binary format}
    {other : BinaryFormat}
    {y : Binary other}
    {significand : Nat}
    {exponent : Int}
    {closeBelow : Bool}
    (hsign : y.isNegative = x.isNegative)
    (h : x.magnitude = .finite significand exponent closeBelow) :
    y.IsReadFrom (readNumber (x.text .statement)) ↔
      y.magnitude.IsReadFrom (Decimal.ofFinite .up significand exponent closeBelow).value := by
  rw [IsReadFrom, readNumber_text h, hsign]
  split <;> simp

/-- The text of a number reads as the number. -/
theorem isReadFrom_text
    {x : Binary format}
    (h : x.isFinite = true) :
    x.IsReadFrom (readNumber (x.text .statement)) := by
  have hmagnitude := magnitude_of_isFinite h
  rw [isReadFrom_readNumber_text_iff rfl hmagnitude, hmagnitude]
  exact Magnitude.isReadFrom_ofFinite .up _ _ _

end Binary

namespace Binary32

open Binary

variable {x : Binary32}

theorem isFinite_widen
    (h : x.isFinite = true) :
    x.widen.isFinite = true := by
  obtain ⟨zeros, close, -, hwiden⟩ := exists_magnitude_widen (magnitude_of_isFinite h)
  exact isFinite_of_magnitude hwiden

/-- Widening rounds nothing. -/
theorem value_widen
    (h : x.isFinite = true) :
    x.widen.value = x.value := by
  have hmagnitude := magnitude_of_isFinite h
  obtain ⟨zeros, close, -, hwiden⟩ := exists_magnitude_widen hmagnitude
  rw [value, value, isNegative_widen h, hwiden, hmagnitude, Magnitude.value, Magnitude.value,
    mul_pow_zeros]

/-- What reads as a number in double precision reads as it in single precision. -/
theorem isReadFrom_of_widen
    {v : ℚ}
    (h : x.isFinite = true)
    (hread : x.widen.IsReadFrom v) :
    x.IsReadFrom v := by
  have hmagnitude := magnitude_of_isFinite h
  obtain ⟨zeros, close, hzeros, hwiden⟩ := exists_magnitude_widen hmagnitude
  rw [IsReadFrom, isNegative_widen h, hwiden] at hread
  rw [IsReadFrom, hmagnitude]
  exact hread.of_zeros hzeros

/-- A number is written alike in both precisions exactly if the digits that it has in single
precision read as it in double precision. -/
theorem text_widen_eq_iff
    (h : x.isFinite = true) :
    x.widen.text .statement = x.text .statement ↔
      x.widen.IsReadFrom (readNumber (x.text .statement)) := by
  have hmagnitude := magnitude_of_isFinite h
  obtain ⟨zeros, close, hzeros, hwiden⟩ := exists_magnitude_widen hmagnitude
  constructor
  · intro htext
    rw [← htext]
    exact isReadFrom_text (isFinite_widen h)
  · intro hread
    rw [isReadFrom_readNumber_text_iff (isNegative_widen h) hmagnitude, hwiden] at hread
    rw [text_statement hwiden, text_statement hmagnitude, isNegative_widen h,
      Decimal.ofFinite_zeros .up hzeros hread]

end Binary32

end SqlStatement
