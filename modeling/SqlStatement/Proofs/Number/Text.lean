import Mathlib.Algebra.Order.Field.Rat
import Mathlib.Data.List.TakeWhile
import Mathlib.Tactic.Ring
import SqlStatement.Number.Layout

/-!
# The text of a number

* `Binary.isNumberChar_of_mem_text` and `Binary.text_ne_empty` say what the text of a floating-point
  number is made of, in every layout.
* `Decimal.readPositional` reads digits with or without a point, and
  `Decimal.readPositional_positional` says that it reads the decimal that was written.
* `readNumber_toString` and `Binary.readNumber_text` read a number with its sign, so that
  `toString_int_injective` tells integers by their texts.
-/

namespace SqlStatement

/-- Whether some number is written with the character. -/
def isNumberChar (c : Char) : Bool :=
  c.isDigit || "+-.eNaNinf".toList.contains c

theorem isNumberChar_of_isDigit
    {c : Char}
    (h : c.isDigit = true) :
    isNumberChar c = true := by
  rw [isNumberChar, h, Bool.true_or]

theorem isNumberChar_of_mem_toDigits
    {c : Char}
    {n : Nat}
    (h : c ∈ Nat.toDigits 10 n) :
    isNumberChar c = true :=
  isNumberChar_of_isDigit (Nat.isDigit_of_mem_toDigits (by decide) (by decide) h)

/-- An integer is written with digits and at most a minus sign. -/
theorem isDigit_or_eq_minus_of_mem_toString
    {c : Char}
    {n : Int}
    (h : c ∈ (toString n).toList) :
    c.isDigit = true ∨ c = '-' := by
  have hnat : ∀ {m : Nat}, c ∈ m.repr.toList → c.isDigit = true := by
    intro m hc
    rw [Nat.toList_repr] at hc
    exact Nat.isDigit_of_mem_toDigits (by decide) (by decide) hc
  rw [Int.toString_eq_repr, Int.repr_eq_if] at h
  split at h
  · exact Or.inl (hnat h)
  · rw [String.toList_append, List.mem_append] at h
    exact h.symm.imp hnat List.mem_singleton.1

theorem toString_int_ne_empty (n : Int) : toString n ≠ "" := by
  rw [Int.toString_eq_repr, Int.repr_eq_if]
  split <;> simp [String.append_eq_empty_iff]

theorem isNumberChar_of_mem_toString
    {c : Char}
    {n : Int}
    (h : c ∈ (toString n).toList) :
    isNumberChar c = true := by
  rcases isDigit_or_eq_minus_of_mem_toString h with h | rfl
  · exact isNumberChar_of_isDigit h
  · decide

namespace Decimal

variable {d : Decimal} {c : Char}

/-! ### Characters -/

theorem isDigit_of_mem_digitChars
    (h : c ∈ d.digitChars) :
    c.isDigit = true :=
  Nat.isDigit_of_mem_toDigits (by decide) (by decide) h

theorem isDigit_of_mem_zeros
    {n : Nat}
    (h : c ∈ List.replicate n '0') :
    c.isDigit = true := by
  rw [(List.mem_replicate.1 h).2]
  decide

/-- In its places, a decimal is written with digits and at most a point. -/
theorem isDigit_or_eq_point_of_mem_positional
    {keepsPoint : Bool}
    (h : c ∈ d.positional keepsPoint) :
    c.isDigit = true ∨ c = '.' := by
  unfold positional at h
  split at h
  · simp only [List.mem_append] at h
    rcases h with (h | h) | h
    · exact Or.inl (isDigit_of_mem_digitChars h)
    · exact Or.inl (isDigit_of_mem_zeros h)
    · cases keepsPoint with
      | false =>
          cases h
      | true =>
          have hpair : c = '.' ∨ c = '0' := by
            simpa using h
          rcases hpair with rfl | rfl
          · exact Or.inr rfl
          · exact Or.inl (by decide)
  · have hpadded : ∀ {n : Nat}, c ∈ List.replicate n '0' ++ d.digitChars → c.isDigit = true :=
      fun hc => (List.mem_append.1 hc).elim isDigit_of_mem_zeros isDigit_of_mem_digitChars
    rw [List.mem_append, List.mem_cons] at h
    rcases h with h | rfl | h
    · exact Or.inl (hpadded (List.mem_of_mem_take h))
    · exact Or.inr rfl
    · exact Or.inl (hpadded (List.mem_of_mem_drop h))

theorem isNumberChar_of_mem_scientific
    {plusSign : Bool}
    (h : c ∈ d.scientific plusSign) :
    isNumberChar c = true := by
  have hmarks : ∀ {cs : List Char}, cs.all isNumberChar = true → c ∈ cs →
      isNumberChar c = true := fun hcs => List.all_eq_true.1 hcs c
  simp only [scientific, List.mem_append, List.mem_cons] at h
  rcases h with ((h | h) | rfl | h) | h
  · exact isNumberChar_of_mem_toDigits (List.mem_of_mem_take h)
  · split at h
    case isTrue =>
      simp at h
    case isFalse =>
      rcases List.mem_cons.1 h with rfl | h
      · decide
      · exact isNumberChar_of_mem_toDigits (List.mem_of_mem_drop h)
  · decide
  · refine hmarks ?_ h
    split
    · decide
    · split <;> decide
  · exact isNumberChar_of_mem_toDigits h

theorem isNumberChar_of_mem_chars
    {layout : FloatLayout}
    (h : c ∈ d.chars layout) :
    isNumberChar c = true := by
  unfold chars at h
  split at h
  · rcases isDigit_or_eq_point_of_mem_positional h with h | rfl
    · exact isNumberChar_of_isDigit h
    · decide
  · exact isNumberChar_of_mem_scientific h

theorem chars_ne_nil (layout : FloatLayout) (d : Decimal) : d.chars layout ≠ [] := by
  have hdigits : d.digitChars ≠ [] := Nat.toDigits_ne_nil
  unfold chars positional scientific
  split
  · split <;> simp [hdigits]
  · simp

end Decimal

namespace Binary

variable {format : BinaryFormat}

theorem isNumberChar_of_mem_text
    {layout : FloatLayout}
    {x : Binary format}
    {c : Char}
    (h : c ∈ (x.text layout).toList) :
    isNumberChar c = true := by
  have hsign : c ∈ (if x.isNegative then "-" else "").toList → isNumberChar c = true := by
    split
    · intro hc
      obtain rfl := List.mem_singleton.1 hc
      decide
    · simp
  have hwords : ∀ m ∈ "NaN".toList ++ "inf".toList, isNumberChar m = true :=
    List.all_eq_true.1 (by decide)
  cases hmagnitude : x.magnitude with
  | notNumber =>
      simp only [text, hmagnitude] at h
      exact hwords c (List.mem_append_left _ h)
  | infinite =>
      simp only [text, hmagnitude, String.toList_append, List.mem_append] at h
      exact h.elim hsign fun hc => hwords c (List.mem_append_right _ hc)
  | finite significand exponent closeBelow =>
      simp only [text, hmagnitude, String.toList_append, List.mem_append, String.toList_ofList] at h
      exact h.elim hsign Decimal.isNumberChar_of_mem_chars

theorem text_ne_empty (layout : FloatLayout) (x : Binary format) : x.text layout ≠ "" := by
  cases hmagnitude : x.magnitude with
  | notNumber =>
      simp [text, hmagnitude]
  | infinite =>
      simp [text, hmagnitude, String.append_eq_empty_iff]
  | finite significand exponent closeBelow =>
      simp [text, hmagnitude, String.append_eq_empty_iff, Decimal.chars_ne_nil]

end Binary

/-! ### Reading -/

namespace Decimal

/-- The number that a decimal stands for. -/
def value (d : Decimal) : ℚ :=
  d.digits * 10 ^ d.exponent

/-- The number that digits with or without a point among them stand for. -/
def readPositional (cs : List Char) : ℚ :=
  let whole := cs.takeWhile (· != '.')
  let fraction := (cs.dropWhile (· != '.')).drop 1
  Nat.ofDigitChars 10 (whole ++ fraction) 0 / 10 ^ fraction.length

theorem forall_ne_point
    {cs : List Char}
    (h : ∀ c ∈ cs, c.isDigit = true) :
    ∀ c ∈ cs, (c != '.') = true := by
  intro c hc
  rw [bne_iff_ne]
  rintro rfl
  exact absurd (h _ hc) (by decide)

theorem readPositional_digits
    {cs : List Char}
    (h : ∀ c ∈ cs, c.isDigit = true) :
    readPositional cs = Nat.ofDigitChars 10 cs 0 := by
  have hall := forall_ne_point h
  simp [readPositional, List.takeWhile_eq_self_iff.2 hall, List.dropWhile_eq_nil_iff.2 hall]

theorem readPositional_point
    {cs : List Char}
    {places : Nat}
    (h : ∀ c ∈ cs, c.isDigit = true)
    (hplaces : places ≤ cs.length) :
    readPositional (cs.take (cs.length - places) ++ '.' :: cs.drop (cs.length - places)) =
      Nat.ofDigitChars 10 cs 0 / 10 ^ places := by
  have hwhole : ∀ c ∈ cs.take (cs.length - places), (c != '.') = true :=
    fun c hc => forall_ne_point h c (List.mem_of_mem_take hc)
  have hlength : cs.length - (cs.length - places) = places := by
    omega
  simp [readPositional, List.takeWhile_append_of_pos hwhole, List.dropWhile_append_of_pos hwhole,
    hlength]

/-- A decimal is read from its digits in their places. -/
theorem readPositional_positional (d : Decimal) :
    readPositional (d.positional false) = d.value := by
  have hread : Nat.ofDigitChars 10 d.digitChars 0 = d.digits :=
    Nat.ofDigitChars_toDigits (by decide) (by decide)
  unfold positional
  split
  case isTrue hexponent =>
    have hall : ∀ c ∈ d.digitChars ++ List.replicate d.exponent.toNat '0', c.isDigit = true :=
      fun c hc => (List.mem_append.1 hc).elim isDigit_of_mem_digitChars isDigit_of_mem_zeros
    have hpower : (10 : ℚ) ^ d.exponent = 10 ^ d.exponent.toNat := by
      rw [← zpow_natCast, Int.toNat_of_nonneg hexponent]
    rw [if_neg Bool.false_ne_true, List.append_nil, readPositional_digits hall,
      Nat.ofDigitChars_append, hread, Nat.ofDigitChars_replicate_zero, value, hpower]
    push_cast
    ring
  case isFalse hexponent =>
    let zeros := List.replicate ((-d.exponent).toNat + 1 - d.digitChars.length) '0'
    have hall : ∀ c ∈ zeros ++ d.digitChars, c.isDigit = true :=
      fun c hc => (List.mem_append.1 hc).elim isDigit_of_mem_zeros isDigit_of_mem_digitChars
    have hlength : (-d.exponent).toNat ≤ (zeros ++ d.digitChars).length := by
      rw [List.length_append, List.length_replicate]
      omega
    have hvalue : Nat.ofDigitChars 10 (zeros ++ d.digitChars) 0 = d.digits := by
      rw [Nat.ofDigitChars_append, Nat.ofDigitChars_replicate_zero, Nat.mul_zero, hread]
    have hpower : (10 : ℚ) ^ d.exponent = (10 ^ (-d.exponent).toNat)⁻¹ := by
      rw [← zpow_natCast, ← zpow_neg, Int.toNat_of_nonneg (by omega), neg_neg]
    calc readPositional _
        = Nat.ofDigitChars 10 (zeros ++ d.digitChars) 0 / 10 ^ (-d.exponent).toNat :=
          readPositional_point hall hlength
      _ = d.value := by
          rw [hvalue, value, hpower, div_eq_mul_inv]

theorem head?_positional_ne_minus (d : Decimal) (keepsPoint : Bool) :
    (d.positional keepsPoint).head? ≠ some '-' := by
  intro hminus
  rcases isDigit_or_eq_point_of_mem_positional (List.mem_of_head? hminus) with h | h <;>
    exact absurd h (by decide)

end Decimal

/-- The number that plain digits stand for, with or without a point among them and a minus sign in
front of them. -/
def readNumber (text : String) : ℚ :=
  if text.toList.head? = some '-' then
    -Decimal.readPositional text.toList.tail
  else
    Decimal.readPositional text.toList

/-- An integer is read from its text. -/
theorem readNumber_toString (n : Int) : readNumber (toString n) = n := by
  have hdigits : ∀ m : Nat, Decimal.readPositional (Nat.toDigits 10 m) = m := by
    intro m
    rw [Decimal.readPositional_digits fun c hc =>
      Nat.isDigit_of_mem_toDigits (by decide) (by decide) hc, Nat.ofDigitChars_ten_toDigits]
  rw [Int.toString_eq_repr, Int.repr_eq_if, readNumber]
  split
  case isTrue hnonneg =>
    have hminus : n.toNat.repr.toList.head? ≠ some '-' := by
      intro hminus
      rw [Nat.toList_repr] at hminus
      have hdigit := Nat.isDigit_of_mem_toDigits (by decide) (by decide) (List.mem_of_head? hminus)
      exact absurd hdigit (by decide)
    rw [if_neg hminus, Nat.toList_repr, hdigits]
    exact_mod_cast Int.toNat_of_nonneg hnonneg
  case isFalse hnegative =>
    have hvalue : ((-n).toNat : ℚ) = -n := by
      exact_mod_cast Int.toNat_of_nonneg (by omega : 0 ≤ -n)
    rw [String.toList_append, Nat.toList_repr]
    change -Decimal.readPositional (Nat.toDigits 10 (-n).toNat) = n
    rw [hdigits, hvalue, neg_neg]

/-- Two integers with the same text are equal. -/
theorem toString_int_injective : Function.Injective (toString : Int → String) := by
  intro m n h
  have hread : (m : ℚ) = n := by
    rw [← readNumber_toString m, h, readNumber_toString]
  exact_mod_cast hread

namespace Binary

variable
  {format : BinaryFormat}
  {x : Binary format}
  {significand : Nat}
  {exponent : Int}
  {closeBelow : Bool}

theorem text_statement
    (h : x.magnitude = .finite significand exponent closeBelow) :
    x.text .statement =
      (if x.isNegative then "-" else "") ++ String.ofList
        ((Decimal.ofFinite .up significand exponent closeBelow).positional false) := by
  simp only [text, h]
  rfl

/-- One tenth and minus zero. -/
example :
    (Binary.ofNat .double 0x3fb999999999999a).text .statement = "0.1" ∧
      (Binary.ofNat .double 0x8000000000000000).text .statement = "-0" := by
  decide +kernel

/-- A number is read from its text. -/
theorem readNumber_text
    (h : x.magnitude = .finite significand exponent closeBelow) :
    readNumber (x.text .statement) =
      if x.isNegative then -(Decimal.ofFinite .up significand exponent closeBelow).value
      else (Decimal.ofFinite .up significand exponent closeBelow).value := by
  rw [text_statement h, readNumber]
  cases x.isNegative with
  | true =>
      simp [Decimal.readPositional_positional]
  | false =>
      simp [Decimal.readPositional_positional, Decimal.head?_positional_ne_minus]

end Binary

end SqlStatement
