/-!
# Binary floating-point encodings

A floating-point number is kept as its interchange encoding: a sign bit, a biased exponent and a
fraction.  Nothing here computes with machine floats, so every fact about an encoding is a fact
about natural numbers.

* `Binary.magnitude` reads an encoding, its sign apart, as not-a-number, an infinity, or
  `significand · 2 ^ exponent` with natural `significand`.
* `Binary32.widen` gives the double-precision encoding of the same number.
-/

namespace SqlStatement

/-- The field widths of a binary interchange format, its sign bit apart. -/
structure BinaryFormat where
  exponentBits : Nat
  fractionBits : Nat
deriving DecidableEq

namespace BinaryFormat

/-- Single precision. -/
def single : BinaryFormat := ⟨8, 23⟩

/-- Double precision. -/
def double : BinaryFormat := ⟨11, 52⟩

/-- The number of bits of a whole encoding. -/
def width (format : BinaryFormat) : Nat :=
  1 + format.exponentBits + format.fractionBits

/-- The weight of the bit in front of the fraction. -/
def leadingBit (format : BinaryFormat) : Nat :=
  Nat.pow 2 format.fractionBits

/-- The number of values that the exponent field can hold. -/
def exponentCount (format : BinaryFormat) : Nat :=
  Nat.pow 2 format.exponentBits

/-- The weight of the sign bit. -/
def signBit (format : BinaryFormat) : Nat :=
  format.exponentCount * format.leadingBit

/-- The amount by which exponents are stored too large. -/
def bias (format : BinaryFormat) : Nat :=
  format.exponentCount / 2 - 1

/-- The stored exponent of infinities and of values that are not numbers. -/
def topExponent (format : BinaryFormat) : Nat :=
  format.exponentCount - 1

end BinaryFormat

/-- A floating-point number of a format, as its encoding. -/
structure Binary (format : BinaryFormat) where
  bits : BitVec format.width
deriving DecidableEq

/-- Single-precision numbers. -/
abbrev Binary32 := Binary .single

/-- Double-precision numbers. -/
abbrev Binary64 := Binary .double

/-- What an encoding stands for apart from its sign. -/
inductive Magnitude where
  | notNumber
  | infinite
  /--
  The number `significand · 2 ^ exponent`.  `closeBelow` tells that the next smaller number of the
  format is half as far away as the next larger one.
  -/
  | finite (significand : Nat) (exponent : Int) (closeBelow : Bool)
deriving DecidableEq

namespace Binary

variable {format : BinaryFormat}

/-- The encoding with the given bits, read as a natural number. -/
def ofNat (format : BinaryFormat) (bits : Nat) : Binary format :=
  ⟨BitVec.ofNat format.width bits⟩

/-- The encoding with the given sign, stored exponent and fraction. -/
def ofFields
    (format : BinaryFormat)
    (negative : Bool)
    (storedExponent fraction : Nat) :
    Binary format :=
  let sign := if negative then format.signBit else 0
  .ofNat format (sign + storedExponent * format.leadingBit + fraction)

/-- Whether the sign bit is set. -/
def isNegative (x : Binary format) : Bool :=
  decide (format.signBit ≤ x.bits.toNat)

/-- The exponent field, still biased. -/
def storedExponent (x : Binary format) : Nat :=
  x.bits.toNat / format.leadingBit % format.exponentCount

/-- The fraction field. -/
def fraction (x : Binary format) : Nat :=
  x.bits.toNat % format.leadingBit

/--
What the encoding stands for apart from its sign.  A stored exponent of zero means that the leading
bit is zero and that the exponent is the one of stored exponent one.
-/
def magnitude (x : Binary format) : Magnitude :=
  if x.storedExponent = format.topExponent then
    if x.fraction = 0 then .infinite else .notNumber
  else
    let leading := if x.storedExponent = 0 then 0 else format.leadingBit
    let exponent : Int := (max x.storedExponent 1 : Nat) - (format.bias + format.fractionBits : Nat)
    .finite (leading + x.fraction) exponent (x.fraction == 0 && decide (1 < x.storedExponent))

/-- Whether the encoding is a number other than an infinity. -/
def isFinite (x : Binary format) : Bool :=
  decide (x.storedExponent ≠ format.topExponent)

end Binary

/--
The double-precision encoding of the same number.  Every single-precision number is a
double-precision one, so nothing is rounded; a value that is not a number becomes a quiet one.
-/
def Binary32.widen (x : Binary32) : Binary64 :=
  let fraction := x.fraction * (BinaryFormat.double.leadingBit / BinaryFormat.single.leadingBit)
  let rebias := BinaryFormat.double.bias - BinaryFormat.single.bias
  if x.storedExponent = BinaryFormat.single.topExponent then
    let quiet := BinaryFormat.double.leadingBit / 2
    .ofFields .double x.isNegative BinaryFormat.double.topExponent
      (if fraction = 0 then 0 else quiet + fraction % quiet)
  else if x.storedExponent ≠ 0 then
    .ofFields .double x.isNegative (x.storedExponent + rebias) fraction
  else if fraction = 0 then
    .ofFields .double x.isNegative 0 0
  else
    -- The highest bit of the fraction becomes the leading bit.
    let top := x.fraction.log2
    .ofFields .double x.isNegative (top + rebias + 1 - BinaryFormat.single.fractionBits)
      (x.fraction * Nat.pow 2 (BinaryFormat.double.fractionBits - top) -
        BinaryFormat.double.leadingBit)

/-- Double-precision numbers that are neither infinite nor without a number. -/
structure FiniteBinary64 where
  value : Binary64
  isFinite : value.isFinite = true
deriving DecidableEq

/-- The number itself when it is finite. -/
def Binary64.toFinite? (x : Binary64) : Option FiniteBinary64 :=
  if h : x.isFinite = true then some ⟨x, h⟩ else none

end SqlStatement
