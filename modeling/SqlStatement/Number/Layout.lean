import SqlStatement.Number.Shortest

/-!
# Float text

A floating-point number is written through the digits of its shortest decimal.  What differs
between the texts of this library is only where an exponent mark begins, whether a whole number
keeps a zero fraction digit, and which way an exact tie of digits goes; a `FloatLayout` is one such
choice.

* `FloatLayout.statement` is the text inside a statement: never an exponent mark.
* `FloatLayout.diagnostic` is the text inside error messages.
* `FloatLayout.document` is the text inside JSON documents.
-/

namespace SqlStatement

/-- The choices that fix how the digits of a number are laid out. -/
structure FloatLayout where
  /-- The decimal exponents written without an exponent mark; every exponent if `none`. -/
  positionalRange : Option (Int × Int)
  /-- Whether a whole number in positional notation keeps one zero after the point. -/
  keepsPoint : Bool
  /-- Whether a non-negative exponent is written with a plus sign. -/
  plusSign : Bool
  /-- Which of two equally near digit strings is written. -/
  tie : TieRule
deriving DecidableEq

namespace FloatLayout

/-- Statements hold plain digits only: no exponent mark and no zero fraction. -/
def statement : FloatLayout := ⟨none, false, false, .up⟩

/-- Diagnostics mark the exponent of numbers below `10 ^ -4` or from `10 ^ 16` on. -/
def diagnostic : FloatLayout := ⟨some (-4, 15), true, false, .up⟩

/-- Documents mark the exponent of numbers below `10 ^ -5` or from `10 ^ 16` on, with its sign. -/
def document : FloatLayout := ⟨some (-5, 15), true, true, .even⟩

/-- Whether a number of the given decimal exponent is written without an exponent mark. -/
def isPositional (layout : FloatLayout) (exponent : Int) : Bool :=
  match layout.positionalRange with
  | none => true
  | some (low, high) => decide (low ≤ exponent) && decide (exponent ≤ high)

end FloatLayout

namespace Decimal

/-- The digits of the decimal, the first one not zero unless the decimal is zero. -/
def digitChars (d : Decimal) : List Char :=
  Nat.toDigits 10 d.digits

/-- The exponent of the first digit. -/
def leadingExponent (d : Decimal) : Int :=
  d.exponent + (d.digitChars.length - 1 : Nat)

/-- All digits in their places, with zeros up to the point or between the point and them. -/
def positional (keepsPoint : Bool) (d : Decimal) : List Char :=
  if 0 ≤ d.exponent then
    d.digitChars ++ List.replicate d.exponent.toNat '0' ++ if keepsPoint then ['.', '0'] else []
  else
    let places := (-d.exponent).toNat
    let padded := List.replicate (places + 1 - d.digitChars.length) '0' ++ d.digitChars
    padded.take (padded.length - places) ++ '.' :: padded.drop (padded.length - places)

/-- The first digit, a point before the others if there are any, and the exponent after a mark. -/
def scientific (plusSign : Bool) (d : Decimal) : List Char :=
  let fraction := d.digitChars.drop 1
  let sign := if d.leadingExponent < 0 then ['-'] else if plusSign then ['+'] else []
  d.digitChars.take 1 ++ (if fraction.isEmpty then [] else '.' :: fraction) ++
    'e' :: sign ++ Nat.toDigits 10 d.leadingExponent.natAbs

/-- The decimal in the notation its size asks for. -/
def chars (layout : FloatLayout) (d : Decimal) : List Char :=
  if layout.isPositional d.leadingExponent then
    d.positional layout.keepsPoint
  else
    d.scientific layout.plusSign

end Decimal

/-- The text of a floating-point number; the sign of zero is kept, that of not-a-number is not. -/
def Binary.text {format : BinaryFormat} (layout : FloatLayout) (x : Binary format) : String :=
  let sign := if x.isNegative then "-" else ""
  match x.magnitude with
  | .notNumber => "NaN"
  | .infinite => sign ++ "inf"
  | .finite significand exponent closeBelow =>
    sign ++ String.ofList
      ((Decimal.ofFinite layout.tie significand exponent closeBelow).chars layout)

end SqlStatement
