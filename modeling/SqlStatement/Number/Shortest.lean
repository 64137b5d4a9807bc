import SqlStatement.Number.Binary

/-!
# Shortest decimals

The decimals that a reader rounds to a given floating-point number fill an interval around it.  The
decimal to write is the one with the fewest digits in that interval and, among those, the nearest
to the number.

Everything is scaled to natural numbers first.  Half the gap to a neighbour is a whole number of
quarter units of the significand, and a negative power of two is a power of five over a power of
ten, so the number and both ends of its interval are natural multiples of one power of ten.

* `RoundingInterval.ofFinite` is that interval.
* `RoundingInterval.shortest` searches the grids of powers of ten, from the coarsest one that can
  matter down to the unit grid, on which the number itself lies.
-/

namespace SqlStatement

/-- The decimal `digits · 10 ^ exponent`. -/
structure Decimal where
  digits : Nat
  exponent : Int
deriving DecidableEq

/-- Which of two equally near neighbours is written. -/
inductive TieRule where
  | up
  | even
deriving DecidableEq

/--
The decimals that round to `center · 10 ^ exponent`: those from `low` to `high`, in the same unit,
with both ends or with neither.
-/
structure RoundingInterval where
  low : Nat
  center : Nat
  high : Nat
  endsIncluded : Bool
  exponent : Int
deriving DecidableEq

namespace RoundingInterval

/-- Whether `n` units lie in the interval. -/
def contains (interval : RoundingInterval) (n : Nat) : Bool :=
  if interval.endsIncluded then
    decide (interval.low ≤ n) && decide (n ≤ interval.high)
  else
    decide (interval.low < n) && decide (n < interval.high)

/--
The interval of `significand · 2 ^ exponent`.  Its ends lie half way to the neighbouring numbers,
and they round to the number exactly when the significand is even.
-/
def ofFinite (significand : Nat) (exponent : Int) (closeBelow : Bool) : RoundingInterval :=
  let scale := Nat.pow 2 (exponent - 2).toNat * Nat.pow 5 (2 - exponent).toNat
  { low := (4 * significand - if closeBelow then 1 else 2) * scale
    center := 4 * significand * scale
    high := (4 * significand + 2) * scale
    endsIncluded := significand % 2 == 0
    exponent := min (exponent - 2) 0 }

/--
Whether the multiple of `unit` below the centre is to be written rather than the one above it: it is
nearer, or it is as near and the rule for ties asks for it.
-/
def prefersBelow (interval : RoundingInterval) (tie : TieRule) (unit : Nat) : Bool :=
  let below := interval.center / unit
  let distanceBelow := interval.center - below * unit
  let distanceAbove := (below + 1) * unit - interval.center
  if distanceBelow = distanceAbove then
    match tie with
    | .up => false
    | .even => below % 2 == 0
  else
    decide (distanceBelow < distanceAbove)

/-- The distance between neighbours on the grid of a power of ten. -/
def gridUnit (power : Nat) : Nat :=
  Nat.pow 10 power

/--
The multiple of `10 ^ power` in the interval that is nearest to its centre, divided by
`10 ^ power`.  If the interval holds a multiple at all, it holds one of the two around the centre.
-/
def onGrid? (interval : RoundingInterval) (tie : TieRule) (power : Nat) : Option Nat :=
  let unit := gridUnit power
  let below := interval.center / unit
  match interval.contains (below * unit), interval.contains ((below + 1) * unit) with
  | true, true => some (if interval.prefersBelow tie unit then below else below + 1)
  | true, false => some below
  | false, true => some (below + 1)
  | false, false => none

/--
The first hit on the grids of `10 ^ power`, `10 ^ (power - 1)`, …, `10 ^ 0`.  The centre itself
lies on the last of them.
-/
def searchFrom (interval : RoundingInterval) (tie : TieRule) : Nat → Decimal
  | 0 => ⟨(interval.onGrid? tie 0).getD interval.center, interval.exponent⟩
  | power + 1 =>
    match interval.onGrid? tie (power + 1) with
    | some digits => ⟨digits, interval.exponent + (power + 1 : Nat)⟩
    | none => interval.searchFrom tie power

/--
The decimal with the fewest digits in the interval, the nearest to the centre of those.  A multiple
of a greater power of ten than the first one tried has more digits than the centre and lies far
above the interval, so nothing shorter is missed.
-/
def shortest (interval : RoundingInterval) (tie : TieRule) : Decimal :=
  interval.searchFrom tie (Nat.toDigits 10 interval.center).length

/-- A hit on a grid lies in the interval. -/
theorem contains_of_onGrid?
    {interval : RoundingInterval}
    {tie : TieRule}
    {power digits : Nat}
    (h : interval.onGrid? tie power = some digits) :
    interval.contains (digits * gridUnit power) = true := by
  unfold onGrid? at h
  cases below : interval.contains (interval.center / gridUnit power * gridUnit power) <;>
    cases above : interval.contains ((interval.center / gridUnit power + 1) * gridUnit power) <;>
    simp only [below, above, Option.some.injEq, reduceCtorEq] at h <;> subst h
  · exact above
  · exact below
  · split
    · exact below
    · exact above

/-- What the search finds lies in the interval if the centre does. -/
theorem contains_searchFrom
    {interval : RoundingInterval}
    (tie : TieRule)
    (h : interval.contains interval.center = true)
    (power : Nat) :
    ∃ p : Nat,
      (interval.searchFrom tie power).exponent = interval.exponent + p ∧
        interval.contains ((interval.searchFrom tie power).digits * gridUnit p) = true := by
  induction power with
  | zero =>
    refine ⟨0, by simp [searchFrom], ?_⟩
    cases hit : interval.onGrid? tie 0 with
    | none => simpa [searchFrom, hit, gridUnit] using h
    | some digits => simpa [searchFrom, hit] using contains_of_onGrid? hit
  | succ power ih =>
    cases hit : interval.onGrid? tie (power + 1) with
    | none => simpa [searchFrom, hit] using ih
    | some digits =>
      exact ⟨power + 1, by simp [searchFrom, hit], by
        simpa [searchFrom, hit] using contains_of_onGrid? hit⟩

end RoundingInterval

/-- The shortest decimal that reads back as `significand · 2 ^ exponent`. -/
def Decimal.ofFinite
    (tie : TieRule)
    (significand : Nat)
    (exponent : Int)
    (closeBelow : Bool) :
    Decimal :=
  if significand = 0 then
    ⟨0, 0⟩
  else
    (RoundingInterval.ofFinite significand exponent closeBelow).shortest tie

end SqlStatement
