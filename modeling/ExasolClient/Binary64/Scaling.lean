-- SUMMARY: Products and quotients of numbers of the format binary64, and scaling by powers of ten.
import ExasolClient.Binary64.Basic

/-!
# Scaling

The product and the quotient of two finite numbers are exact ratios of naturals,
rounded once. A number is scaled by `10 ^ e` with one of them, the other operand
being the number nearest to that power; so the result may differ in its last
digits from the one nearest to the exact value. A power below the reach of the
format is taken in several steps, and what would lie beyond the largest finite
number has no result.
-/

namespace ExasolClient.Binary64

-- ---------------------------------------------------------------------------
-- Products and quotients
-- ---------------------------------------------------------------------------

def isFinite (x : Binary64) : Bool :=
  x.exponentField != 2047

/-- The number nearest to `x · y`, for finite `x` and `y`. -/
def mul (x y : Binary64) : Binary64 :=
  let q := x.exponent + y.exponent
  ofRatio (x.isNegative != y.isNegative)
    ((x.significand * y.significand) <<< q.toNat) (1 <<< (-q).toNat)

/-- The number nearest to `x / y`, for finite `x` and `y` of which `y` is not zero. -/
def div (x y : Binary64) : Binary64 :=
  let q := x.exponent - y.exponent
  ofRatio (x.isNegative != y.isNegative)
    (x.significand <<< q.toNat) (y.significand <<< (-q).toNat)

-- ---------------------------------------------------------------------------
-- Powers of ten
-- ---------------------------------------------------------------------------

/-- The exponent of the last power of ten among the finite numbers. -/
def lastTenPower : Nat := 308

/-- The number nearest to `10 ^ k`. -/
def tenTo (k : Nat) : Binary64 := ofDecimal false 1 k

/-- `x · 10 ^ k`, unless that lies beyond the finite numbers. -/
def timesTenTo? (x : Binary64) (k : Nat) : Option Binary64 :=
  if x.significand = 0 then some x
  else if lastTenPower < k then none
  else
    let y := x.mul (tenTo k)
    if y.isFinite then some y else none

/-- `x / 10 ^ k`, taken in steps of at most `10 ^ 308` and rounded after each of them. -/
def overTenTo (x : Binary64) (k : Nat) : Binary64 :=
  if k ≤ lastTenPower then x.div (tenTo k)
  else if x.significand = 0 then x
  else overTenTo (x.div (tenTo lastTenPower)) (k - lastTenPower)
termination_by k
decreasing_by simp only [lastTenPower] at *; omega

/-- `x · 10 ^ e`, unless that lies beyond the finite numbers. -/
def scaleTen? (x : Binary64) (e : Int) : Option Binary64 :=
  if 0 ≤ e then x.timesTenTo? e.toNat else some (x.overTenTo (-e).toNat)

end ExasolClient.Binary64
