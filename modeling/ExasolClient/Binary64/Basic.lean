-- SUMMARY: Numbers of the format binary64 by their bits, and the rounding of a ratio to the nearest.

/-!
# Binary64

A number of the IEEE 754 format binary64 is kept as its 64 bits. A finite number
is `significand · 2 ^ exponent`, with its sign aside. A ratio of naturals is
rounded to the nearest such number, a tie going to the even significand and
whatever lies beyond the largest one to infinity. All of it is arithmetic on
naturals.
-/

namespace ExasolClient

/-- A number of the IEEE 754 format binary64, by its bits. -/
structure Binary64 where
  bits : UInt64
  deriving DecidableEq, Repr, Inhabited

namespace Binary64

-- ---------------------------------------------------------------------------
-- The parts of a number
-- ---------------------------------------------------------------------------

/-- The sign bit is set. -/
def isNegative (x : Binary64) : Bool :=
  1 <<< 63 ≤ x.bits.toNat

/-- The biased exponent: eleven bits. -/
def exponentField (x : Binary64) : Nat :=
  (x.bits.toNat >>> 52) % (1 <<< 11)

/-- The bits below the exponent: fifty-two of them. -/
def fractionField (x : Binary64) : Nat :=
  x.bits.toNat % (1 <<< 52)

def isNaN (x : Binary64) : Bool :=
  x.exponentField == 2047 && x.fractionField != 0

/-- The whole number which, times a power of two, is the magnitude of a finite number. -/
def significand (x : Binary64) : Nat :=
  if x.exponentField = 0 then x.fractionField else (1 <<< 52) + x.fractionField

/-- The power of two that goes with `significand`. -/
def exponent (x : Binary64) : Int :=
  (max x.exponentField 1 : Nat) - 1075

-- ---------------------------------------------------------------------------
-- Rounding
-- ---------------------------------------------------------------------------

/-- The bits of positive infinity, which are those after the largest finite number. -/
def infinityBits : Nat := 2047 <<< 52

/-- The number with this sign whose other bits are `magnitude`. -/
def ofMagnitude (negative : Bool) (magnitude : Nat) : Binary64 :=
  ⟨UInt64.ofNat (if negative then (1 <<< 63) + magnitude else magnitude)⟩

/-- `a / b` to the nearest whole number, a tie going to the even one. -/
def roundDiv (a b : Nat) : Nat :=
  let q := a / b
  let r := a % b
  if 2 * r < b then q
  else if b < 2 * r then q + 1
  else q + q % 2

/-- `num / (den · 2 ^ q)` to the nearest whole number. -/
def roundScaled (num den : Nat) (q : Int) : Nat :=
  roundDiv (num <<< (-q).toNat) (den <<< q.toNat)

/-- The `e` with `2 ^ e ≤ num / den < 2 ^ (e + 1)`, for positive `num` and `den`. -/
def floorLog2 (num den : Nat) : Int :=
  let e : Int := (num.log2 : Int) - (den.log2 : Int)
  if den <<< e.toNat ≤ num <<< (-e).toNat then e else e - 1

/--
The bits, sign aside, of the number nearest to `num / den`. The bits of
`m · 2 ^ q` are `(q + 1074) · 2 ^ 52 + m`, both below and above the smallest
normal number and also when rounding carried into the next power of two.
-/
def nearestMagnitude (num den : Nat) : Nat :=
  if num = 0 then 0
  else
    let q := max (floorLog2 num den - 52) (-1074)
    min infinityBits (((q + 1074).toNat <<< 52) + roundScaled num den q)

/-- The number nearest to `± num / den`. -/
def ofRatio (negative : Bool) (num den : Nat) : Binary64 :=
  ofMagnitude negative (nearestMagnitude num den)

/--
The number nearest to `± m · 10 ^ e`. Beyond the two bounds the answer is known
without computing the power: `10 ^ 310` is above every finite number, and what is
below `10 ^ (-345)` rounds to zero.
-/
def ofDecimal (negative : Bool) (m : Nat) (e : Int) : Binary64 :=
  if m = 0 then ofMagnitude negative 0
  else if 310 < e then ofMagnitude negative infinityBits
  else if e + m.log2 + 1 < -345 then ofMagnitude negative 0
  else ofRatio negative (m * Nat.pow 10 e.toNat) (Nat.pow 10 (-e).toNat)

/-- The number nearest to a whole number. -/
def ofInt (n : Int) : Binary64 :=
  ofRatio (n < 0) n.natAbs 1

end Binary64
end ExasolClient
