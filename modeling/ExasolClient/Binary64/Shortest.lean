-- SUMMARY: The shortest decimal that reads back as a given number, and its layout as a text.
import ExasolClient.Binary64.Basic
import ExasolClient.Text.Numeral

/-!
# Shortest decimals

Every finite number has decimals that round to it; the shortest of them, and of
two equally short ones the nearer, is the number's decimal. The search goes
through the grids of one, two, ... seventeen digits: a grid that has a point
among the numbers that round to `x` has one next to `x`, so the two neighbours
of `x` on each grid are all there is to try. A `Layout` says how the digits are
set out as a text.
-/

namespace ExasolClient.Binary64

open Text (writeNat writeInt)

-- ---------------------------------------------------------------------------
-- Digits
-- ---------------------------------------------------------------------------

/-- The number `digits · 10 ^ exponent`. -/
structure Decimal where
  digits : Nat
  exponent : Int
  deriving DecidableEq, Repr, Inhabited

/-- The same number with no zero at the end of its digits. -/
def Decimal.normalise (d : Decimal) : Nat → Decimal
  | 0 => d
  | fuel + 1 =>
    if d.digits ≠ 0 ∧ d.digits % 10 = 0 then
      Decimal.normalise ⟨d.digits / 10, d.exponent + 1⟩ fuel
    else d

/-- The `e` with `10 ^ e ≤ num / den < 10 ^ (e + 1)`, for positive `num` and `den`. -/
def floorLog10 (num den : Nat) : Int :=
  if den ≤ num then ((writeNat (num / den)).length : Int) - 1
  else
    let d := (writeNat (den / num)).length
    if den = num * Nat.pow 10 (d - 1) then 1 - (d : Int) else -(d : Int)

/--
The neighbour of `m · 2 ^ q` on the grid of the multiples of `10 ^ k` that rounds
to it, or `none` when neither neighbour does. All is counted in quarters of
`2 ^ q`: the numbers that round to `m · 2 ^ q` reach two quarters up and two
down, but one down when the next smaller number is only half as far; the ends
belong to them when `m` is even.
-/
def onGrid (m : Nat) (q k : Int) : Option Decimal :=
  let step := Nat.pow 10 k.toNat <<< (2 - q).toNat
  let unit := Nat.pow 10 (-k).toNat <<< (q - 2).toNat
  let value := 4 * m * unit
  let below := if m = 1 <<< 52 ∧ -1074 < q then unit else 2 * unit
  let slack := if m % 2 = 0 then 1 else 0
  let low := value / step
  let high := low + 1
  let lowFits := value < low * step + below + slack
  let highFits := high * step < value + 2 * unit + slack
  let nearer := if 2 * value < (low + high) * step then low
    else if (low + high) * step < 2 * value then high
    else low + low % 2
  if lowFits ∧ highFits then some ⟨nearer, k⟩
  else if lowFits then some ⟨low, k⟩
  else if highFits then some ⟨high, k⟩
  else none

/-- The shortest decimal of a finite number other than zero, its sign aside. -/
def shortest (x : Binary64) : Decimal :=
  let m := x.significand
  let q := x.exponent
  let top := floorLog10 (m <<< q.toNat) (1 <<< (-q).toNat)
  let found := (List.range 17).findSome? fun (n : Nat) => onGrid m q (top - n)
  (found.getD ⟨m <<< q.toNat, 0⟩).normalise 17

-- ---------------------------------------------------------------------------
-- Layout
-- ---------------------------------------------------------------------------

/-- How the digits of a number are set out as a text. -/
structure Layout where
  /-- The least exponent of the leading digit that is written positionally. -/
  leastPositional : Int
  /-- The first exponent of the leading digit that is no longer written positionally. -/
  firstScientific : Int
  /-- What follows the digits of a whole number. -/
  wholeTail : List Char
  /-- The sign of an exponent that is not negative. -/
  plusSign : List Char
  /-- The text of a NaN. -/
  nan : List Char
  /-- The text of infinity, its sign aside. -/
  infinity : List Char

/-- The digits of a number set out positionally: the point goes where the exponent says. -/
def Layout.positional (l : Layout) (digits : List Char) (exponent : Int) : List Char :=
  let whole := (digits.length : Int) + exponent
  if 0 ≤ exponent then digits ++ List.replicate exponent.toNat '0' ++ l.wholeTail
  else if 0 < whole then digits.take whole.toNat ++ '.' :: digits.drop whole.toNat
  else '0' :: '.' :: List.replicate (-whole).toNat '0' ++ digits

/-- The digits of a number with a point after the first and the exponent behind them. -/
def Layout.scientific (l : Layout) (digits : List Char) (lead : Int) : List Char :=
  let point := if digits.length ≤ 1 then digits else digits.take 1 ++ '.' :: digits.drop 1
  point ++ 'e' :: (if 0 ≤ lead then l.plusSign else []) ++ writeInt lead

/-- The magnitude of a number as a text. -/
def Layout.magnitude (l : Layout) (x : Binary64) : List Char :=
  if x.significand = 0 then '0' :: l.wholeTail
  else
    let d := x.shortest
    let digits := writeNat d.digits
    let lead := d.exponent + digits.length - 1
    if l.leastPositional ≤ lead ∧ lead < l.firstScientific then l.positional digits d.exponent
    else l.scientific digits lead

/-- A number as a text. -/
def Layout.write (l : Layout) (x : Binary64) : List Char :=
  if x.isNaN then l.nan
  else
    let sign := if x.isNegative then ['-'] else []
    if x.exponentField = 2047 then sign ++ l.infinity else sign ++ l.magnitude x

end ExasolClient.Binary64
