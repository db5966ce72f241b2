-- SUMMARY: Reading a number of the format binary64 from a text.
import ExasolClient.Binary64.Basic
import ExasolClient.Text.Numeral
import ExasolClient.Text.Split

/-!
# Reading binary64

A text is a number when it is, after at most one sign, one of the words `inf`,
`infinity` and `nan` in letters of either case, or digits with at most one point
among, before or behind them and at most one exponent at the end. The value is
the nearest number of the format.
-/

namespace ExasolClient.Binary64

open Text (digitValue? digitsValue? readInt toLower)

/-- The digits a text starts with, and what follows them. -/
def spanDigits (cs : List Char) : List Char × List Char :=
  cs.span fun c => (digitValue? c).isSome

/-- An exponent: nothing at all, or `e` or `E` with an integer behind it. -/
def readExponent : List Char → Option Int
  | [] => some 0
  | c :: cs => if c = 'e' ∨ c = 'E' then readInt cs else none

/-- A number without a sign, written with digits. -/
def readDigitsAndPoint (negative : Bool) (cs : List Char) : Option Binary64 :=
  let (whole, rest) := spanDigits cs
  let (part, rest) := match rest with
    | '.' :: rest => spanDigits rest
    | _ => ([], rest)
  if whole.isEmpty && part.isEmpty then none
  else do
    let m ← digitsValue? 0 (whole ++ part)
    let e ← readExponent rest
    return ofDecimal negative m (e - part.length)

/-- The bits of the NaN that a text stands for, its sign aside. -/
def nanBits : Nat := infinityBits + (1 <<< 51)

/-- A number without a sign. -/
def readUnsigned (negative : Bool) (cs : List Char) : Option Binary64 :=
  let word := toLower cs
  if word = "inf".toList ∨ word = "infinity".toList then some (ofMagnitude negative infinityBits)
  else if word = "nan".toList then some (ofMagnitude negative nanBits)
  else readDigitsAndPoint negative cs

/-- The number a text stands for. -/
def read : List Char → Option Binary64
  | '+' :: cs => readUnsigned false cs
  | '-' :: cs => readUnsigned true cs
  | cs => readUnsigned false cs

end ExasolClient.Binary64
