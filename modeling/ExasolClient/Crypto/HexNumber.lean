-- SUMMARY: Numbers in base sixteen, as a server spells the parts of its key.
import ExasolClient.Text.Blank
import ExasolClient.Text.Split

/-!
# Hexadecimal numbers

The parts of a key arrive as hexadecimal digits of either case. Blanks around
them, a leading `0x`, a plus sign in front and underscores between the digits do
not count; there must be a digit, and it stands before any underscore.
-/

namespace ExasolClient.Crypto

/-- The value of a hexadecimal digit of either case. -/
def hexDigitValue? (c : Char) : Option Nat :=
  if '0' ≤ c ∧ c ≤ '9' then some (c.toNat - '0'.toNat)
  else if 'a' ≤ c ∧ c ≤ 'f' then some (c.toNat - 'a'.toNat + 10)
  else if 'A' ≤ c ∧ c ≤ 'F' then some (c.toNat - 'A'.toNat + 10)
  else none

/-- The number whose digits, after those of `acc`, the text holds. -/
def hexDigitsValue? (acc : Nat) : List Char → Option Nat
  | [] => some acc
  | '_' :: cs => hexDigitsValue? acc cs
  | c :: cs => (hexDigitValue? c).bind fun d => hexDigitsValue? (16 * acc + d) cs

/-- The number of a text that is neither empty nor starts with an underscore. -/
def readHexDigits : List Char → Option Nat
  | [] => none
  | '_' :: _ => none
  | cs => hexDigitsValue? 0 cs

/-- The text without a leading `0x` or `0X`. -/
def withoutHexMark : List Char → List Char
  | '0' :: 'x' :: cs => cs
  | '0' :: 'X' :: cs => cs
  | cs => cs

/-- The text without a leading plus sign. -/
def withoutPlus : List Char → List Char
  | '+' :: cs => cs
  | cs => cs

/-- The number that a text stands for. -/
def readHex (cs : List Char) : Option Nat :=
  readHexDigits (withoutPlus (withoutHexMark (Text.trim cs)))

end ExasolClient.Crypto
