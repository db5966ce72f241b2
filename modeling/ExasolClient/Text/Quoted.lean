-- SUMMARY: A text between double quotes, with the characters a reader could not see spelled out.
import ExasolClient.Text.Combining
import ExasolClient.Text.Unprintable

/-!
# Quoted text

The messages show a foreign text between double quotes. Five characters have an
escape of their own besides the quote and the backslash; a character that has no
printed form, or that would be drawn onto its neighbour, is shown by its number;
every other character stands for itself.
-/

namespace ExasolClient.Text

/-- The digits of a number in base sixteen, lower case and without leading zeros. -/
def hexDigits (n : Nat) : List Char :=
  Nat.toDigits 16 n

/-- The characters that show one character between quotes. -/
def escape (c : Char) : List Char :=
  if c = '"' then ['\\', '"']
  else if c = '\\' then ['\\', '\\']
  else if c = '\n' then ['\\', 'n']
  else if c = '\r' then ['\\', 'r']
  else if c = '\t' then ['\\', 't']
  else if c.toNat = 0 then ['\\', '0']
  else if isCombining c || isUnprintable c then
    ['\\', 'u', '\x7b'] ++ hexDigits c.toNat ++ ['\x7d']
  else [c]

/-- The text between double quotes, every character escaped as it must be. -/
def quoted (s : String) : String :=
  String.ofList ('"' :: s.toList.flatMap escape ++ ['"'])

end ExasolClient.Text
