-- SUMMARY: Lengths of time in milliseconds, and their texts.
import ExasolClient.Text.Numeral

/-!
# Durations

Time limits are given in milliseconds. A server counts whole seconds, so what is
left of a second is dropped on the way.
-/

namespace ExasolClient

/-- A length of time. -/
structure Duration where
  millis : UInt64
  deriving DecidableEq, Repr, Inhabited

namespace Duration

def ofSeconds (seconds : UInt64) : Duration := ⟨1000 * seconds⟩

/-- The seconds that have passed in full. -/
def wholeSeconds (d : Duration) : UInt64 := d.millis / 1000

/-- A number below a thousand as three digits without the zeros at their end. -/
def fraction (millis : Nat) : List Char :=
  let digits := Text.writeNat millis
  let padded := List.replicate (3 - digits.length) '0' ++ digits
  (padded.reverse.dropWhile (· = '0')).reverse

/-- The text of a length of time: in seconds from one second on, else in milliseconds. -/
def text (d : Duration) : String :=
  let millis := d.millis.toNat
  let seconds := Text.writeNat (millis / 1000)
  if millis = 0 then "0ns"
  else if millis < 1000 then String.ofList (Text.writeNat millis) ++ "ms"
  else if millis % 1000 = 0 then String.ofList seconds ++ "s"
  else String.ofList (seconds ++ '.' :: fraction (millis % 1000)) ++ "s"

end Duration
end ExasolClient
