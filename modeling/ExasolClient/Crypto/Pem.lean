-- SUMMARY: Public keys as armoured text (PEM).
import ExasolClient.Crypto.Base64
import ExasolClient.Crypto.Der
import ExasolClient.Text.Split

/-!
# Armoured keys

    -----BEGIN PUBLIC KEY-----
    base64, sixty-four characters a line
    -----END PUBLIC KEY-----

Text may stand in front of the first line, but nothing behind the last one, and
both name the same label. The label says how the key is encoded. A blank line may
follow the base64, and two may follow a full line. The second of two counts as the
last line of base64, and padding stands in the last line only.
-/

namespace ExasolClient.Crypto.Pem

/-- How the first line starts. -/
def openingMark : List Char := "-----BEGIN ".toList

/-- How the last line starts. -/
def closingMark : List Char := "-----END ".toList

/-- How both end. -/
def endMark : List Char := "-----".toList

/-- The characters of every line but the last one. -/
def lineWidth : Nat := 64

/-- What stands behind the first line that starts with the opening mark. -/
def afterOpening (atLineStart : Bool) : List Char → Option (List Char)
  | [] => none
  | c :: cs =>
    match if atLineStart then Text.afterLead openingMark (c :: cs) else none with
    | some rest => some rest
    | none => if c.toNat = 0 then none else afterOpening (c = '\n') cs

/-- The text behind one line end. -/
def afterLineEnd : List Char → Option (List Char)
  | '\r' :: '\n' :: cs => some cs
  | '\r' :: cs => some cs
  | '\n' :: cs => some cs
  | _ => none

/-- The text before the line end with which it closes. -/
def beforeLineEnd (cs : List Char) : Option (List Char) :=
  match cs.reverse with
  | '\n' :: '\r' :: rest => some rest.reverse
  | '\n' :: rest => some rest.reverse
  | '\r' :: rest => some rest.reverse
  | _ => none

/-- The text before the words with which it closes. -/
def beforeWords (words cs : List Char) : Option (List Char) :=
  (Text.afterLead words.reverse cs.reverse).map List.reverse

/--
The lines of base64. Every line but the last one is full and ends in a line end, which the last
one may have too.
-/
def linesOf (text : List Char) : Option (List (List Char)) :=
  go text.length text
where
  go : Nat → List Char → Option (List (List Char))
    | 0, _ => some []
    | _ + 1, [] => some []
    | fuel + 1, cs =>
      match cs.drop lineWidth with
      | [] => some [(beforeLineEnd cs).getD cs]
      | rest => do return cs.take lineWidth :: (← go fuel (← afterLineEnd rest))

/-- The bytes of lines of base64, which are padded in the last line if at all. -/
def decodeLines (lines : List (List Char)) : Option (List UInt8) :=
  if lines.dropLast.any ('=' ∈ ·) then none else Base64.decode lines.flatten

/-- The label of an armoured text and the bytes in it. -/
def read (cs : List Char) : Option (List Char × List UInt8) := do
  let rest ← afterOpening true cs
  let label := rest.takeWhile (· ≠ '-')
  let body ← afterLineEnd (← Text.afterLead endMark (rest.drop label.length))
  let body ← beforeWords endMark ((beforeLineEnd body).getD body)
  let text ← beforeLineEnd (← beforeWords closingMark (← beforeWords label body))
  if text.isEmpty then none
  else return (label, ← decodeLines (← linesOf text))

/-- The modulus and the exponent of an armoured key. -/
def readKey (cs : List Char) : Option (Nat × Nat) := do
  let (label, bytes) ← read cs
  if label = "PUBLIC KEY".toList then Der.readKey bytes
  else if label = "RSA PUBLIC KEY".toList then Der.readBareKey bytes
  else none

end ExasolClient.Crypto.Pem
