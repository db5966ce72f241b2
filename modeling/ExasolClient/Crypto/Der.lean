-- SUMMARY: Public keys in the distinguished encoding (DER), bare and with their algorithm.
import ExasolClient.Crypto.Bytes

/-!
# Encoded keys

An element is a tag, a length and as many bytes as the length says; a length is
written in the fewest bytes. A bare key is a sequence of two integers; a key with
its algorithm is a sequence of the algorithm's name and the bare key as a string
of bits.
-/

namespace ExasolClient.Crypto.Der

/-- The tags of the elements that occur in a key. -/
def integerTag : UInt8 := 0x02
def bitStringTag : UInt8 := 0x03
def nullTag : UInt8 := 0x05
def objectIdTag : UInt8 := 0x06
def sequenceTag : UInt8 := 0x30

/-- A length, and what follows it: one byte below 128, else the number of its bytes and those. -/
def readLength : List UInt8 → Option (Nat × List UInt8)
  | [] => none
  | b :: rest =>
    if b.toNat < 0x80 then some (b.toNat, rest)
    else
      let count := b.toNat - 0x80
      let length := ofBytes (rest.take count)
      if 1 ≤ count ∧ count ≤ 4 ∧ count ≤ rest.length ∧ 0x80 ≤ length ∧
          Nat.pow 256 (count - 1) ≤ length then
        some (length, rest.drop count)
      else none

/-- The content of the element with this tag, and what follows the element. -/
def readElement (tag : UInt8) : List UInt8 → Option (List UInt8 × List UInt8)
  | [] => none
  | t :: rest => do
    let (length, rest) ← readLength rest
    if t = tag ∧ length ≤ rest.length then some (rest.take length, rest.drop length) else none

/-- The content of an element with nothing behind it. -/
def readOnly (tag : UInt8) (bytes : List UInt8) : Option (List UInt8) :=
  match readElement tag bytes with
  | some (content, []) => some content
  | _ => none

/-- The number in an integer element: not negative, and without a superfluous zero in front. -/
def readUnsigned : List UInt8 → Option Nat
  | [] => none
  | [0] => some 0
  | 0 :: b :: rest => if 0x80 ≤ b.toNat then some (ofBytes (b :: rest)) else none
  | b :: rest => if b.toNat < 0x80 then some (ofBytes (b :: rest)) else none

/-- The modulus and the exponent of a bare key. -/
def readBareKey (bytes : List UInt8) : Option (Nat × Nat) := do
  let content ← readOnly sequenceTag bytes
  let (modulus, rest) ← readElement integerTag content
  let exponent ← readOnly integerTag rest
  return (← readUnsigned modulus, ← readUnsigned exponent)

/-- The name of RSA encryption, 1.2.840.113549.1.1.1. -/
def rsaObjectId : List UInt8 := [0x2A, 0x86, 0x48, 0x86, 0xF7, 0x0D, 0x01, 0x01, 0x01]

/-- The modulus and the exponent of a key with its algorithm, which must be RSA. -/
def readKey (bytes : List UInt8) : Option (Nat × Nat) := do
  let content ← readOnly sequenceTag bytes
  let (algorithm, rest) ← readElement sequenceTag content
  let (name, parameters) ← readElement objectIdTag algorithm
  if name = rsaObjectId ∧ parameters = [nullTag, 0] then
    match ← readOnly bitStringTag rest with
    | 0 :: key => readBareKey key
    | _ => none
  else none

end ExasolClient.Crypto.Der
