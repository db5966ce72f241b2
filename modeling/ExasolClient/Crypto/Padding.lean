-- SUMMARY: The padding of a message to the length of a key (PKCS #1 v1.5, for encryption).

/-!
# Padding

Before it is encrypted a message is filled up to the length of the key: the bytes
0 and 2, at least eight bytes that are not zero, a zero, the message. The bytes in
between are drawn at random by the caller. Main statement: a message that is not too
long is filled up to just that length (`length_of_pad`).
-/

namespace ExasolClient.Crypto

/-- The bytes from which paddings are made. -/
structure Filler where
  byte : Nat → UInt8
  byte_ne_zero : ∀ i, byte i ≠ 0

/-- The fewest bytes between the two that start a padding and the one that ends it. -/
def leastFiller : Nat := 8

/-- The bytes that a padding takes at the least. -/
def paddingOverhead : Nat := leastFiller + 3

/-- The message filled up to `k` bytes, or `none` when it is too long for that. -/
def pad (filler : Filler) (k : Nat) (message : List UInt8) : Option (List UInt8) :=
  if message.length + paddingOverhead ≤ k then
    some (0 :: 2 :: (List.range (k - message.length - 3)).map filler.byte ++ 0 :: message)
  else none

/-- A padded message is as long as the key. -/
theorem length_of_pad {filler : Filler} {k : Nat} {message padded : List UInt8}
    (h : pad filler k message = some padded) : padded.length = k := by
  simp only [pad] at h
  split at h
  · rename_i hk
    cases h
    simp [paddingOverhead, leastFiller] at hk ⊢
    omega
  · cases h

end ExasolClient.Crypto
