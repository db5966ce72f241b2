-- SUMMARY: RSA keys for encryption: which pairs of numbers are accepted, and the encryption itself.
import ExasolClient.Crypto.Bytes
import ExasolClient.Crypto.Padding

/-!
# RSA

A public key is a modulus and an exponent. Not every pair is accepted: the modulus
is odd, greater than the exponent and of at most 4096 bits, the exponent is odd and
neither 1 nor beyond 33 bits. `ofNumbers_eq_ok_iff` states the accepted pairs.
-/

namespace ExasolClient.Crypto

/-- Why a pair of numbers is no key. -/
inductive KeyFault where
  | modulusTooLarge
  | exponentTooLarge
  | invalidModulus
  | invalidExponent
  | exponentTooSmall
  deriving DecidableEq, Repr

def KeyFault.message : KeyFault → String
  | .modulusTooLarge => "modulus too large"
  | .exponentTooLarge => "public exponent too large"
  | .invalidModulus => "invalid modulus"
  | .invalidExponent => "invalid exponent"
  | .exponentTooSmall => "public exponent too small"

/-- The bits of the longest modulus that is accepted. -/
def maxModulusBits : Nat := 4096

/-- The greatest exponent that is accepted. -/
def maxExponent : Nat := (1 <<< 33) - 1

/-- A public key. -/
structure RsaKey where
  modulus : Nat
  exponent : Nat
  deriving DecidableEq, Repr, Inhabited

namespace RsaKey

/-- The key of a pair of numbers. Of several faults of a pair the first one checked is reported. -/
def ofNumbers (n e : Nat) : Except KeyFault RsaKey :=
  if 1 <<< maxModulusBits ≤ n then .error .modulusTooLarge
  else if 1 <<< 64 ≤ e then .error .exponentTooLarge
  else if n ≤ e ∨ n % 2 = 0 then .error .invalidModulus
  else if e % 2 = 0 then .error .invalidExponent
  else if e < 2 then .error .exponentTooSmall
  else if maxExponent < e then .error .exponentTooLarge
  else .ok ⟨n, e⟩

theorem ofNumbers_eq_ok_iff {n e : Nat} {key : RsaKey} :
    ofNumbers n e = .ok key ↔
      key = ⟨n, e⟩ ∧ n < 1 <<< maxModulusBits ∧ e < n ∧ n % 2 = 1 ∧ e % 2 = 1 ∧
        2 ≤ e ∧ e ≤ maxExponent := by
  constructor
  · intro h
    unfold ofNumbers at h
    generalize 1 <<< maxModulusBits = bound at h ⊢
    unfold maxExponent at h ⊢
    split at h; · cases h
    split at h; · cases h
    split at h; · cases h
    split at h; · cases h
    split at h; · cases h
    split at h; · cases h
    cases h
    exact ⟨rfl, by omega⟩
  · rintro ⟨rfl, hn, hen, hodd, he, hlow, hhigh⟩
    unfold ofNumbers
    generalize 1 <<< maxModulusBits = bound at hn ⊢
    have : e < 1 <<< 64 := by unfold maxExponent at hhigh; omega
    rw [if_neg (by omega), if_neg (by omega), if_neg (by omega), if_neg (by omega),
      if_neg (by omega), if_neg (by omega)]

/-- The length of the key in bytes: that of its modulus. -/
def size (key : RsaKey) : Nat := byteLength key.modulus

/-- The message encrypted, as many bytes as the key has; `none` when it is too long. -/
def encrypt (key : RsaKey) (filler : Filler) (message : List UInt8) : Option (List UInt8) :=
  (pad filler key.size message).map fun padded =>
    toBytes key.size (powMod key.modulus (ofBytes padded) key.exponent)

end RsaKey

theorem RsaKey.length_of_encrypt {key : RsaKey} {filler : Filler} {message cipher : List UInt8}
    (h : key.encrypt filler message = some cipher) : cipher.length = key.size := by
  simp only [RsaKey.encrypt, Option.map_eq_some_iff] at h
  obtain ⟨padded, -, rfl⟩ := h
  simp

end ExasolClient.Crypto
