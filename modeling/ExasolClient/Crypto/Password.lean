-- SUMMARY: The key that a server offers, and the encryption of a password with it.
import ExasolClient.Crypto.Base64
import ExasolClient.Crypto.HexNumber
import ExasolClient.Crypto.Pem
import ExasolClient.Crypto.RsaKey
import ExasolClient.Text.Quoted

/-!
# Passwords

A server offers its key as two hexadecimal numbers, and often once more as an
armoured text. The numbers decide; the armoured text counts only when they are no
key. The password travels encrypted, in base64.
-/

namespace ExasolClient.Crypto

/-- A key as a server spells it. -/
structure OfferedKey where
  /-- The key as an armoured text. -/
  pem : Option String
  /-- The modulus in base sixteen. -/
  modulus : String
  /-- The exponent in base sixteen. -/
  exponent : String
  deriving DecidableEq, Repr, Inhabited

/-- Why the two numbers of an offered key are no key. -/
inductive NumberFault where
  | modulus (text : String)
  | exponent (text : String)
  | key (cause : KeyFault)
  deriving DecidableEq, Repr

/-- Why an armoured text is no key. -/
inductive PemFault where
  /-- There are no two numbers in it. -/
  | unreadable
  | key (cause : KeyFault)
  deriving DecidableEq, Repr

/-- Why a password could not be encrypted. -/
inductive PasswordFault where
  | numbers (cause : NumberFault)
  /-- The armoured text is no key either. -/
  | numbersAndPem (cause : NumberFault) (pem : PemFault)
  | tooLong
  deriving DecidableEq, Repr

def NumberFault.message : NumberFault → String
  | .modulus text => "Invalid public key modulus: " ++ Text.quoted text
  | .exponent text => "Invalid public key exponent: " ++ Text.quoted text
  | .key cause => "Invalid RSA public key: " ++ cause.message

/-- In words. Those about an armoured text are the words of whoever reads such texts. -/
def PasswordFault.message (describe : PemFault → String) : PasswordFault → String
  | .numbers cause => cause.message
  | .numbersAndPem cause pem =>
    cause.message ++ "; Failed to parse RSA public key PEM: " ++ describe pem
  | .tooLong => "RSA PKCS1v1.5 encryption failed: message too long"

namespace OfferedKey

/-- The key of the two numbers. -/
def ofNumbers (offer : OfferedKey) : Except NumberFault RsaKey :=
  match readHex offer.modulus.toList, readHex offer.exponent.toList with
  | none, _ => .error (.modulus offer.modulus)
  | some _, none => .error (.exponent offer.exponent)
  | some n, some e => (RsaKey.ofNumbers n e).mapError .key

/-- The key of an armoured text. -/
def ofPem (pem : String) : Except PemFault RsaKey :=
  match Pem.readKey pem.toList with
  | some (n, e) => (RsaKey.ofNumbers n e).mapError .key
  | none => .error .unreadable

/-- The key that is offered. -/
def key (offer : OfferedKey) : Except PasswordFault RsaKey :=
  match offer.ofNumbers, offer.pem with
  | .ok key, _ => .ok key
  | .error cause, none => .error (.numbers cause)
  | .error cause, some pem =>
    match ofPem pem with
    | .ok key => .ok key
    | .error fault => .error (.numbersAndPem cause fault)

/-- The password encrypted with the offered key, in base64. -/
def encrypt (offer : OfferedKey) (filler : Filler) (password : String) :
    Except PasswordFault String := do
  match (← offer.key).encrypt filler password.toUTF8.data.toList with
  | some cipher => return String.ofList (Base64.encode cipher)
  | none => .error .tooLong

end OfferedKey

end ExasolClient.Crypto
