-- SUMMARY: How a connection is protected, and the words for it.
import ExasolClient.Text.Split

/-!
# Protection of the connection

A connection runs in the clear, encrypted, or encrypted to a server whose
certificate was verified. A connection string has several words for each, in
letters of either case.
-/

namespace ExasolClient

/-- How a connection is protected. -/
inductive TlsMode where
  /-- In the clear. -/
  | disable
  /-- Encrypted, to any server. -/
  | require
  /-- Encrypted, to a server whose certificate was verified. -/
  | verifyCa
  deriving DecidableEq, Repr, Inhabited

namespace TlsMode

def isEnabled : TlsMode → Bool
  | .disable => false
  | .require | .verifyCa => true

def verifiesCertificate : TlsMode → Bool
  | .verifyCa => true
  | .disable | .require => false

/-- The name of a mode in descriptions. -/
def name : TlsMode → String
  | .disable => "Disable"
  | .require => "Require"
  | .verifyCa => "VerifyCa"

/-- The words for a mode, the usual one first. -/
def words : TlsMode → List String
  | .disable => ["disable", "false", "off"]
  | .require => ["require", "true", "on"]
  | .verifyCa => ["verify-ca", "verify_ca"]

/-- The mode a word of a connection string stands for. -/
def ofWord? (word : List Char) : Option TlsMode :=
  [.disable, .require, .verifyCa].find? fun mode =>
    mode.words.any fun w => w.toList = Text.toLower word

end TlsMode
end ExasolClient
