-- SUMMARY: What a connection needs of the transport under it.
import ExasolClient.Config.Basic
import ExasolClient.Fault

/-!
# Transports

A transport moves one JSON message at a time. It is the far end of the connection
as well: its state holds whatever the server will answer. So every law about a
connection that holds for all transports holds for all servers.
-/

namespace ExasolClient

/-- What came of a call of a transport. -/
structure Outcome (σ α : Type) where
  result : Except Fault α
  /-- The state of the transport from then on. -/
  next : σ
  /-- The connection was cancelled while the call lasted. -/
  cancels : Bool := false

/-- A transport whose states are of type `σ`. -/
class Transport (σ : Type) where
  connect (endpoint : String) (mode : TlsMode) (timeout : Duration) : σ → Outcome σ Unit
  /-- Note whether messages are to be compressed. -/
  setCompression (enabled : Bool) : σ → σ
  write (message : Json) : σ → Outcome σ Unit
  read : σ → Outcome σ Json
  close : σ → σ

end ExasolClient
