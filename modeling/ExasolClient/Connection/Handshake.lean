-- SUMMARY: From a configuration to an established session.
import ExasolClient.Connection.Exchange

/-!
# Handshake

The server answers the first message with its key; the second message carries the
password encrypted with it, and the answer to that establishes the session. A
failure closes the transport.
-/

namespace ExasolClient

/-- What the machine on which the client runs contributes to a handshake. -/
structure ClientHost where
  /-- The name of the operating system. -/
  os : String
  /-- The account under which the client runs. -/
  user : String
  /-- The bytes with which the password is padded. -/
  filler : Crypto.Filler
  /-- What the library that reads armoured keys says of one that it does not accept. -/
  describePem : Crypto.PemFault → String

/-- The name of the driver. -/
def driverName : String := s!"exaws v{clientVersion}"

/-- The name of what the client runs on. -/
def clientRuntime : String := "Rust"

namespace Connection

variable [Transport σ]

/-- A fault of a step of the handshake. -/
def handshakeFault (kind : ConnectionKind) (step : String) (fault : Fault) : Fault :=
  .connection kind s!"{step}: {fault.message}" (some fault)

/-- The credentials of a configuration, with the encrypted password. -/
def credentials (host : ClientHost) (config : Config) (password : String) : Credentials where
  user := config.user
  password := password
  useCompression := false
  clientName := config.clientName
  driverName := driverName
  clientOs := host.os
  clientOsUser := host.user
  clientVersion := config.clientVersion
  clientRuntime := clientRuntime
  attributes := { autocommit := some true, queryTimeout := config.queryTimeoutSeconds }

/-- The session that the server establishes; zero is no session. -/
def requestSession (credentials : Credentials) : Action σ SessionInfo := do
  let session ← ask SessionInfo (.authenticate credentials)
  if session.sessionId = 0 then throw (.protocolError .noSessionId)
  return session

/-- Establish a session on a transport that is connected. -/
def authenticate (host : ClientHost) : Action σ Unit := do
  let config := (← get).config
  let key ← (ask Crypto.OfferedKey (.login protocolVersion)).mapFault
    (handshakeFault .login "Login request failed")
  match key.encrypt host.filler config.password with
  | .error fault =>
    throw (.connection .login s!"Unable to encrypt password: {fault.message host.describePem}" none)
  | .ok password =>
    let session ← (requestSession (credentials host config password)).mapFault
      (handshakeFault .authentication "Authentication failed")
    setCompression false
    note (.sessionEstablished session.sessionId session.databaseName session.releaseVersion)
    modify fun c => { c with session := session }

/--
Encryption is not available, so a mode that needs it is refused. This is the build without the
feature for encryption; what the other build does is not modelled.
-/
def checkTls (mode : TlsMode) : Except Fault Unit :=
  if mode.isEnabled then .error (.config (.tlsUnavailable mode)) else .ok ()

/-- Connect the transport and establish a session on it. -/
def establish (host : ClientHost) : Action σ Unit := do
  let config := (← get).config
  Action.within "Unable to connect to Exasol" do
    Action.ofExcept (checkTls config.tlsMode)
    note (.connecting config.endpoint config.user)
    openTransport
  modify fun c => { c with isOpen := true }
  match ← Action.ofQuiet (authenticate host).attempt with
  | .ok () => return
  | .error fault =>
    Action.ofQuiet close
    throw (.context "Unable to login to Exasol" fault)

/-- Connect over a transport, and what became of it. -/
def connect (host : ClientHost) (config : Config) (peer : σ) (cancelled : Bool) :
    Except Fault Unit × Connection σ :=
  (establish host).attempt.run { config := config, peer := peer, isCancelled := cancelled }

end Connection
end ExasolClient
