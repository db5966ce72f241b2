-- SUMMARY: The state of a connection, and the steps that every operation is made of.
import ExasolClient.Journal
import ExasolClient.Statement.Cache
import ExasolClient.Transport

/-!
# Connections

A connection is its transport together with what the client knows of the session.
An operation is a function of the state that may fail; one that cannot fail is
`Quiet`. Whatever an operation does to the transport, and whatever it logs, stands
in the journal afterwards.
-/

namespace ExasolClient

/-- The state of a connection. -/
structure Connection (σ : Type) where
  config : Config
  /-- What the server said about the session; nothing before the handshake is over. -/
  session : SessionInfo := {}
  /-- The state of the transport. -/
  peer : σ
  isOpen : Bool := false
  isCancelled : Bool := false
  /-- The session attributes as the server last reported them. -/
  attributes : Attributes := .empty
  statements : StatementCache := .empty
  journal : Array Event := #[]

/-- An operation on a connection that cannot fail. -/
abbrev Quiet (σ : Type) := StateM (Connection σ)

/-- An operation on a connection that may fail. -/
abbrev Action (σ : Type) := ExceptT Fault (Quiet σ)

namespace Action

/-- The outcome of an operation, in which a failure is no failure any more. -/
def attempt (action : Action σ α) : Quiet σ (Except Fault α) := action.run

/-- A computed outcome as an operation. -/
def ofExcept (result : Except Fault α) : Action σ α := ExceptT.mk (pure result)

/-- An operation that cannot fail as one that may. -/
def ofQuiet (action : Quiet σ α) : Action σ α := ExceptT.lift action

/-- The operation with its faults changed. -/
def mapFault (f : Fault → Fault) (action : Action σ α) : Action σ α :=
  ExceptT.mk ((·.mapError f) <$> action.run)

/-- The operation with its faults put into the context of a public operation. -/
def within (operation : String) (action : Action σ α) : Action σ α :=
  action.mapFault (.context operation)

end Action

namespace Connection

/-- Add an entry to the journal. -/
def record (event : Event) : Quiet σ Unit :=
  modify fun c => { c with journal := c.journal.push event }

/-- Log a notice. -/
def log (notice : Notice) : Quiet σ Unit := record (.logged notice)

/-- Log a notice on the way of an operation that may fail. -/
def note (notice : Notice) : Action σ Unit := .ofQuiet (log notice)

/-- The fault of an outcome. -/
def fault? : Except Fault α → Option Fault
  | .ok _ => none
  | .error fault => some fault

/-- Take over the state of the transport, and the news of a cancellation, from a call of it. -/
def absorb (outcome : Outcome σ α) (event : Except Fault α → Event) : Action σ α := do
  modify fun c => { c with
    peer := outcome.next
    isCancelled := c.isCancelled || outcome.cancels
    journal := c.journal.push (event outcome.result) }
  Action.ofExcept outcome.result

variable [Transport σ]

/-- Connect the transport. -/
def openTransport : Action σ Unit := do
  let c ← get
  let endpoint := c.config.endpoint
  let timeout := c.config.connectTimeout
  absorb (Transport.connect endpoint c.config.tlsMode timeout c.peer) fun result =>
    .connected endpoint c.config.tlsMode timeout (fault? result)

/-- Hand a request to the transport. -/
def write (request : Request) : Action σ Unit := do
  absorb (Transport.write request.encode (← get).peer) fun result =>
    .wrote request (fault? result)

/-- Ask the transport for a message. -/
def read : Action σ Json := do
  absorb (Transport.read (← get).peer) .read

/-- Tell the transport whether to compress messages. -/
def setCompression (enabled : Bool) : Action σ Unit :=
  modify fun c => { c with
    peer := Transport.setCompression enabled c.peer
    journal := c.journal.push (.compression enabled) }

/-- Close the transport, if it is not closed yet; nothing is sent from then on. -/
def close : Quiet σ Unit :=
  modify fun c =>
    if c.isOpen then
      { c with
        peer := Transport.close c.peer
        isOpen := false
        journal := c.journal.push .closed }
    else c

end Connection
end ExasolClient
