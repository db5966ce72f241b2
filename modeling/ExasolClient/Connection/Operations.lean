-- SUMMARY: The operations that a connection offers.
import ExasolClient.Connection.Execute
import ExasolClient.Connection.Handshake
import ExasolClient.Stream.Producer

/-!
# Operations

What a caller can do with a connection. A fault of an operation names it. The
result set of a statement of which only the row count is wanted is released right
away; a query hands its result set over as a stream.
-/

namespace ExasolClient.Connection

variable [Transport σ]

-- ---------------------------------------------------------------------------
-- Session attributes
-- ---------------------------------------------------------------------------

/-- The session attributes, after asking the server for them. -/
def refreshAttributes : Action σ Attributes := do
  Action.within "Unable to get session attributes" (tell .getAttributes)
  return (← get).attributes

/-- Change the session attributes that are not open in `attributes`. -/
def changeAttributes (attributes : Attributes) : Action σ Unit :=
  Action.within "Unable to set session attributes" (tell (.setAttributes attributes))

/-- Switch automatic commits on or off. -/
def changeAutocommit (enabled : Bool) : Action σ Unit := do
  note (.changingAutocommit (← get).session.sessionId enabled)
  tell (.setAttributes { autocommit := some enabled })

def enableAutocommit : Action σ Unit :=
  Action.within "Unable to enable autocommit" (changeAutocommit true)

def disableAutocommit : Action σ Unit :=
  Action.within "Unable to disable autocommit" (changeAutocommit false)

/-- Limit the time that a query may take, in whole seconds; zero is no limit. -/
def setQueryTimeout (timeout : Duration) : Action σ Unit :=
  Action.within "Unable to set timeout"
    (tell (.setAttributes { queryTimeout := some timeout.wholeSeconds }))

-- ---------------------------------------------------------------------------
-- Statements
-- ---------------------------------------------------------------------------

/-- Release a result set that nobody will read; a failure is only logged. -/
def releaseUnread (handle : Int64) : Quiet σ Unit := do
  match ← (tell (.closeResultSets [handle])).attempt with
  | .ok () => return
  | .error fault => log (.resultSetNotClosed handle fault)

/-- The handle of the result set of the first statement, if that produced one. -/
def unreadHandle? (result : ExecuteResult) : Option Int64 :=
  match result.results.head? with
  | some (.resultSet (some rows)) => rows.openHandle?
  | _ => none

/-- Execute a statement, and count the rows that it affected. -/
def runForCount (sql : String) (options : StatementOptions) : Action σ Int64 := do
  let result ← run sql options
  if let some handle := unreadHandle? result then Action.ofQuiet (releaseUnread handle)
  return result.rowsAffected

/-- Execute a statement, and count the rows that it affected. -/
def execute (sql : String) (options : StatementOptions) : Action σ Int64 :=
  Action.within "Unable to execute" (runForCount sql options)

/-- Make the changes of the transaction permanent. -/
def commit : Action σ Unit := Action.within "Unable to commit" do
  note (.committing (← get).session.sessionId)
  let _ ← runForCount "COMMIT" {}

/-- Take the changes of the transaction back. -/
def rollback : Action σ Unit := Action.within "Unable to rollback" do
  note (.rollingBack (← get).session.sessionId)
  let _ ← runForCount "ROLLBACK" {}

/-- The one result set that a query has. -/
def soleResultSet (result : ExecuteResult) : Except ProtocolFault ResultSet :=
  if result.numResults ≠ 1 then .error (.unexpectedResultCount result.numResults)
  else match result.results.head? with
    | some (.resultSet (some rows)) => .ok rows
    | some (.resultSet none) | none => .error .missingResultSet
    | some (.rowCount _) => .error .rowCountInsteadOfRows

/--
Run a query, and stream its rows. The thread of the producer is taken to start; a system that
refuses to start one is not modelled.
-/
def query (sql : String) (options : StatementOptions) : Action σ Stream :=
  Action.within "Unable to query" do
    let result ← run sql options
    let rows ← Action.ofExcept ((soleResultSet result).mapError .protocolError)
    return .ofResultSet rows (← get).config.bytesPerFetch

/-- The rows among items, unless there is a fault among them. -/
def collect : List Item → Except Fault (List Row) := List.mapM id

/-- Run a query, and collect its rows; a fault of the stream is the fault of the operation. -/
def queryAll (sql : String) (options : StatementOptions) : Action σ (List Row) := do
  let (items, stream) ← Action.ofQuiet (← query sql options).receiveAll
  let _ ← Action.ofQuiet stream.drop.settle
  Action.ofExcept (collect items)

-- ---------------------------------------------------------------------------
-- The end of a connection
-- ---------------------------------------------------------------------------

/-- Take the cached statements out of the cache, in one of the orders in which they may come. -/
def takeStatements : Quiet σ (List Int64) :=
  modifyGet fun c => (c.statements.handles, { c with statements := .empty })

/-- End the session on the server; a failure is only logged. -/
def endSession : Quiet σ Unit := do
  match ← (tell .disconnect).attempt with
  | .ok () => return
  | .error fault => log (.notDisconnected (← get).session.sessionId fault)

/--
Close the cached statements, end the session and close the transport, whatever
fails on the way. A closed connection is left alone.
-/
def disconnect : Quiet σ Unit := do
  let c ← get
  if c.isOpen then
    log (.disconnecting c.session.sessionId)
    (← takeStatements).forM closeStatement
    endSession
    close

/-- Cancel the connection: nothing more is sent, and open streams end. -/
def cancel : Quiet σ Unit := modify fun c => { c with isCancelled := true }

/-- The description of a connection. -/
def describe (c : Connection σ) : String :=
  "Connection \x7b " ++ ", ".intercalate [
    "session_id: " ++ toString c.session.sessionId.toNat,
    "host: " ++ Text.quoted c.config.host,
    "port: " ++ toString c.config.port.toNat,
    "user: " ++ Text.quoted c.config.user] ++ ", .. \x7d"

end ExasolClient.Connection
