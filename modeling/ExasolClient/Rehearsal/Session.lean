-- SUMMARY: Sessions played step by step, and what each step brought about.
import ExasolClient.Connection.Operations

/-!
# Sessions

A session is a list of steps on one connection, which has at most one open stream.
After every step the producer of the stream runs as far as it gets. The report on
a step says what the caller got, what went to the journal meanwhile and what can
be seen of the connection afterwards.
-/

namespace ExasolClient.Rehearsal

/-- A step of a session. -/
inductive Step where
  | execute (sql : String) (options : StatementOptions)
  /-- Open a stream, in place of the open one. -/
  | query (sql : String) (options : StatementOptions)
  | queryAll (sql : String) (options : StatementOptions)
  /-- Receive some items of the open stream. -/
  | next (count : Nat)
  /-- Receive the remaining items of the open stream. -/
  | drain
  | cancelStream
  | dropStream
  | cancel
  | getAttributes
  | setAttributes (attributes : Attributes)
  | enableAutocommit
  | disableAutocommit
  | setQueryTimeout (timeout : Duration)
  | commit
  | rollback
  | disconnect
  /-- Look at what the client knows of the session. -/
  | info
  | describe
  /-- Take the lock with which callers exclude each other. -/
  | lock

/-- What a caller gets from a step. -/
inductive Result where
  | done
  | count (rows : Int64)
  | opened (columns : Columns) (totalRows : UInt64)
  | rows (rows : List Row)
  | items (items : List (Option Item))
  | attributes (attributes : Attributes)
  | info (session : SessionInfo) (config : Config) (cancelled : Bool)
  | text (text : String)
  /-- The step needs an open stream. -/
  | noStream
  | failed (fault : Fault)

/-- What can be seen of a connection. -/
structure View where
  attributes : Attributes
  cachedStatements : Nat
  isClosed : Bool

/-- What a step brought about. -/
structure Report where
  result : Result
  events : Array Event
  view : View

/-- The steps of a session act on the connection and on the open stream. -/
abbrev Play (σ : Type) := StateT (Option Stream) (Quiet σ)

/-- An operation on the connection alone. -/
def quietly (action : Quiet σ α) : Play σ α := StateT.lift action

variable [Transport σ]

/-- What the caller gets from an operation. -/
def outcomeOf (action : Action σ α) (result : α → Result) : Play σ Result := do
  match ← quietly action.attempt with
  | .ok a => return result a
  | .error fault => return .failed fault

/-- What the caller gets from an operation without a value. -/
def unitOutcome (action : Action σ Unit) : Play σ Result :=
  outcomeOf action fun () => .done

/-- Let the producer of the open stream run as far as it gets. -/
def settleStream : Play σ Unit := do
  if let some stream ← get then set (some (← quietly stream.settle))

/-- Leave the open stream, and let its producer come to an end. -/
def dropStream : Play σ Unit := do
  if let some stream ← get then
    let _ ← quietly stream.drop.settle
    set (none : Option Stream)

/-- What the caller gets from the open stream. -/
def fromStream (receive : Stream → Quiet σ (List (Option Item) × Stream)) : Play σ Result := do
  match ← get with
  | none => return .noStream
  | some stream =>
    let (items, stream) ← quietly (receive stream)
    set (some stream)
    return .items items

/-- Play one step. -/
def perform : Step → Play σ Result
  | .execute sql options => outcomeOf (Connection.execute sql options) .count
  | .query sql options => do
    dropStream
    match ← quietly (Connection.query sql options).attempt with
    | .ok stream =>
      set (some stream)
      return .opened stream.columns stream.totalRows
    | .error fault => return .failed fault
  | .queryAll sql options => outcomeOf (Connection.queryAll sql options) .rows
  | .next count => fromStream (Stream.receiveMany count)
  | .drain => fromStream fun stream => do
    let (items, stream) ← stream.receiveAll
    return (items.map some, stream)
  | .cancelStream => do
    modify (Option.map Stream.cancel)
    return .done
  | .dropStream => do
    dropStream
    return .done
  | .cancel => do
    quietly Connection.cancel
    return .done
  | .getAttributes => outcomeOf Connection.refreshAttributes .attributes
  | .setAttributes attributes => unitOutcome (Connection.changeAttributes attributes)
  | .enableAutocommit => unitOutcome Connection.enableAutocommit
  | .disableAutocommit => unitOutcome Connection.disableAutocommit
  | .setQueryTimeout timeout => unitOutcome (Connection.setQueryTimeout timeout)
  | .commit => unitOutcome Connection.commit
  | .rollback => unitOutcome Connection.rollback
  | .disconnect => do
    quietly Connection.disconnect
    return .done
  | .info => do
    let c ← getThe (Connection σ)
    return .info c.session c.config c.isCancelled
  | .describe => do return .text (← getThe (Connection σ)).describe
  | .lock => return .text "ConnectionLock"

/-- What can be seen of a connection. -/
def viewOf (c : Connection σ) : View where
  attributes := c.attributes
  cachedStatements := c.statements.size
  isClosed := !c.isOpen

/-- The entries of a journal behind the first `count` ones. -/
def eventsFrom (c : Connection σ) (count : Nat) : Array Event := c.journal.extract count

/-- Play one step, and report on it. -/
def performStep (step : Step) : Play σ Report := do
  let before := (← getThe (Connection σ)).journal.size
  let result ← perform step
  settleStream
  let c ← getThe (Connection σ)
  return { result := result, events := eventsFrom c before, view := viewOf c }

/-- Leave the stream and the connection; the entries of the journal that this brought. -/
def finish : Play σ (Array Event) := do
  let before := (← getThe (Connection σ)).journal.size
  dropStream
  quietly Connection.disconnect
  return eventsFrom (← getThe (Connection σ)) before

/-- The report on a session that was established. -/
structure SessionReport where
  sessionId : UInt64
  steps : List Report
  /-- What the end of the session brought. -/
  final : Array Event

/-- Establish a session and play its steps; the entries of the journal for the handshake. -/
def play (host : ClientHost) (config : Config) (peer : σ) (cancelled : Bool) (steps : List Step) :
    Array Event × Except Fault SessionReport :=
  let (result, c) := Connection.connect host config peer cancelled
  match result with
  | .error fault => (c.journal, .error fault)
  | .ok () =>
    let session : Play σ SessionReport := do
      let reports ← steps.mapM performStep
      return { sessionId := c.session.sessionId, steps := reports, final := ← finish }
    (c.journal, .ok ((session.run none).run c).1.1)

end ExasolClient.Rehearsal
