-- SUMMARY: The steps of a producer, and how producer and consumer take turns.
import ExasolClient.Connection.Exchange
import ExasolClient.Stream.Basic

/-!
# Producers

`advance` is one step of a producer: one fetch, one item delivered or one result
set released. A producer with an item in hand looks first whether it was
cancelled, and waits when the queue is full. `settle` lets the producer run as far
as it gets on its own; `receive` runs it until there is an item to take.
-/

namespace ExasolClient.Stream

variable [Transport σ]

open Connection

-- ---------------------------------------------------------------------------
-- One step
-- ---------------------------------------------------------------------------

/-- Tell the server that a result set is not needed any more; a failure is only logged. -/
def releaseResultSet (handle : Int64) : Quiet σ Unit := do
  match ← (tell (.closeResultSets [handle])).attempt with
  | .ok () => return
  | .error .cancelled => log (.resultSetLeftOpen handle)
  | .error fault => log (.resultSetNotClosed handle fault)

/-- What becomes of the cells that came with the reply. -/
def unpacked (s : Stream) (data : Cells) : Task :=
  match checkShape s.columns data s.totalRows with
  | .ok () => .deliver (rowsOf s.columns data) none
  | .error fault => .report fault none

/--
What follows on a chunk that is accepted. A sum that is out of range is not caught: with it
the producer breaks down.
-/
def accepted (s : Stream) (handle : Int64) (position : UInt64) (chunk : Chunk) : Task :=
  match positionBehind? position chunk.numRows with
  | some behind => .deliver (rowsOf s.columns chunk.data) (some (handle, behind))
  | none => .overflowed handle

/-- Fetch the rows from `position` on. -/
def fetchPage (s : Stream) (handle : Int64) (position : UInt64) : Quiet σ Task := do
  match ← (ask Chunk (.fetch handle position s.fetchSize)).attempt with
  | .error fault => return .report (.context "Unable to fetch" fault) none
  | .ok chunk =>
    if chunk.numRows = 0 then
      return .report (.protocolError (.emptyFetch position s.totalRows)) (some handle)
    match checkShape s.columns chunk.data chunk.numRows with
    | .error fault => return .report fault (some handle)
    | .ok () =>
      log (.chunkFetched handle position chunk.numRows)
      return s.accepted handle position chunk

/-- Give up on the rows that are not delivered yet. -/
def abandon (next : Option (Int64 × UInt64)) : Quiet σ Task := do
  match next with
  | some (handle, position) =>
    log (.streamAbandoned handle position)
    return .release handle
  | none => return .ended

/-- What a producer does with an item in hand. -/
inductive Delivery where
  /-- There is room for the item. -/
  | done
  /-- The queue is full. -/
  | waiting
  /-- The stream is cancelled. -/
  | cancelled

/-- Whether an item can be delivered now. -/
def delivery (s : Stream) (connectionCancelled : Bool) : Delivery :=
  if connectionCancelled || s.isCancelled then .cancelled
  else if s.hasRoom then .done
  else .waiting

/-- Put an item into the queue if it has room; a cancelled stream gets the news instead. -/
def offer (s : Stream) (item : Item) : Quiet σ (Delivery × Stream) := do
  match s.delivery (← get).isCancelled with
  | .done => return (.done, s.push item)
  | .waiting => return (.waiting, s)
  | .cancelled => return (.cancelled, s.push (.error .cancelled))

/-- One step of the producer. -/
def advance (s : Stream) : Quiet σ Stream := do
  match s.task with
  | .ended | .overflowed _ => return s
  | .unpack data => return { s with task := s.unpacked data }
  | .page handle position =>
    if position < s.totalRows then return { s with task := ← s.fetchPage handle position }
    else return { s with task := .release handle }
  | .deliver [] (some (handle, position)) => return { s with task := .page handle position }
  | .deliver [] none => return { s with task := .ended }
  | .deliver (row :: rows) next =>
    match ← s.offer (.ok row) with
    | (.done, s) => return { s with task := .deliver rows next }
    | (.waiting, s) => return s
    | (.cancelled, s) => return { s with task := ← abandon next }
  | .report fault handle =>
    match ← s.offer (.error fault) with
    | (.waiting, s) => return s
    | (_, s) => return { s with task := .releasing handle }
  | .release handle =>
    releaseResultSet handle
    return { s with task := .ended }

-- ---------------------------------------------------------------------------
-- Taking turns
-- ---------------------------------------------------------------------------

/-- The producer has nothing to do, or waits for room in the queue. -/
def isIdle (s : Stream) (connectionCancelled : Bool) : Bool :=
  s.task.isEnded ||
    (s.task.item?.isSome && match s.delivery connectionCancelled with
      | .waiting => true
      | _ => false)

/--
The steps that a producer takes at the most until it delivers an item or is done:
two for every fetch, each of which brings it forward by a row, and a few at the
end.
-/
def patience (s : Stream) : Nat := 2 * s.totalRows.toNat + 8

/-- Let the producer run until it delivers an item or can do nothing more. -/
def produce : (fuel : Nat) → Stream → Quiet σ Stream
  | 0, s => return s
  | fuel + 1, s => do
    if s.isIdle (← get).isCancelled then return s
    let next ← s.advance
    if s.queue.length < next.queue.length then return next
    produce fuel next

/-- Let the producer run `rounds` times until it delivers an item. -/
def settleRounds : (rounds : Nat) → Stream → Quiet σ Stream
  | 0, s => return s
  | rounds + 1, s => do
    if s.isIdle (← get).isCancelled then return s
    settleRounds rounds (← s.produce s.patience)

/-- Let the producer run as far as it gets: the queue has room for so many items. -/
def settle (s : Stream) : Quiet σ Stream := s.settleRounds (queueCapacity + 2)

/-- The next item, or `none` at the end; a consumer that finds the queue empty waits. -/
def receive (s : Stream) : Quiet σ (Option Item × Stream) := do
  match s.take with
  | (.item item, s) => return (some item, s)
  | (.ended, s) => return (none, s)
  | (.pending, s) =>
    match (← s.produce s.patience).take with
    | (.item item, s) => return (some item, s)
    | (_, s) => return (none, s)

/-- What `count` attempts to receive an item bring. -/
def receiveMany : (count : Nat) → Stream → Quiet σ (List (Option Item) × Stream)
  | 0, s => return ([], s)
  | count + 1, s => do
    let (item, s) ← s.receive
    let (items, s) ← receiveMany count s
    return (item :: items, s)

/-- The items that can be received without another fetch. -/
def available (s : Stream) : Nat :=
  s.queue.length + match s.task with
    | .deliver rows _ => rows.length
    | _ => 0

/-- Receive all items of `rounds` chunks. -/
def receiveChunks : (rounds : Nat) → Stream → Quiet σ (List Item × Stream)
  | 0, s => return ([], s)
  | rounds + 1, s => do
    let (items, s) ← s.receiveMany (s.available + 1)
    let items := items.filterMap id
    if s.isFinished then return (items, s)
    let (more, s) ← receiveChunks rounds s
    return (items ++ more, s)

/-- All items that are still to come: there are at most as many chunks as rows. -/
def receiveAll (s : Stream) : Quiet σ (List Item × Stream) :=
  s.receiveChunks (s.totalRows.toNat + 2)

end ExasolClient.Stream
