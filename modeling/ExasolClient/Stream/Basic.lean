-- SUMMARY: Streams of rows: a bounded queue between a producer and the consumer.
import ExasolClient.Row.Basic
import ExasolClient.Statement.Matrix
import ExasolClient.Wire.Payload

/-!
# Streams

The rows of a result set reach the consumer through a queue of at most a thousand
items. The producer fills the queue: it has a task, which says what it does next,
and every task is done in steps of one item. An item is a row or a fault, and a
fault is the last item that the consumer sees. Main statement: a queue never
holds more than it has room for (`push_le`).
-/

namespace ExasolClient

/-- What a consumer receives. -/
abbrev Item := Except Fault Row

/-- How many items a queue has room for. -/
def queueCapacity : Nat := 1000

/-- What a producer does next. -/
inductive Task where
  /-- Check the cells that came with the reply. -/
  | unpack (data : Cells)
  /-- Fetch the rows from `position` on, if there are any. -/
  | page (handle : Int64) (position : UInt64)
  /-- Deliver rows, and go on at a position if they were fetched. -/
  | deliver (rows : List Row) (next : Option (Int64 × UInt64))
  /-- Deliver a fault, and release a result set afterwards. -/
  | report (fault : Fault) (handle : Option Int64)
  /-- Tell the server that a result set is no longer needed. -/
  | release (handle : Int64)
  | ended
  /--
  There is no position behind a chunk of a result set: the producer has broken down, and
  the result set stays open.
  -/
  | overflowed (handle : Int64)

namespace Task

/-- The producer is gone, and nothing more is put into the queue. -/
def isEnded : Task → Bool
  | .ended | .overflowed _ => true
  | _ => false

/-- The item that the producer is about to put into the queue. -/
def item? : Task → Option Item
  | .deliver (row :: _) _ => some (.ok row)
  | .report fault _ => some (.error fault)
  | _ => none

/-- What is left to do with a result set that is not needed any more. -/
def releasing : Option Int64 → Task
  | some handle => .release handle
  | none => .ended

end Task

/-- A stream of rows. -/
structure Stream where
  columns : Columns
  /-- The number of rows as the server declared it. -/
  totalRows : UInt64
  /-- The bytes that one fetch asks for. -/
  fetchSize : UInt64
  task : Task
  /-- The items between producer and consumer, the oldest first. -/
  queue : List Item := []
  /-- The consumer asked for no more rows. -/
  isCancelled : Bool := false
  /-- The consumer is gone. -/
  isDropped : Bool := false
  /-- The consumer has seen the end. -/
  isFinished : Bool := false

namespace Stream

/-- The stream of a result set. A result set without rows needs no producer. -/
def ofResultSet (rows : ResultSet) (fetchSize : UInt64) : Stream where
  columns := ⟨rows.columnNames⟩
  totalRows := rows.numRows
  fetchSize := fetchSize
  task :=
    if rows.numRows = 0 then .ended
    else match rows.openHandle? with
      | some handle => .page handle 0
      | none => .unpack (rows.data.getD [])

-- ---------------------------------------------------------------------------
-- Chunks
-- ---------------------------------------------------------------------------

/-- The first column that does not hold `rows` values, with its index. -/
def firstOfOtherHeight? (rows : UInt64) (index : Nat) : Cells → Option (Nat × Nat)
  | [] => none
  | column :: columns =>
    if column.length = rows.toNat then firstOfOtherHeight? rows (index + 1) columns
    else some (index, column.length)

/-- A chunk has as many columns as the result set, each with as many values as it has rows. -/
def checkShape (columns : Columns) (data : Cells) (rows : UInt64) : Except Fault Unit :=
  if data.length ≠ columns.size then
    .error (.protocolError (.chunkWidth data.length columns.size))
  else match firstOfOtherHeight? rows 0 data with
    | some (column, found) => .error (.protocolError (.chunkHeight column found rows))
    | none => .ok ()

/-- The position behind so many rows from `position` on, unless a position cannot be as large. -/
def positionBehind? (position rows : UInt64) : Option UInt64 :=
  if position.toNat + rows.toNat < UInt64.size then some (position + rows) else none

theorem positionBehind?_eq_some_iff {position rows behind : UInt64} :
    positionBehind? position rows = some behind ↔
      behind.toNat = position.toNat + rows.toNat := by
  unfold positionBehind?
  split
  next hlt =>
    have hsum : (position + rows).toNat = position.toNat + rows.toNat := by
      rw [UInt64.toNat_add, Nat.mod_eq_of_lt hlt]
    rw [Option.some_inj, ← UInt64.toNat_inj, hsum, eq_comm]
  next hle =>
    have hbehind := behind.toNat_lt
    exact ⟨nofun, fun hsum => absurd (hsum ▸ hbehind) hle⟩

theorem positionBehind?_eq_none_iff {position rows : UInt64} :
    positionBehind? position rows = none ↔ UInt64.size ≤ position.toNat + rows.toNat := by
  unfold positionBehind?
  split
  next hlt => exact ⟨nofun, fun hle => absurd hle (Nat.not_le_of_lt hlt)⟩
  next hle => exact ⟨fun _ => Nat.le_of_not_lt hle, fun _ => rfl⟩

/-- The rows of a chunk. -/
def rowsOf (columns : Columns) (data : Cells) : List Row :=
  (transpose data).map fun values => { columns := columns, values := values }

-- ---------------------------------------------------------------------------
-- The queue
-- ---------------------------------------------------------------------------

def hasRoom (s : Stream) : Bool := s.queue.length < queueCapacity

/-- The stream with an item at the end of the queue, if the consumer and the queue take it. -/
def push (s : Stream) (item : Item) : Stream :=
  if s.hasRoom && !s.isDropped then { s with queue := s.queue ++ [item] } else s

/-- A queue never holds more than it has room for. -/
theorem push_le {s : Stream} (h : s.queue.length ≤ queueCapacity) (item : Item) :
    (s.push item).queue.length ≤ queueCapacity := by
  unfold push
  split
  · rename_i hroom
    simp [hasRoom] at hroom
    simp
    omega
  · exact h

/-- What a consumer finds when it asks for an item. -/
inductive Receipt where
  | item (item : Item)
  /-- There are no more items. -/
  | ended
  /-- The producer has not delivered the next item yet. -/
  | pending

/-- Take the next item; a fault is the last one. -/
def take (s : Stream) : Receipt × Stream :=
  if s.isFinished then (.ended, s)
  else match s.queue with
    | .ok row :: rest => (.item (.ok row), { s with queue := rest })
    | .error fault :: rest => (.item (.error fault), { s with queue := rest, isFinished := true })
    | [] => if s.task.isEnded then (.ended, { s with isFinished := true }) else (.pending, s)

/-- Ask the producer to stop. -/
def cancel (s : Stream) : Stream := { s with isCancelled := true }

/-- Leave the stream: the producer stops, and what is queued is lost. -/
def drop (s : Stream) : Stream :=
  { s with isCancelled := true, isDropped := true, queue := [] }

end Stream
end ExasolClient
