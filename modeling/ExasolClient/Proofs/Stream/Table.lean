-- SUMMARY: Tables, what a producer owes of one, and what its steps and the consumer do about that.
import ExasolClient.Proofs.Client.Moves

/-!
# Tables

The rows of a result set are a table. They reach the client column by column, all at
once or page by page, and in pages as large as the server likes. What a producer has
not delivered yet is a function of what it does next (`Owes`): a step of it hands the
first of these items over to the queue. The consumer has seen the items that are
neither in the queue nor owed (`Reads`). Main statements: a step of either keeps
these books (`Reads.produce`, `Reads.receive`), and brings the end closer unless it
has to wait for the other (`Stream.effort`).
-/

namespace ExasolClient

/-- The rows of a result set, with one cell for each of its columns. -/
structure Table where
  columns : Columns
  rows : List (List Json)
  rectangular : Rectangular columns.size rows
  hasColumn : 0 < columns.size
  hasRow : rows ≠ []
  /-- The number of rows can be told in a reply. -/
  height_lt : rows.length < UInt64.size

namespace Table

variable (t : Table)

def height : Nat := t.rows.length

/-- The cells of `count` rows from a position on, column by column. -/
def cells (start count : Nat) : Cells := columnsOf t.columns.size ((t.rows.drop start).take count)

/-- What rows of cells are for a consumer. -/
def itemsOf (rows : List (List Json)) : List Item :=
  rows.map fun values => .ok { columns := t.columns, values }

/-- All that a consumer receives, before the end. -/
def items : List Item := t.itemsOf t.rows

/-! ## Cells -/

/-- The columns of a rectangular matrix have its rows. -/
theorem transpose_columnsOf {w : Nat} {rows : List (List α)} (h : Rectangular w rows) (hw : 0 < w)
    (hne : rows ≠ []) : transpose (columnsOf w rows) = rows := by
  obtain ⟨w, rfl⟩ := Nat.exists_eq_succ_of_ne_zero (Nat.ne_of_gt hw)
  have htwice := transpose_transpose h hne
  rwa [transpose.eq_1 rows, width_eq h hne] at htwice

theorem firstOfOtherHeight?_eq_none {rows : UInt64} {data : Cells}
    (h : Rectangular rows.toNat data) (index : Nat) :
    Stream.firstOfOtherHeight? rows index data = none := by
  induction data generalizing index with
  | nil => rfl
  | cons column data ih =>
    have hcolumn := h column List.mem_cons_self
    simp only [Stream.firstOfOtherHeight?, hcolumn, if_true]
    exact ih (fun row hrow => h row (List.mem_cons_of_mem column hrow)) (index + 1)

theorem rectangular_part (start count : Nat) :
    Rectangular t.columns.size ((t.rows.drop start).take count) :=
  fun row hrow => t.rectangular row (List.mem_of_mem_drop (List.mem_of_mem_take hrow))

theorem length_part {start count : Nat} (h : start + count ≤ t.height) :
    ((t.rows.drop start).take count).length = count := by
  unfold height at h
  rw [List.length_take, List.length_drop]
  omega

/-- The cells of some rows are of the shape that a chunk must have. -/
theorem checkShape_cells {start count : Nat} (h : start + count ≤ t.height) {rows : UInt64}
    (hrows : rows.toNat = count) :
    Stream.checkShape t.columns (t.cells start count) rows = .ok () := by
  have hrect := rectangular_columnsOf (t.rectangular_part start count)
  rw [t.length_part h, ← hrows] at hrect
  unfold Stream.checkShape
  have hfirst := firstOfOtherHeight?_eq_none hrect 0
  rw [hrows] at hfirst
  simp [cells, hfirst]

/-- The rows of a chunk of cells are the rows of the table. -/
theorem rowsOf_cells {start count : Nat} (hpos : 0 < count) (h : start + count ≤ t.height) :
    (Stream.rowsOf t.columns (t.cells start count)).map Except.ok =
      t.itemsOf ((t.rows.drop start).take count) := by
  have hlength := t.length_part h
  have hne : (t.rows.drop start).take count ≠ [] := by
    intro hnil
    rw [hnil] at hlength
    exact Nat.ne_of_lt hpos hlength
  unfold Stream.rowsOf cells itemsOf
  rw [transpose_columnsOf (t.rectangular_part start count) t.hasColumn hne, List.map_map]
  rfl

/-- Some rows, and then the others. -/
theorem itemsOf_take_append (start count : Nat) :
    t.itemsOf ((t.rows.drop start).take count) ++ t.itemsOf (t.rows.drop (start + count)) =
      t.itemsOf (t.rows.drop start) := by
  unfold itemsOf
  rw [← List.map_append, ← List.drop_drop, List.take_append_drop]

theorem isOk_of_mem_items {item : Item} (h : item ∈ t.items) : ∃ row, item = .ok row := by
  obtain ⟨values, -, rfl⟩ := List.mem_map.1 h
  exact ⟨_, rfl⟩

/-! ## Pages -/

/-- Over a line one can fetch rows from any position on, as many as the server likes. -/
def Answers [Transport σ] (handle : Int64) (l : Line σ) : Prop :=
  ∀ start size : UInt64, start.toNat < t.height → ∃ count, 0 < count ∧
    start.toNat + count ≤ t.height ∧
    (l.attempt (.fetch handle start size)).payload Chunk =
      .ok ⟨.ofNat count, t.cells start.toNat count⟩

/--
The fetches of a result set, from one position up to another: each begins where the
one before has ended, and brings at least one row.
-/
inductive Fetches (handle : Int64) (size : UInt64) : Nat → List Attempt → Nat → Prop where
  | nil (position : Nat) : Fetches handle size position [] position
  | cons {a : Attempt} {chunk : Chunk} {rest : List Attempt} {position stop : Nat} :
      position < t.height → a.request = .fetch handle (.ofNat position) size →
      a.payload Chunk = .ok chunk → 0 < chunk.numRows.toNat →
      Fetches handle size (position + chunk.numRows.toNat) rest stop →
      Fetches handle size position (a :: rest) stop

variable {t}

/-- One more fetch. -/
theorem Fetches.snoc {handle : Int64} {size : UInt64} {start stop : Nat} {talk : List Attempt}
    {a : Attempt} {chunk : Chunk} (h : t.Fetches handle size start talk stop)
    (hstop : stop < t.height) (hrequest : a.request = .fetch handle (.ofNat stop) size)
    (hchunk : a.payload Chunk = .ok chunk) (hrows : 0 < chunk.numRows.toNat) :
    t.Fetches handle size start (talk ++ [a]) (stop + chunk.numRows.toNat) := by
  induction h with
  | nil => exact .cons hstop hrequest hchunk hrows (.nil _)
  | cons hlt hrequest' hchunk' hrows' _ ih =>
    exact .cons hlt hrequest' hchunk' hrows' (ih hstop hrequest)

variable (t)

/--
All that is said about a result set: nothing if its rows came with the reply, and
else all of it is fetched and then it is released, once.
-/
def Conversation (size : UInt64) : Option Int64 → List Attempt → Prop
  | none, talk => talk = []
  | some handle, talk => ∃ fetches a, talk = fetches ++ [a] ∧
    t.Fetches handle size 0 fetches t.height ∧ a.request = .closeResultSets [handle]

/-! ## What a producer owes -/

/--
What a producer has said and what it still has to deliver, by what it does next. The
rows come with the reply, or they are fetched under a handle.
-/
inductive Owes (size : UInt64) : Option Int64 → Task → List Attempt → List Item → Prop where
  | unpack : Owes size none (.unpack (t.cells 0 t.height)) [] t.items
  | inline (rows : List Row) : Owes size none (.deliver rows none) [] (rows.map .ok)
  | page {handle : Int64} {position : UInt64} {talk : List Attempt} :
      t.Fetches handle size 0 talk position.toNat → position.toNat ≤ t.height →
      Owes size (some handle) (.page handle position) talk
        (t.itemsOf (t.rows.drop position.toNat))
  | deliver {handle : Int64} {position : UInt64} {talk : List Attempt} (rows : List Row) :
      t.Fetches handle size 0 talk position.toNat → position.toNat ≤ t.height →
      Owes size (some handle) (.deliver rows (some (handle, position))) talk
        (rows.map .ok ++ t.itemsOf (t.rows.drop position.toNat))
  | release {handle : Int64} {talk : List Attempt} : t.Fetches handle size 0 talk t.height →
      Owes size (some handle) (.release handle) talk []
  | ended {handle? : Option Int64} {talk : List Attempt} : t.Conversation size handle? talk →
      Owes size handle? .ended talk []

end Table

/-! ## Effort -/

/-- How much there is left to do for a producer at the most, when there are so many rows. -/
def Task.effort (total : Nat) : Task → Nat
  | .unpack _ => 2 * total + 2
  | .page _ position => 4 * (total - position.toNat) + 2
  | .deliver rows none => 2 * rows.length + 1
  | .deliver rows (some (_, position)) => 2 * rows.length + 4 * (total - position.toNat) + 3
  | .report _ _ => 3
  | .release _ => 1
  | .ended | .overflowed _ => 0

theorem Task.effort_releasing (total : Nat) (handle? : Option Int64) :
    (releasing handle?).effort total ≤ 1 := by
  cases handle? with
  | none => exact Nat.zero_le 1
  | some handle => exact Nat.le_refl 1

/-- To hand an item over saves more than it takes to receive it. -/
theorem Task.effort_of_item {task : Task} {item : Item} (h : task.item? = some item) (total : Nat) :
    task.afterItem.effort total + 1 < task.effort total := by
  cases task with
  | deliver rows next =>
    cases rows with
    | nil => cases h
    | cons row rows => cases next <;> simp only [afterItem, effort, List.length_cons] <;> omega
  | report fault handle? =>
    have hle := effort_releasing total handle?
    exact Nat.succ_lt_succ (Nat.lt_succ_of_le hle)
  | unpack | page | release | ended | overflowed => cases h

/-- How much there is left to do for a producer and its consumer. -/
def Stream.effort (s : Stream) : Nat :=
  s.task.effort s.totalRows.toNat + s.queue.length + if s.isFinished then 0 else 1

/-! ## A step of the producer -/

/-- A stream of the rows of a table, which nobody has cancelled or left. -/
structure Stream.IsOf (s : Stream) (t : Table) : Prop where
  columns : s.columns = t.columns
  totalRows : s.totalRows.toNat = t.height
  uncancelled : s.isCancelled = false
  undropped : s.isDropped = false

/-- The stream after a step that hands items over. -/
def Stream.handing (s : Stream) (task : Task) (given : List Item) : Stream :=
  { s with task := task, queue := s.queue ++ given }

theorem Stream.handing_nil (s : Stream) (task : Task) :
    s.handing task [] = { s with task := task } := by
  unfold handing
  rw [List.append_nil]

/-- A stream that is not cancelled takes the item, or leaves it to the producer if it is full. -/
theorem Stream.delivered_of_live {s : Stream} {cancelled : Bool} {item : Item}
    {done abandoned : Task} (h : (cancelled || s.isCancelled) = false)
    (hdropped : s.isDropped = false) :
    delivered (s.offered item cancelled) done abandoned =
      if s.hasRoom then s.handing done [item] else s := by
  cases hroom : s.hasRoom <;>
    simp [offered, delivery, h, delivered, push, handing, hroom, hdropped]

section Produce

variable [Transport σ] {t : Table} {s : Stream} {l : Line σ} {handle? : Option Int64}
  {talk : List Attempt} {pending : List Item}

/-- What a step of a producer does to what it owes. -/
def Table.Forwards (t : Table) (handle? : Option Int64) (talk : List Attempt)
    (pending : List Item) (s : Stream) (l : Line σ) : Prop :=
  ∃ task given rest, s.next l = s.handing task given ∧ pending = given ++ rest ∧
    t.Owes s.fetchSize handle? task (talk ++ s.said l) rest ∧
    ((s.next l = s ∧ (s.task.isEnded = true ∨ s.hasRoom = false)) ∨
      (s.next l).effort < s.effort)

/-- The effort of a stream after a step that hands items over. -/
theorem effort_handing (s : Stream) (task : Task) (given : List Item) :
    (s.handing task given).effort + s.task.effort s.totalRows.toNat =
      s.effort + task.effort s.totalRows.toNat + given.length := by
  have hafter : (s.handing task given).effort = task.effort s.totalRows.toNat +
      (s.queue ++ given).length + if s.isFinished then 0 else 1 := rfl
  rw [hafter, List.length_append, Stream.effort]
  omega

/-- A step that takes less effort than it saves. -/
theorem effort_handing_lt {task : Task} {given : List Item}
    (h : task.effort s.totalRows.toNat + given.length < s.task.effort s.totalRows.toNat) :
    (s.handing task given).effort < s.effort := by
  have heffort := effort_handing s task given
  omega

/-- A row in hand is delivered, if the queue has room for it. -/
theorem forwards_of_deliver {row : Row} {rows : List Row} {next : Option (Int64 × UInt64)}
    {rest : List Item} (hs : s.IsOf t) (hlive : l.isCancelled = false)
    (htask : s.task = .deliver (row :: rows) next)
    (howes : t.Owes s.fetchSize handle? s.task talk (.ok row :: rest))
    (howes' : t.Owes s.fetchSize handle? (.deliver rows next) talk rest) :
    t.Forwards handle? talk (.ok row :: rest) s l := by
  have hitem : s.task.item? = some (.ok row) := congrArg Task.item? htask
  have hafter : s.task.afterItem = .deliver rows next := congrArg Task.afterItem htask
  have huncancelled : (l.isCancelled || s.isCancelled) = false :=
    Bool.or_eq_false_iff.2 ⟨hlive, hs.uncancelled⟩
  have hnext := (Stream.next_of_item hitem l).trans
    (Stream.delivered_of_live huncancelled hs.undropped)
  have hsaid : talk ++ s.said l = talk := by
    rw [Stream.said_of_item hitem, List.append_nil]
  cases hroom : s.hasRoom with
  | false =>
    rw [hroom] at hnext
    refine ⟨s.task, [], .ok row :: rest, hnext.trans (s.handing_nil s.task).symm, rfl, ?_,
      .inl ⟨hnext, .inr hroom⟩⟩
    rw [hsaid]
    exact howes
  | true =>
    rw [hroom, hafter] at hnext
    refine ⟨.deliver rows next, [.ok row], rest, hnext, rfl, ?_, .inr ?_⟩
    · rw [hsaid]
      exact howes'
    · have hless := Task.effort_of_item hitem s.totalRows.toNat
      rw [hafter] at hless
      rw [hnext]
      exact effort_handing_lt hless

/-- A step that delivers nothing: the producer goes on with something else. -/
theorem forwards_of_turn (task : Task) (hnext : s.next l = { s with task := task })
    (howes : t.Owes s.fetchSize handle? task (talk ++ s.said l) pending)
    (heffort : task.effort s.totalRows.toNat < s.task.effort s.totalRows.toNat) :
    t.Forwards handle? talk pending s l := by
  rw [← Stream.handing_nil] at hnext
  refine ⟨task, [], pending, hnext, rfl, howes, .inr ?_⟩
  rw [hnext]
  exact effort_handing_lt heffort

/-- A page that was fetched is what the table holds from its position on. -/
theorem forwards_of_page {handle : Int64} {position : UInt64} (hs : s.IsOf t)
    (htask : s.task = .page handle position) (hanswers : t.Answers handle l)
    (hfetches : t.Fetches handle s.fetchSize 0 talk position.toNat)
    (hlt : position.toNat < t.height) :
    t.Forwards (some handle) talk (t.itemsOf (t.rows.drop position.toNat)) s l := by
  obtain ⟨count, hpos, hle, hpayload⟩ := hanswers position s.fetchSize hlt
  have hheight : t.height < UInt64.size := t.height_lt
  have hcount : (UInt64.ofNat count).toNat = count :=
    UInt64.toNat_ofNat_of_lt' (by omega)
  obtain ⟨behind, hbehind⟩ : ∃ behind, Stream.positionBehind? position (.ofNat count) =
      some behind := by
    refine Option.ne_none_iff_exists'.1 fun hnone => ?_
    rw [Stream.positionBehind?_eq_none_iff, hcount] at hnone
    omega
  have hposition : behind.toNat = position.toNat + count := by
    rw [Stream.positionBehind?_eq_some_iff.1 hbehind, hcount]
  have hbelow : position < s.totalRows := by
    rw [UInt64.lt_iff_toNat_lt, hs.totalRows]
    exact hlt
  have hnonzero : UInt64.ofNat count ≠ 0 := by
    intro hzero
    rw [hzero] at hcount
    exact Nat.ne_of_lt hpos hcount
  have hsaid : s.said l = [l.attempt (.fetch handle position s.fetchSize)] := by
    unfold Stream.said
    simp only [htask, hbelow, if_true]
  have hnext : s.next l = { s with
      task := .deliver (Stream.rowsOf t.columns (t.cells position.toNat count))
        (some (handle, behind)) } := by
    unfold Stream.next
    simp only [htask, hbelow, if_true, hpayload, Stream.fetched, hnonzero, if_false, hs.columns,
      t.checkShape_cells hle hcount, Stream.accepted, hbehind]
  have hrows := t.rowsOf_cells hpos hle
  have hlength : (Stream.rowsOf t.columns (t.cells position.toNat count)).length = count := by
    have hlengths := congrArg List.length hrows
    unfold Table.itemsOf at hlengths
    rwa [List.length_map, List.length_map, t.length_part hle] at hlengths
  apply forwards_of_turn _ hnext
  · rw [hsaid, ← t.itemsOf_take_append position.toNat count, ← hrows, ← hposition]
    refine .deliver _ ?_ (by omega)
    have hsnoc := hfetches.snoc (a := l.attempt (.fetch handle position s.fetchSize)) hlt
      (by rw [UInt64.ofNat_toNat]; rfl) hpayload (by rw [hcount]; exact hpos)
    rw [hposition, ← hcount]
    exact hsnoc
  · rw [htask]
    simp only [Task.effort, hlength, hposition, hs.totalRows]
    omega

/-- The cells that came with the reply are the rows of the table. -/
theorem forwards_of_unpack (hs : s.IsOf t) (htask : s.task = .unpack (t.cells 0 t.height)) :
    t.Forwards none [] t.items s l := by
  have hzero : 0 + t.height ≤ t.height := by omega
  have hpos : 0 < t.height := List.length_pos_iff.2 t.hasRow
  have hrows := t.rowsOf_cells hpos hzero
  rw [List.drop_zero, Table.height, List.take_length] at hrows
  have hlength := congrArg List.length hrows
  unfold Table.itemsOf at hlength
  rw [List.length_map, List.length_map] at hlength
  have hsaid : s.said l = [] := by
    unfold Stream.said
    rw [htask]
  apply forwards_of_turn (.deliver (Stream.rowsOf t.columns (t.cells 0 t.height)) none)
  · unfold Stream.next Stream.unpacked
    simp only [htask, hs.columns, t.checkShape_cells hzero hs.totalRows]
  · rw [hsaid]
    unfold Table.items
    rw [← hrows]
    exact .inline _
  · rw [htask]
    simp only [Task.effort, hs.totalRows, Table.height] at hlength ⊢
    omega

/-- After the last page nothing is fetched any more. -/
theorem forwards_of_last {handle : Int64} {position : UInt64} (hs : s.IsOf t)
    (htask : s.task = .page handle position)
    (hfetches : t.Fetches handle s.fetchSize 0 talk position.toNat)
    (hend : position.toNat = t.height) :
    t.Forwards (some handle) talk (t.itemsOf (t.rows.drop position.toNat)) s l := by
  have hbelow : ¬position < s.totalRows := by
    rw [UInt64.lt_iff_toNat_lt, hs.totalRows, hend]
    exact Nat.lt_irrefl _
  have hnone : t.itemsOf (t.rows.drop position.toNat) = [] := by
    rw [hend, Table.height, List.drop_length]
    rfl
  rw [hnone]
  apply forwards_of_turn (.release handle)
  · simp only [Stream.next, htask, hbelow, if_false]
  · simp only [Stream.said, htask, hbelow, if_false, List.append_nil]
    exact .release (hend ▸ hfetches)
  · rw [htask]
    simp only [Task.effort]
    omega

/-- A step of a producer delivers what it owes, or waits, or has less left to do. -/
theorem Table.Owes.forwards (h : t.Owes s.fetchSize handle? s.task talk pending) (hs : s.IsOf t)
    (hlive : l.isCancelled = false)
    (hanswers : ∀ handle, handle? = some handle → s.task.isEnded = false → t.Answers handle l) :
    t.Forwards handle? talk pending s l := by
  generalize htask : s.task = task at h
  cases h with
  | unpack => exact forwards_of_unpack hs htask
  | inline rows =>
    have howes : t.Owes s.fetchSize none s.task [] (rows.map .ok) := htask ▸ .inline rows
    cases rows with
    | cons row rows => exact forwards_of_deliver hs hlive htask howes (.inline rows)
    | nil =>
      refine forwards_of_turn .ended ?_ (.ended ?_) ?_
      · simp only [Stream.next, htask]
      · simp only [Stream.said, htask]
        rfl
      · rw [htask]
        exact Nat.zero_lt_one
  | @page handle position talk hfetches hle =>
    by_cases hlt : position.toNat < t.height
    · have hanswers' := hanswers handle rfl (by rw [htask]; rfl)
      exact forwards_of_page hs htask hanswers' hfetches hlt
    · exact forwards_of_last hs htask hfetches (by omega)
  | @deliver handle position talk rows hfetches hle =>
    have howes : t.Owes s.fetchSize (some handle) s.task talk
        (rows.map .ok ++ t.itemsOf (t.rows.drop position.toNat)) :=
      htask ▸ .deliver rows hfetches hle
    cases rows with
    | cons row rows =>
      exact forwards_of_deliver hs hlive htask howes (.deliver rows hfetches hle)
    | nil =>
      apply forwards_of_turn (.page handle position)
      · simp only [Stream.next, htask]
      · simp only [Stream.said, htask, List.append_nil]
        exact .page hfetches hle
      · rw [htask]
        simp only [Task.effort, List.length_nil]
        omega
  | @release handle talk hfetches =>
    have hsaid : s.said l = [l.attempt (.closeResultSets [handle])] := by
      simp only [Stream.said, htask]
    apply forwards_of_turn .ended
    · simp only [Stream.next, htask]
    · rw [hsaid]
      exact .ended ⟨talk, _, rfl, hfetches, rfl⟩
    · rw [htask]
      exact Nat.zero_lt_one
  | ended hconversation =>
    have hnext : s.next l = s := by simp only [Stream.next, htask]
    have hsaid : s.said l = [] := by simp only [Stream.said, htask]
    refine ⟨.ended, [], [], ?_, rfl, ?_, .inl ⟨hnext, .inl ?_⟩⟩
    · rw [hnext, Stream.handing_nil, ← htask]
    · rw [hsaid, List.append_nil]
      exact .ended hconversation
    · rw [htask]
      rfl

/-- A producer that is gone does nothing any more. -/
theorem next_of_ended (h : s.task.isEnded = true) : s.next l = s := by
  unfold Stream.next
  cases htask : s.task with
  | ended | overflowed => rfl
  | unpack | page | deliver | report | release =>
    rw [htask] at h
    cases h

end Produce

/-! ## What a consumer finds -/

namespace Reader

variable {r : Reader}

/-- An item is received, and nothing after a fault. -/
theorem receive_of_item {item : Item} {rest : List Item}
    (hfinished : r.stream.isFinished = false) (hqueue : r.stream.queue = item :: rest) :
    r.receive = {
      stream := { r.stream with queue := rest, isFinished := !item.isOk }
      received := r.received ++ [some item] } := by
  cases item <;> simp [receive, Stream.take, hfinished, hqueue, Except.isOk, Except.toBool]

theorem receive_of_finished (hfinished : r.stream.isFinished = true) :
    r.receive = { r with received := r.received ++ [none] } := by
  simp [receive, Stream.take, hfinished]

/-- The end is received when nothing is queued and nothing will be. -/
theorem receive_of_ended (hfinished : r.stream.isFinished = false)
    (hqueue : r.stream.queue = []) (htask : r.stream.task.isEnded = true) :
    r.receive = {
      stream := { r.stream with isFinished := true }
      received := r.received ++ [none] } := by
  simp [receive, Stream.take, hfinished, hqueue, htask]

theorem receive_of_waiting (hfinished : r.stream.isFinished = false)
    (hqueue : r.stream.queue = []) (htask : r.stream.task.isEnded = false) : r.receive = r := by
  simp [receive, Stream.take, hfinished, hqueue, htask]

/-- The consumer waits for an item, or finds the end again, or takes from the effort. -/
theorem effort_receive (r : Reader) :
    (r.receive.stream = r.stream ∧ (r.stream.isFinished = true ∨
        r.stream.queue = [] ∧ r.stream.task.isEnded = false)) ∨
      r.receive.stream.effort < r.stream.effort := by
  cases hfinished : r.stream.isFinished with
  | true =>
    rw [receive_of_finished hfinished]
    exact .inl ⟨rfl, .inl rfl⟩
  | false =>
    cases hqueue : r.stream.queue with
    | cons item rest =>
      rw [receive_of_item hfinished hqueue]
      right
      simp only [Stream.effort, hqueue, hfinished, List.length_cons, Bool.false_eq_true, if_false]
      split <;> omega
    | nil =>
      cases hended : r.stream.task.isEnded with
      | true =>
        rw [receive_of_ended hfinished hqueue hended]
        right
        simp [Stream.effort, hfinished]
      | false =>
        rw [receive_of_waiting hfinished hqueue hended]
        exact .inl ⟨rfl, .inr ⟨rfl, rfl⟩⟩

end Reader

/-! ## What a consumer has seen -/

/--
The items that a consumer has seen, those in the queue and those that are still owed
are the rows of a table. All it finds after them is the end, so many times.
-/
structure Table.Reads (t : Table) (size : UInt64) (handle? : Option Int64) (talk : List Attempt)
    (r : Reader) (seen pending : List Item) (ends : Nat) : Prop where
  isOf : r.stream.IsOf t
  fetchSize : r.stream.fetchSize = size
  owes : t.Owes r.stream.fetchSize handle? r.stream.task talk pending
  received : r.received = seen.map some ++ List.replicate ends none
  items : seen ++ (r.stream.queue ++ pending) = t.items
  finished : r.stream.isFinished = true ↔ 0 < ends
  exhausted : 0 < ends → r.stream.queue = [] ∧ r.stream.task.isEnded = true

/-- The consumer has seen all rows and then the end, and all that belongs to the table was said. -/
structure Table.Delivered (t : Table) (size : UInt64) (handle? : Option Int64) (talk : List Attempt)
    (r : Reader) : Prop where
  received : ∃ more, r.received = t.items.map some ++ List.replicate (more + 1) none
  conversation : t.Conversation size handle? talk

section Reads

variable {t : Table} {size : UInt64} {r : Reader} {handle? : Option Int64} {talk : List Attempt}
  {seen pending : List Item} {ends : Nat}

/-- A step of the producer keeps the books. -/
theorem Table.Reads.produce [Transport σ] {l : Line σ}
    (h : t.Reads size handle? talk r seen pending ends) (hlive : l.isCancelled = false)
    (hanswers : ∀ handle, handle? = some handle → r.stream.task.isEnded = false →
      t.Answers handle l) :
    (∃ pending', t.Reads size handle? (talk ++ r.stream.said l) { r with stream := r.stream.next l }
      seen pending' ends) ∧
    ((r.stream.next l = r.stream ∧ (r.stream.task.isEnded = true ∨ r.stream.hasRoom = false)) ∨
      (r.stream.next l).effort < r.stream.effort) := by
  obtain ⟨task, given, rest, hnext, rfl, howes, hprogress⟩ := h.owes.forwards h.isOf hlive hanswers
  refine ⟨⟨rest, ?_, ?_, ?_, h.received, ?_, ?_, fun hends => ?_⟩, hprogress⟩
  · rw [hnext]
    exact ⟨h.isOf.columns, h.isOf.totalRows, h.isOf.uncancelled, h.isOf.undropped⟩
  · rw [hnext]
    exact h.fetchSize
  · rw [hnext]
    exact howes
  · rw [hnext, ← h.items]
    exact congrArg (seen ++ ·) (List.append_assoc _ _ _)
  · rw [hnext]
    exact h.finished
  · rw [next_of_ended (h.exhausted hends).2]
    exact h.exhausted hends

/-- What is owed when the producer has ended. -/
theorem Table.Owes.of_ended {task : Task} (h : t.Owes size handle? task talk pending)
    (hended : task.isEnded = true) : pending = [] ∧ t.Conversation size handle? talk := by
  cases h with
  | ended hconversation => exact ⟨rfl, hconversation⟩
  | unpack | inline | page | deliver | release => cases hended

/-- Taking an item keeps the books. -/
theorem Table.Reads.receive (h : t.Reads size handle? talk r seen pending ends) :
    ∃ seen' ends', t.Reads size handle? talk r.receive seen' pending ends' := by
  cases hfinished : r.stream.isFinished with
  | true =>
    have hends := h.finished.1 hfinished
    rw [Reader.receive_of_finished hfinished]
    refine ⟨seen, ends + 1, h.isOf, h.fetchSize, h.owes, ?_, h.items, ?_, fun _ => ?_⟩
    · rw [h.received, List.append_assoc, List.replicate_succ']
    · exact ⟨fun _ => Nat.succ_pos ends, fun _ => hfinished⟩
    · exact h.exhausted hends
  | false =>
    have hends : ends = 0 := by
      have hnone := mt h.finished.2 (by rw [hfinished]; exact Bool.false_ne_true)
      omega
    subst hends
    cases hqueue : r.stream.queue with
    | cons item rest =>
      have hitems := h.items
      rw [hqueue] at hitems
      have hmem : item ∈ t.items := by
        rw [← hitems]
        exact List.mem_append_right seen List.mem_cons_self
      obtain ⟨row, rfl⟩ := t.isOk_of_mem_items hmem
      rw [Reader.receive_of_item hfinished hqueue]
      refine ⟨seen ++ [.ok row], 0, ?_, h.fetchSize, h.owes, ?_, ?_, ?_, (nomatch ·)⟩
      · exact ⟨h.isOf.columns, h.isOf.totalRows, h.isOf.uncancelled, h.isOf.undropped⟩
      · rw [h.received, List.map_append]
        simp
      · rw [← hitems, List.append_assoc]
        rfl
      · exact ⟨nofun, nofun⟩
    | nil =>
      cases hended : r.stream.task.isEnded with
      | true =>
        rw [Reader.receive_of_ended hfinished hqueue hended]
        refine ⟨seen, 1, ?_, h.fetchSize, h.owes, ?_, h.items, ?_, fun _ => ⟨hqueue, hended⟩⟩
        · exact ⟨h.isOf.columns, h.isOf.totalRows, h.isOf.uncancelled, h.isOf.undropped⟩
        · rw [h.received, List.append_assoc]
          rfl
        · exact ⟨fun _ => Nat.zero_lt_one, fun _ => rfl⟩
      | false =>
        rw [Reader.receive_of_waiting hfinished hqueue hended]
        exact ⟨seen, 0, h⟩

/-- A consumer that has found the end has seen all of the table, and all of it was said. -/
theorem Table.Reads.delivered (h : t.Reads size handle? talk r seen pending ends)
    (hends : 0 < ends) : t.Delivered size handle? talk r := by
  obtain ⟨hqueue, hended⟩ := h.exhausted hends
  have howes := h.owes
  rw [h.fetchSize] at howes
  obtain ⟨rfl, hconversation⟩ := howes.of_ended hended
  have hitems := h.items
  rw [hqueue, List.append_nil, List.append_nil] at hitems
  obtain ⟨more, rfl⟩ := Nat.exists_eq_succ_of_ne_zero (Nat.ne_of_gt hends)
  exact ⟨⟨more, hitems ▸ h.received⟩, hconversation⟩

/-- The consumer has seen the beginning of the table, or all of it and then the end. -/
theorem Table.Reads.begun_or_delivered (h : t.Reads size handle? talk r seen pending ends) :
    r.received <+: t.items.map some ∨ t.Delivered size handle? talk r := by
  rcases Nat.eq_zero_or_pos ends with rfl | hends
  · left
    rw [h.received, ← h.items, List.replicate_zero, List.append_nil, List.map_append]
    exact List.prefix_append _ _
  · right
    exact h.delivered hends

end Reads

/-! ## The stream of a result set -/

/-- A result set of the rows of a table, which come with the reply or are fetched. -/
structure ResultSet.IsOf (rows : ResultSet) (t : Table) : Prop where
  columns : rows.columnNames = t.columns.names
  numRows : rows.numRows.toNat = t.height
  data : rows.openHandle? = none → rows.data = some (t.cells 0 t.height)

/-- The consumer of a result set has seen nothing of it yet. -/
theorem ResultSet.IsOf.reads {rows : ResultSet} {t : Table} (h : rows.IsOf t) (size : UInt64) :
    t.Reads size rows.openHandle? [] { stream := .ofResultSet rows size } [] t.items 0 := by
  have hrows : rows.numRows ≠ 0 := by
    intro hzero
    have hnumRows := h.numRows
    rw [hzero] at hnumRows
    exact t.hasRow (List.eq_nil_of_length_eq_zero hnumRows.symm)
  refine ⟨⟨congrArg Columns.mk h.columns, h.numRows, rfl, rfl⟩, rfl, ?_, rfl, rfl, ?_, ?_⟩
  · cases hopen : rows.openHandle? with
    | some handle =>
      have htask : (Stream.ofResultSet rows size).task = .page handle 0 := by
        simp only [Stream.ofResultSet, if_neg hrows, hopen]
      rw [htask]
      exact .page (.nil 0) (Nat.zero_le _)
    | none =>
      have htask : (Stream.ofResultSet rows size).task = .unpack (t.cells 0 t.height) := by
        simp only [Stream.ofResultSet, if_neg hrows, hopen, h.data hopen, Option.getD_some]
      rw [htask]
      exact .unpack
  · constructor
    · intro hfinished
      cases hfinished
    · intro hends
      cases hends
  · intro hends
    cases hends

end ExasolClient
