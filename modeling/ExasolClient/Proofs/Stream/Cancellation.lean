-- SUMMARY: When a stream that was cancelled can be told from one that is complete.
import ExasolClient.Proofs.Stream.Totals

/-!
# Cancelled streams

The news of a cancellation is the last item of a stream, if the queue has room for it at
the moment when the producer takes notice; otherwise it is dropped, and the stream just
ends. Main statements: if the queue had room, a consumer who has received no fault has
received all rows (`complete_of_heard`); if it had none, the stream of a longer result
set ends as if it were complete (`mistaken_of_full_queue`).
-/

namespace ExasolClient

/-! ## Result sets that are served -/

/-- The rows of a matrix of cells. -/
def Columns.rowsFrom (columns : Columns) (cells : List (List Json)) : List Row :=
  cells.map fun values => { columns, values }

/--
A result set with a column whose rows are served in full: they come with the reply, or
each fetch that brings some brings those from its position on.
-/
structure ResultSet.IsServed (header : ResultSet) (cells : List (List Json))
    (talk : List Attempt) : Prop where
  hasColumn : 0 < header.rowColumns.size
  rectangular : Rectangular header.rowColumns.size cells
  numRows : header.numRows.toNat = cells.length
  sent : header.openHandle? = none → header.numRows ≠ 0 →
    header.data = some (columnsOf header.rowColumns.size cells)
  fetched : ∀ a ∈ talk, ∀ handle position size chunk,
    a.request = .fetch handle position size → a.payload Chunk = .ok chunk →
      position.toNat + chunk.numRows.toNat ≤ cells.length ∧
      chunk.data = columnsOf header.rowColumns.size
        ((cells.drop position.toNat).take chunk.numRows.toNat)

section Served

variable {header : ResultSet} {cells : List (List Json)} {talk : List Attempt} {given : List Row}
  {going : Bool}

/-- The rows of the columns of some cells. -/
theorem Stream.rowsOf_columnsOf {columns : Columns} {part : List (List Json)}
    (h : Rectangular columns.size part) (hcolumn : 0 < columns.size) (hne : part ≠ []) :
    rowsOf columns (columnsOf columns.size part) = columns.rowsFrom part := by
  rw [rowsOf, Table.transpose_columnsOf h hcolumn hne]
  rfl

theorem ResultSet.IsServed.sentRows (h : header.IsServed cells talk) :
    header.sentRows <+: header.rowColumns.rowsFrom cells := by
  unfold ResultSet.sentRows
  cases hopen : header.openHandle? with
  | some handle => exact List.nil_prefix
  | none =>
    dsimp only
    by_cases hfits : Chunk.Fits header.rowColumns ⟨header.numRows, header.data.getD []⟩
    · have hrows : header.numRows ≠ 0 := hfits.nonempty
      have hne : cells ≠ [] := by
        rintro rfl
        exact hrows (UInt64.toNat_inj.1 h.numRows)
      have hall : Chunk.rowsIn header.rowColumns ⟨header.numRows, header.data.getD []⟩ =
          header.rowColumns.rowsFrom cells := by
        rw [hfits.rowsIn, h.sent hopen hrows, Option.getD_some,
          Stream.rowsOf_columnsOf h.rectangular h.hasColumn hne]
      exact hall ▸ List.prefix_refl _
    · rw [Chunk.rowsIn_eq_nil hfits]
      exact List.nil_prefix

theorem ResultSet.IsServed.of_append {more : List Attempt}
    (h : header.IsServed cells (talk ++ more)) : header.IsServed cells talk :=
  { h with fetched := fun a ha => h.fetched a (List.mem_append_left more ha) }

/-- A page behind the first rows holds the next ones. -/
theorem ResultSet.IsServed.page {a : Attempt} {chunk : Chunk} {handle : Int64}
    {position size : UInt64} (h : header.IsServed cells (talk ++ [a]))
    (hgiven : given <+: header.rowColumns.rowsFrom cells)
    (hrequest : a.request = .fetch handle position size)
    (hstart : position.toNat = given.length)
    (hchunk : a.chunk? = some chunk) (hfits : chunk.Fits header.rowColumns) :
    given ++ Stream.rowsOf header.rowColumns chunk.data <+: header.rowColumns.rowsFrom cells := by
  have hpayload : a.payload Chunk = .ok chunk := by
    refine (Attempt.chunk?_eq_some_iff ?_).1 hchunk
    rw [hrequest]
    rfl
  obtain ⟨hle, hdata⟩ := h.fetched a (List.mem_append_right talk List.mem_cons_self) handle position
    size chunk hrequest hpayload
  rw [hstart] at hle hdata
  have hcount : 0 < chunk.numRows.toNat := by
    refine Nat.pos_of_ne_zero fun hzero => hfits.nonempty ?_
    exact UInt64.toNat_inj.1 hzero
  have hpart :
      ((cells.drop given.length).take chunk.numRows.toNat).length = chunk.numRows.toNat := by
    rw [List.length_take, List.length_drop]
    omega
  have hne : (cells.drop given.length).take chunk.numRows.toNat ≠ [] :=
    List.length_pos_iff.1 (hpart.symm ▸ hcount)
  have hrect : Rectangular header.rowColumns.size
      ((cells.drop given.length).take chunk.numRows.toNat) := fun values hvalues =>
    h.rectangular values (List.mem_of_mem_drop (List.mem_of_mem_take hvalues))
  rw [hdata, Stream.rowsOf_columnsOf hrect h.hasColumn hne]
  obtain ⟨rest, hrest⟩ := hgiven
  have hnext : header.rowColumns.rowsFrom ((cells.drop given.length).take chunk.numRows.toNat) =
      rest.take chunk.numRows.toNat := by
    have hdrop : (header.rowColumns.rowsFrom cells).drop given.length = rest := by
      rw [← hrest, List.drop_left]
    rw [← hdrop, Columns.rowsFrom, Columns.rowsFrom, List.map_take, List.map_drop]
  rw [hnext, ← hrest]
  exact (List.prefix_append_right_inj given).2 (List.take_prefix _ _)

/-- Whatever is fetched of a result set that is served is the first of its rows. -/
theorem ResultSet.Fetched.begins (h : header.Fetched talk given going)
    (hserved : header.IsServed cells talk) : given <+: header.rowColumns.rowsFrom cells := by
  induction h with
  | nil => exact hserved.sentRows
  | page _ hrequest hposition hchunk hfits ih =>
    exact hserved.page (ih hserved.of_append) hrequest (hposition hserved.hasColumn) hchunk hfits
  | refused _ _ ih | aside _ _ ih => exact ih hserved.of_append

end Served

/-! ## Cancellations that are heard -/

/-- If the producer finds in this turn that it is cancelled, the queue has room for the news. -/
def Reader.HeardIn (r : Reader) : Turn σ → Prop
  | .produce c => r.stream.task.item?.isSome = true →
    (c.isCancelled || r.stream.isCancelled) = true → r.stream.hasRoom = true
  | .handOver | .receive | .cancel | .drop => True

instance {r : Reader} : (turn : Turn σ) → Decidable (r.HeardIn turn)
  | .produce _ => inferInstanceAs (Decidable (_ → _ → _))
  | .handOver | .receive | .cancel | .drop => .isTrue trivial

/-- The items that a consumer has received. -/
def Reader.items (r : Reader) : List Item := r.received.filterMap id

section Heard

variable [Transport σ] {r : Reader} {turns : List (Turn σ)}

/-- A stream that nobody leaves is not cut short without the news of it, if that has room. -/
theorem Reader.uncut_of_heard (h : r.Throughout Reader.HeardIn turns) (hdrop : .drop ∉ turns)
    (hdropped : r.stream.isDropped = false) :
    r.Throughout (fun r turn => ¬r.CutIn turn false) turns := by
  induction turns generalizing r with
  | nil => trivial
  | cons turn turns ih =>
    have hturn : turn ≠ .drop := fun hturn => hdrop (hturn ▸ List.mem_cons_self)
    refine ⟨?_, ih h.2 (fun hmem => hdrop (List.mem_cons_of_mem turn hmem)) ?_⟩
    · rintro ⟨_, rfl, hcut⟩
      have hroom : r.stream.hasRoom = true := h.1 hcut.item hcut.cancelled
      have htold := hcut.told
      rw [hroom, hdropped] at htold
      cases htold
    · rw [r.isDropped_after hturn, hdropped]

end Heard

theorem Connection.collect_rows (rows : List Row) :
    collect (rows.map (Except.ok : Row → Item)) = .ok rows := by
  induction rows with
  | nil => rfl
  | cons row rows ih =>
    unfold collect at ih ⊢
    rw [List.map_cons, List.mapM_cons, ih]
    rfl

theorem Connection.collect_fault (rows : List Row) (fault : Fault) :
    collect (rows.map (Except.ok : Row → Item) ++ [.error fault]) = .error fault := by
  induction rows with
  | nil => rfl
  | cons row rows ih =>
    unfold collect at ih ⊢
    rw [List.map_cons, List.cons_append, List.mapM_cons, ih]
    rfl

/--
A stream whose cancellation is heard is not mistaken for a complete one: if its consumer
has come to the end without a fault, all rows of the result set were received, and if
the items can be collected, they are all of its rows.
-/
theorem complete_of_heard [Transport σ] (header : ResultSet) (cells : List (List Json))
    (size : UInt64) (turns : List (Turn σ))
    (hserved : header.IsServed cells ((header.opened size).said turns))
    (hheard : (header.opened size).Throughout Reader.HeardIn turns) (hdrop : .drop ∉ turns)
    (hend : ((header.opened size).run turns).stream.isFinished = true) :
    (((header.opened size).run turns).fault? = none →
      ((header.opened size).run turns).rows = header.rowColumns.rowsFrom cells) ∧
    ∀ rows, Connection.collect ((header.opened size).run turns).items = .ok rows →
      rows = header.rowColumns.rowsFrom cells := by
  obtain ⟨given, fate, seen, ends, hbooks, hcut⟩ := header.books_of_run size turns
  have hdropped : ((header.opened size).run turns).stream.isDropped = false :=
    (header.opened size).isDropped_run hdrop
  obtain ⟨hseen, hclosed⟩ := hbooks.settled hend hdropped
  have hitems : ((header.opened size).run turns).items = handed given fate := by
    rw [Reader.items, hbooks.received, hseen]
    simp
  rw [hbooks.fault?_eq hseen, hbooks.rows_eq hseen, hitems, handed]
  have hfailed {fault : Fault} (hnews : fate.news? = some fault) :
      (fate.news? = none → given = header.rowColumns.rowsFrom cells) ∧
      ∀ rows, Connection.collect (given.map .ok ++ fate.news?.toList.map .error) = .ok rows →
        rows = header.rowColumns.rowsFrom cells := by
    rw [hnews]
    refine ⟨fun hnone => absurd hnone (Option.some_ne_none fault), fun rows hrows => ?_⟩
    rw [Option.toList_some, List.map_singleton, Connection.collect_fault] at hrows
    cases hrows
  cases hclosed with
  | whole hfetched hreaches =>
    have hall : given = header.rowColumns.rowsFrom cells := by
      refine (hfetched.begins hserved).eq_of_length_le ?_
      rw [Columns.rowsFrom, List.length_map, ← hserved.numRows]
      exact hreaches hserved.hasColumn
    refine ⟨fun _ => hall, fun rows hrows => ?_⟩
    rw [Fate.news?, Option.toList_none, List.map_nil, List.append_nil,
      Connection.collect_rows] at hrows
    cases hrows
    exact hall
  | failed _ => exact hfailed rfl
  | overflowed hfetched _ hoverflows =>
    -- So many rows are more than there can be.
    have hle := (hfetched.begins hserved).length_le
    rw [Columns.rowsFrom, List.length_map, ← hserved.numRows] at hle
    have hsize := Nat.le_trans (hoverflows.size_le hserved.hasColumn) hle
    exact absurd header.numRows.toNat_lt_size (Nat.not_lt_of_le hsize)
  | @cut _ _ told _ _ =>
    cases told with
    | true => exact hfailed rfl
    | false => exact absurd (Reader.uncut_of_heard hheard hdrop rfl) (hcut false rfl)

/-! ## A cancellation that is not heard -/

section Unheard

variable [Transport σ]

/-- As long as the queue has room for them, rows in hand are delivered one by one. -/
theorem Reader.run_deliver (r : Reader) (c : Connection σ) (rows rest : List Row)
    (next : Option (Int64 × UInt64)) (htask : r.stream.task = .deliver (rows ++ rest) next)
    (hlive : c.isCancelled = false) (hcancelled : r.stream.isCancelled = false)
    (hdropped : r.stream.isDropped = false)
    (hroom : r.stream.queue.length + rows.length ≤ queueCapacity) :
    r.run (List.replicate rows.length (.produce c)) =
      { r with stream := r.stream.handing (.deliver rest next) (rows.map .ok) } := by
  induction rows generalizing r with
  | nil =>
    rw [List.map_nil, Stream.handing_nil]
    exact congrArg (fun task => { r with stream := { r.stream with task := task } }) htask
  | cons row rows ih =>
    rw [List.length_cons] at hroom
    have hhasRoom : r.stream.hasRoom = true := by
      simp only [Stream.hasRoom, decide_eq_true_eq]
      omega
    have hitem : r.stream.task.item? = some (.ok row) := by
      rw [htask]
      rfl
    have hafter : r.after (.produce c) =
        { r with stream := r.stream.handing (.deliver (rows ++ rest) next) [.ok row] } := by
      rw [after_produce, Stream.next_of_item hitem, Stream.delivered_of_live _ hdropped,
        if_pos hhasRoom, htask]
      · rfl
      · rw [hcancelled, Bool.or_false]
        exact hlive
    have hrest := ih (r.after (.produce c)) (by rw [hafter]; rfl) (by rw [hafter]; exact hcancelled)
      (by rw [hafter]; exact hdropped) (by
        rw [hafter]
        simp only [Stream.handing, List.length_append, List.length_singleton]
        omega)
    rw [List.length_cons, List.replicate_succ]
    refine hrest.trans ?_
    rw [hafter]
    simp [Stream.handing]

/-- Rows in the queue are received one by one. -/
theorem Reader.run_receive (r : Reader) (rows : List Row) (rest : List Item)
    (hqueue : r.stream.queue = rows.map .ok ++ rest) (hfinished : r.stream.isFinished = false) :
    r.run (List.replicate rows.length (.receive : Turn σ)) = {
      stream := { r.stream with queue := rest }
      received := r.received ++ rows.map (some <| .ok ·) } := by
  induction rows generalizing r with
  | nil =>
    rw [List.map_nil, List.append_nil]
    exact congrArg (fun queue => { r with stream := { r.stream with queue := queue } }) hqueue
  | cons row rows ih =>
    have hafter := receive_of_item hfinished hqueue
    have hrest := ih r.receive (by rw [hafter]; rfl) (by rw [hafter]; rfl)
    rw [List.length_cons, List.replicate_succ]
    refine hrest.trans ?_
    rw [hafter]
    simp [hfinished, Except.isOk, Except.toBool]

/--
A producer that fills its queue and then finds the connection cancelled gives up, and
has no room to tell. The consumer receives what is in the queue, and then the end.
-/
theorem Reader.run_unheard (r : Reader) (c : Connection σ) (rows : List Row) (row : Row)
    (rest : List Row) (htask : r.stream.task = .deliver (rows ++ row :: rest) none)
    (hqueue : r.stream.queue = []) (hfull : rows.length = queueCapacity)
    (hlive : c.isCancelled = false) (hcancelled : r.stream.isCancelled = false)
    (hdropped : r.stream.isDropped = false) (hfinished : r.stream.isFinished = false) :
    r.run (List.replicate rows.length (.produce c) ++
        .produce { c with isCancelled := true } :: List.replicate (rows.length + 1) .receive) = {
      stream := { r.stream with task := .ended, queue := [], isFinished := true }
      received := r.received ++ rows.map (some <| .ok ·) ++ [none] } := by
  have hfilled := r.run_deliver c rows (row :: rest) none htask hlive hcancelled hdropped <| by
    rw [hqueue, hfull]
    exact Nat.le_of_eq (Nat.zero_add _)
  obtain ⟨s, hs⟩ : ∃ s, s = r.stream.handing (.deliver (row :: rest) none) (rows.map .ok) :=
    ⟨_, rfl⟩
  have hqueue' : s.queue = rows.map .ok := by
    rw [hs, Stream.handing, hqueue, List.nil_append]
  have hroom : s.hasRoom = false := by
    rw [Stream.hasRoom, hqueue', List.length_map, hfull]
    rfl
  have hitem : s.task.item? = some (.ok row) := by
    rw [hs]
    rfl
  -- The queue is full, so that there is no room for the news either.
  have hcut : s.next { c with isCancelled := true }.line = s.handing .ended [] := by
    obtain ⟨told, hdelivered, htold⟩ := Stream.delivered_of_cancelled (.ok row) s.task.afterItem
      (.releasing s.task.handle?) (s := s) (Bool.true_or s.isCancelled)
    rw [hroom, Bool.false_and] at htold
    have hline : ({ c with isCancelled := true } : Connection σ).line.isCancelled = true := rfl
    rw [Stream.next_of_item hitem, hline, hdelivered, htold, hs]
    rfl
  have hread := Reader.run_receive (σ := σ) { r with stream := s.handing .ended [] } rows []
    (by rw [List.append_nil, ← hqueue']; exact List.append_nil _) (by rw [hs]; exact hfinished)
  rw [run_append, hfilled, ← hs, run_cons, after_produce, hcut, List.replicate_succ', run_append,
    hread, hs]
  simp [run, after, receive, Stream.take, Stream.handing, hfinished, Task.isEnded]

/-- The producer fills the queue, the connection is cancelled, and only then the consumer reads. -/
def lateReading (c : Connection σ) : List (Turn σ) :=
  List.replicate (queueCapacity + 1) (.produce c) ++
    .produce { c with isCancelled := true } :: List.replicate (queueCapacity + 1) .receive

omit [Transport σ] in
theorem drop_not_mem_lateReading (c : Connection σ) : .drop ∉ lateReading c := by
  unfold lateReading
  simp only [List.mem_append, List.mem_cons, List.mem_replicate]
  rintro (⟨-, h⟩ | h | ⟨-, h⟩) <;> cases h

/-- Cells that came with the reply and are served in full become rows in hand. -/
theorem ResultSet.IsServed.unpacked {header : ResultSet} {cells : List (List Json)}
    (c : Connection σ) (h : header.IsServed cells []) (hopen : header.openHandle? = none)
    (hne : cells ≠ []) (size : UInt64) :
    (header.opened size).after (.produce c) = { header.opened size with
      stream := (header.opened size).stream.handing
        (.deliver (header.rowColumns.rowsFrom cells) none) [] } := by
  have hrows : header.numRows ≠ 0 := by
    intro hzero
    have hlength := h.numRows
    rw [hzero] at hlength
    exact hne (List.length_eq_zero_iff.1 hlength.symm)
  have htask : (header.opened size).stream.task =
      .unpack (columnsOf header.rowColumns.size cells) := by
    simp only [opened, Stream.ofResultSet, if_neg hrows, hopen, h.sent hopen hrows,
      Option.getD_some]
  have hshape : Stream.checkShape header.rowColumns (columnsOf header.rowColumns.size cells)
      header.numRows = .ok () := by
    refine Stream.checkShape_eq_ok_iff.2 ⟨length_columnsOf _ _, ?_⟩
    rw [h.numRows]
    exact rectangular_columnsOf h.rectangular
  have hunpacked : (header.opened size).stream.unpacked (columnsOf header.rowColumns.size cells) =
      .deliver (header.rowColumns.rowsFrom cells) none := by
    rw [← Stream.rowsOf_columnsOf h.rectangular h.hasColumn hne]
    unfold Stream.unpacked
    rw [show (header.opened size).stream.columns = header.rowColumns from rfl,
      show (header.opened size).stream.totalRows = header.numRows from rfl, hshape]
  rw [Reader.after_produce, Stream.handing_nil]
  simp only [Stream.next, htask, hunpacked]

/--
Where more rows come with the reply than the queue has room for, a cancellation that
finds the queue full is not heard: the consumer receives the rows in the queue and then
the end, as from a complete stream.
-/
theorem mistaken_of_full_queue (header : ResultSet) (cells : List (List Json)) (size : UInt64)
    (c : Connection σ) (hserved : header.IsServed cells []) (hopen : header.openHandle? = none)
    (hlive : c.isCancelled = false) (hlong : queueCapacity < cells.length) :
    let r := (header.opened size).run (lateReading c)
    r.stream.isFinished = true ∧ (∀ fault, .error fault ∉ r.items) ∧
      ∃ rows, Connection.collect r.items = .ok rows ∧ rows.length = queueCapacity ∧
        rows ≠ header.rowColumns.rowsFrom cells := by
  have hne : cells ≠ [] := List.length_pos_iff.1 (Nat.lt_of_le_of_lt (Nat.zero_le _) hlong)
  obtain ⟨first, row, rest, hsplit, hlength⟩ : ∃ first row rest,
      header.rowColumns.rowsFrom cells = first ++ row :: rest ∧ first.length = queueCapacity := by
    refine ⟨header.rowColumns.rowsFrom (cells.take queueCapacity),
      ⟨header.rowColumns, cells[queueCapacity]⟩,
      header.rowColumns.rowsFrom (cells.drop (queueCapacity + 1)), ?_, ?_⟩
    · rw [Columns.rowsFrom, Columns.rowsFrom, Columns.rowsFrom, ← List.map_cons,
        ← List.map_append, ← List.drop_eq_getElem_cons hlong, List.take_append_drop]
    · rw [Columns.rowsFrom, List.length_map, List.length_take]
      exact Nat.min_eq_left (Nat.le_of_lt hlong)
  have hunpacked := hserved.unpacked c hopen hne size
  have hturns : (lateReading c : List (Turn σ)) =
      .produce c :: (List.replicate first.length (.produce c) ++
        .produce { c with isCancelled := true } :: List.replicate (first.length + 1) .receive) := by
    rw [lateReading, List.replicate_succ, hlength]
    rfl
  rw [hsplit] at hunpacked ⊢
  rw [hturns, Reader.run_cons, hunpacked,
    Reader.run_unheard _ c first row rest rfl rfl hlength hlive rfl rfl rfl]
  intro r
  have hitems : r.items = first.map .ok := by
    simp [r, Reader.items, ResultSet.opened]
  refine ⟨rfl, fun fault => ?_, first, ?_, hlength, ?_⟩
  · rw [hitems]
    exact not_error_mem_rows
  · rw [hitems]
    exact Connection.collect_rows first
  · simp

end Unheard

/-! ## Rows that come with the reply -/

section Sent

open Connection Rehearsal

/-- The cells of so many rows of one column. -/
def countedCells (count : Nat) : List (List Json) := (List.range count).map fun n : Nat => [.int n]

/-- A result set of so many rows of one column, all of which come with the reply. -/
def countedRows (count : Nat) : ResultSet where
  numRows := .ofNat count
  columns := oneColumn
  data := some (columnsOf 1 (countedCells count))

theorem isServed_countedRows [Transport σ] (count : Nat) (h : count < UInt64.size) (size : UInt64)
    (turns : List (Turn σ)) :
    (countedRows count).IsServed (countedCells count)
      (((countedRows count).opened size).said turns) where
  hasColumn := Nat.zero_lt_one
  rectangular values hvalues := by
    obtain ⟨n, -, rfl⟩ := List.mem_map.1 hvalues
    rfl
  numRows := by
    rw [countedCells, List.length_map, List.length_range]
    exact UInt64.toNat_ofNat_of_lt' h
  sent _ _ := rfl
  fetched a ha := by
    -- Nothing is fetched, since there is no handle to talk about.
    obtain ⟨handle, hhandle, -⟩ := ((countedRows count).opened size).says_said turns a ha
    have hnone : ((countedRows count).opened size).stream.task.handle? = none := by
      simp only [ResultSet.opened, Stream.ofResultSet]
      split <;> rfl
    rw [hnone] at hhandle
    cases hhandle

/-- A cancellation that comes too late: all rows are in the queue. -/
def lateCancellation : List (Turn Server) :=
  List.replicate 4 (.produce (rehearsed [])) ++
    .cancel :: .produce { rehearsed [] with isCancelled := true } :: List.replicate 3 .receive

theorem complete_of_late_cancellation :
    (countedRows 2).IsServed (countedCells 2)
      (((countedRows 2).opened 1024).said lateCancellation) ∧
    ((countedRows 2).opened 1024).Throughout Reader.HeardIn lateCancellation ∧
    (((countedRows 2).opened 1024).run lateCancellation).stream.isFinished = true ∧
    (((countedRows 2).opened 1024).run lateCancellation).rows =
      [⟨⟨["C0"]⟩, [.int 0]⟩, ⟨⟨["C0"]⟩, [.int 1]⟩] := by
  have hserved := isServed_countedRows 2 (by decide) 1024 lateCancellation
  have hheard : ((countedRows 2).opened 1024).Throughout Reader.HeardIn lateCancellation := by
    decide +kernel
  have hend : (((countedRows 2).opened 1024).run lateCancellation).stream.isFinished = true := by
    decide +kernel
  refine ⟨hserved, hheard, hend, ?_⟩
  refine (complete_of_heard _ _ 1024 lateCancellation hserved hheard ?_ hend).1 (by rfl)
  simp [lateCancellation]

/--
Of fifteen hundred rows that came with the reply a consumer may receive what the queue
has room for, and then the end, if the connection is cancelled while the queue is full.
-/
theorem mistaken_for_complete :
    (countedRows 1500).IsServed (countedCells 1500)
      (((countedRows 1500).opened 1024).said (lateReading (rehearsed []))) ∧
    .drop ∉ lateReading (rehearsed []) ∧
    let r := ((countedRows 1500).opened 1024).run (lateReading (rehearsed []))
    r.stream.isFinished = true ∧ (∀ fault, .error fault ∉ r.items) ∧
      ∃ rows, collect r.items = .ok rows ∧ rows.length = queueCapacity ∧
        rows ≠ (countedRows 1500).rowColumns.rowsFrom (countedCells 1500) := by
  have hserved (turns : List (Turn Server)) : (countedRows 1500).IsServed (countedCells 1500)
      (((countedRows 1500).opened 1024).said turns) :=
    isServed_countedRows 1500 (by decide) 1024 turns
  have hlong : queueCapacity < (countedCells 1500).length := by
    rw [countedCells, List.length_map, List.length_range]
    decide
  exact ⟨hserved _, drop_not_mem_lateReading _,
    mistaken_of_full_queue (countedRows 1500) _ 1024 (rehearsed []) (hserved []) rfl rfl hlong⟩

end Sent

end ExasolClient
