-- SUMMARY: What a stream still delivers once nothing can be fetched any more.
import ExasolClient.Proofs.Client.Standstill
import ExasolClient.Proofs.Stream.Progress

/-!
# Stranded streams

A stream outlives the close of its connection. Its producer delivers what it has in hand all
the same; if rows are then still to be fetched, the fetch is refused, and the consumer is told
so. What a producer has left to hand over is a function of what it does next
(`Stream.leftover`), so that all a consumer sees of the stream is settled when the connection
is closed (`Reader.whole`). Main statement: in every schedule a consumer receives the first of
these items and nothing else, and in a fair schedule it receives all of them
(`Client.Strands.collects`).
-/

namespace ExasolClient

/-! ## What is left to hand over -/

/-- With this fault a fetch fails over a closed connection. -/
def fetchRefused : Fault := .context "Unable to fetch" .closed

/-- What comes of the rows from a position on: if there are any, the news that they are refused. -/
def Stream.refusal (s : Stream) (position : UInt64) : List Item :=
  if position < s.totalRows then [.error fetchRefused] else []

/-- What a producer with this task still hands over when nothing can be fetched any more. -/
def Stream.leftoverAt (s : Stream) : Task → List Item
  | .unpack data => match checkShape s.columns data s.totalRows with
    | .ok () => (rowsOf s.columns data).map .ok
    | .error fault => [.error fault]
  | .page _ position => s.refusal position
  | .deliver rows none => rows.map .ok
  | .deliver rows (some (_, position)) => rows.map .ok ++ s.refusal position
  | .report fault _ => [.error fault]
  | .release _ | .ended | .overflowed _ => []

/-- What the producer of a stream still hands over when nothing can be fetched any more. -/
def Stream.leftover (s : Stream) : List Item := s.leftoverAt s.task

/-- The producer has to fetch more rows than it has in hand. -/
def Stream.needsFetch (s : Stream) : Bool :=
  match s.task with
  | .page _ position | .deliver _ (some (_, position)) => position < s.totalRows
  | _ => false

section Leftover

variable {task : Task} {item : Item}

/-- Where more rows are needed, the refusal is the last thing that is left. -/
theorem Stream.leftover_of_needsFetch {s : Stream} (h : s.needsFetch = true) :
    ∃ rows : List Row, s.leftover = rows.map .ok ++ [.error fetchRefused] := by
  have hrefusal {position : UInt64} (hmore : decide (position < s.totalRows) = true) :
      s.refusal position = [.error fetchRefused] := if_pos (of_decide_eq_true hmore)
  unfold needsFetch at h
  unfold leftover
  split at h
  next handle position htask =>
    rw [htask]
    exact ⟨[], hrefusal h⟩
  next rows handle position htask =>
    rw [htask, leftoverAt, hrefusal h]
    exact ⟨rows, rfl⟩
  next => cases h

theorem Stream.leftoverAt_releasing (s : Stream) (handle? : Option Int64) :
    s.leftoverAt (.releasing handle?) = [] := by
  cases handle? <;> rfl

/-- The item in hand is the first one that is left. -/
theorem Stream.leftoverAt_of_item (s : Stream) (h : task.item? = some item) :
    s.leftoverAt task = item :: s.leftoverAt task.afterItem := by
  cases task with
  | deliver rows next =>
    cases rows with
    | nil => cases h
    | cons row rows =>
      cases h
      cases next <;> rfl
  | report fault handle? =>
    cases h
    exact congrArg (.error fault :: ·) (s.leftoverAt_releasing handle?).symm
  | unpack | page | release | ended | overflowed => cases h

/-- Cells are left as the rows that they make, or as the complaint about their shape. -/
theorem Stream.leftoverAt_unpacked (s : Stream) (data : Cells) :
    s.leftoverAt (s.unpacked data) = s.leftoverAt (.unpack data) := by
  unfold unpacked
  cases hshape : checkShape s.columns data s.totalRows with
  | ok _ => simp [leftoverAt, hshape]
  | error fault => simp [leftoverAt, hshape]

/-- Cells that pass the check of their shape make no more rows than they should. -/
theorem Stream.length_rowsOf_le {columns : Columns} {data : Cells} {rows : UInt64}
    (h : checkShape columns data rows = .ok ()) : (rowsOf columns data).length ≤ rows.toNat := by
  obtain ⟨-, hrectangular⟩ := checkShape_eq_ok_iff.1 h
  cases data with
  | nil => exact Nat.zero_le _
  | cons column data =>
    have hwidth := width_eq hrectangular (List.cons_ne_nil column data)
    apply Nat.le_of_eq
    rw [rowsOf, List.length_map, transpose, hwidth, length_columnsOf]

/-- Where rows came with the reply, it takes less effort to deliver them than to check them. -/
theorem Stream.effort_unpacked_lt {s : Stream} (hrows : s.totalRows ≠ 0) (data : Cells) :
    (s.unpacked data).effort s.totalRows.toNat < 2 * s.totalRows.toNat + 2 := by
  have hpos : 0 < s.totalRows.toNat :=
    Nat.pos_of_ne_zero fun hzero => hrows (UInt64.toNat_inj.1 hzero)
  unfold unpacked
  cases hshape : checkShape s.columns data s.totalRows with
  | ok _ =>
    have hlength := length_rowsOf_le hshape
    simp only [Task.effort]
    omega
  | error fault =>
    simp only [Task.effort]
    omega

end Leftover

/-! ## Steps of the producer -/

/--
A step of the producer hands over the first of what is left and keeps the rest. The producer
waits, or takes from the effort.
-/
def Stream.Depletes [Transport σ] (s : Stream) (l : Line σ) : Prop :=
  ∃ task given, s.next l = s.handing task given ∧
    s.leftover = given ++ (s.handing task given).leftover ∧
    ((s.next l = s ∧ (s.task.isEnded = true ∨ s.hasRoom = false)) ∨ (s.next l).effort < s.effort)

section Depletes

variable [Transport σ] {s : Stream} {l : Line σ}

/-- A step that hands nothing over: the producer goes on with something else. -/
theorem Stream.depletes_of_turn {task task' : Task} (htask : s.task = task)
    (hnext : s.next l = { s with task := task' })
    (hleft : s.leftoverAt task = s.leftoverAt task')
    (heffort : task'.effort s.totalRows.toNat < task.effort s.totalRows.toNat) :
    s.Depletes l := by
  subst htask
  rw [← s.handing_nil task'] at hnext
  refine ⟨task', [], hnext, hleft, .inr ?_⟩
  rw [hnext]
  exact effort_handing_lt heffort

/-- A producer that waits hands nothing over. -/
theorem Stream.depletes_of_same (hnext : s.next l = s)
    (hwaits : s.task.isEnded = true ∨ s.hasRoom = false) : s.Depletes l :=
  ⟨s.task, [], hnext.trans (s.handing_nil s.task).symm, rfl, .inl ⟨hnext, hwaits⟩⟩

/-- With an item in hand the producer hands it over, or waits. -/
theorem Stream.depletes_of_item {item : Item} (hitem : s.task.item? = some item)
    (hlive : (l.isCancelled || s.isCancelled) = false) (hdropped : s.isDropped = false) :
    s.Depletes l := by
  have hnext := (next_of_item hitem l).trans (delivered_of_live hlive hdropped)
  cases hroom : s.hasRoom with
  | false =>
    rw [hroom] at hnext
    exact depletes_of_same hnext (.inr hroom)
  | true =>
    rw [hroom] at hnext
    refine ⟨s.task.afterItem, [item], hnext, s.leftoverAt_of_item hitem, .inr ?_⟩
    have hless := s.task.effort_of_item hitem s.totalRows.toNat
    exact hnext ▸ effort_handing_lt hless

/-- Over a closed line a fetch is refused. -/
theorem Stream.fetched_of_closed (s : Stream) (handle : Int64) (position : UInt64)
    (hclosed : l.isOpen = false) (hlive : l.isCancelled = false) :
    s.fetched handle position ((l.attempt (.fetch handle position s.fetchSize)).payload Chunk) =
      .report fetchRefused none := by
  have hrefusal : l.refusal = .closed := by
    unfold Line.refusal
    rw [hlive]
    rfl
  have hrefused := (Line.IsSilent.attempt (.inr hclosed) (.fetch handle position s.fetchSize)).1
  rw [hrefused.payload Chunk, hrefusal]
  rfl

/-- A fetch that is needed is refused, and where none is needed the result set is released. -/
theorem Stream.depletes_of_page {handle : Int64} {position : UInt64}
    (htask : s.task = .page handle position) (hclosed : l.isOpen = false)
    (hlive : l.isCancelled = false) : s.Depletes l := by
  by_cases hmore : position < s.totalRows
  · have hnext : s.next l = { s with task := .report fetchRefused none } := by
      simp only [next, htask, hmore, if_true, s.fetched_of_closed handle position hclosed hlive]
    apply depletes_of_turn htask hnext (if_pos hmore)
    have hless := UInt64.lt_iff_toNat_lt.1 hmore
    simp only [Task.effort]
    omega
  · have hnext : s.next l = { s with task := .release handle } := by
      simp only [next, htask, hmore, if_false]
    apply depletes_of_turn htask hnext (if_neg hmore)
    simp only [Task.effort]
    omega

/-- Over a closed line every step of a producer is about what is left. -/
theorem Stream.depletes (s : Stream) (hclosed : l.isOpen = false)
    (hlive : (l.isCancelled || s.isCancelled) = false) (hdropped : s.isDropped = false)
    (hunpack : ∀ data, s.task = .unpack data → s.totalRows ≠ 0) : s.Depletes l := by
  cases hitem : s.task.item? with
  | some item => exact depletes_of_item hitem hlive hdropped
  | none =>
    -- Without an item in hand the queue stays as it is, and only the task changes.
    have hnext := next.eq_def s l
    cases htask : s.task with
    | unpack data =>
      rw [htask] at hnext
      exact depletes_of_turn htask hnext (s.leftoverAt_unpacked data).symm
        (effort_unpacked_lt (hunpack data htask) data)
    | page handle position => exact depletes_of_page htask hclosed (Bool.or_eq_false_iff.1 hlive).1
    | deliver rows next =>
      rw [htask] at hitem hnext
      cases rows with
      | cons row rows => cases hitem
      | nil =>
        cases next with
        | none => exact depletes_of_turn htask hnext rfl Nat.zero_lt_one
        | some next =>
          refine depletes_of_turn htask hnext rfl ?_
          simp only [Task.effort, List.length_nil]
          omega
    | report fault handle? =>
      rw [htask] at hitem
      cases hitem
    | release handle =>
      rw [htask] at hnext
      exact depletes_of_turn htask hnext rfl Nat.zero_lt_one
    | ended | overflowed =>
      have hended : s.task.isEnded = true := congrArg Task.isEnded htask
      exact depletes_of_same (next_of_ended hended) (.inl hended)

end Depletes

/-! ## What a consumer sees -/

/-- All that a consumer has seen of a stream, or will see when nothing can be fetched any more. -/
def Reader.whole (r : Reader) : List Item :=
  r.received.filterMap id ++ (r.stream.queue ++ r.stream.leftover)

/-- The books of a stream are kept, whatever its result set is. -/
def Reader.HasBooks (r : Reader) : Prop :=
  ∃ header talk given fate seen ends, r.Books header talk given fate seen ends

/-- The consumer has no part in what is left. -/
theorem Stream.leftover_take (s : Stream) : s.take.2.leftover = s.leftover := by
  obtain ⟨queue, isFinished, htake⟩ := s.take_eq
  rw [htake]
  rfl

/-- Whoever asks for an item receives the first that is queued. -/
theorem Reader.received_queue (r : Reader) :
    r.receive.received.filterMap id ++ r.receive.stream.queue =
      r.received.filterMap id ++ r.stream.queue := by
  cases hfinished : r.stream.isFinished with
  | true => simp [receive_of_finished hfinished]
  | false =>
    cases hqueue : r.stream.queue with
    | cons item rest => simp [receive_of_item hfinished hqueue]
    | nil =>
      cases hended : r.stream.task.isEnded with
      | true => simp [receive_of_ended hfinished hqueue hended, hqueue]
      | false => rw [receive_of_waiting hfinished hqueue hended, hqueue]

theorem Reader.whole_receive (r : Reader) : r.receive.whole = r.whole := by
  have hleft : r.receive.stream.leftover = r.stream.leftover := by
    rw [r.stream_receive, r.stream.leftover_take]
  unfold whole
  rw [← List.append_assoc, r.received_queue, hleft, List.append_assoc]

/-- What a consumer has received is not taken back. -/
theorem Reader.received_prefix (r : Reader) : r.received <+: r.receive.received := by
  unfold receive
  rcases r.stream.take with ⟨_ | _ | _, s⟩
  · exact List.prefix_append _ _
  · exact List.prefix_append _ _
  · exact List.prefix_refl _

theorem Stream.Depletes.whole [Transport σ] {l : Line σ} {r : Reader} (h : r.stream.Depletes l) :
    { r with stream := r.stream.next l }.whole = r.whole := by
  obtain ⟨task, given, hnext, hleft, -⟩ := h
  simp only [Reader.whole, hnext, hleft, handing, List.append_assoc]

section Books

variable {header : ResultSet} {task : Task} {talk : List Attempt} {r : Reader} {given : List Row}
  {fate : Fate} {seen : List Item} {ends : Nat}

/-- A producer whose fate is decided has nothing left. -/
theorem ResultSet.Stage.leftoverAt (h : header.Stage task talk given fate) (hfate : fate ≠ .going)
    (s : Stream) : s.leftoverAt task = [] := by
  cases h with
  | unpack | page | deliver | report => exact absurd rfl hfate
  | release | ended | overflowed => rfl

namespace Reader.Books

theorem seen_eq (h : r.Books header talk given fate seen ends) :
    r.received.filterMap id = seen := by
  simp [h.received]

/-- Until the end is found, nothing but items was received. -/
theorem received_eq (h : r.Books header talk given fate seen ends)
    (hfinished : r.stream.isFinished = false) : r.received = seen.map some := by
  obtain ⟨rfl, -⟩ := h.unfinished hfinished
  exact h.received.trans (List.append_nil _)

theorem seen_prefix (h : r.Books header talk given fate seen ends) : seen <+: r.whole := by
  rw [whole, h.seen_eq]
  exact List.prefix_append _ _

/-- A consumer that has found the end has seen everything. -/
theorem seen_whole (h : r.Books header talk given fate seen ends)
    (hfinished : r.stream.isFinished = true) (hdropped : r.stream.isDropped = false) :
    seen = r.whole := by
  obtain ⟨hseen, hclosed⟩ := h.settled hfinished hdropped
  have hqueue : r.stream.queue = [] := by
    have hkept := h.kept hdropped
    rw [← hseen] at hkept
    simpa using hkept
  have hdecided : fate ≠ .going := by
    rintro rfl
    cases hclosed
  have hleft : r.stream.leftover = [] := h.stage.leftoverAt hdecided r.stream
  rw [whole, h.seen_eq, hqueue, hleft]
  exact (List.append_nil seen).symm

end Reader.Books

/--
A consumer whose producer needs another fetch has not found the end, and what is queued for it
are rows.
-/
theorem Reader.Books.needs_fetch (h : r.Books header talk given fate seen ends)
    (hdropped : r.stream.isDropped = false) (hneeds : r.stream.needsFetch = true) :
    r.stream.isFinished = false ∧ ∃ rows : List Row,
      r.stream.queue ++ r.stream.leftover = rows.map .ok ++ [.error fetchRefused] := by
  obtain ⟨inHand, hleft⟩ := Stream.leftover_of_needsFetch hneeds
  have hgoing : fate = .going := by
    refine Classical.byContradiction fun hdecided => ?_
    have hnone : r.stream.leftover = [] := h.stage.leftoverAt hdecided r.stream
    simp [hnone] at hleft
  subst hgoing
  constructor
  · cases hfinished : r.stream.isFinished with
    | false => rfl
    | true => cases (h.settled hfinished hdropped).2
  · have hkept := h.kept hdropped
    simp only [handed, Fate.news?, Option.toList_none, List.map_nil, List.append_nil] at hkept
    obtain ⟨first, queued, -, -, hqueue⟩ := List.append_eq_map_iff.1 hkept
    refine ⟨queued ++ inHand, ?_⟩
    rw [hleft, ← hqueue, List.map_append, List.append_assoc]

end Books

/-! ## Schedules -/

/--
A client whose connection is closed, but not cancelled, has a stream that goes on: its consumer
has seen and will see these items.
-/
structure Client.Strands (x : Client σ) (i : Nat) (whole : List Item) (r : Reader) : Prop where
  reader : x.readers[i]? = some r
  isClosed : x.connection.isOpen = false
  live : x.connection.isCancelled = false
  uncancelled : r.stream.isCancelled = false
  hasBooks : r.HasBooks
  whole : r.whole = whole

/--
In a schedule the consumer of a stream receives the first of these items, or all of them and
then nothing but the end. In a fair schedule it comes to that.
-/
structure Client.Collects [Transport σ] (x : Client σ) (moves : Nat → Move) (i : Nat) (r : Reader)
    (items : List Item) : Prop where
  always : ∀ n, ∃ r', (x.after moves n).readers[i]? = some r' ∧
    ((∃ first, first <+: items ∧ r'.received = r.received ++ first.map some) ∨
      ∃ ends, r'.received = r.received ++ (items.map some ++ List.replicate ends none))
  eventually : Fair moves i → ∃ m, ∀ n, m ≤ n → ∃ r' ends, (x.after moves n).readers[i]? = some r' ∧
    r'.received = r.received ++ (items.map some ++ List.replicate ends none)

theorem Reader.HasBooks.undropped {r : Reader} (h : r.HasBooks)
    (huncancelled : r.stream.isCancelled = false) : r.stream.isDropped = false := by
  obtain ⟨_, _, _, _, _, _, hbooks⟩ := h
  cases hdropped : r.stream.isDropped with
  | false => rfl
  | true =>
    rw [hbooks.isFor.cancelled hdropped] at huncancelled
    cases huncancelled

theorem Reader.HasBooks.after [Transport σ] {r : Reader} (h : r.HasBooks) (turn : Turn σ) :
    (r.after turn).HasBooks := by
  obtain ⟨_, _, _, _, _, _, hbooks⟩ := h
  obtain ⟨_, _, _, _, hafter, -⟩ := hbooks.after turn
  exact ⟨_, _, _, _, _, _, hafter⟩

/-- Cells are only checked where there should be rows. -/
theorem Reader.HasBooks.rows_of_unpack {r : Reader} (h : r.HasBooks) {data : Cells}
    (htask : r.stream.task = .unpack data) : r.stream.totalRows ≠ 0 := by
  obtain ⟨_, _, _, _, _, _, hbooks⟩ := h
  have hstage := hbooks.stage
  rw [htask] at hstage
  cases hstage with
  | unpack _ hrows => rwa [hbooks.isFor.totalRows]

namespace Client.Strands

variable [Transport σ] {x : Client σ} {i : Nat} {whole : List Item} {r : Reader}
  {moves : Nat → Move}

omit [Transport σ] in
theorem live_producer (h : x.Strands i whole r) :
    (x.connection.line.isCancelled || r.stream.isCancelled) = false :=
  Bool.or_eq_false_iff.2 ⟨h.live, h.uncancelled⟩

theorem depletes (h : x.Strands i whole r) : r.stream.Depletes x.connection.line :=
  r.stream.depletes h.isClosed h.live_producer (h.hasBooks.undropped h.uncancelled)
    fun _ => h.hasBooks.rows_of_unpack

/-- Every move keeps to what the consumer will see, and brings that nearer. -/
theorem step (h : x.Strands i whole r) {move : Move} (hmove : move.Tolerates i) :
    ∃ r', (x.step move).Strands i whole r' ∧ move.Nears i r.stream r'.stream ∧
      r.received <+: r'.received := by
  have hsilent : x.connection.line.IsSilent := .inr h.isClosed
  -- No move that is tolerated changes the line, not even the end of the connection once more.
  have hline := (x.step_undisturbed hsilent hmove.cancel fun _ => h.isClosed).line
  have hclosed : (x.step move).connection.isOpen = false :=
    (congrArg Line.isOpen hline).trans h.isClosed
  have hlive : (x.step move).connection.isCancelled = false :=
    (congrArg Line.isCancelled hline).trans h.live
  by_cases hproduce : move = .produce i
  · subst hproduce
    have hwhole := h.depletes.whole
    have hafter := h.hasBooks.after (.produce x.connection)
    rw [r.after_produce] at hafter
    obtain ⟨task, given, hnext, -, heffort⟩ := h.depletes
    refine ⟨_, ⟨readers_produce h.reader, hclosed, hlive, ?_, hafter,
      hwhole.trans h.whole⟩, .of_produce heffort, List.prefix_refl _⟩
    rw [hnext]
    exact h.uncancelled
  · by_cases hreceive : move = .receive i
    · subst hreceive
      have hafter := h.hasBooks.after (.receive : Turn σ)
      have huncancelled : r.receive.stream.isCancelled = false := by
        obtain ⟨queue, isFinished, htake⟩ := r.stream.take_eq
        rw [r.stream_receive, htake]
        exact h.uncancelled
      exact ⟨r.receive, ⟨readers_receive h.reader, hclosed, hlive, huncancelled, hafter,
        r.whole_receive.trans h.whole⟩, .of_receive r, r.received_prefix⟩
    · have hreader := readers_of_other h.reader hmove.cancelStream hmove.dropStream hproduce
        hreceive
      exact ⟨r, ⟨hreader, hclosed, hlive, h.uncancelled, h.hasBooks, h.whole⟩,
        .of_other hproduce hreceive, List.prefix_refl _⟩

/-- What the consumer will see stays the same in the whole schedule. -/
theorem after (h : x.Strands i whole r) (hmoves : ∀ n, (moves n).Tolerates i) (n : Nat) :
    ∃ r', (x.after moves n).Strands i whole r' ∧ r.received <+: r'.received := by
  induction n with
  | zero => exact ⟨r, h, List.prefix_refl _⟩
  | succ n ih =>
    obtain ⟨r', hn, hreceived⟩ := ih
    obtain ⟨r'', hstep, -, hmore⟩ := hn.step (hmoves n)
    exact ⟨r'', hstep, hreceived.trans hmore⟩

theorem progresses (h : x.Strands i whole r) (hmoves : ∀ n, (moves n).Tolerates i) :
    x.Progresses moves i := by
  intro n
  obtain ⟨r', hn, -⟩ := h.after hmoves n
  obtain ⟨r'', hstep, hnears, -⟩ := hn.step (hmoves n)
  exact ⟨r'.stream, r''.stream, stream?_of_reader hn.reader, stream?_of_reader hstep.reader, hnears⟩

omit [Transport σ] in
/-- A consumer that has found the end has received all that was left. -/
theorem received_all {y : Client σ} {r' : Reader} (h : x.Strands i whole r)
    (hunfinished : r.stream.isFinished = false) (h' : y.Strands i whole r')
    (hfinished : r'.stream.isFinished = true) :
    ∃ ends, r'.received = r.received ++
      ((r.stream.queue ++ r.stream.leftover).map some ++ List.replicate ends none) := by
  obtain ⟨_, _, _, _, seen, _, hbooks⟩ := h.hasBooks
  obtain ⟨_, _, _, _, seen', ends', hbooks'⟩ := h'.hasBooks
  have hseen' := hbooks'.seen_whole hfinished (h'.hasBooks.undropped h'.uncancelled)
  refine ⟨ends', ?_⟩
  rw [hbooks'.received, hseen', h'.whole, ← h.whole, Reader.whole, hbooks.seen_eq,
    hbooks.received_eq hunfinished, List.map_append, List.append_assoc]

omit [Transport σ] in
/-- Until it has found the end, a consumer has received the first of what was left. -/
theorem received_first {y : Client σ} {r' : Reader} (h : x.Strands i whole r)
    (hunfinished : r.stream.isFinished = false) (h' : y.Strands i whole r')
    (hreceived : r.received <+: r'.received) (hunfinished' : r'.stream.isFinished = false) :
    ∃ first, first <+: r.stream.queue ++ r.stream.leftover ∧
      r'.received = r.received ++ first.map some := by
  obtain ⟨_, _, _, _, seen, _, hbooks⟩ := h.hasBooks
  obtain ⟨_, _, _, _, seen', ends', hbooks'⟩ := h'.hasBooks
  -- What was seen before is the first part both of what is seen now and of the whole.
  have hmore := hreceived.filterMap id
  rw [hbooks.seen_eq, hbooks'.seen_eq] at hmore
  obtain ⟨first, rfl⟩ := hmore
  have hprefix := hbooks'.seen_prefix
  rw [h'.whole, ← h.whole, Reader.whole, hbooks.seen_eq, List.prefix_append_right_inj] at hprefix
  refine ⟨first, hprefix, ?_⟩
  rw [hbooks'.received_eq hunfinished', hbooks.received_eq hunfinished, List.map_append]

/--
In every schedule that lets a stranded stream be, its consumer receives what is queued and what
is left of it, and in a fair schedule it receives all of that.
-/
theorem collects (h : x.Strands i whole r) (hunfinished : r.stream.isFinished = false)
    (hmoves : ∀ n, (moves n).Tolerates i) :
    x.Collects moves i r (r.stream.queue ++ r.stream.leftover) where
  always n := by
    obtain ⟨r', hn, hreceived⟩ := h.after hmoves n
    refine ⟨r', hn.reader, ?_⟩
    cases hfinished : r'.stream.isFinished with
    | false => exact .inl (h.received_first hunfinished hn hreceived hfinished)
    | true => exact .inr (h.received_all hunfinished hn hfinished)
  eventually hfair := by
    obtain ⟨m, hm⟩ := (h.progresses hmoves).eventually_finished hfair
    refine ⟨m, ?_⟩
    intro n hmn
    obtain ⟨r', hn, -⟩ := h.after hmoves n
    have hfinished := hm n hmn
    rw [stream?_of_reader hn.reader] at hfinished
    obtain ⟨ends, hreceived⟩ := h.received_all hunfinished hn hfinished
    exact ⟨r', ends, hn.reader, hreceived⟩

end Client.Strands

end ExasolClient
