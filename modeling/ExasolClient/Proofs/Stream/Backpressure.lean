-- SUMMARY: How far a producer gets ahead of its consumer.
import ExasolClient.Proofs.Stream.Cancellation
import ExasolClient.Proofs.Stream.Release
import ExasolClient.Proofs.Stream.Stranded

/-!
# Backpressure

A producer fetches the next chunk only when all rows of the last one are in the queue, and the
queue takes no more than it has room for. So a producer that is faster than its consumer gets
ahead of it by a full queue and the rest of one chunk. What it has put into the queue
(`Reader.pushed`) is accounted for item by item: it is received, or queued, or lost to a
consumer who left (`Reader.Account`). Main statement: in all turns, whatever the fetches bring,
the account of the producer and its consumer is balanced in this way (`backpressure`).
-/

namespace ExasolClient

/-! ## The bound of the queue -/

section Queue

variable {s : Stream}

theorem Stream.queue_delivered_le (h : s.queue.length ≤ queueCapacity) (item : Item)
    (cancelled : Bool) (done abandoned : Task) :
    (delivered (s.offered item cancelled) done abandoned).queue.length ≤ queueCapacity := by
  unfold offered
  cases s.delivery cancelled with
  | done => exact push_le h item
  | waiting => exact h
  | cancelled => exact push_le h (.error .cancelled)

/-- Only an item in hand is put into the queue. -/
theorem Stream.queue_next_of_no_item [Transport σ] (h : s.task.item? = none) (l : Line σ) :
    (s.next l).queue = s.queue := by
  unfold next
  cases htask : s.task with
  | ended | overflowed | unpack | release => rfl
  | page =>
    dsimp only
    split <;> rfl
  | deliver rows next =>
    rw [htask] at h
    cases rows with
    | nil => cases next <;> rfl
    | cons row rows => cases h
  | report fault handle =>
    rw [htask] at h
    cases h

theorem Stream.queue_next_le [Transport σ] (h : s.queue.length ≤ queueCapacity) (l : Line σ) :
    (s.next l).queue.length ≤ queueCapacity := by
  cases hitem : s.task.item? with
  | none =>
    rw [queue_next_of_no_item hitem l]
    exact h
  | some item =>
    rw [next_of_item hitem]
    exact queue_delivered_le h item ..

theorem Stream.queue_handOver_le (h : s.queue.length ≤ queueCapacity) :
    s.handOver.queue.length ≤ queueCapacity := by
  unfold handOver
  split
  next item hitem =>
    split
    next hroom =>
      have hpush := push_le h item
      rwa [push, if_pos hroom] at hpush
    next => exact h
  next => exact h

end Queue

/-! ## The latest chunk -/

/-- The rows of the latest chunk, if it was accepted, or at first those that came with the reply. -/
def ResultSet.latest (header : ResultSet) (talk : List Attempt) : List Row :=
  match (talk.filterMap Attempt.chunk?).getLast? with
  | some chunk => chunk.rowsIn header.rowColumns
  | none => header.sentRows

section Latest

variable {header : ResultSet} {talk : List Attempt} {a : Attempt}

theorem ResultSet.latest_of_chunk {chunk : Chunk} (h : a.chunk? = some chunk) :
    header.latest (talk ++ [a]) = chunk.rowsIn header.rowColumns := by
  simp [latest, h]

theorem ResultSet.latest_of_no_chunk (h : a.chunk? = none) :
    header.latest (talk ++ [a]) = header.latest talk := by
  simp [latest, h]

/-- After one more attempt there is nothing new but the rows of the latest chunk. -/
theorem ResultSet.supplied_concat_le {given : List Row}
    (hlag : (header.supplied talk).length ≤ given.length + (header.latest talk).length)
    (hall : a.request.isFetch = true → header.supplied talk = given) :
    (header.supplied (talk ++ [a])).length ≤
      given.length + (header.latest (talk ++ [a])).length := by
  rw [header.supplied_concat]
  cases hchunk : a.chunk? with
  | none =>
    rw [latest_of_no_chunk hchunk]
    simpa using hlag
  | some chunk =>
    have hfetch : a.request.isFetch = true := Attempt.isFetch_of_chunk? (by rw [hchunk]; rfl)
    rw [latest_of_chunk hchunk, hall hfetch]
    simp

end Latest

/-! ## What the producer puts into the queue -/

namespace Reader

variable [Transport σ]

/-- The items that the producer puts into the queue in a turn. -/
def pushedIn (r : Reader) : Turn σ → List Item
  | .produce c => (r.after (.produce c)).stream.queue.drop r.stream.queue.length
  | .handOver => r.stream.handOver.queue.drop r.stream.queue.length
  | .receive | .cancel | .drop => []

/-- The items that the producer puts into the queue in a list of turns. -/
def pushed (r : Reader) : List (Turn σ) → List Item
  | [] => []
  | turn :: turns => r.pushedIn turn ++ (r.after turn).pushed turns

omit [Transport σ] in
theorem rows_eq_items (r : Reader) : r.rows = r.items.filterMap Except.toOption := by
  rw [items, List.filterMap_filterMap]
  rfl

end Reader

/-- Only the rows of all that is handed over are rows. -/
theorem filterMap_handed (given : List Row) (fate : Fate) :
    (handed given fate).filterMap Except.toOption = given := by
  cases hnews : fate.news? <;>
    simp [handed, hnews, List.filterMap_map, Function.comp_def, Except.toOption]

/-! ## The account of a stream -/

/--
What a producer has put into the queue is received, or queued, or lost to a consumer who left;
what has been supplied is put into the queue, or belongs to the latest chunk.
-/
structure Reader.Account (header : ResultSet) (talk : List Attempt) (r : Reader) (given : List Row)
    (fate : Fate) (lost : List Item) : Prop where
  isFor : r.stream.IsFor header
  stage : header.Stage r.stream.task talk given fate
  settled : handed given fate = r.items ++ r.stream.queue ++ lost
  room : r.stream.queue.length + lost.length ≤ queueCapacity
  kept : r.stream.isDropped = false → lost = []
  lag : (header.supplied talk).length ≤ given.length + (header.latest talk).length

namespace Reader.Account

variable {header : ResultSet} {talk said : List Attempt} {r : Reader} {given : List Row}
  {fate : Fate} {lost : List Item}

theorem opened (header : ResultSet) (size : UInt64) :
    ∃ fate, (header.opened size).Account header [] [] fate [] ∧ handed [] fate = [] := by
  obtain ⟨fate, hbooks, -⟩ := header.books_opened size
  have hnone : handed [] fate = [] := (hbooks.kept rfl).symm
  refine ⟨fate, ⟨hbooks.isFor, hbooks.stage, hnone, Nat.zero_le _, fun _ => rfl, ?_⟩, hnone⟩
  rw [ResultSet.supplied, ResultSet.latest]
  simp

/-- A producer who fetches has put all rows into the queue that were supplied before. -/
theorem fetching [Transport σ] {l : Line σ} {a : Attempt}
    (h : r.Account header talk given fate lost)
    (ha : a ∈ r.stream.said l) (hfetch : a.request.isFetch = true) :
    ∃ handle position, r.stream.task = .page handle position ∧
      a.request = .fetch handle position r.stream.fetchSize ∧ fate = .going ∧
      header.supplied talk = given ∧ header.Reaches (some (handle, position)) given.length := by
  have hstage := h.stage
  unfold Stream.said at ha
  split at ha
  next handle position htask =>
    rw [htask] at hstage
    cases hstage with
    | page hfetched hreaches =>
      split at ha
      · obtain rfl := List.mem_singleton.1 ha
        exact ⟨handle, position, htask, rfl, rfl, hfetched.supplied_eq, hreaches⟩
      · cases ha
  next =>
    obtain rfl := List.mem_singleton.1 ha
    cases hfetch
  next => cases ha

theorem lag_said [Transport σ] (h : r.Account header talk given fate lost) (l : Line σ) :
    (header.supplied (talk ++ r.stream.said l)).length ≤
      given.length + (header.latest (talk ++ r.stream.said l)).length := by
  rcases r.stream.said_eq_nil_or l with hsaid | ⟨a, hsaid, -, -⟩
  · rw [hsaid, List.append_nil]
    exact h.lag
  · have ha : a ∈ r.stream.said l := hsaid ▸ List.mem_singleton_self a
    rw [hsaid]
    refine ResultSet.supplied_concat_le h.lag ?_
    intro hfetch
    obtain ⟨-, -, -, -, -, hall, -⟩ := h.fetching ha hfetch
    exact hall

/-- Whatever the producer puts into the queue is entered into the account. -/
theorem continues {s : Stream} {cuts : Bool → Prop} (h : r.Account header talk given fate lost)
    (hs : header.Continues (talk ++ said) given fate r.stream s cuts)
    (hroom : s.queue.length ≤ queueCapacity)
    (hlag : (header.supplied (talk ++ said)).length ≤
      given.length + (header.latest (talk ++ said)).length) :
    ∃ given' fate', { r with stream := s }.Account header (talk ++ said) given' fate' lost ∧
      handed given' fate' = handed given fate ++ s.queue.drop r.stream.queue.length := by
  obtain ⟨task, given', fate', more, rfl, hstage, hhanded, hleft, -⟩ := hs
  have hmore : (r.stream.handing task more).queue.drop r.stream.queue.length = more := by
    simp [Stream.handing]
  rw [hmore]
  have hrows : given.length ≤ given'.length := by
    have hlength := congrArg (fun items => (items.filterMap Except.toOption).length) hhanded
    simp only [List.filterMap_append, List.length_append, filterMap_handed] at hlength
    omega
  refine ⟨given', fate', ⟨⟨h.isFor.columns, h.isFor.totalRows, h.isFor.cancelled⟩, hstage, ?_, ?_,
    h.kept, Nat.le_trans hlag (Nat.add_le_add_right hrows _)⟩, hhanded⟩
  · rw [hhanded, h.settled]
    -- A consumer who left gets no more, and as long as it is there nothing is lost.
    cases hdropped : r.stream.isDropped with
    | false => simp [items, Stream.handing, h.kept hdropped]
    | true => simp [items, Stream.handing, hleft hdropped]
  · cases hdropped : r.stream.isDropped with
    | false => simpa [h.kept hdropped] using hroom
    | true => simpa [Stream.handing, hleft hdropped] using h.room

theorem receive (h : r.Account header talk given fate lost) :
    r.receive.Account header talk given fate lost := by
  have hqueue : r.receive.items ++ r.receive.stream.queue = r.items ++ r.stream.queue :=
    r.received_queue
  have hfirst : r.items <+: r.receive.items := r.received_prefix.filterMap id
  have hroom := h.room
  have hlength := congrArg List.length hqueue
  have hle := hfirst.length_le
  rw [List.length_append, List.length_append] at hlength
  obtain ⟨queue, isFinished, htake⟩ := r.stream.take_eq
  have hstream := r.stream_receive.trans htake
  refine ⟨?_, ?_, ?_, by omega, ?_, h.lag⟩
  · rw [hstream]
    exact ⟨h.isFor.columns, h.isFor.totalRows, h.isFor.cancelled⟩
  · rw [r.task_receive]
    exact h.stage
  · rw [hqueue]
    exact h.settled
  · rw [hstream]
    exact h.kept

/-- Who leaves a stream loses what is queued. -/
theorem drop (h : r.Account header talk given fate lost) :
    { r with stream := r.stream.drop }.Account header talk given fate (r.stream.queue ++ lost) where
  isFor := ⟨h.isFor.columns, h.isFor.totalRows, fun _ => rfl⟩
  stage := h.stage
  settled := by
    rw [h.settled]
    simp [items, Stream.drop]
  room := by
    have hroom := h.room
    simpa [Stream.drop] using hroom
  kept := nofun
  lag := h.lag

variable [Transport σ]

/-- Every turn carries the account on, with what the producer puts into the queue in it. -/
theorem after (h : r.Account header talk given fate lost) (turn : Turn σ) :
    ∃ given' fate' lost',
      (r.after turn).Account header (talk ++ r.saidIn turn) given' fate' lost' ∧
      handed given' fate' = handed given fate ++ r.pushedIn turn := by
  have hroom : r.stream.queue.length ≤ queueCapacity := Nat.le_of_add_right_le h.room
  cases turn with
  | produce c =>
    simp only [pushedIn]
    rw [after_produce]
    obtain ⟨given', fate', haccount, hhanded⟩ := h.continues (h.stage.next (l := c.line) h.isFor)
      (Stream.queue_next_le hroom c.line) (h.lag_said c.line)
    exact ⟨given', fate', lost, haccount, hhanded⟩
  | handOver =>
    have hstage := h.stage.handOver
    rw [← List.append_nil talk] at hstage
    obtain ⟨given', fate', haccount, hhanded⟩ := h.continues hstage
      (Stream.queue_handOver_le hroom) ((List.append_nil talk).symm ▸ h.lag)
    exact ⟨given', fate', lost, haccount, hhanded⟩
  | receive =>
    exact ⟨given, fate, lost, (List.append_nil talk).symm ▸ h.receive, (List.append_nil _).symm⟩
  | cancel =>
    refine ⟨given, fate, lost, (List.append_nil talk).symm ▸ ?_, (List.append_nil _).symm⟩
    exact ⟨⟨h.isFor.columns, h.isFor.totalRows, fun _ => rfl⟩, h.stage, h.settled, h.room, h.kept,
      h.lag⟩
  | drop =>
    exact ⟨given, fate, _, (List.append_nil talk).symm ▸ h.drop, (List.append_nil _).symm⟩

theorem run (h : r.Account header talk given fate lost) (turns : List (Turn σ)) :
    ∃ given' fate' lost',
      (r.run turns).Account header (talk ++ r.said turns) given' fate' lost' ∧
      handed given' fate' = handed given fate ++ r.pushed turns := by
  induction turns generalizing r talk given fate lost with
  | nil => exact ⟨given, fate, lost, (List.append_nil talk).symm ▸ h, (List.append_nil _).symm⟩
  | cons turn turns ih =>
    obtain ⟨given₁, fate₁, lost₁, haccount₁, hhanded₁⟩ := h.after turn
    obtain ⟨given₂, fate₂, lost₂, haccount₂, hhanded₂⟩ := ih haccount₁
    rw [List.append_assoc] at haccount₂
    rw [hhanded₁, List.append_assoc] at hhanded₂
    exact ⟨given₂, fate₂, lost₂, haccount₂, hhanded₂⟩

omit [Transport σ] in
/-- The consumer has received all items but those for which the queue has room. -/
theorem items_le (h : r.Account header talk given fate lost) :
    r.items <+: handed given fate ∧
      (handed given fate).length ≤ r.items.length + queueCapacity := by
  have hroom := h.room
  have hsettled := h.settled
  rw [List.append_assoc] at hsettled
  refine ⟨⟨_, hsettled.symm⟩, ?_⟩
  rw [hsettled, List.length_append, List.length_append]
  omega

omit [Transport σ] in
/-- The consumer has received all rows but those for which the queue has room. -/
theorem rows_le (h : r.Account header talk given fate lost) :
    given.length ≤ r.rows.length + queueCapacity := by
  have hroom := h.room
  have hgiven : given = r.rows ++ (r.stream.queue ++ lost).filterMap Except.toOption := by
    rw [r.rows_eq_items, ← List.filterMap_append, ← List.append_assoc, ← h.settled,
      filterMap_handed]
  have hle := List.length_filterMap_le Except.toOption (r.stream.queue ++ lost)
  rw [List.length_append] at hle
  rw [hgiven, List.length_append]
  omega

end Reader.Account

/--
A producer gets ahead of its consumer by a full queue and the rest of one chunk, whatever its
fetches bring, and in whatever turns. When it fetches the rows from a position on, then all
rows up to there have been put into the queue, and all of those but a full queue have been
received.
-/
theorem backpressure [Transport σ] (header : ResultSet) (size : UInt64) (turns : List (Turn σ))
    (hcolumn : header.columns ≠ []) :
    let r := (header.opened size).run turns
    let talk := (header.opened size).said turns
    let pushed := (header.opened size).pushed turns
    r.stream.queue.length ≤ queueCapacity ∧
    (r.items <+: pushed ∧ pushed.length ≤ r.items.length + queueCapacity) ∧
    (∀ turn : Turn σ, ∀ a ∈ r.saidIn turn, ∀ handle position numBytes,
      a.request = .fetch handle position numBytes →
      ∃ rows, pushed = rows.map .ok ∧ rows = header.supplied talk ∧
        position.toNat = rows.length ∧ position.toNat ≤ r.rows.length + queueCapacity) ∧
    (header.supplied talk).length ≤
      r.rows.length + queueCapacity + (header.latest talk).length ∧
    (header.opened size).Records turns talk r := by
  intro r talk pushed
  obtain ⟨fate₀, hopened, hnone⟩ := Reader.Account.opened header size
  obtain ⟨given, fate, lost, haccount, hhanded⟩ := hopened.run turns
  rw [List.nil_append] at haccount
  rw [hnone, List.nil_append] at hhanded
  have hitems := haccount.items_le
  rw [hhanded] at hitems
  have hrows := haccount.rows_le
  refine ⟨Nat.le_of_add_right_le haccount.room, hitems, ?_, ?_,
    (header.opened size).records_run turns⟩
  · intro turn a ha handle position numBytes hrequest
    cases turn with
    | produce c =>
      obtain ⟨handle', position', -, hfetch, rfl, hall, hreaches⟩ :=
        haccount.fetching ha (by rw [hrequest]; rfl)
      rw [hrequest] at hfetch
      cases hfetch
      have hposition : position.toNat = given.length := by
        apply hreaches
        rw [header.size_rowColumns]
        exact List.length_pos_iff.2 hcolumn
      refine ⟨given, ?_, hall.symm, hposition, hposition ▸ hrows⟩
      refine hhanded.symm.trans ?_
      simp [handed, Fate.news?]
    | handOver | receive | cancel | drop => cases ha
  · have hlag := haccount.lag
    exact Nat.le_trans hlag (Nat.add_le_add_right hrows _)

/-! ## A producer that is one row ahead -/

section Ahead

open Connection Rehearsal

/-- A producer that fetches two pages of one row, and a consumer who receives one of the two. -/
def oneAhead : List (Turn Server) :=
  List.replicate 6 (.produce pageByPage) ++ [.receive]

/-- The third page is fetched when two rows have been put into the queue. -/
theorem backpressure_of_pages :
    (declaring oneColumn (some 5)).columns ≠ [] ∧
    let r := ((declaring oneColumn (some 5)).opened 1024).run oneAhead
    (∃ a ∈ r.saidIn (.produce pageByPage), a.request = .fetch 5 2 1024) ∧ r.rows.length = 1 ∧
      ∃ rows : List Row, ((declaring oneColumn (some 5)).opened 1024).pushed oneAhead =
        rows.map .ok ∧ rows.length = 2 := by
  have hcolumn : (declaring oneColumn (some 5)).columns ≠ [] := List.cons_ne_nil _ _
  refine ⟨hcolumn, ⟨_, List.mem_singleton_self _, rfl⟩, by decide +kernel, ?_⟩
  obtain ⟨-, -, hfetches, -⟩ := backpressure (declaring oneColumn (some 5)) 1024 oneAhead hcolumn
  obtain ⟨rows, hpushed, hsupplied, -⟩ :=
    hfetches (.produce pageByPage) _ (List.mem_singleton_self _) 5 2 1024 rfl
  refine ⟨rows, hpushed, ?_⟩
  rw [hsupplied]
  decide +kernel

end Ahead

end ExasolClient
