-- SUMMARY: What the consumer of a cancelled stream still receives.
import ExasolClient.Proofs.Stream.Backpressure

/-!
# The remainder of a cancelled stream

Who cancels a stream stops its producer, but does not empty the queue: the rows in it are received
all the same, and only then the news of the cancellation, if there was room for it, and the end.
No other row comes after them, save one that the producer was putting into the queue at that
moment. Main statement: `remainder_of_cancelled`; so a queue with a row in it is not discarded
(`queued_rows_received`).
-/

namespace ExasolClient

/-! ## Rows, a fault and the end -/

/-- Rows, then at most one fault, and then nothing but the end. -/
def course (rows : List Row) (fault? : Option Fault) (ends : Nat) : List (Option Item) :=
  rows.map (some <| .ok ·) ++ fault?.toList.map (some <| .error ·) ++ List.replicate ends none

/-- The items of a course. -/
theorem filterMap_course (rows : List Row) (fault? : Option Fault) (ends : Nat) :
    (course rows fault? ends).filterMap id = rows.map .ok ++ fault?.toList.map .error := by
  cases fault? <;> simp [course, List.filterMap_map]

/-- What follows on the first entry of a course is a course again. -/
theorem course_of_cons {rows : List Row} {fault? : Option Fault} {ends : Nat}
    {first : Option Item} {rest : List (Option Item)}
    (h : course rows fault? ends = first :: rest) :
    ∃ rows fault? ends, rest = course rows fault? ends := by
  cases rows with
  | cons row rows => exact ⟨rows, fault?, ends, (List.cons.inj h).2.symm⟩
  | nil =>
    cases fault? with
    | some fault => exact ⟨[], none, ends, (List.cons.inj h).2.symm⟩
    | none =>
      cases ends with
      | zero => cases h
      | succ ends => exact ⟨[], none, ends, (List.cons.inj h).2.symm⟩

theorem course_of_append {rows : List Row} {fault? : Option Fault} {ends : Nat}
    {received rest : List (Option Item)} (h : course rows fault? ends = received ++ rest) :
    ∃ rows fault? ends, rest = course rows fault? ends := by
  induction received generalizing rows fault? ends with
  | nil => exact ⟨rows, fault?, ends, h.symm⟩
  | cons first received ih =>
    obtain ⟨rows', fault?', ends', hrest⟩ := course_of_cons h
    exact ih hrest.symm

/-- All that a consumer has received is a course. -/
theorem Reader.Books.received_course {header : ResultSet} {talk : List Attempt} {r : Reader}
    {given : List Row} {fate : Fate} {seen : List Item} {ends : Nat}
    (h : r.Books header talk given fate seen ends) :
    ∃ rows fault?, r.received = course rows fault? ends := by
  have hseen : seen <+: handed given fate := (List.prefix_append _ _).trans h.queued
  rw [h.received]
  rcases prefix_handed hseen with ⟨rows, -, rfl⟩ | ⟨fault, -, rfl⟩
  · exact ⟨rows, none, by simp [course]⟩
  · exact ⟨given, some fault, by simp [course]⟩

namespace Reader

variable [Transport σ]

theorem received_prefix_run (r : Reader) (turns : List (Turn σ)) :
    r.received <+: (r.run turns).received := by
  induction turns generalizing r with
  | nil => exact List.prefix_refl _
  | cons turn turns ih =>
    refine List.IsPrefix.trans ?_ (ih (r.after turn))
    cases turn with
    | receive => exact r.received_prefix
    | produce | handOver | cancel | drop => exact List.prefix_refl _

end Reader

/-! ## Consumers who have left -/

/-- Nothing can be received by a consumer who has left. -/
structure Reader.HasLeft (r : Reader) (items : List Item) : Prop where
  isDropped : r.stream.isDropped = true
  queue : r.stream.queue = []
  items : r.items = items

section Left

variable {s : Stream}

theorem Stream.push_of_dropped (h : s.isDropped = true) (item : Item) : s.push item = s := by
  simp [push, h]

theorem Stream.queue_delivered_of_dropped (h : s.isDropped = true) (item : Item)
    (cancelled : Bool) (done abandoned : Task) :
    (delivered (s.offered item cancelled) done abandoned).queue = s.queue := by
  unfold offered
  cases s.delivery cancelled with
  | done => simp [delivered, push_of_dropped h]
  | waiting => rfl
  | cancelled => simp [delivered, push_of_dropped h]

theorem Stream.queue_next_of_dropped [Transport σ] (h : s.isDropped = true) (l : Line σ) :
    (s.next l).queue = s.queue := by
  cases hitem : s.task.item? with
  | none => exact queue_next_of_no_item hitem l
  | some item =>
    rw [next_of_item hitem]
    exact queue_delivered_of_dropped h item ..

theorem Stream.handOver_of_dropped (h : s.isDropped = true) : s.handOver = s := by
  unfold handOver
  split <;> simp [h]

namespace Reader

variable [Transport σ] {r : Reader} {items : List Item}

theorem HasLeft.produce (h : r.HasLeft items) (c : Connection σ) :
    (r.after (.produce c)).HasLeft items := by
  have hqueue := Stream.queue_next_of_dropped h.isDropped c.line
  obtain ⟨task, more, hnext⟩ := r.stream.next_eq_handing c.line
  rw [after_produce]
  refine ⟨?_, hqueue.trans h.queue, h.items⟩
  rw [hnext]
  exact h.isDropped

omit [Transport σ] in
theorem HasLeft.receive (h : r.HasLeft items) : r.receive.HasLeft items := by
  have hkept : r.receive.items ++ r.receive.stream.queue = r.items ++ r.stream.queue :=
    r.received_queue
  have hfirst : r.items <+: r.receive.items := r.received_prefix.filterMap id
  rw [h.queue, List.append_nil] at hkept
  have hsame : r.items = r.receive.items := by
    refine hfirst.eq_of_length_le ?_
    rw [← hkept, List.length_append]
    exact Nat.le_add_right _ _
  rw [← hsame] at hkept
  refine ⟨?_, List.append_right_eq_self.1 hkept, hsame.symm.trans h.items⟩
  obtain ⟨queue, isFinished, htake⟩ := r.stream.take_eq
  rw [r.stream_receive, htake]
  exact h.isDropped

theorem HasLeft.after (h : r.HasLeft items) (turn : Turn σ) : (r.after turn).HasLeft items := by
  cases turn with
  | produce c => exact h.produce c
  | handOver =>
    have hsame : r.after (.handOver : Turn σ) = r := by
      simp [Reader.after, Stream.handOver_of_dropped h.isDropped]
    rwa [hsame]
  | receive => exact h.receive
  | cancel => exact ⟨h.isDropped, h.queue, h.items⟩
  | drop => exact ⟨rfl, rfl, h.items⟩

theorem HasLeft.run (h : r.HasLeft items) (turns : List (Turn σ)) :
    (r.run turns).HasLeft items := by
  induction turns generalizing r with
  | nil => exact h
  | cons turn turns ih => exact ih (h.after turn)

/-- A dropped stream has been left. -/
theorem hasLeft_run (h : r.stream.isDropped = false) {turns : List (Turn σ)}
    (hdropped : (r.run turns).stream.isDropped = true) :
    (r.run turns).HasLeft (r.run turns).items := by
  induction turns generalizing r with
  | nil =>
    rw [run, List.foldl_nil, h] at hdropped
    cases hdropped
  | cons turn turns ih =>
    rw [run_cons] at hdropped ⊢
    -- Only who leaves a stream drops it, so one of the turns was that.
    by_cases hturn : turn = .drop
    · subst hturn
      have hleft : (r.after (.drop : Turn σ)).HasLeft r.items := ⟨rfl, rfl, rfl⟩
      have hrun := hleft.run turns
      exact ⟨hrun.isDropped, hrun.queue, rfl⟩
    · exact ih ((r.isDropped_after hturn).trans h) hdropped

end Reader

end Left

/-! ## Rows that come in after the cancellation -/

/-- The rows in the queue. -/
def Stream.queuedRows (s : Stream) : List Row := s.queue.filterMap Except.toOption

namespace Reader

variable [Transport σ] {r : Reader}

/-- The rows that the producer puts into the queue in a list of turns. -/
def pushedRows (r : Reader) (turns : List (Turn σ)) : List Row :=
  (r.pushed turns).filterMap Except.toOption

theorem isCancelled_after (h : r.stream.isCancelled = true) (turn : Turn σ) :
    (r.after turn).stream.isCancelled = true := by
  by_cases hcancel : turn = .cancel
  · rw [hcancel]
    rfl
  · by_cases hdrop : turn = .drop
    · rw [hdrop]
      rfl
    · exact (r.flags_after hcancel hdrop).1.trans h

/-- A producer who looks for the cancellation delivers no row. -/
theorem pushedIn_produce (h : r.stream.isCancelled = true) (c : Connection σ) :
    (r.pushedIn (.produce c)).filterMap Except.toOption = [] := by
  rw [pushedIn, after_produce]
  cases hitem : r.stream.task.item? with
  | none => simp [Stream.queue_next_of_no_item hitem]
  | some item =>
    have hcut : (c.line.isCancelled || r.stream.isCancelled) = true := by rw [h, Bool.or_true]
    obtain ⟨told, hdelivered, -⟩ := Stream.delivered_of_cancelled item r.stream.task.afterItem
      (.releasing r.stream.task.handle?) hcut
    rw [Stream.next_of_item hitem, hdelivered]
    cases told <;> simp [Stream.handing, Except.toOption]

theorem length_pushedIn_handOver (r : Reader) :
    (r.pushedIn (.handOver : Turn σ)).length ≤ 1 := by
  unfold pushedIn Stream.handOver
  dsimp only
  split
  · split <;> simp [Stream.handing]
  · simp

theorem pushedRows_cons (r : Reader) (turn : Turn σ) (turns : List (Turn σ)) :
    r.pushedRows (turn :: turns) =
      (r.pushedIn turn).filterMap Except.toOption ++ (r.after turn).pushedRows turns :=
  List.filterMap_append

/-- Each delivery without another look brings at most one row. -/
theorem length_pushedRows_le (h : r.stream.isCancelled = true) (turns : List (Turn σ)) :
    (r.pushedRows turns).length ≤ turns.countP Turn.isHandOver := by
  induction turns generalizing r with
  | nil => exact Nat.le_refl 0
  | cons turn turns ih =>
    have hrest := ih (isCancelled_after h turn)
    rw [pushedRows_cons, List.length_append, List.countP_cons]
    cases turn with
    | produce c =>
      rw [pushedIn_produce h c]
      simpa [Turn.isHandOver] using hrest
    | handOver =>
      have hone := r.length_pushedIn_handOver (σ := σ)
      have hrows := List.length_filterMap_le Except.toOption (r.pushedIn (.handOver : Turn σ))
      simp only [Turn.isHandOver, if_true]
      omega
    | receive | cancel | drop => simpa [Turn.isHandOver, pushedIn] using hrest

end Reader

/-! ## What is still received -/

section Remainder

variable {header : ResultSet} {talk : List Attempt} {r : Reader} {given : List Row} {fate : Fate}

/-- A consumer who has found the end has emptied the queue. -/
theorem Reader.Books.queue_eq_nil {seen : List Item} {ends : Nat}
    (h : r.Books header talk given fate seen ends) (hend : r.stream.isFinished = true)
    (hdropped : r.stream.isDropped = false) : r.stream.queue = [] := by
  have hkept := h.kept hdropped
  rw [(h.settled hend hdropped).1] at hkept
  exact List.append_right_eq_self.1 hkept

variable [Transport σ]

/-- What was received, what is queued and what is put into the queue is received or queued later. -/
theorem Reader.Account.balance {lost : List Item} (h : r.Account header talk given fate lost)
    (hdropped : r.stream.isDropped = false) (more : List (Turn σ)) :
    ∃ lost', (r.run more).items ++ (r.run more).stream.queue ++ lost' =
        r.items ++ r.stream.queue ++ r.pushed more ∧
      ((r.run more).stream.isDropped = false → lost' = []) := by
  obtain ⟨given', fate', lost', haccount, hhanded⟩ := h.run more
  have hbefore := h.settled
  rw [h.kept hdropped, List.append_nil] at hbefore
  refine ⟨lost', ?_, haccount.kept⟩
  rw [← haccount.settled, hhanded, hbefore]

/-- Of the rows that are queued or put into the queue the first are received, the others not yet. -/
theorem Reader.Account.rows_of_course {lost : List Item}
    (h : r.Account header talk given fate lost) (hdropped : r.stream.isDropped = false)
    {more : List (Turn σ)} {rows : List Row} {fault? : Option Fault} {ends : Nat}
    (hreceived : (r.run more).received = r.received ++ course rows fault? ends) :
    ∃ left : List Item,
      rows ++ ((r.run more).stream.queue ++ left).filterMap Except.toOption =
        r.stream.queuedRows ++ r.pushedRows more ∧
      ((r.run more).stream.isDropped = false → left = []) := by
  obtain ⟨left, hbalance, hkept⟩ := h.balance hdropped more
  let news : List Item := rows.map .ok ++ fault?.toList.map .error
  have hrows : news.filterMap Except.toOption = rows := by
    cases fault? <;> simp [news, List.filterMap_map, Function.comp_def, Except.toOption]
  have hitems : (r.run more).items = r.items ++ news := by
    rw [items, hreceived, List.filterMap_append, filterMap_course]
    rfl
  have hnews : news ++ ((r.run more).stream.queue ++ left) = r.stream.queue ++ r.pushed more := by
    have hsplit : r.items ++ (news ++ ((r.run more).stream.queue ++ left)) =
        r.items ++ (r.stream.queue ++ r.pushed more) := by
      simpa only [hitems, List.append_assoc] using hbalance
    exact List.append_cancel_left hsplit
  refine ⟨left, ?_, hkept⟩
  calc rows ++ ((r.run more).stream.queue ++ left).filterMap Except.toOption
      = (news ++ ((r.run more).stream.queue ++ left)).filterMap Except.toOption := by
        rw [← hrows, ← List.filterMap_append]
    _ = (r.stream.queue ++ r.pushed more).filterMap Except.toOption := by rw [hnews]
    _ = r.stream.queuedRows ++ r.pushedRows more := List.filterMap_append

/-- Who has left receives no row. -/
theorem Reader.HasLeft.rows_of_course {items : List Item} (h : r.HasLeft items)
    {more : List (Turn σ)} {rows : List Row} {fault? : Option Fault} {ends : Nat}
    (hreceived : (r.run more).received = r.received ++ course rows fault? ends) : rows = [] := by
  have hitems := (h.run more).items
  rw [Reader.items, hreceived, List.filterMap_append, filterMap_course] at hitems
  have hsame : r.items ++ (rows.map .ok ++ fault?.toList.map .error) = r.items :=
    hitems.trans h.items.symm
  exact List.map_eq_nil_iff.1 (List.append_eq_nil_iff.1 (List.append_right_eq_self.1 hsame)).1

end Remainder

/--
Cancelling a stream discards no row. Whatever has become of it until then, and whatever turns
follow, its consumer receives rows that were in the queue already, in their order, then at most
one fault, and then nothing but the end; and who goes on to the end receives all that were in the
queue. Behind them come only rows that the producer was putting into the queue when the stream was
cancelled: no more than there are such deliveries.
-/
theorem remainder_of_cancelled [Transport σ] (header : ResultSet) (size : UInt64)
    (turns more : List (Turn σ)) :
    let r := (header.opened size).run (turns ++ [.cancel])
    let r' := r.run more
    ∃ rows fault? ends, r'.received = r.received ++ course rows fault? ends ∧
      rows <+: r.stream.queuedRows ++ r.pushedRows more ∧
      (r'.stream.isFinished = true → r'.stream.isDropped = false →
        rows = r.stream.queuedRows ++ r.pushedRows more) ∧
      (r.pushedRows more).length ≤ more.countP Turn.isHandOver := by
  intro r r'
  have hcancelled : r.stream.isCancelled = true := by
    simp only [r, Reader.run_append]
    rfl
  obtain ⟨fate₀, hopened, -⟩ := Reader.Account.opened header size
  obtain ⟨given, fate, lost, haccount, -⟩ := hopened.run (turns ++ [.cancel])
  obtain ⟨_, _, _, _, hbooks, -⟩ := header.books_of_run size (turns ++ [.cancel] ++ more)
  rw [Reader.run_append] at hbooks
  obtain ⟨rest, hrest⟩ := r.received_prefix_run more
  obtain ⟨rows₀, fault?₀, hcourse⟩ := hbooks.received_course
  obtain ⟨rows, fault?, ends, rfl⟩ := course_of_append (hcourse.symm.trans hrest.symm)
  have hfew := Reader.length_pushedRows_le hcancelled more
  -- The account says what comes out of the queue; who has left receives nothing at all.
  cases hdropped : r.stream.isDropped with
  | true =>
    have hleft := Reader.hasLeft_run rfl hdropped
    have hnone : rows = [] := hleft.rows_of_course hrest.symm
    refine ⟨rows, fault?, ends, hrest.symm, hnone ▸ List.nil_prefix, fun _ hkept => ?_, hfew⟩
    exact absurd (hkept.symm.trans (hleft.run more).isDropped) Bool.false_ne_true
  | false =>
    obtain ⟨left, hrows, hnothing⟩ := haccount.rows_of_course hdropped hrest.symm
    refine ⟨rows, fault?, ends, hrest.symm, ⟨_, hrows⟩, fun hend hkept => ?_, hfew⟩
    have hqueue : (r.run more).stream.queue = [] := hbooks.queue_eq_nil hend hkept
    rw [hqueue, hnothing hkept] at hrows
    exact (List.append_nil rows).symm.trans hrows

/-! ## Three rows in the queue -/

section Queued

open Connection Rehearsal

/-- The rows of a result set of three are put into the queue, and then the stream is cancelled. -/
def queuedThenCancelled : List (Turn Server) :=
  List.replicate 4 (.produce (rehearsed [])) ++ [.cancel]

/-- All three are received after the cancellation, and then the end without a fault. -/
theorem queued_rows_received :
    let r := ((countedRows 3).opened 1024).run queuedThenCancelled
    let row (n : Int) : Row := ⟨⟨["C0"]⟩, [.int n]⟩
    r.stream.isCancelled = true ∧ r.received = [] ∧
      (r.run (.produce (rehearsed []) :: List.replicate 4 .receive)).received =
        [some (.ok (row 0)), some (.ok (row 1)), some (.ok (row 2)), none] := by
  refine ⟨?_, ?_, ?_⟩ <;> rfl

end Queued

end ExasolClient
