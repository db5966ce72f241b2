-- SUMMARY: A result set that a stream reads is given up once, unless it was lost with a fetch.
import ExasolClient.Proofs.Stream.Totals

/-!
# Giving a result set up

A producer keeps a result set as long as its task is about that. As long as it does, all
that it has said are fetches, each of which has brought a chunk; the first attempt that
brings none is its last (`Paging`). That is a fetch that failed, with which the result set
is lost, or the request that gives the result set up. Main statement: whatever the fetches
bring and whenever the stream is cancelled or left, a producer that has come to its end has
given up its own result set once and behind its last fetch, unless a fetch failed
(`released_once`).
-/

namespace ExasolClient

/-! ## What a producer keeps -/

/-- A fetch that has brought no chunk. -/
def Attempt.isFailedFetch (a : Attempt) : Bool := a.request.isFetch && a.chunk?.isNone

/-- All that was said to keep a result set, and with it what was said last when it is not kept. -/
inductive Paging : (kept : Bool) → List Attempt → Prop where
  | going {pages : List Attempt} : (∀ a ∈ pages, a.chunk?.isSome = true) → Paging true pages
  | ended {pages : List Attempt} {last : Attempt} : (∀ a ∈ pages, a.chunk?.isSome = true) →
      last.chunk? = none → Paging false (pages ++ [last])

theorem Attempt.isFetch_of_chunk? {a : Attempt} (h : a.chunk?.isSome = true) :
    a.request.isFetch = true := by
  unfold chunk? at h
  split at h
  · assumption
  · cases h

theorem Attempt.not_isFailedFetch {a : Attempt} (h : a.chunk?.isSome = true) :
    a.isFailedFetch = false := by
  rw [isFailedFetch, Option.isNone_eq_false_iff.2 h, Bool.and_false]

namespace Paging

variable {kept : Bool} {talk : List Attempt}

theorem concat {a : Attempt} (h : Paging true talk) : Paging a.chunk?.isSome (talk ++ [a]) := by
  cases h with
  | going hpages =>
    cases hchunk : a.chunk? with
    | none => exact .ended hpages hchunk
    | some chunk =>
      refine .going fun b hb => ?_
      rcases List.mem_append.1 hb with hb | hb
      · exact hpages b hb
      · rw [List.mem_singleton.1 hb, hchunk]
        rfl

/-- Fetches come first, and then what gives the result set up. -/
theorem split (h : Paging kept talk) : ∃ fetches releases, talk = fetches ++ releases ∧
    (∀ a ∈ fetches, a.request.isFetch = true) ∧ (∀ a ∈ releases, a.request.isFetch = false) ∧
    releases.length = if kept || fetches.any Attempt.isFailedFetch then 0 else 1 := by
  have hfetches {pages : List Attempt} (h : ∀ a ∈ pages, a.chunk?.isSome = true) :
      (∀ a ∈ pages, a.request.isFetch = true) ∧ pages.any Attempt.isFailedFetch = false :=
    ⟨fun a ha => Attempt.isFetch_of_chunk? (h a ha),
      List.any_eq_false.2 fun a ha hfailed => by
        rw [Attempt.not_isFailedFetch (h a ha)] at hfailed
        cases hfailed⟩
  cases h with
  | going hpages =>
    exact ⟨talk, [], (List.append_nil talk).symm, (hfetches hpages).1, by simp, by simp⟩
  | @ended pages last hpages hlast =>
    obtain ⟨hfetch, hnone⟩ := hfetches hpages
    cases hrequest : last.request.isFetch with
    | true =>
      refine ⟨pages ++ [last], [], (List.append_nil _).symm, fun a ha => ?_, by simp, ?_⟩
      · rcases List.mem_append.1 ha with ha | ha
        · exact hfetch a ha
        · rw [List.mem_singleton.1 ha, hrequest]
      · simp [Attempt.isFailedFetch, hrequest, hlast]
    | false =>
      refine ⟨pages, [last], rfl, hfetch, fun a ha => ?_, by simp [hnone]⟩
      rw [List.mem_singleton.1 ha, hrequest]

end Paging

/-! ## A turn -/

section Turn

variable [Transport σ]

omit [Transport σ] in
/-- A producer keeps its result set as long as it receives chunks, whatever is in them. -/
theorem Stream.handle?_fetched_eq (s : Stream) (handle : Int64) (position : UInt64)
    (page : Except Fault Chunk) :
    (s.fetched handle position page).handle?.isSome = page.toOption.isSome := by
  unfold fetched
  repeat' split
  · rfl
  · rfl
  · rfl
  · rw [handle?_accepted]
    rfl

/-- What a producer says decides whether it keeps its result set. -/
theorem Stream.said_eq_nil_or (s : Stream) (l : Line σ) : s.said l = [] ∨
    ∃ a, s.said l = [a] ∧ s.task.handle?.isSome = true ∧
      (s.next l).task.handle?.isSome = a.chunk?.isSome := by
  unfold said next
  cases s.task with
  | page handle position =>
    dsimp only
    split
    · refine .inr ⟨_, rfl, rfl, ?_⟩
      rw [handle?_fetched_eq]
      rfl
    · exact .inl rfl
  | release handle => exact .inr ⟨_, rfl, rfl, rfl⟩
  | ended | overflowed | unpack | deliver | report => exact .inl rfl

theorem Paging.next {s : Stream} {talk : List Attempt} (h : Paging s.task.handle?.isSome talk)
    (l : Line σ) : Paging (s.next l).task.handle?.isSome (talk ++ s.said l) := by
  rcases s.said_eq_nil_or l with hsaid | ⟨a, hsaid, hkept, hnext⟩
  · rwa [hsaid, List.append_nil, Stream.handle?_next_of_said hsaid]
  · rw [hsaid, hnext]
    rw [hkept] at h
    exact h.concat

omit [Transport σ] in
theorem Stream.handle?_handOver (s : Stream) : s.handOver.task.handle? = s.task.handle? := by
  unfold handOver
  split
  · split
    · exact handle?_afterItem s.task
    · rfl
  · rfl

/-- Every turn leaves it at that. -/
theorem Paging.after {r : Reader} {talk : List Attempt}
    (h : Paging r.stream.task.handle?.isSome talk) (turn : Turn σ) :
    Paging (r.after turn).stream.task.handle?.isSome (talk ++ r.saidIn turn) := by
  cases turn with
  | produce c =>
    rw [Reader.after_produce]
    exact h.next c.line
  | handOver =>
    rw [← r.stream.handle?_handOver] at h
    exact (List.append_nil talk).symm ▸ h
  | receive =>
    rw [← r.task_receive] at h
    exact (List.append_nil talk).symm ▸ h
  | cancel | drop => exact (List.append_nil talk).symm ▸ h

theorem Paging.run {r : Reader} {talk : List Attempt}
    (h : Paging r.stream.task.handle?.isSome talk) (turns : List (Turn σ)) :
    Paging (r.run turns).stream.task.handle?.isSome (talk ++ r.said turns) := by
  induction turns generalizing r talk with
  | nil => exact (List.append_nil talk).symm ▸ h
  | cons turn turns ih =>
    have hrest := ih (h.after turn)
    rwa [List.append_assoc] at hrest

end Turn

/-! ## The end of a stream that was given up -/

/--
The steps that a producer takes at the most once its stream is cancelled. It notices that
when it has an item in hand.
-/
def Task.stepsLeft : Task → Nat
  | .ended | .overflowed _ => 0
  | .release _ | .report _ none | .deliver [] none | .deliver (_ :: _) none => 1
  | .report _ (some _) | .deliver (_ :: _) (some _) | .unpack _ => 2
  | .page _ _ => 3
  | .deliver [] (some _) => 4

/-- The producer takes a step in this turn. -/
def Turn.isStep : Turn σ → Bool
  | .produce _ => true
  | _ => false

/-- The producer delivers its item in this turn without another look for a cancellation. -/
def Turn.isHandOver : Turn σ → Bool
  | .handOver => true
  | _ => false

theorem Task.stepsLeft_le (task : Task) : task.stepsLeft ≤ 4 := by
  unfold stepsLeft
  split <;> decide

theorem Task.stepsLeft_releasing (handle? : Option Int64) :
    (releasing handle?).stepsLeft ≤ handle?.toList.length := by
  cases handle? <;> exact Nat.le_refl _

theorem Task.stepsLeft_eq_zero {task : Task} (h : task.stepsLeft = 0) : task.isEnded = true := by
  unfold stepsLeft at h
  split at h
  · rfl
  · rfl
  all_goals cases h

/-- With an item in hand, a result set that is kept is still to be given up. -/
theorem Task.stepsLeft_of_item {task : Task} {item : Item} (h : task.item? = some item) :
    task.stepsLeft = task.handle?.toList.length + 1 := by
  cases task with
  | deliver rows next =>
    cases rows with
    | nil => cases h
    | cons row rows => cases next <;> rfl
  | report fault handle => cases handle <;> rfl
  | unpack | page | release | ended | overflowed => cases h

theorem Task.stepsLeft_afterItem_le (task : Task) :
    task.afterItem.stepsLeft ≤ task.stepsLeft + 2 := by
  cases task with
  | deliver rows next =>
    match rows, next with
    | [], _ => exact Nat.le_add_right _ _
    | [_], none | [_], some _ | _ :: _ :: _, none | _ :: _ :: _, some _ =>
      simp [afterItem, stepsLeft]
  | report fault handle => cases handle <;> simp [afterItem, releasing, stepsLeft]
  | unpack | page | release | ended | overflowed => exact Nat.le_add_right _ _

theorem Stream.stepsLeft_handOver_le (s : Stream) :
    s.handOver.task.stepsLeft ≤ s.task.stepsLeft + 2 := by
  unfold handOver
  split
  · split
    · exact s.task.stepsLeft_afterItem_le
    · exact Nat.le_add_right _ _
  · exact Nat.le_add_right _ _

/-- Where there is a column, a page that is accepted brings an item. -/
theorem Stream.stepsLeft_accepted_le {s : Stream} (hcolumn : 0 < s.columns.size) (handle : Int64)
    (position : UInt64) {chunk : Chunk} (hfits : chunk.Fits s.columns) :
    (s.accepted handle position chunk).stepsLeft ≤ 2 := by
  unfold accepted
  split
  · have hlength := hfits.length_rowsOf hcolumn
    cases hpage : rowsOf s.columns chunk.data with
    | cons row rows => exact Nat.le_refl 2
    | nil =>
      rw [hpage] at hlength
      exact absurd (UInt64.toNat_inj.1 hlength.symm) hfits.nonempty
  · exact Nat.zero_le 2

theorem Stream.stepsLeft_fetched_le {s : Stream} (hcolumn : 0 < s.columns.size) (handle : Int64)
    (position : UInt64) (page : Except Fault Chunk) :
    (s.fetched handle position page).stepsLeft ≤ 2 := by
  unfold fetched
  split
  · exact Nat.le_succ 1
  next chunk =>
    split
    · exact Nat.le_refl 2
    next hrows =>
      split
      · exact Nat.le_refl 2
      next hshape =>
        exact stepsLeft_accepted_le hcolumn handle position (Chunk.fits_iff.2 ⟨hrows, hshape⟩)

theorem Stream.stepsLeft_unpacked_le (s : Stream) (data : Cells) :
    (s.unpacked data).stepsLeft ≤ 1 := by
  unfold unpacked
  split
  · cases rowsOf s.columns data <;> exact Nat.le_refl 1
  · exact Nat.le_refl 1

section Steps

variable [Transport σ] {s : Stream} {r : Reader}

/-- Each step brings the producer of a cancelled stream nearer to its end. -/
theorem Stream.stepsLeft_next_le (hcolumn : 0 < s.columns.size) (hcancelled : s.isCancelled = true)
    (l : Line σ) : (s.next l).task.stepsLeft ≤ s.task.stepsLeft - 1 := by
  cases hitem : s.task.item? with
  | some item =>
    have hnoticed : (l.isCancelled || s.isCancelled) = true := by rw [hcancelled, Bool.or_true]
    obtain ⟨told, hdelivered, -⟩ := Stream.delivered_of_cancelled item s.task.afterItem
      (.releasing s.task.handle?) hnoticed
    rw [Stream.next_of_item hitem, hdelivered, Task.stepsLeft_of_item hitem]
    exact Task.stepsLeft_releasing s.task.handle?
  | none =>
    unfold next
    cases htask : s.task with
    | ended | overflowed =>
      simp only [htask]
      exact Nat.le_refl 0
    | unpack data => exact s.stepsLeft_unpacked_le data
    | page handle position =>
      dsimp only
      split
      · exact stepsLeft_fetched_le hcolumn handle position _
      · exact Nat.le_succ 1
    | deliver rows next =>
      rw [htask] at hitem
      cases rows with
      | nil => cases next <;> exact Nat.le_refl _
      | cons row rows => cases hitem
    | report fault handle =>
      rw [htask] at hitem
      cases hitem
    | release handle => exact Nat.le_refl 0

theorem Stream.isSent_said (s : Stream) {l : Line σ} (hopen : l.isOpen = true)
    (hlive : l.isCancelled = false) : ∀ a ∈ s.said l, a.isSent = true := by
  intro a ha
  unfold said at ha
  split at ha
  · split at ha
    · rw [List.mem_singleton.1 ha]
      exact l.isSent_attempt _ hopen hlive
    · cases ha
  · rw [List.mem_singleton.1 ha]
    exact l.isSent_attempt _ hopen hlive
  · cases ha

/-- A turn keeps the columns of a stream, and does not take a cancellation back. -/
theorem Reader.cancelled_after (r : Reader) (turn : Turn σ) :
    (r.after turn).stream.columns = r.stream.columns ∧
      (r.stream.isCancelled = true → (r.after turn).stream.isCancelled = true) := by
  cases turn with
  | produce c =>
    obtain ⟨task, more, hnext⟩ := r.stream.next_eq_handing c.line
    rw [after_produce, hnext]
    exact ⟨rfl, id⟩
  | handOver =>
    obtain ⟨task, more, hnext⟩ := r.stream.handOver_eq_handing
    simp only [after, hnext]
    exact ⟨rfl, id⟩
  | receive =>
    obtain ⟨queue, isFinished, htake⟩ := r.stream.take_eq
    have hreceive : (r.after (.receive : Turn σ)).stream = r.stream.take.2 := r.stream_receive
    rw [hreceive, htake]
    exact ⟨rfl, id⟩
  | cancel | drop => exact ⟨rfl, fun _ => rfl⟩

theorem Reader.cancelled_run (r : Reader) (turns : List (Turn σ)) :
    (r.run turns).stream.columns = r.stream.columns ∧
      (r.stream.isCancelled = true → (r.run turns).stream.isCancelled = true) := by
  induction turns generalizing r with
  | nil => exact ⟨rfl, id⟩
  | cons turn turns ih =>
    obtain ⟨hcolumns, hstays⟩ := r.cancelled_after turn
    obtain ⟨hcolumns', hstays'⟩ := ih (r.after turn)
    exact ⟨hcolumns'.trans hcolumns, hstays' ∘ hstays⟩

/-- Whoever leaves a stream cancels it. -/
theorem Reader.isCancelled_run (r : Reader) {turns : List (Turn σ)}
    (h : .cancel ∈ turns ∨ .drop ∈ turns) : (r.run turns).stream.isCancelled = true := by
  have hturn (turn : Turn σ) (hmem : turn ∈ turns)
      (hcancels : ∀ r : Reader, (r.after turn).stream.isCancelled = true) :
      (r.run turns).stream.isCancelled = true := by
    obtain ⟨before, after, rfl⟩ := List.append_of_mem hmem
    rw [run_append, run_cons]
    exact (cancelled_run _ after).2 (hcancels _)
  rcases h with h | h
  · exact hturn .cancel h fun _ => rfl
  · exact hturn .drop h fun _ => rfl

/-- A turn of a cancelled stream, unless its producer has come to its end. -/
theorem Reader.stepsLeft_after (hcolumn : 0 < r.stream.columns.size)
    (hcancelled : r.stream.isCancelled = true) (turn : Turn σ) :
    (r.after turn).stream.task.stepsLeft + (if turn.isStep then 1 else 0) ≤
        r.stream.task.stepsLeft + (if turn.isHandOver then 2 else 0) ∨
      (r.after turn).stream.task.isEnded = true := by
  cases turn with
  | produce c =>
    rw [after_produce]
    have hstep := Stream.stepsLeft_next_le hcolumn hcancelled c.line
    cases hsteps : r.stream.task.stepsLeft with
    | zero =>
      rw [hsteps] at hstep
      exact .inr (Task.stepsLeft_eq_zero (Nat.le_zero.1 hstep))
    | succ n =>
      rw [hsteps] at hstep
      exact .inl (Nat.add_le_add_right hstep 1)
  | handOver => exact .inl r.stream.stepsLeft_handOver_le
  | receive =>
    refine .inl (Nat.le_of_eq ?_)
    simp [after, task_receive, Turn.isStep, Turn.isHandOver]
  | cancel | drop => exact .inl (Nat.le_refl _)

/-- A producer that is gone stays as it is. -/
theorem Reader.run_of_ended (h : r.stream.task.isEnded = true) (turns : List (Turn σ)) :
    (r.run turns).stream.task = r.stream.task := by
  induction turns generalizing r with
  | nil => rfl
  | cons turn turns ih =>
    have hturn : (r.after turn).stream.task = r.stream.task := by
      cases turn with
      | produce c => rw [after_produce, next_of_ended h]
      | handOver => simp only [after, Stream.handOver_of_ended h]
      | receive => exact r.task_receive
      | cancel | drop => rfl
    exact (ih (hturn ▸ h)).trans hturn

/-- So many steps, and two more for every item that escapes the cancellation, lead to the end. -/
theorem Reader.run_of_cancelled (hcolumn : 0 < r.stream.columns.size)
    (hcancelled : r.stream.isCancelled = true) {turns : List (Turn σ)}
    (hsteps : r.stream.task.stepsLeft + 2 * turns.countP Turn.isHandOver ≤
      turns.countP Turn.isStep) : (r.run turns).stream.task.isEnded = true := by
  induction turns generalizing r with
  | nil => exact Task.stepsLeft_eq_zero (Nat.le_zero.1 hsteps)
  | cons turn turns ih =>
    obtain ⟨hcolumns, hstays⟩ := r.cancelled_after turn
    rcases r.stepsLeft_after hcolumn hcancelled turn with hstep | hended
    · refine ih (hcolumns ▸ hcolumn) (hstays hcancelled) ?_
      rw [List.countP_cons, List.countP_cons] at hsteps
      split at hstep <;> split at hstep <;> simp_all <;> omega
    · rw [run_cons, run_of_ended hended turns]
      exact hended

/-- What a producer says over an open connection that is not cancelled is sent. -/
theorem Reader.isSent_said (r : Reader) {turns : List (Turn σ)}
    (h : ∀ c, .produce c ∈ turns → c.isOpen = true ∧ c.isCancelled = false) :
    ∀ a ∈ r.said turns, a.isSent = true := by
  induction turns generalizing r with
  | nil => exact fun _ ha => nomatch ha
  | cons turn turns ih =>
    intro a ha
    rcases List.mem_append.1 ha with ha | ha
    · cases turn with
      | produce c =>
        obtain ⟨hopen, hlive⟩ := h c List.mem_cons_self
        exact r.stream.isSent_said hopen hlive a ha
      | handOver | receive | cancel | drop => cases ha
    · exact ih (r.after turn) (fun c hc => h c (List.mem_cons_of_mem turn hc)) a ha

end Steps

/-! ## From the beginning to the end -/

/-- A stream is about the result set that it has to fetch. -/
theorem ResultSet.handle?_opened (header : ResultSet) (size : UInt64) :
    (header.opened size).stream.task.handle? =
      if header.numRows = 0 then none else header.openHandle? := by
  change (Stream.ofResultSet header size).task.handle? = _
  unfold Stream.ofResultSet
  dsimp only
  split
  · rfl
  · split <;> simp_all [Task.handle?]

section Opened

variable [Transport σ]

/-- With nothing to fetch there is nothing to say. -/
theorem Reader.said_of_no_handle {r : Reader} (h : r.stream.task.handle? = none)
    (turns : List (Turn σ)) : r.said turns = [] := by
  refine List.eq_nil_iff_forall_not_mem.2 fun a ha => ?_
  obtain ⟨handle, hhandle, -⟩ := r.says_said turns a ha
  rw [h] at hhandle
  cases hhandle

variable {header : ResultSet} {turns before after : List (Turn σ)}

/-- A result set that is to be fetched is fetched from, and then given up or lost. -/
theorem ResultSet.fetches_and_releases {handle : Int64} (hopen : header.openHandle? = some handle)
    (hrows : header.numRows ≠ 0) (size : UInt64) (turns : List (Turn σ)) :
    ∃ fetches releases, (header.opened size).said turns = fetches ++ releases ∧
      (∀ a ∈ fetches, ∃ position numBytes, a.request = .fetch handle position numBytes) ∧
      (∀ a ∈ releases, a.request = .closeResultSets [handle]) ∧
      releases.length = if ((header.opened size).run turns).stream.task.handle?.isSome ||
        fetches.any Attempt.isFailedFetch then 0 else 1 := by
  have hhandle : (header.opened size).stream.task.handle? = some handle := by
    rw [handle?_opened, if_neg hrows, hopen]
  have habout : ∀ a ∈ (header.opened size).said turns, a.request.IsAbout handle := by
    intro a ha
    obtain ⟨handle', hhandle', habout⟩ := (header.opened size).says_said turns a ha
    rw [hhandle] at hhandle'
    cases hhandle'
    exact habout
  have hpaging : Paging (header.opened size).stream.task.handle?.isSome [] := by
    rw [hhandle]
    exact .going fun _ ha => nomatch ha
  obtain ⟨fetches, releases, hsaid, hfetches, hreleases, hcount⟩ := (hpaging.run turns).split
  rw [List.nil_append] at hsaid
  rw [hsaid] at habout
  refine ⟨fetches, releases, hsaid, fun a ha => ?_, fun a ha => ?_, hcount⟩
  · rcases habout a (List.mem_append_left _ ha) with hfetch | hrelease
    · exact hfetch
    · have hfetch := hfetches a ha
      rw [hrelease] at hfetch
      cases hfetch
  · rcases habout a (List.mem_append_right _ ha) with ⟨position, numBytes, hfetch⟩ | hrelease
    · have hother := hreleases a ha
      rw [hfetch] at hother
      cases hother
    · exact hrelease

/-- A stream that is cancelled or left comes to its end. -/
theorem ResultSet.ended_of_cancelled (hcolumn : 0 < header.columns.length) (size : UInt64)
    (hcancel : .cancel ∈ before ∨ .drop ∈ before)
    (hsteps : 4 + 2 * after.countP Turn.isHandOver ≤ after.countP Turn.isStep) :
    ((header.opened size).run (before ++ after)).stream.task.isEnded = true := by
  rw [Reader.run_append]
  refine Reader.run_of_cancelled ?_ (Reader.isCancelled_run _ hcancel) ?_
  · rw [(Reader.cancelled_run _ before).1]
    exact header.size_rowColumns.symm ▸ hcolumn
  · exact Nat.le_trans (Nat.add_le_add_right (Task.stepsLeft_le _) _) hsteps

/-- With a column, a producer breaks down only behind more rows than there are positions. -/
theorem ResultSet.size_le_of_overflowed {handle : Int64} (hcolumn : 0 < header.columns.length)
    (size : UInt64) (htask : ((header.opened size).run turns).stream.task = .overflowed handle) :
    UInt64.size ≤ (header.supplied ((header.opened size).said turns)).length := by
  obtain ⟨given, fate, seen, ends, hbooks, -⟩ := header.books_of_run size turns
  have hstage := hbooks.stage
  rw [htask] at hstage
  cases hstage with
  | overflowed hclosed =>
    cases hclosed with
    | overflowed hfetched _ hoverflows =>
      rw [hfetched.supplied_eq]
      exact hoverflows.size_le (header.size_rowColumns.symm ▸ hcolumn)

/--
A result set that comes with its rows, or has none, is neither fetched from nor given up. Of
any other the producer makes its fetches, and then gives up that result set and no other, at
most once, and not at all if a fetch failed; a producer that has come to its end has given it
up unless a fetch failed. Where there is a column, a producer comes to another end only with
more rows than there are positions, and a stream that was cancelled or left comes to its end
in a few steps; and over a connection that is open and not cancelled all that is said is sent.
-/
theorem released_once (header : ResultSet) (size : UInt64) (turns : List (Turn σ)) :
    let r := (header.opened size).run turns
    let talk := (header.opened size).said turns
    (header.openHandle? = none ∨ header.numRows = 0 → talk = []) ∧
    (∀ handle, header.openHandle? = some handle → header.numRows ≠ 0 →
      ∃ fetches releases, talk = fetches ++ releases ∧
        (∀ a ∈ fetches, ∃ position numBytes, a.request = .fetch handle position numBytes) ∧
        (∀ a ∈ releases, a.request = .closeResultSets [handle]) ∧
        releases.length ≤ (if fetches.any Attempt.isFailedFetch then 0 else 1) ∧
        (r.stream.task = .ended →
          releases.length = if fetches.any Attempt.isFailedFetch then 0 else 1)) ∧
    (0 < header.columns.length → r.stream.task.isEnded = true → r.stream.task = .ended ∨
      UInt64.size ≤ (header.supplied talk).length) ∧
    (∀ before after, turns = before ++ after → .cancel ∈ before ∨ .drop ∈ before →
      0 < header.columns.length →
      4 + 2 * after.countP Turn.isHandOver ≤ after.countP Turn.isStep →
        r.stream.task.isEnded = true) ∧
    ((∀ c, .produce c ∈ turns → c.isOpen = true ∧ c.isCancelled = false) →
      ∀ a ∈ talk, a.isSent = true) ∧
    (header.opened size).Records turns talk r := by
  intro r talk
  refine ⟨fun hinline => ?_, fun handle hopen hrows => ?_, fun hcolumn hended => ?_, ?_,
    (header.opened size).isSent_said, (header.opened size).records_run turns⟩
  · refine Reader.said_of_no_handle ?_ turns
    rw [header.handle?_opened]
    rcases hinline with hopen | hrows
    · rw [hopen, ite_self]
    · rw [if_pos hrows]
  · obtain ⟨fetches, releases, hsaid, hfetches, hreleases, hcount⟩ :=
      ResultSet.fetches_and_releases hopen hrows size turns
    refine ⟨fetches, releases, hsaid, hfetches, hreleases, ?_, fun hended => ?_⟩
    · rw [hcount]
      generalize (Task.handle? _).isSome = kept
      cases kept <;> cases fetches.any Attempt.isFailedFetch <;> decide
    · rw [hcount, hended]
      rfl
  · generalize htask : r.stream.task = task at hended
    cases task with
    | ended => exact .inl rfl
    | overflowed handle => exact .inr (ResultSet.size_le_of_overflowed hcolumn size htask)
    | unpack | page | deliver | report | release => cases hended
  · rintro before after rfl hcancel hcolumn hsteps
    exact ResultSet.ended_of_cancelled hcolumn size hcancel hsteps

end Opened

/-! ## A consumer who leaves -/

section Left

open Connection Rehearsal

/-- A connection to a server of three rows, which come one by one. -/
def pageByPage : Connection Server := rehearsed [("fetch", [⟨.page 3 1 1, false⟩])]

/-- The consumer leaves after the first row was fetched. -/
def leavingAfterPage : List (Turn Server) :=
  [.produce pageByPage, .drop] ++ List.replicate 4 (.produce pageByPage)

/-- The producer notices that with the row in hand, and the result set is given up. -/
theorem released_when_left :
    let header := declaring oneColumn (some 5)
    let talk := (header.opened 1024).said leavingAfterPage
    ((header.opened 1024).run leavingAfterPage).stream.task = .ended ∧
    talk.map Attempt.request = [.fetch 5 0 1024, .closeResultSets [5]] ∧
    ∀ a ∈ talk, a.isSent = true := by
  intro header talk
  obtain ⟨-, -, hwhole, hend, hsent, -⟩ := released_once header 1024 leavingAfterPage
  have hended := hend _ _ rfl (.inr (.tail _ (.head _))) (by decide) (by decide)
  refine ⟨(hwhole (by decide) hended).resolve_right (by decide +kernel), by decide +kernel,
    hsent fun c hc => ?_⟩
  obtain rfl : c = pageByPage := by simpa [leavingAfterPage] using hc
  exact ⟨rfl, rfl⟩

end Left

end ExasolClient
