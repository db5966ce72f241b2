-- SUMMARY: One step of a producer as a function of the line, and what a producer says to the server.
import ExasolClient.Proofs.Exchange.Talk
import ExasolClient.Stream.Producer

/-!
# Turns of a producer

What a step of a producer says and what becomes of the stream are functions of the
stream and of the line of the connection (`advance_yields`). A producer asks for
rows of its own result set and tells the server when that is no longer needed, and
says nothing else (`Minds`).
-/

namespace ExasolClient

/-- The result set that a task is about. -/
def Task.handle? : Task → Option Int64
  | .page handle _ | .deliver _ (some (handle, _)) | .release handle | .overflowed handle =>
    some handle
  | .report _ handle => handle
  | .unpack _ | .deliver _ none | .ended => none

/-- What is left to do once the item in hand is delivered. -/
def Task.afterItem : Task → Task
  | .deliver (_ :: rows) next => .deliver rows next
  | .report _ handle => .releasing handle
  | task => task

/-- The request asks for rows of a result set, or gives it up. -/
def Request.IsAbout (handle : Int64) (r : Request) : Prop :=
  (∃ position numBytes, r = .fetch handle position numBytes) ∨ r = .closeResultSets [handle]

namespace Stream

/-! ## One step -/

/-- What becomes of the rows that were asked for. -/
def fetched (s : Stream) (handle : Int64) (position : UInt64) : Except Fault Chunk → Task
  | .error fault => .report (.context "Unable to fetch" fault) none
  | .ok chunk =>
    if chunk.numRows = 0 then
      .report (.protocolError (.emptyFetch position s.totalRows)) (some handle)
    else match checkShape s.columns chunk.data chunk.numRows with
      | .error fault => .report fault (some handle)
      | .ok () => s.accepted handle position chunk

/-- What becomes of an item that is put into the queue. -/
def offered (s : Stream) (item : Item) (connectionCancelled : Bool) : Delivery × Stream :=
  match s.delivery connectionCancelled with
  | .done => (.done, s.push item)
  | .waiting => (.waiting, s)
  | .cancelled => (.cancelled, s.push (.error .cancelled))

/-- The stream after a delivery, and with it the task, unless the queue is full. -/
def delivered (outcome : Delivery × Stream) (done cancelled : Task) : Stream :=
  match outcome with
  | (.done, s) => { s with task := done }
  | (.waiting, s) => s
  | (.cancelled, s) => { s with task := cancelled }

/-- What a producer says in its next step. -/
def said [Transport σ] (s : Stream) (l : Line σ) : List Attempt :=
  match s.task with
  | .page handle position =>
    if position < s.totalRows then [l.attempt (.fetch handle position s.fetchSize)] else []
  | .release handle => [l.attempt (.closeResultSets [handle])]
  | _ => []

/-- The stream after the next step of its producer. -/
def next [Transport σ] (s : Stream) (l : Line σ) : Stream :=
  match s.task with
  | .ended | .overflowed _ => s
  | .unpack data => { s with task := s.unpacked data }
  | .page handle position =>
    if position < s.totalRows then
      let page := (l.attempt (.fetch handle position s.fetchSize)).payload Chunk
      { s with task := s.fetched handle position page }
    else { s with task := .release handle }
  | .deliver [] (some (handle, position)) => { s with task := .page handle position }
  | .deliver [] none => { s with task := .ended }
  | .deliver (row :: rows) next =>
    delivered (s.offered (.ok row) l.isCancelled) (.deliver rows next)
      (.releasing (next.map Prod.fst))
  | .report fault handle =>
    delivered (s.offered (.error fault) l.isCancelled) (.releasing handle) (.releasing handle)
  | .release _ => { s with task := .ended }

variable [Transport σ]

theorem fetchPage_yields (s : Stream) (handle : Int64) (position : UInt64) (c : Connection σ) :
    Quiet.Yields (s.fetchPage handle position) c
      [c.line.attempt (.fetch handle position s.fetchSize)] c.statements
      (s.fetched handle position
        ((c.line.attempt (.fetch handle position s.fetchSize)).payload Chunk)) := by
  refine .bind_attempt (Connection.ask_yields Chunk (.fetch handle position s.fetchSize) rfl c) ?_
  intro d hleads
  cases (c.line.attempt (.fetch handle position s.fetchSize)).payload Chunk with
  | error fault => exact hleads.quiet_pure _
  | ok chunk =>
    dsimp only [fetched]
    split
    · exact hleads.quiet_pure _
    · cases checkShape s.columns chunk.data chunk.numRows with
      | error fault => exact hleads.quiet_pure _
      | ok _ =>
        have hlog := hleads.quiet_log (.chunkFetched handle position chunk.numRows)
        exact hlog.bind ((hleads.trans hlog.leads).quiet_pure _)

theorem releaseResultSet_yields (handle : Int64) (c : Connection σ) :
    Quiet.Yields (releaseResultSet handle) c [c.line.attempt (.closeResultSets [handle])]
      c.statements () := by
  refine .bind_attempt (Connection.tell_yields (.closeResultSets [handle]) rfl c) ?_
  intro d hleads
  split
  · exact hleads.quiet_pure ()
  · exact hleads.quiet_log _
  · exact hleads.quiet_log _

theorem abandon_yields (next : Option (Int64 × UInt64)) (c : Connection σ) :
    Quiet.Yields (abandon next) c [] c.statements (.releasing (next.map Prod.fst)) := by
  cases next with
  | none => exact (Leads.refl c).quiet_pure _
  | some p =>
    have hlog := (Leads.refl c).quiet_log (.streamAbandoned p.1 p.2)
    exact hlog.bind (hlog.leads.quiet_pure _)

theorem offer_yields (s : Stream) (item : Item) (c : Connection σ) :
    Quiet.Yields (s.offer item) c [] c.statements (s.offered item c.isCancelled) := by
  refine .get ?_
  unfold offered
  cases s.delivery c.isCancelled <;> exact (Leads.refl c).quiet_pure _

/-- A step of a producer is a function of the line. -/
theorem advance_yields (s : Stream) (c : Connection σ) :
    Quiet.Yields s.advance c (s.said c.line) c.statements (s.next c.line) := by
  unfold advance said next
  cases htask : s.task with
  | ended | overflowed => exact (Leads.refl c).quiet_pure _
  | unpack data => exact (Leads.refl c).quiet_pure _
  | page handle position =>
    dsimp only
    split
    · have hfetch := fetchPage_yields s handle position c
      exact hfetch.bind (hfetch.leads.quiet_pure _)
    · exact (Leads.refl c).quiet_pure _
  | deliver rows next =>
    cases rows with
    | nil =>
      cases next with
      | none => exact (Leads.refl c).quiet_pure _
      | some p => exact (Leads.refl c).quiet_pure _
    | cons row rows =>
      have hoffer := offer_yields s (.ok row) c
      apply hoffer.before
      change Quiet.Yields _ _ _ _ (delivered (s.offered (.ok row) c.isCancelled) _ _)
      rcases s.offered (.ok row) c.isCancelled with ⟨_ | _ | _, s'⟩
      · exact hoffer.leads.quiet_pure _
      · exact hoffer.leads.quiet_pure _
      · have habandon := abandon_yields next (Quiet.on (s.offer (.ok row)) c).2
        rw [hoffer.leads.statements] at habandon
        exact habandon.before (habandon.leads.quiet_pure _)
  | report fault handle =>
    have hoffer := offer_yields s (.error fault) c
    apply hoffer.before
    change Quiet.Yields _ _ _ _ (delivered (s.offered (.error fault) c.isCancelled) _ _)
    rcases s.offered (.error fault) c.isCancelled with ⟨_ | _ | _, s'⟩ <;>
      exact hoffer.leads.quiet_pure _
  | release handle =>
    have hrelease := releaseResultSet_yields handle c
    exact hrelease.before (hrelease.leads.quiet_pure _)

/-! ## What a producer says -/

/-- The producer goes on with the same result set, if with any. -/
def Keeps (s s' : Stream) : Prop := ∀ handle, s'.task.handle? = some handle →
  s.task.handle? = some handle

/-- Every request of a talk is about the result set of the stream. -/
def Says (s : Stream) (talk : List Attempt) : Prop :=
  ∀ a ∈ talk, ∃ handle, s.task.handle? = some handle ∧ a.request.IsAbout handle

theorem Says.append {s : Stream} {talk more : List Attempt} (h : s.Says talk) (h' : s.Says more) :
    s.Says (talk ++ more) := by
  intro a ha
  rcases List.mem_append.1 ha with ha | ha
  · exact h a ha
  · exact h' a ha

theorem Says.of_keeps {s s' : Stream} {talk : List Attempt} (hs : s.Keeps s') (h : s'.Says talk) :
    s.Says talk := by
  intro a ha
  obtain ⟨handle, hhandle, habout⟩ := h a ha
  exact ⟨handle, hs handle hhandle, habout⟩

omit [Transport σ] in
/-- A chunk that is accepted is one of the same result set. -/
theorem handle?_accepted (s : Stream) (handle : Int64) (position : UInt64) (chunk : Chunk) :
    (s.accepted handle position chunk).handle? = some handle := by
  unfold accepted
  split <;> rfl

theorem handle?_fetched {s : Stream} {h handle : Int64} {position : UInt64}
    {page : Except Fault Chunk} (hh : (s.fetched h position page).handle? = some handle) :
    h = handle := by
  unfold fetched at hh
  repeat' split at hh
  · cases hh
  · exact Option.some.inj hh
  · exact Option.some.inj hh
  · rw [handle?_accepted] at hh
    exact Option.some.inj hh

theorem task_delivered_offered (s : Stream) (item : Item) (cancelled : Bool)
    (done abandoned : Task) :
    (delivered (s.offered item cancelled) done abandoned).task = done ∨
      (delivered (s.offered item cancelled) done abandoned).task = s.task ∨
      (delivered (s.offered item cancelled) done abandoned).task = abandoned := by
  unfold offered delivered
  cases s.delivery cancelled
  · exact .inl rfl
  · exact .inr (.inl rfl)
  · exact .inr (.inr rfl)

omit [Transport σ] in
theorem handle?_releasing (handle : Option Int64) : (Task.releasing handle).handle? = handle := by
  cases handle <;> rfl

omit [Transport σ] in
theorem handle?_deliver (rows : List Row) (next : Option (Int64 × UInt64)) :
    (Task.deliver rows next).handle? = next.map Prod.fst := by
  cases next <;> rfl

omit [Transport σ] in
/-- An item that is delivered leaves the producer with the same result set. -/
theorem handle?_afterItem (task : Task) : task.afterItem.handle? = task.handle? := by
  cases task with
  | deliver rows next => cases rows <;> cases next <;> rfl
  | report fault handle => exact handle?_releasing handle
  | unpack | page | release | ended | overflowed => rfl

omit [Transport σ] in
theorem handle?_unpacked (s : Stream) (data : Cells) : (s.unpacked data).handle? = none := by
  unfold unpacked
  split <;> rfl

/-- A step with an item in hand is about nothing else. -/
theorem next_of_item {s : Stream} {item : Item} (h : s.task.item? = some item)
    (l : Line σ) : s.next l = delivered (s.offered item l.isCancelled) s.task.afterItem
      (.releasing s.task.handle?) := by
  unfold next
  cases htask : s.task with
  | deliver rows next =>
    rw [htask] at h
    cases rows with
    | nil => cases h
    | cons row rows =>
      cases h
      rw [handle?_deliver]
      rfl
  | report fault handle =>
    rw [htask] at h
    cases h
    rfl
  | unpack | page | release | ended | overflowed =>
    rw [htask] at h
    cases h

theorem said_of_item {s : Stream} {item : Item} (h : s.task.item? = some item)
    (l : Line σ) : s.said l = [] := by
  unfold said
  cases htask : s.task with
  | page | release =>
    rw [htask] at h
    cases h
  | deliver | report | unpack | ended | overflowed => rfl

/-- A producer that says nothing goes on with what it has. -/
theorem handle?_next_of_said {s : Stream} {l : Line σ} (h : s.said l = []) :
    (s.next l).task.handle? = s.task.handle? := by
  cases hitem : s.task.item? with
  | some item =>
    rw [next_of_item hitem]
    rcases task_delivered_offered s item l.isCancelled s.task.afterItem
      (.releasing s.task.handle?) with htask | htask | htask <;> rw [htask]
    · exact handle?_afterItem s.task
    · exact handle?_releasing _
  | none =>
    unfold next
    unfold said at h
    cases htask : s.task with
    | ended | overflowed => exact congrArg Task.handle? htask
    | unpack data => exact s.handle?_unpacked data
    | page handle position =>
      simp only [htask] at h ⊢
      split at h
      · cases h
      next hend => rw [if_neg hend]; rfl
    | deliver rows next =>
      rw [htask] at hitem
      cases rows with
      | nil => cases next <;> rfl
      | cons row rows => cases hitem
    | report fault handle =>
      rw [htask] at hitem
      cases hitem
    | release handle =>
      simp only [htask] at h
      cases h

theorem says_said (s : Stream) (l : Line σ) : s.Says (s.said l) := by
  intro a ha
  unfold said at ha
  split at ha
  next handle position htask =>
    split at ha
    · rw [List.mem_singleton] at ha
      subst ha
      exact ⟨handle, by rw [htask]; rfl, .inl ⟨_, _, rfl⟩⟩
    · cases ha
  next handle htask =>
    rw [List.mem_singleton] at ha
    subst ha
    exact ⟨handle, by rw [htask]; rfl, .inr rfl⟩
  next => cases ha

theorem keeps_next (s : Stream) (l : Line σ) : s.Keeps (s.next l) := by
  intro handle hnext
  by_cases hsaid : s.said l = []
  · rwa [handle?_next_of_said hsaid] at hnext
  · -- Only a fetch and a release are said.
    unfold said at hsaid
    unfold next at hnext
    cases htask : s.task with
    | page h position =>
      simp only [htask] at hnext
      split at hnext
      · exact congrArg some (handle?_fetched hnext)
      · exact hnext
    | release h =>
      simp only [htask] at hnext
      cases hnext
    | ended | overflowed | unpack | deliver | report =>
      rw [htask] at hsaid
      exact absurd rfl hsaid

/-! ## Many steps -/

end Stream

/--
An operation on a stream talks about no other result set than that of the stream,
and leaves the cache alone.
-/
def Quiet.Minds [Transport σ] (action : Quiet σ α) (view : α → Stream) (s : Stream)
    (c : Connection σ) : Prop :=
  ∃ talk, Leads c talk c.statements (Quiet.on action c).2 ∧ s.Says talk ∧
    s.Keeps (view (Quiet.on action c).1)

namespace Quiet.Minds

variable [Transport σ] {s : Stream} {c : Connection σ}

theorem pure {view : α → Stream} {a : α} (h : s.Keeps (view a)) :
    Quiet.Minds (Pure.pure a) view s c :=
  ⟨[], .refl c, by simp [Stream.Says], h⟩

theorem of_keeps {action : Quiet σ α} {view : α → Stream} {s' : Stream} (hs : s.Keeps s')
    (h : Quiet.Minds action view s' c) : Quiet.Minds action view s c := by
  obtain ⟨talk, hleads, hsays, hkeeps⟩ := h
  exact ⟨talk, hleads, hsays.of_keeps hs, fun h hh => hs h (hkeeps h hh)⟩

theorem get {f : Connection σ → Quiet σ α} {view : α → Stream}
    (h : Quiet.Minds (f c) view s c) : Quiet.Minds (MonadState.get >>= f) view s c :=
  h

theorem bind {x : Quiet σ α} {f : α → Quiet σ β} {view : α → Stream} {view' : β → Stream}
    (hx : Quiet.Minds x view s c)
    (hf : ∀ a d, s.Keeps (view a) → Quiet.Minds (f a) view' (view a) d) :
    Quiet.Minds (x >>= f) view' s c := by
  obtain ⟨talk, hleads, hsays, hkeeps⟩ := hx
  obtain ⟨more, hmore, hsays', hkeeps'⟩ := hf (Quiet.on x c).1 (Quiet.on x c).2 hkeeps
  rw [hleads.statements] at hmore
  exact ⟨talk ++ more, hleads.trans hmore, hsays.append (hsays'.of_keeps hkeeps),
    fun h hh => hkeeps h (hkeeps' h hh)⟩

end Quiet.Minds

namespace Stream

variable [Transport σ]

theorem advance_minds (s : Stream) (c : Connection σ) : Quiet.Minds s.advance id s c := by
  have hyields := s.advance_yields c
  refine ⟨s.said c.line, hyields.leads, s.says_said c.line, ?_⟩
  rw [hyields.returns]
  exact s.keeps_next c.line

omit [Transport σ] in
theorem keeps_refl (s : Stream) : s.Keeps s := fun _ h => h

theorem produce_minds (fuel : Nat) (s : Stream) (c : Connection σ) :
    Quiet.Minds (produce fuel s) id s c := by
  induction fuel generalizing s c with
  | zero => exact .pure s.keeps_refl
  | succ fuel ih =>
    refine .get ?_
    split
    · exact .pure s.keeps_refl
    · refine .bind (s.advance_minds c) ?_
      intro next d _
      split
      · exact .pure next.keeps_refl
      · exact ih next d

theorem settleRounds_minds (rounds : Nat) (s : Stream) (c : Connection σ) :
    Quiet.Minds (settleRounds rounds s) id s c := by
  induction rounds generalizing s c with
  | zero => exact .pure s.keeps_refl
  | succ rounds ih =>
    refine .get ?_
    split
    · exact .pure s.keeps_refl
    · exact .bind (produce_minds s.patience s c) fun next d _ => ih next d

omit [Transport σ] in
/-- Taking an item changes nothing but the queue and whether the end was seen. -/
theorem take_eq (s : Stream) :
    ∃ queue isFinished, s.take.2 = { s with queue := queue, isFinished := isFinished } := by
  unfold take
  split
  · exact ⟨s.queue, s.isFinished, rfl⟩
  · split
    · exact ⟨_, s.isFinished, rfl⟩
    · exact ⟨_, _, rfl⟩
    · split <;> exact ⟨s.queue, _, rfl⟩

omit [Transport σ] in
/-- The consumer has no part in what the producer does next. -/
theorem task_take (s : Stream) : s.take.2.task = s.task := by
  obtain ⟨queue, isFinished, htake⟩ := s.take_eq
  rw [htake]

omit [Transport σ] in
theorem keeps_take (s : Stream) : s.Keeps s.take.2 := by
  intro handle h
  rwa [task_take] at h

theorem receive_minds (s : Stream) (c : Connection σ) :
    Quiet.Minds s.receive Prod.snd s c := by
  have htake := s.keeps_take
  unfold receive
  rcases h : s.take with ⟨receipt, s'⟩
  rw [h] at htake
  cases receipt with
  | item item => exact .pure htake
  | ended => exact .pure htake
  | pending =>
    refine .of_keeps htake (.bind (produce_minds s'.patience s' c) fun next d _ => ?_)
    have htake' := next.keeps_take
    rcases h' : next.take with ⟨receipt, s''⟩
    rw [h'] at htake'
    cases receipt <;> exact .pure htake'

theorem receiveMany_minds (count : Nat) (s : Stream) (c : Connection σ) :
    Quiet.Minds (receiveMany count s) Prod.snd s c := by
  induction count generalizing s c with
  | zero => exact .pure s.keeps_refl
  | succ count ih =>
    refine .bind (s.receive_minds c) ?_
    intro r d _
    refine .bind (ih r.2 d) ?_
    intro r' e _
    exact .pure r'.2.keeps_refl

theorem receiveChunks_minds (rounds : Nat) (s : Stream) (c : Connection σ) :
    Quiet.Minds (receiveChunks rounds s) Prod.snd s c := by
  induction rounds generalizing s c with
  | zero => exact .pure s.keeps_refl
  | succ rounds ih =>
    refine .bind (receiveMany_minds _ s c) ?_
    intro r d _
    dsimp only
    split
    · exact .pure r.2.keeps_refl
    · refine .bind (ih r.2 d) ?_
      intro r' e _
      exact .pure r'.2.keeps_refl

theorem receiveAll_minds (s : Stream) (c : Connection σ) :
    Quiet.Minds s.receiveAll Prod.snd s c :=
  receiveChunks_minds _ s c

theorem settle_minds (s : Stream) (c : Connection σ) : Quiet.Minds s.settle id s c :=
  settleRounds_minds _ s c

end Stream
end ExasolClient
