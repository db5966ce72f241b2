-- SUMMARY: Every row of a result set is delivered once and in order, however the moves are interleaved.
import ExasolClient.Proofs.Statement.Servers
import ExasolClient.Proofs.Stream.Progress

/-!
# Delivery

A server holds a table under a handle until that is closed (`Holds`). No operation
and no other stream closes it, since the server told them other handles (`Guards`);
so whatever else a client does, the books of the stream are kept by every move
(`Delivers`). Main statement: in every schedule that spares the stream its consumer
receives all rows of the table in their order and then the end, if the schedule is
fair, and nothing else however it is scheduled (`delivery_exact`).
-/

namespace ExasolClient

/-! ## What closes a result set -/

/-- The server forgets a result set when it is asked to do this. -/
def Request.Closes (handle : Int64) : Request → Prop
  | .closeResultSets handles => handle ∈ handles
  | .disconnect => True
  | _ => False

/-- No request of a talk closes any result set. -/
def Harmless (talk : List Attempt) : Prop := ∀ a ∈ talk, ∀ handle, ¬a.request.Closes handle

/-- A talk closes no result set, and what it results in was told by an execution. -/
structure Tells (talk : List Attempt) (result : Except Fault ExecuteResult) : Prop where
  harmless : Harmless talk
  told : ∀ r, result = .ok r →
    ∃ a ∈ talk, a.request.isExecution = true ∧ a.payload ExecuteResult = .ok r

section Statements

variable {caching : Bool} {cache cache' : StatementCache} {key : StatementKey} {data : Cells}
  {types : Option (List DataType)} {s : PreparedStatement} {t t' : List Attempt}
  {result : Except Fault ExecuteResult}

theorem Harmless.nil : Harmless [] := fun _ ha => nomatch ha

theorem Harmless.single {a : Attempt} {r : Request} (hrequest : a.request = r)
    (h : ∀ handle, ¬r.Closes handle) : Harmless [a] := by
  intro b hb
  rw [List.mem_singleton.1 hb, hrequest]
  exact h

theorem Request.not_closes_of_isExecution {r : Request} (h : r.isExecution = true)
    (handle : Int64) : ¬r.Closes handle := by
  cases r <;> first | exact id | cases h

theorem Harmless.append (h : Harmless t) (h' : Harmless t') : Harmless (t ++ t') := by
  intro a ha
  rcases List.mem_append.1 ha with ha | ha
  · exact h a ha
  · exact h' a ha

theorem Tells.prepend (h : Harmless t) (h' : Tells t' result) : Tells (t ++ t') result := by
  refine ⟨h.append h'.harmless, ?_⟩
  intro r hr
  obtain ⟨a, ha, htold⟩ := h'.told r hr
  exact ⟨a, List.mem_append_right t ha, htold⟩

theorem Tells.append (h : Tells t result) (h' : Harmless t') : Tells (t ++ t') result := by
  refine ⟨h.harmless.append h', ?_⟩
  intro r hr
  obtain ⟨a, ha, htold⟩ := h.told r hr
  exact ⟨a, List.mem_append_left t' ha, htold⟩

theorem Tells.mapError (h : Tells t result) (f : Fault → Fault) : Tells t (result.mapError f) := by
  refine ⟨h.harmless, fun r hr => h.told r ?_⟩
  cases result with
  | ok _ => exact hr
  | error _ => cases hr

theorem Tells.of_error (h : Harmless t) (fault : Fault) : Tells t (.error fault) :=
  ⟨h, fun _ hr => nomatch hr⟩

theorem Tells.execution {a : Attempt} (h : a.request.isExecution = true) :
    Tells [a] (a.payload ExecuteResult) :=
  ⟨.single rfl (Request.not_closes_of_isExecution h),
    fun _ hr => ⟨a, List.mem_singleton.2 rfl, h, hr⟩⟩

theorem Provided.harmless {result : Except Fault PreparedStatement}
    (h : Provided caching cache key t cache' result) : Harmless t := by
  cases h with
  | found _ => exact .nil
  | refused _ hrequest _ | created _ hrequest _ => exact .single hrequest fun _ => id

theorem Executed.tells (h : Executed s data types t result) : Tells t result := by
  cases h with
  | unfit _ => exact .of_error .nil _
  | sent _ hrequest => exact .execution (by rw [hrequest]; rfl)

theorem Tried.tells {handle : Option Int64}
    (h : Tried caching cache key data types s t cache' handle result) : Tells t result := by
  cases h with
  | settled hexecuted _ => exact hexecuted.tells
  | lost hexecuted _ hprovided =>
    exact .of_error (hexecuted.tells.harmless.append hprovided.harmless) _
  | renewed hexecuted _ hprovided hexecuted' =>
    exact .prepend hexecuted.tells.harmless (.prepend hprovided.harmless hexecuted'.tells)

theorem Disposed.harmless {handle : Option Int64} (h : Disposed caching handle t) :
    Harmless t := by
  cases h with
  | kept _ | nothing => exact .nil
  | closed _ hrequest => exact .single hrequest fun _ => id

theorem PreparedRun.tells (h : PreparedRun caching cache key data types t cache' result) :
    Tells t result := by
  cases h with
  | unprepared hprovided => exact .of_error hprovided.harmless _
  | prepared hprovided htried hdisposed =>
    exact (Tells.prepend hprovided.harmless (htried.tells.append hdisposed.harmless)).mapError _

theorem Performed.tells {options : StatementOptions}
    (h : Performed caching cache key options t cache' result) : Tells t result := by
  cases h with
  | misshapen _ => exact .of_error .nil _
  | directly _ hrequest => exact (Tells.execution (by rw [hrequest]; rfl)).mapError _
  | prepared _ hrun => exact hrun.tells

end Statements

/-! ## Servers that hold a table -/

/--
While a server keeps a table under a handle, rows of it can be fetched. A server that
`forgets` a table does so only when that is closed, and answers no execution with its
handle before; a server that does not can be asked for the rows at any time.
-/
structure Holds [Transport σ] (t : Table) (handle : Int64) (forgets : Prop) (keeps : σ → Prop) :
    Prop where
  answers : ∀ p, keeps p → t.Answers handle (Line.ready p)
  kept : ∀ (p : σ) (r : Request), keeps p → (forgets → ¬r.Closes handle) → keeps (nextPeer p r)
  own : forgets → ∀ (p : σ) (r : Request) (result : ExecuteResult) (rows : ResultSet), keeps p →
    r.isExecution = true → ((Line.ready p).attempt r).payload ExecuteResult = .ok result →
    .resultSet (some rows) ∈ result.results → rows.openHandle? ≠ some handle

theorem Line.eq_ready {l : Line σ} (hopen : l.isOpen = true) (hlive : l.isCancelled = false) :
    l = Line.ready l.peer :=
  congr (congrArg (Line.mk l.peer) hopen) hlive

section Holds

variable [Transport σ] {t : Table} {handle : Int64} {forgets : Prop} {keeps : σ → Prop}
  {l m : Line σ} {talk : List Attempt}

/-- A talk that does not close the table leaves it with the server. -/
theorem Holds.through (holds : Holds t handle forgets keeps) (hline : Talk l talk m)
    (hopen : l.isOpen = true) (hlive : m.isCancelled = false) (hkeeps : keeps l.peer)
    (hharmless : forgets → ∀ a ∈ talk, ¬a.request.Closes handle) :
    keeps m.peer ∧ ∀ a ∈ talk, ∃ p, keeps p ∧ a = (Line.ready p).attempt a.request := by
  induction hline with
  | nil l => exact ⟨hkeeps, fun _ ha => nomatch ha⟩
  | @cons l m r rest hrest ih =>
    have hl := Line.eq_ready hopen ((Talk.cons hrest).isCancelled hlive)
    have hnext : (l.after r).peer = nextPeer l.peer r :=
      congrArg (fun l => (Line.after l r).peer) hl
    have hkept := holds.kept l.peer r hkeeps fun h => hharmless h _ List.mem_cons_self
    rw [← hnext] at hkept
    obtain ⟨hkeeps', hattempts⟩ := ih (by rwa [Line.isOpen_after]) hlive hkept
      fun h a ha => hharmless h a (List.mem_cons_of_mem _ ha)
    refine ⟨hkeeps', ?_⟩
    intro a ha
    rcases List.mem_cons.1 ha with rfl | ha
    · exact ⟨l.peer, hkeeps, congrArg (Line.attempt · r) hl⟩
    · exact hattempts a ha

/-- No result set that is told meanwhile has the handle of the table. -/
theorem Holds.told (holds : Holds t handle forgets keeps) {result : Except Fault ExecuteResult}
    (htells : Tells talk result) (hline : Talk l talk m) (hopen : l.isOpen = true)
    (hlive : m.isCancelled = false) (hkeeps : keeps l.peer) :
    keeps m.peer ∧ (forgets → ∀ r rows, result = .ok r → .resultSet (some rows) ∈ r.results →
      rows.openHandle? ≠ some handle) := by
  obtain ⟨hkeeps', hattempts⟩ := holds.through hline hopen hlive hkeeps
    fun _ a ha => htells.harmless a ha handle
  refine ⟨hkeeps', ?_⟩
  intro hforgets r rows hr hrows
  obtain ⟨a, ha, hexecution, hpayload⟩ := htells.told r hr
  obtain ⟨p, hp, hattempt⟩ := hattempts a ha
  rw [hattempt] at hpayload
  exact holds.own hforgets p a.request r rows hp hexecution hpayload hrows

omit [Transport σ] in
theorem Connection.mem_of_unreadHandle? {result : ExecuteResult}
    (h : Connection.unreadHandle? result = some handle) :
    ∃ rows, .resultSet (some rows) ∈ result.results ∧ rows.openHandle? = some handle := by
  unfold unreadHandle? at h
  split at h
  next rows hhead => exact ⟨rows, List.mem_of_head? hhead, h⟩
  next => cases h

theorem Connection.mem_of_soleResultSet {result : ExecuteResult} {rows : ResultSet}
    (h : Connection.soleResultSet result = .ok rows) :
    .resultSet (some rows) ∈ result.results := by
  unfold soleResultSet at h
  split at h
  · cases h
  · split at h
    next hhead =>
      cases h
      exact List.mem_of_head? hhead
    next => cases h
    next => cases h
    next => cases h

theorem Stream.handle?_ofResultSet {rows : ResultSet} {size : UInt64}
    (h : (Stream.ofResultSet rows size).task.handle? = some handle) :
    rows.openHandle? = some handle := by
  unfold ofResultSet at h
  dsimp only at h
  split at h
  · cases h
  · split at h
    next hopen =>
      rw [hopen]
      exact h
    next => cases h

theorem Request.not_closes_of_isAbout {r : Request} {other : Int64} (h : r.IsAbout other)
    (hother : other ≠ handle) : ¬r.Closes handle := by
  obtain ⟨position, numBytes, rfl⟩ | rfl := h
  · exact id
  · exact fun hcloses => hother (List.mem_singleton.1 hcloses).symm

/-- The stream of a query has another handle than the table. -/
theorem Holds.queried (holds : Holds t handle forgets keeps) {caching : Bool}
    {cache cache' : StatementCache} {key : StatementKey} {options : StatementOptions}
    {result : Except Fault Stream} (h : Queried caching cache key options talk cache' result)
    (hline : Talk l talk m) (hopen : l.isOpen = true) (hlive : m.isCancelled = false)
    (hkeeps : keeps l.peer) :
    keeps m.peer ∧ (forgets → ∀ s, result = .ok s → s.task.handle? ≠ some handle) := by
  cases h with
  | failed hperformed =>
    exact ⟨(holds.told hperformed.tells hline hopen hlive hkeeps).1, fun _ s hs => nomatch hs⟩
  | opened hperformed hsole =>
    obtain ⟨hkeeps', hother⟩ := holds.told hperformed.tells hline hopen hlive hkeeps
    refine ⟨hkeeps', ?_⟩
    intro hforgets s hs
    cases hs
    exact fun hhandle => hother hforgets _ _ rfl (Connection.mem_of_soleResultSet hsole)
      (Stream.handle?_ofResultSet hhandle)

/-- An operation leaves the table with the server, and opens a stream of another one. -/
theorem Holds.spoken (holds : Holds t handle forgets keeps) {caching : Bool}
    {cache cache' : StatementCache} {opened : Option Stream}
    (h : Spoken caching cache talk cache' opened) (hline : Talk l talk m)
    (hopen : l.isOpen = true) (hlive : m.isCancelled = false) (hkeeps : keeps l.peer) :
    keeps m.peer ∧ (forgets → ∀ s, opened = some s → s.task.handle? ≠ some handle) := by
  cases h with
  | @attributes a hrequest =>
    have hharmless : Harmless [a] := by
      obtain hrequest | ⟨attributes, hrequest⟩ := hrequest <;>
        exact .single hrequest fun _ => id
    exact ⟨(holds.through hline hopen hlive hkeeps fun _ a ha => hharmless a ha handle).1,
      fun _ s hs => nomatch hs⟩
  | counted hcounted =>
    refine ⟨?_, fun _ s hs => nomatch hs⟩
    cases hcounted with
    | failed hperformed => exact (holds.told hperformed.tells hline hopen hlive hkeeps).1
    | counted hperformed _ => exact (holds.told hperformed.tells hline hopen hlive hkeeps).1
    | @released talk _ result other a hperformed hunread hrequest =>
      obtain ⟨m', hline₁, hline₂⟩ := hline.split
      obtain ⟨hkeeps', hother⟩ := holds.told hperformed.tells hline₁ hopen
        (hline₂.isCancelled hlive) hkeeps
      obtain ⟨rows, hrows, hhandle⟩ := Connection.mem_of_unreadHandle? hunread
      refine (holds.through hline₂ (by rw [hline₁.isOpen, hopen]) hlive hkeeps'
        fun hforgets b hb => ?_).1
      rw [List.mem_singleton.1 hb]
      exact Request.not_closes_of_isAbout (.inr hrequest) fun hsame =>
        hother hforgets result rows rfl hrows (hsame ▸ hhandle)
  | queried hqueried =>
    obtain ⟨hkeeps', hother⟩ := holds.queried hqueried hline hopen hlive hkeeps
    refine ⟨hkeeps', fun hforgets s hs => hother hforgets s ?_⟩
    rename_i result
    cases result with
    | ok _ =>
      cases hs
      rfl
    | error _ => cases hs
  | @collected key options talk more _ s hqueried hsays =>
    refine ⟨?_, fun _ s hs => nomatch hs⟩
    obtain ⟨m', hline₁, hline₂⟩ := hline.split
    obtain ⟨hkeeps', hother⟩ := holds.queried hqueried hline₁ hopen (hline₂.isCancelled hlive)
      hkeeps
    refine (holds.through hline₂ (by rw [hline₁.isOpen, hopen]) hlive hkeeps'
        fun hforgets b hb => ?_).1
    obtain ⟨other, hhandle, habout⟩ := hsays b hb
    exact Request.not_closes_of_isAbout habout fun hsame => hother hforgets s rfl (hsame ▸ hhandle)

end Holds

/-! ## Guarding the table -/

/-- The server keeps the table, and if it could forget that, no other stream knows its handle. -/
structure Client.Guards (x : Client σ) (i : Nat) (handle : Int64) (forgets : Prop)
    (keeps : σ → Prop) : Prop where
  keeps : keeps x.connection.peer
  others : forgets → ∀ j r, j ≠ i → x.readers[j]? = some r → r.stream.task.handle? ≠ some handle

section Guards

variable [Transport σ] {t : Table} {handle : Int64} {forgets : Prop} {keeps : σ → Prop}
  {x : Client σ} {i : Nat}

theorem Client.Guards.call (h : x.Guards i handle forgets keeps)
    (holds : Holds t handle forgets keeps) {op : Operation} (hopen : x.connection.isOpen = true)
    (hspares : (Move.call op).Spares i)
    (hlive : (x.step (.call op)).connection.isCancelled = false) :
    (x.step (.call op)).Guards i handle forgets keeps := by
  obtain ⟨talk, cache, hleads, hspoken⟩ := op.perform_spoken x.connection
    (fun h => hspares.disconnect (congrArg Move.call h))
    fun h => hspares.cancel (congrArg Move.call h)
  obtain ⟨hkeeps, hother⟩ := holds.spoken hspoken hleads.line hopen hlive h.keeps
  refine ⟨hkeeps, ?_⟩
  intro hforgets j r hj hr
  simp only [step] at hr
  rw [List.getElem?_append] at hr
  split at hr
  · exact h.others hforgets j r hj hr
  · obtain ⟨s, hs, rfl⟩ := List.mem_map.1 (List.mem_of_getElem? hr)
    exact hother hforgets s (Option.mem_toList.1 hs)

theorem Client.Guards.produce (h : x.Guards i handle forgets keeps)
    (holds : Holds t handle forgets keeps) {j : Nat} (hopen : x.connection.isOpen = true)
    (hlive : (x.step (.produce j)).connection.isCancelled = false)
    (hown : forgets → ∀ a ∈ x.saidBy i (.produce j), ¬a.request.Closes handle) :
    (x.step (.produce j)).Guards i handle forgets keeps := by
  cases hr : x.readers[j]? with
  | none =>
    rw [x.step_produce_none hr]
    exact h
  | some r =>
    have hyields := r.stream.advance_yields x.connection
    have hharmless : forgets → ∀ a ∈ r.stream.said x.connection.line,
        ¬a.request.Closes handle := by
      intro hforgets a ha
      by_cases hij : j = i
      · subst hij
        rw [saidBy_produce hr hopen hlive] at hown
        exact hown hforgets a ha
      · obtain ⟨other, hhandle, habout⟩ := r.stream.says_said x.connection.line a ha
        exact Request.not_closes_of_isAbout habout fun hsame =>
          h.others hforgets j r hij hr (hsame ▸ hhandle)
    rw [x.step_produce_some hr] at hlive ⊢
    refine ⟨(holds.through hyields.leads.line hopen hlive h.keeps hharmless).1, ?_⟩
    intro hforgets k r' hk hr'
    by_cases hjk : j = k
    · subst hjk
      have hlt : j < x.readers.length := (List.getElem?_eq_some_iff.1 hr).1
      rw [List.getElem?_set_self hlt, hyields.returns] at hr'
      cases hr'
      exact fun hhandle => h.others hforgets j r hk hr
        (r.stream.keeps_next x.connection.line _ hhandle)
    · rw [List.getElem?_set_ne hjk] at hr'
      exact h.others hforgets k r' hk hr'

omit [Transport σ] in
/-- A consumer does not change what the producers do. -/
theorem Client.Guards.modify (h : x.Guards i handle forgets keeps) {j : Nat} {f : Reader → Reader}
    (hf : ∀ r, (f r).stream.task = r.stream.task) :
    Client.Guards { x with readers := x.readers.modify j f } i handle forgets keeps := by
  refine ⟨h.keeps, ?_⟩
  intro hforgets k r hk hr
  rw [List.getElem?_modify] at hr
  obtain ⟨r', hr', rfl⟩ := Option.map_eq_some_iff.1 hr
  split
  · rw [hf]
    exact h.others hforgets k r' hk hr'
  · exact h.others hforgets k r' hk hr'

/-- A move that does not close the table leaves it guarded. -/
theorem Client.Guards.step (h : x.Guards i handle forgets keeps)
    (holds : Holds t handle forgets keeps) {move : Move} (hopen : x.connection.isOpen = true)
    (hspares : move.Spares i)
    (hlive : (x.step move).connection.isCancelled = false)
    (hown : forgets → ∀ a ∈ x.saidBy i move, ¬a.request.Closes handle) :
    (x.step move).Guards i handle forgets keeps := by
  cases move with
  | call op => exact h.call holds hopen hspares hlive
  | produce j => exact h.produce holds hopen hlive hown
  | receive j => exact h.modify Reader.task_receive
  | cancelStream j => exact h.modify fun _ => rfl
  | dropStream j => exact h.modify fun _ => rfl

end Guards

/-! ## One move -/

/--
The books of a stream are kept, and while its producer is at work the server keeps
the table that is fetched.
-/
structure Client.Delivers (x : Client σ) (i : Nat) (t : Table) (size : UInt64)
    (handle? : Option Int64) (forgets : Prop) (keeps : σ → Prop) (talk : List Attempt) (r : Reader)
    (seen pending : List Item) (ends : Nat) : Prop where
  reader : x.readers[i]? = some r
  reads : t.Reads size handle? talk r seen pending ends
  isOpen : x.connection.isOpen = true
  guards : ∀ handle, handle? = some handle → r.stream.task.isEnded = false →
    x.Guards i handle forgets keeps

section Steps

variable [Transport σ] {t : Table} {size : UInt64} {handle? : Option Int64} {forgets : Prop}
  {keeps : σ → Prop} {x : Client σ} {i : Nat} {talk : List Attempt} {r : Reader}
  {seen pending : List Item} {ends : Nat}

/-- A producer that goes on has not closed its result set yet. -/
theorem Stream.not_closes_of_next {s : Stream} {l : Line σ} (h : (s.next l).task.isEnded = false)
    (handle : Int64) : ∀ a ∈ s.said l, ¬a.request.Closes handle := by
  intro a ha
  unfold said at ha
  split at ha
  next =>
    split at ha
    · rw [List.mem_singleton.1 ha]
      exact id
    · cases ha
  next htask =>
    simp only [next, htask] at h
    cases h
  next => cases ha

/-- Every move keeps the books. -/
theorem Client.Delivers.step
    (h : x.Delivers i t size handle? forgets keeps talk r seen pending ends)
    (holds : ∀ handle, handle? = some handle → Holds t handle forgets keeps) {move : Move}
    (hspares : move.Spares i) (hlive : (x.step move).connection.isCancelled = false) :
    ∃ r' seen' pending' ends', (x.step move).Delivers i t size handle? forgets keeps
      (talk ++ x.saidBy i move) r' seen' pending' ends' ∧ move.Nears i r.stream r'.stream := by
  have hopen : (x.step move).connection.isOpen = true := by
    obtain ⟨_, _, hleads⟩ := x.step_leads hspares.disconnect hspares.cancel
    rw [hleads.isOpen, h.isOpen]
  have hlive' := x.isCancelled_of_step move hlive
  by_cases hproduce : move = .produce i
  · subst hproduce
    have hready : x.connection.line = Line.ready x.connection.peer :=
      Line.eq_ready h.isOpen hlive'
    have hanswers : ∀ handle, handle? = some handle → r.stream.task.isEnded = false →
        t.Answers handle x.connection.line := by
      intro handle hhandle hended
      rw [hready]
      exact (holds handle hhandle).answers _ (h.guards handle hhandle hended).keeps
    obtain ⟨⟨pending', hreads⟩, heffort⟩ := h.reads.produce hlive' hanswers
    have hsaid := saidBy_produce h.reader h.isOpen hlive
    rw [hsaid]
    refine ⟨_, seen, pending', ends, ⟨readers_produce h.reader, hreads, hopen, ?_⟩,
      .of_produce heffort⟩
    intro handle hhandle hended
    have hended' : r.stream.task.isEnded = false := by
      cases htask : r.stream.task.isEnded with
      | false => rfl
      | true => rwa [next_of_ended htask, htask] at hended
    apply (h.guards handle hhandle hended').step (holds handle hhandle) h.isOpen hspares hlive
    rw [hsaid]
    exact fun _ => Stream.not_closes_of_next hended handle
  · have hsaid : x.saidBy i move = [] := saidBy_of_other hproduce
    have hguards : ∀ handle, handle? = some handle → r.stream.task.isEnded = false →
        (x.step move).Guards i handle forgets keeps := by
      intro handle hhandle hended
      apply (h.guards handle hhandle hended).step (holds handle hhandle) h.isOpen hspares hlive
      rw [hsaid]
      exact fun _ _ ha => nomatch ha
    rw [hsaid, List.append_nil]
    by_cases hreceive : move = .receive i
    · subst hreceive
      obtain ⟨seen', ends', hreads⟩ := h.reads.receive
      refine ⟨_, seen', pending, ends', ⟨readers_receive h.reader, hreads, hopen, ?_⟩,
        .of_receive r⟩
      rw [r.task_receive]
      exact hguards
    · refine ⟨r, seen, pending, ends, ⟨?_, h.reads, hopen, hguards⟩,
        .of_other hproduce hreceive⟩
      exact readers_of_other h.reader hspares.cancelStream hspares.dropStream hproduce hreceive

end Steps

/-! ## Schedules -/

section Schedules

variable [Transport σ] {t : Table} {size : UInt64} {handle? : Option Int64} {forgets : Prop}
  {keeps : σ → Prop} {x : Client σ} {i : Nat} {r : Reader} {seen pending : List Item} {ends : Nat}
  {moves : Nat → Move}
  (h : x.Delivers i t size handle? forgets keeps [] r seen pending ends)
  (holds : ∀ handle, handle? = some handle → Holds t handle forgets keeps)
  (hspares : ∀ n, (moves n).Spares i)
  (hlive : ∀ n, (x.after moves n).connection.isCancelled = false)
include h holds hspares hlive

/-- The books are kept in the whole schedule. -/
theorem Client.Delivers.run (n : Nat) :
    ∃ r seen pending ends, (x.after moves n).Delivers i t size handle? forgets keeps
      (x.said moves i n) r seen pending ends := by
  induction n with
  | zero => exact ⟨r, seen, pending, ends, h⟩
  | succ n ih =>
    obtain ⟨r, seen, pending, ends, hn⟩ := ih
    obtain ⟨r', seen', pending', ends', hstep, -⟩ := hn.step holds (hspares n) (hlive (n + 1))
    exact ⟨r', seen', pending', ends', hstep⟩

/-- Every move of the schedule brings the end nearer or waits. -/
theorem Client.Delivers.progresses : x.Progresses moves i := by
  intro n
  obtain ⟨r, _, _, _, hn⟩ := h.run holds hspares hlive n
  obtain ⟨r', _, _, _, hstep, hnears⟩ := hn.step holds (hspares n) (hlive (n + 1))
  exact ⟨r.stream, r'.stream, stream?_of_reader hn.reader, stream?_of_reader hstep.reader, hnears⟩

end Schedules

section Delivery

variable [Transport σ]

/--
Every row is delivered once and in order. Of a result set whose rows are those of a
table, and which came with the reply or is fetched page by page, the consumer has in
every schedule seen the beginning, or all of it and then the end, and then all that
belongs to the table was said. In a fair schedule it comes to that.
-/
theorem delivery_exact (x : Client σ) (moves : Nat → Move) (i : Nat) (t : Table)
    (rows : ResultSet) (size : UInt64) (forgets : Prop) (keeps : σ → Prop)
    (hreader : x.readers[i]? = some { stream := .ofResultSet rows size }) (hrows : rows.IsOf t)
    (hserver : ∀ handle, rows.openHandle? = some handle →
      Holds t handle forgets keeps ∧ x.Guards i handle forgets keeps)
    (hopen : x.connection.isOpen = true) (hspares : ∀ n, (moves n).Spares i)
    (hlive : ∀ n, (x.after moves n).connection.isCancelled = false) :
    (∀ n, ∃ r, (x.after moves n).readers[i]? = some r ∧
      (r.received <+: t.items.map some ∨
        t.Delivered size rows.openHandle? (x.said moves i n) r)) ∧
    (Fair moves i → ∃ m, ∀ n, m ≤ n → ∃ r, (x.after moves n).readers[i]? = some r ∧
      t.Delivered size rows.openHandle? (x.said moves i n) r) := by
  have holds : ∀ handle, rows.openHandle? = some handle → Holds t handle forgets keeps :=
    fun handle hhandle => (hserver handle hhandle).1
  have hstart : x.Delivers i t size rows.openHandle? forgets keeps []
      { stream := .ofResultSet rows size } [] t.items 0 :=
    ⟨hreader, hrows.reads size, hopen, fun handle hhandle _ => (hserver handle hhandle).2⟩
  have hrun := hstart.run holds hspares hlive
  constructor
  · intro n
    obtain ⟨r, _, _, ends, hn⟩ := hrun n
    exact ⟨r, hn.reader, hn.reads.begun_or_delivered⟩
  · intro hfair
    obtain ⟨m, hm⟩ := (hstart.progresses holds hspares hlive).eventually_finished hfair
    refine ⟨m, ?_⟩
    intro n hmn
    obtain ⟨r, _, _, ends, hn⟩ := hrun n
    have hfinished := hm n hmn
    rw [Client.stream?_of_reader hn.reader] at hfinished
    exact ⟨r, hn.reader, hn.reads.delivered (hn.reads.finished.1 hfinished)⟩

/-- A transport that never cancels the connection does not do so in a talk. -/
theorem Talk.stays_quiet {l m : Line σ} {talk : List Attempt} (h : Talk l talk m) {quiet : σ → Prop}
    (hquiet : ∀ (p : σ) (r : Request), quiet p →
      ((Line.ready p).after r).isCancelled = false ∧ quiet (nextPeer p r))
    (hopen : l.isOpen = true) (hlive : l.isCancelled = false) (hpeer : quiet l.peer) :
    m.isCancelled = false ∧ quiet m.peer := by
  induction h with
  | nil => exact ⟨hlive, hpeer⟩
  | @cons l m r rest _ ih =>
    have hl := Line.eq_ready hopen hlive
    obtain ⟨hlive', hpeer'⟩ := hquiet l.peer r hpeer
    apply ih
    · rwa [Line.isOpen_after]
    · rw [hl]
      exact hlive'
    · rw [hl]
      exact hpeer'

/-- Nor does it do so in any schedule. -/
theorem Client.live_after {x : Client σ} {moves : Nat → Move} {i : Nat} (quiet : σ → Prop)
    (hquiet : ∀ (p : σ) (r : Request), quiet p →
      ((Line.ready p).after r).isCancelled = false ∧ quiet (nextPeer p r))
    (hopen : x.connection.isOpen = true) (hlive : x.connection.isCancelled = false)
    (hpeer : quiet x.connection.peer) (hspares : ∀ n, (moves n).Spares i) (n : Nat) :
    (x.after moves n).connection.isCancelled = false := by
  have hrun : (x.after moves n).connection.isOpen = true ∧
      (x.after moves n).connection.isCancelled = false ∧
      quiet (x.after moves n).connection.peer := by
    induction n with
    | zero => exact ⟨hopen, hlive, hpeer⟩
    | succ n ih =>
      obtain ⟨hopen', hlive', hpeer'⟩ := ih
      obtain ⟨talk, cache, hleads⟩ := (x.after moves n).step_leads (hspares n).disconnect
        (hspares n).cancel
      exact ⟨hleads.isOpen.trans hopen', hleads.line.stays_quiet hquiet hopen' hlive' hpeer'⟩
  exact hrun.2.1

end Delivery

/-! ## A rehearsal -/

namespace Rehearsal

/-- Three rows of one column. -/
def threeRows : Table where
  columns := ⟨["C0"]⟩
  rows := [[.int 0], [.int 1], [.int 2]]
  rectangular := by simp [Rectangular, Columns.size]
  hasColumn := Nat.zero_lt_one
  hasRow := List.cons_ne_nil _ _
  height_lt := by decide

/-- The rows are fetched two at a time. -/
def pages : List (String × List Entry) := [("fetch", [⟨.page 3 2 1, false⟩])]

theorem Server.take_pages {p : Server} (h : p.script = pages) (message : Json) :
    ∃ reply, p.take message = { result := .ok (), next := { p with answer := reply } } := by
  obtain ⟨script, modulus, exponent, connectFault, answer⟩ := p
  subst h
  simp only [take, pages, takeEntry]
  by_cases hcommand : "fetch" = commandOf message
  · simp only [if_pos hcommand]
    exact ⟨_, rfl⟩
  · simp only [if_neg hcommand]
    exact ⟨_, rfl⟩

/-- A request leaves the script as it was. -/
theorem Server.after_pages {p : Server} (h : p.script = pages) (r : Request) :
    ∃ reply, (Line.ready p).after r = Line.ready { p with answer := reply } := by
  obtain ⟨reply, htake⟩ := Server.take_pages h r.encode
  have hwrite : Transport.write r.encode p =
      { result := .ok (), next := { p with answer := reply } } := htake
  refine ⟨reply, ?_⟩
  unfold Line.after Line.answer
  simp only [Line.ready, hwrite, Line.listen, Transport.read]
  cases reply <;> rfl

/-- The page that begins at a row. -/
def pageAt (start : Nat) : List (String × Json) :=
  let count := min (start + 2) 3 - start
  [("numRows", .int count), ("data", cells start count 1)]

theorem Server.fetch_pages {p : Server} (h : p.script = pages) (handle : Int64)
    (start size : UInt64) :
    (Line.ready p).attempt (.fetch handle start size) =
      ⟨.fetch handle start size, .message (success (pageAt start.toNat))⟩ := by
  obtain ⟨script, modulus, exponent, connectFault, answer⟩ := p
  subst h
  rfl

theorem Server.holds_pages : Holds threeRows 7 True fun p : Server => p.script = pages where
  answers p h start size hstart := by
    rw [Server.fetch_pages h]
    have hcases : start.toNat = 0 ∨ start.toNat = 1 ∨ start.toNat = 2 := by
      have hheight : threeRows.height = 3 := rfl
      omega
    obtain hstart | hstart | hstart := hcases <;> rw [hstart]
    · exact ⟨2, by decide, by decide, Attempt.payload_success _ (by decide +kernel)⟩
    · exact ⟨2, by decide, by decide, Attempt.payload_success _ (by decide +kernel)⟩
    · exact ⟨1, by decide, by decide, Attempt.payload_success _ (by decide +kernel)⟩
  kept p r h _ := by
    obtain ⟨reply, hafter⟩ := Server.after_pages h r
    unfold nextPeer
    rw [hafter]
    exact h
  own _ p r result rows h hexecution hpayload := by
    obtain ⟨script, modulus, exponent, connectFault, answer⟩ := p
    subst h
    have hmissing : ((Line.ready (Server.mk pages modulus exponent connectFault answer)).attempt
        r).payload ExecuteResult = .error (.protocolError .missingData) := by
      cases r <;> first | rfl | cases hexecution
    rw [hmissing] at hpayload
    cases hpayload

/-- A result set of three rows that are fetched under a handle. -/
def fetchedRows : ResultSet where
  handle := some 7
  numColumns := 1
  numRows := 3
  columns := [{ name := "C0", dataType := { name := "DECIMAL" } }]

/-- A result set of the same rows, which come with the reply. -/
def inlineRows : ResultSet :=
  { fetchedRows with handle := none, data := some [[.int 0, .int 1, .int 2]] }

/-- A client that has just got a result set. -/
def readerOf (rows : ResultSet) : Client Server where
  connection := Connection.rehearsed pages
  readers := [{ stream := .ofResultSet rows 1000 }]

/-- Producer and consumer take turns. -/
def turns (n : Nat) : Move := if n % 2 = 0 then .produce 0 else .receive 0

theorem turns_spares (n : Nat) : (turns n).Spares 0 := by
  unfold turns
  split <;> constructor <;> intro h <;> cases h

theorem turns_fair : Fair turns 0 where
  produce n := ⟨2 * n, by omega, if_pos (by omega)⟩
  receive n := ⟨2 * n + 1, by omega, if_neg (by omega)⟩

theorem live_after_turns (rows : ResultSet) (n : Nat) :
    ((readerOf rows).after turns n).connection.isCancelled = false := by
  refine Client.live_after (fun p : Server => p.script = pages) ?_ rfl rfl rfl turns_spares n
  intro p r h
  obtain ⟨reply, hafter⟩ := Server.after_pages h r
  unfold nextPeer
  rw [hafter]
  exact ⟨rfl, h⟩

/-- The rows of a result set arrive, whether they are fetched or come with the reply. -/
theorem delivery_of_three_rows :
    (∃ m, ∀ n, m ≤ n → ∃ r, ((readerOf fetchedRows).after turns n).readers[0]? = some r ∧
      threeRows.Delivered 1000 (some 7) ((readerOf fetchedRows).said turns 0 n) r) ∧
    ∃ m, ∀ n, m ≤ n → ∃ r, ((readerOf inlineRows).after turns n).readers[0]? = some r ∧
      threeRows.Delivered 1000 none ((readerOf inlineRows).said turns 0 n) r := by
  have hguards : (readerOf fetchedRows).Guards 0 7 True fun p => p.script = pages := by
    refine ⟨rfl, ?_⟩
    intro _ j r hj hr
    obtain ⟨j, rfl⟩ := Nat.exists_eq_succ_of_ne_zero hj
    cases hr
  have hfetched : fetchedRows.IsOf threeRows := ⟨rfl, rfl, fun h => nomatch h⟩
  have hinline : inlineRows.IsOf threeRows := ⟨rfl, rfl, fun _ => rfl⟩
  constructor
  · refine (delivery_exact _ turns 0 threeRows fetchedRows 1000 True (fun p => p.script = pages)
      rfl hfetched ?_ rfl turns_spares (live_after_turns fetchedRows)).2 turns_fair
    intro handle hhandle
    cases hhandle
    exact ⟨Server.holds_pages, hguards⟩
  · exact (delivery_exact _ turns 0 threeRows inlineRows 1000 True (fun _ => True) rfl hinline
      (fun handle hhandle => nomatch hhandle) rfl turns_spares
      (live_after_turns inlineRows)).2 turns_fair

end Rehearsal
end ExasolClient
