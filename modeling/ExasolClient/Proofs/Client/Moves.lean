-- SUMMARY: A client with its open streams, the moves by which it goes on, and what each of them says.
import ExasolClient.Proofs.Statement.Dialogue
import ExasolClient.Proofs.Stream.Turn

/-!
# Moves of a client

A client is a connection together with the streams that were opened on it. It goes
on in moves: a caller performs an operation, a producer takes one step, a consumer
asks for an item, or a stream is cancelled or left. An operation holds the
connection until it returns, so every interleaving of callers, producers and
consumers is a list of moves. Main statement: what an operation says follows the
grammar of its statement (`perform_spoken`).
-/

namespace ExasolClient

/-! ## Operations -/

/-- What a caller can do with a connection. -/
inductive Operation where
  | getAttributes
  | setAttributes (attributes : Attributes)
  | enableAutocommit
  | disableAutocommit
  | setQueryTimeout (timeout : Duration)
  | commit
  | rollback
  | execute (sql : String) (options : StatementOptions)
  | query (sql : String) (options : StatementOptions)
  | queryAll (sql : String) (options : StatementOptions)
  | disconnect
  | cancel

/-- An operation whose outcome nobody looks at, and that opens no stream. -/
def Action.unheeded (action : Action σ α) : Quiet σ (Option Stream) := do
  let _ ← action.attempt
  return none

open Connection in
/-- Perform an operation; a query that succeeds opens a stream. -/
def Operation.perform [Transport σ] : Operation → Quiet σ (Option Stream)
  | .getAttributes => refreshAttributes.unheeded
  | .setAttributes attributes => (changeAttributes attributes).unheeded
  | .enableAutocommit => Connection.enableAutocommit.unheeded
  | .disableAutocommit => Connection.disableAutocommit.unheeded
  | .setQueryTimeout timeout => (Connection.setQueryTimeout timeout).unheeded
  | .commit => Connection.commit.unheeded
  | .rollback => Connection.rollback.unheeded
  | .execute sql options => (Connection.execute sql options).unheeded
  | .query sql options => do return (← (Connection.query sql options).attempt).toOption
  | .queryAll sql options => (Connection.queryAll sql options).unheeded
  | .disconnect => do
    Connection.disconnect
    return none
  | .cancel => do
    Connection.cancel
    return none

/-! ## Clients -/

/-- An open stream, and what its consumer has seen of it; `none` stands for the end. -/
structure Reader where
  stream : Stream
  received : List (Option Item) := []

/-- Ask for the next item, and go without one if it is not there yet. -/
def Reader.receive (r : Reader) : Reader :=
  match r.stream.take with
  | (.item item, s) => { stream := s, received := r.received ++ [some item] }
  | (.ended, s) => { stream := s, received := r.received ++ [none] }
  | (.pending, s) => { r with stream := s }

/-- Who asks for the next item takes it if it is there. -/
theorem Reader.stream_receive (r : Reader) : r.receive.stream = r.stream.take.2 := by
  unfold receive
  rcases r.stream.take with ⟨_ | _ | _, s⟩ <;> rfl

theorem Reader.task_receive (r : Reader) : r.receive.stream.task = r.stream.task := by
  rw [r.stream_receive, r.stream.task_take]

/-- A connection, and the streams that were opened on it. -/
structure Client (σ : Type) where
  connection : Connection σ
  readers : List Reader := []

/-- What can happen next to a client; streams go by the order in which they were opened. -/
inductive Move where
  /-- A caller performs an operation. -/
  | call (op : Operation)
  /-- The producer of a stream takes a step. -/
  | produce (i : Nat)
  /-- The consumer of a stream asks for an item. -/
  | receive (i : Nat)
  | cancelStream (i : Nat)
  | dropStream (i : Nat)

namespace Client

variable [Transport σ]

/-- The client after a move. -/
def step (x : Client σ) : Move → Client σ
  | .call op =>
    let (opened, c) := Quiet.on op.perform x.connection
    { connection := c, readers := x.readers ++ opened.toList.map fun s => { stream := s } }
  | .produce i =>
    match x.readers[i]? with
    | some r =>
      let (s, c) := Quiet.on r.stream.advance x.connection
      { connection := c, readers := x.readers.set i { r with stream := s } }
    | none => x
  | .receive i => { x with readers := x.readers.modify i Reader.receive }
  | .cancelStream i =>
    { x with readers := x.readers.modify i fun r => { r with stream := r.stream.cancel } }
  | .dropStream i =>
    { x with readers := x.readers.modify i fun r => { r with stream := r.stream.drop } }

/-- The client after a list of moves. -/
def run (x : Client σ) (moves : List Move) : Client σ := moves.foldl step x

/-- The exchanges that the next move makes. -/
def talk (x : Client σ) (move : Move) : List Attempt :=
  Event.exchanges ((x.step move).connection.journal.toList.drop x.connection.journal.size)

/-- The exchanges of a list of moves, move by move. -/
def talks (x : Client σ) : List Move → List (List Attempt)
  | [] => []
  | move :: moves => x.talk move :: (x.step move).talks moves

end Client

/-! ## What operations say -/

/-- A query is run, and opens a stream if it has one result set. -/
inductive Queried (caching : Bool) (cache : StatementCache) (key : StatementKey)
    (options : StatementOptions) : Grammar Stream where
  | failed {t : List Attempt} {cache' : StatementCache} {result : Except Fault ExecuteResult}
      {fault : Fault} :
      Performed caching cache key options t cache' result →
      Queried caching cache key options t cache' (.error fault)
  | opened {t : List Attempt} {cache' : StatementCache} {result : ExecuteResult}
      {rows : ResultSet} {size : UInt64} :
      Performed caching cache key options t cache' (.ok result) →
      Connection.soleResultSet result = .ok rows →
      Queried caching cache key options t cache' (.ok (.ofResultSet rows size))

/-- What an operation may say, with the statements and the stream that it leaves. -/
inductive Spoken (caching : Bool) (cache : StatementCache) :
    List Attempt → StatementCache → Option Stream → Prop where
  /-- The session attributes are read or changed. -/
  | attributes {a : Attempt} :
      a.request = .getAttributes ∨ (∃ attributes, a.request = .setAttributes attributes) →
      Spoken caching cache [a] cache none
  /-- A statement is executed for its row count. -/
  | counted {key : StatementKey} {options : StatementOptions} {t : List Attempt}
      {cache' : StatementCache} {result : Except Fault Int64} :
      Counted caching cache key options t cache' result → Spoken caching cache t cache' none
  | queried {key : StatementKey} {options : StatementOptions} {t : List Attempt}
      {cache' : StatementCache} {result : Except Fault Stream} :
      Queried caching cache key options t cache' result →
      Spoken caching cache t cache' result.toOption
  /-- A query opens a stream, which is read at once. -/
  | collected {key : StatementKey} {options : StatementOptions} {t more : List Attempt}
      {cache' : StatementCache} {s : Stream} :
      Queried caching cache key options t cache' (.ok s) → s.Says more →
      Spoken caching cache (t ++ more) cache' none

namespace Connection

variable [Transport σ]

/-- What a quiet operation does on a connection is in the grammar of the operations. -/
def Speaks (action : Quiet σ (Option Stream)) (c : Connection σ) : Prop :=
  ∃ talk cache, Leads c talk cache (Quiet.on action c).2 ∧
    Spoken c.config.cacheStatements c.statements talk cache (Quiet.on action c).1

theorem unheeded_speaks {action : Action σ α} {c : Connection σ} {P : Grammar α}
    (h : action.Follows c P) (hp : ∀ talk cache result, P talk cache result →
      Spoken c.config.cacheStatements c.statements talk cache none) :
    Speaks action.unheeded c := by
  obtain ⟨talk, cache, result, hP, hyields⟩ := h.attempt fun _ => (none : Option Stream)
  have hunheeded : Quiet.Yields action.unheeded c talk cache none := hyields
  refine ⟨talk, cache, hunheeded.leads, ?_⟩
  rw [hunheeded.returns]
  exact hp _ _ _ hP

theorem tell_follows (r : Request) (h : r.Promises Unit) (c : Connection σ) :
    (tell r).Follows c fun talk cache _ => (∃ a : Attempt, talk = [a] ∧ a.request = r) ∧
      cache = c.statements :=
  .ofYields (tell_yields r h c) ⟨⟨_, rfl, rfl⟩, rfl⟩

/-- An operation that does nothing but change attributes. -/
theorem tell_speaks {action : Action σ α} {c : Connection σ} {r : Request}
    (h : action.Follows c fun talk cache _ => (∃ a : Attempt, talk = [a] ∧ a.request = r) ∧
      cache = c.statements)
    (hr : r = .getAttributes ∨ ∃ attributes, r = .setAttributes attributes) :
    Speaks action.unheeded c := by
  apply unheeded_speaks h
  rintro _ _ _ ⟨⟨a, rfl, rfl⟩, rfl⟩
  exact .attributes hr

theorem changeAutocommit_follows (enabled : Bool) (c : Connection σ) :
    (changeAutocommit enabled).Follows c fun talk cache _ =>
      (∃ a : Attempt, talk = [a] ∧ a.request = .setAttributes { autocommit := some enabled }) ∧
        cache = c.statements := by
  have hnote := (Leads.refl c).note (.changingAutocommit c.session.sessionId enabled)
  exact .get (.after hnote (tell_follows (.setAttributes { autocommit := some enabled }) rfl _))

theorem refreshAttributes_follows (c : Connection σ) :
    (refreshAttributes).Follows c fun talk cache _ =>
      (∃ a : Attempt, talk = [a] ∧ a.request = .getAttributes) ∧ cache = c.statements := by
  have htell : (Action.within "Unable to get session attributes" (tell .getAttributes)).Follows c
      fun talk cache _ => (∃ a : Attempt, talk = [a] ∧ a.request = .getAttributes) ∧
        cache = c.statements :=
    .mapFault _ (tell_follows .getAttributes rfl c) fun _ _ _ h => h
  refine .bind htell ?_ fun _ _ _ h => h
  rintro _ _ _ d ⟨⟨a, rfl, hrequest⟩, rfl⟩ hleads
  exact .ofYields (.get (hleads.pure d.attributes)) ⟨⟨a, rfl, hrequest⟩, rfl⟩

/-- A statement that is executed for nothing but its effect. -/
theorem runForEffect_follows (sql : String) (options : StatementOptions) (c : Connection σ)
    (notice : Connection σ → Notice) (operation : String) :
    (Action.within operation (do
      note (notice (← get))
      let _ ← runForCount sql options)).Follows c fun talk cache _ => ∃ result,
        Counted c.config.cacheStatements c.statements ⟨options.schema, sql⟩ options talk cache
          result := by
  have hnote := (Leads.refl c).note (notice c)
  have hcount := runForCount_follows sql options ((note (notice c)).on c).2
  refine .mapFault _ (.get (.after hnote (.bind hcount ?_ fun _ _ _ h => ⟨_, h⟩)))
    fun _ _ _ h => h
  intro _ _ _ _ hcounted hleads
  refine .ofYields (hleads.pure ()) ?_
  rw [List.append_nil]
  exact ⟨_, hcounted⟩

theorem execute_follows (sql : String) (options : StatementOptions) (c : Connection σ) :
    (execute sql options).Follows c fun talk cache _ => ∃ result,
      Counted c.config.cacheStatements c.statements ⟨options.schema, sql⟩ options talk cache
        result :=
  .mapFault _ (runForCount_follows sql options c) fun _ _ result h => ⟨result, h⟩

/-- An operation that counts rows. -/
theorem counted_speaks {action : Action σ α} {c : Connection σ} {key : StatementKey}
    {options : StatementOptions}
    (h : action.Follows c fun talk cache _ => ∃ result,
      Counted c.config.cacheStatements c.statements key options talk cache result) :
    Speaks action.unheeded c := by
  apply unheeded_speaks h
  rintro _ _ _ ⟨_, hcounted⟩
  exact .counted hcounted

/-- The stream that a query opens for the result of its statement. -/
def opening (size : UInt64) (result : ExecuteResult) : Except Fault Stream :=
  ((soleResultSet result).mapError .protocolError).map fun rows => .ofResultSet rows size

/-- A query runs its statement, and how it ends follows from the result. -/
theorem query_runs (sql : String) (options : StatementOptions) (c : Connection σ) :
    (query sql options).Follows c fun talk cache result => ∃ performed,
      Performed c.config.cacheStatements c.statements ⟨options.schema, sql⟩ options talk cache
        performed ∧
      result = (performed.bind (opening c.config.bytesPerFetch)).mapError
        (.context "Unable to query") := by
  let P : Grammar Stream := fun talk cache result => ∃ performed,
    Performed c.config.cacheStatements c.statements ⟨options.schema, sql⟩ options talk cache
      performed ∧ result = performed.bind (opening c.config.bytesPerFetch)
  unfold query
  refine .mapFault (P := P) _ (.bind (run_follows sql options c) ?_
    fun _ _ fault h => ⟨.error fault, h, rfl⟩) ?_
  · intro talk cache r d hperformed hleads
    have hof := hleads.ofExcept ((soleResultSet r).mapError .protocolError)
    rw [← List.append_nil talk] at hperformed
    cases hsole : soleResultSet r with
    | error fault =>
      rw [hsole] at hof
      refine .ofYields hof.bind_error ⟨.ok r, hperformed, ?_⟩
      simp only [Except.bind, opening, hsole]
      rfl
    | ok rows =>
      rw [hsole] at hof
      refine .ofYields (hof.after (.get ((hleads.trans hof.leads).pure _))) ⟨.ok r, hperformed, ?_⟩
      simp only [Except.bind, opening, hsole]
      rw [← (hleads.trans hof.leads).config]
      rfl
  · rintro talk cache result ⟨performed, hperformed, rfl⟩
    exact ⟨performed, hperformed, rfl⟩

theorem query_follows (sql : String) (options : StatementOptions) (c : Connection σ) :
    (query sql options).Follows c
      (Queried c.config.cacheStatements c.statements ⟨options.schema, sql⟩ options) := by
  refine .mono (query_runs sql options c) ?_
  rintro talk cache _ ⟨performed, hperformed, rfl⟩
  cases performed with
  | error fault => exact .failed hperformed
  | ok result =>
    cases hsole : soleResultSet result with
    | error fault =>
      simp only [Except.bind, opening, hsole]
      exact .failed hperformed
    | ok rows =>
      simp only [Except.bind, opening, hsole]
      exact .opened hperformed hsole

/-- A query whose rows are collected fails as the query does, or else its stream is read. -/
theorem queryAll_of_query {sql : String} {options : StatementOptions} {c : Connection σ}
    {P : Grammar Stream} (h : (query sql options).Follows c P) :
    (queryAll sql options).Follows c fun talk cache result =>
      (∃ fault, result = .error fault ∧ P talk cache (.error fault)) ∨
      ∃ t more s, talk = t ++ more ∧ P t cache (.ok s) ∧ s.Says more := by
  refine .bind h ?_ fun _ _ fault hp => .inl ⟨fault, rfl, hp⟩
  intro t cache s d hp hleads
  obtain ⟨t₁, hleads₁, hsays₁, hkeeps₁⟩ := s.receiveAll_minds d
  obtain ⟨t₂, hleads₂, hsays₂, -⟩ := (Quiet.on s.receiveAll d).1.2.drop.settle_minds
    (Quiet.on s.receiveAll d).2
  rw [hleads₁.statements] at hleads₂
  have hreceive : Quiet.Yields s.receiveAll d t₁ d.statements _ := ⟨rfl, hleads₁⟩
  have hsettle : Quiet.Yields (Quiet.on s.receiveAll d).1.2.drop.settle
      (Quiet.on s.receiveAll d).2 t₂ d.statements _ := ⟨rfl, hleads₂⟩
  refine .ofYields ((Action.Yields.ofQuiet hreceive).bind ((Action.Yields.ofQuiet hsettle).bind
    (hleads₂.ofExcept _))) (.inr ⟨t, t₁ ++ (t₂ ++ []), s, rfl, ?_, ?_⟩)
  · rw [hleads.statements]
    exact hp
  · rw [List.append_nil]
    exact hsays₁.append fun a ha => Stream.Says.of_keeps hkeeps₁ hsays₂ a ha

theorem queryAll_follows (sql : String) (options : StatementOptions) (c : Connection σ) :
    (queryAll sql options).Follows c fun talk cache _ =>
      (∃ fault, Queried c.config.cacheStatements c.statements ⟨options.schema, sql⟩ options talk
        cache (.error fault)) ∨
      ∃ t more s, talk = t ++ more ∧
        Queried c.config.cacheStatements c.statements ⟨options.schema, sql⟩ options t cache
          (.ok s) ∧ s.Says more :=
  .mono (queryAll_of_query (query_follows sql options c)) fun _ _ _ h =>
    h.imp_left fun ⟨fault, _, hqueried⟩ => ⟨fault, hqueried⟩

theorem queryAll_speaks (sql : String) (options : StatementOptions) (c : Connection σ) :
    Speaks (queryAll sql options).unheeded c := by
  apply unheeded_speaks (queryAll_follows sql options c)
  rintro _ _ _ (⟨fault, hqueried⟩ | ⟨t, more, s, rfl, hqueried, hsays⟩)
  · exact .queried hqueried
  · exact .collected hqueried hsays

/-! ## The end of a connection -/

theorem closeStatements_yields (handles : List Int64) (c : Connection σ) :
    ∃ talk, Quiet.Yields (handles.forM closeStatement) c talk c.statements () ∧
      talk.map Attempt.request = handles.map .closeStatement := by
  induction handles generalizing c with
  | nil => exact ⟨[], (Leads.refl c).quiet_pure (), rfl⟩
  | cons handle rest ih =>
    have hclose := closeStatement_yields handle c
    obtain ⟨talk, hrest, hrequests⟩ := ih (Quiet.on (closeStatement handle) c).2
    rw [hclose.leads.statements] at hrest
    refine ⟨c.line.attempt (.closeStatement handle) :: talk, hclose.bind hrest, ?_⟩
    exact congrArg (Request.closeStatement handle :: ·) hrequests

theorem endSession_yields (c : Connection σ) :
    Quiet.Yields endSession c [c.line.attempt .disconnect] c.statements () := by
  refine .bind_attempt (tell_yields .disconnect rfl c) ?_
  intro d hleads
  split
  · exact hleads.quiet_pure ()
  · exact .get (hleads.quiet_log _)

/-- The end of an open connection: the cached statements are closed, and then the session. -/
theorem disconnect_leads {c : Connection σ} (hopen : c.isOpen = true) :
    ∃ talk d, Leads c talk .empty d ∧
      talk.map Attempt.request = c.statements.handles.map .closeStatement ++ [.disconnect] ∧
      (Quiet.on disconnect c).2 = (Quiet.on close d).2 := by
  have hlog := (Leads.refl c).quiet_log (.disconnecting c.session.sessionId)
  have htake := Leads.setStatements (Quiet.on (log (.disconnecting c.session.sessionId)) c).2 .empty
  obtain ⟨talk, hclose, hrequests⟩ := closeStatements_yields c.statements.handles
    { (Quiet.on (log (.disconnecting c.session.sessionId)) c).2 with statements := .empty }
  have hend := endSession_yields (Quiet.on (c.statements.handles.forM closeStatement)
    { (Quiet.on (log (.disconnecting c.session.sessionId)) c).2 with statements := .empty }).2
  rw [hclose.leads.statements] at hend
  refine ⟨_, _, hlog.leads.trans (htake.trans (hclose.leads.trans hend.leads)), ?_, ?_⟩
  · simp only [List.nil_append, List.map_append, hrequests]
    rfl
  · simp only [disconnect, Quiet.on_bind, Quiet.on_get, hopen, if_true]
    rfl

/-- A closed connection is left alone. -/
theorem disconnect_of_closed {c : Connection σ} (hclosed : c.isOpen = false) :
    (Quiet.on disconnect c).2 = c := by
  simp [disconnect, Quiet.on_bind, Quiet.on_get, hclosed, Quiet.on_pure]

/-- What is left at the end of an open connection; the requests that were sent are its exchanges. -/
theorem disconnect_sends {c : Connection σ} (hopen : c.isOpen = true) :
    ∃ talk d, Leads c talk .empty d ∧
      talk.map Attempt.request = c.statements.handles.map .closeStatement ++ [.disconnect] ∧
      (Quiet.on disconnect c).2 = { d with
        peer := Transport.close d.peer
        isOpen := false
        journal := d.journal.push .closed } ∧
      Event.exchanges ((Quiet.on disconnect c).2.journal.toList.drop c.journal.size) =
        talk.filter Attempt.isSent := by
  obtain ⟨talk, d, hleads, hrequests, hclose⟩ := disconnect_leads hopen
  have hon : (Quiet.on disconnect c).2 = { d with
      peer := Transport.close d.peer
      isOpen := false
      journal := d.journal.push .closed } := by
    rw [hclose, on_close (hleads.isOpen.trans hopen)]
  refine ⟨talk, d, hleads, hrequests, hon, ?_⟩
  obtain ⟨events, hjournal, hcalls⟩ := hleads.journal
  have hdrop : (d.journal.push .closed).toList.drop c.journal.size = events ++ [.closed] := by
    rw [Array.toList_push, hjournal, List.append_assoc, ← Array.length_toList, List.drop_left]
  rw [hon, hdrop, Event.exchanges, Event.calls_append, hcalls]
  exact (Event.paired_flatMap_events talk [.closed]).trans (List.append_nil _)

/-- The exchanges of the end of an open connection, and what is left of that. -/
theorem disconnect_exchanges {c : Connection σ} (hopen : c.isOpen = true)
    (hlive : (Quiet.on disconnect c).2.isCancelled = false) :
    ∃ talk, Event.exchanges ((Quiet.on disconnect c).2.journal.toList.drop c.journal.size) = talk ∧
      talk.map Attempt.request = c.statements.handles.map .closeStatement ++ [.disconnect] ∧
      (Quiet.on disconnect c).2.statements = .empty ∧
      (Quiet.on disconnect c).2.config = c.config := by
  obtain ⟨talk, d, hleads, hrequests, hon, hexchanges⟩ := disconnect_sends hopen
  rw [hexchanges, hon]
  rw [hon] at hlive
  exact ⟨talk, List.filter_eq_self.2 (hleads.line.isSent hopen hlive), hrequests,
    hleads.statements, hleads.config⟩

end Connection

/-! ## Any operation -/

open Connection in
/-- What an operation says that does not end the connection is in the grammar. -/
theorem Operation.perform_spoken [Transport σ] (op : Operation) (c : Connection σ)
    (hend : op ≠ .disconnect) (hcancel : op ≠ .cancel) : Speaks op.perform c := by
  cases op with
  | getAttributes => exact tell_speaks (refreshAttributes_follows c) (.inl rfl)
  | setAttributes attributes =>
    exact tell_speaks (.mapFault _ (tell_follows (.setAttributes attributes) rfl c)
      fun _ _ _ h => h) (.inr ⟨_, rfl⟩)
  | enableAutocommit =>
    exact tell_speaks (.mapFault _ (changeAutocommit_follows true c) fun _ _ _ h => h)
      (.inr ⟨_, rfl⟩)
  | disableAutocommit =>
    exact tell_speaks (.mapFault _ (changeAutocommit_follows false c) fun _ _ _ h => h)
      (.inr ⟨_, rfl⟩)
  | setQueryTimeout timeout =>
    exact tell_speaks (.mapFault _ (tell_follows
      (.setAttributes { queryTimeout := some timeout.wholeSeconds }) rfl c) fun _ _ _ h => h)
      (.inr ⟨_, rfl⟩)
  | commit =>
    exact counted_speaks
      (runForEffect_follows "COMMIT" {} c (fun c => .committing c.session.sessionId) _)
  | rollback =>
    exact counted_speaks
      (runForEffect_follows "ROLLBACK" {} c (fun c => .rollingBack c.session.sessionId) _)
  | execute sql options => exact counted_speaks (execute_follows sql options c)
  | query sql options =>
    obtain ⟨talk, cache, result, hqueried, hyields⟩ :=
      (query_follows sql options c).attempt Except.toOption
    have hperform : Quiet.Yields (Operation.query sql options).perform c talk cache
        result.toOption := hyields
    refine ⟨talk, cache, hperform.leads, ?_⟩
    rw [hperform.returns]
    exact .queried hqueried
  | queryAll sql options => exact queryAll_speaks sql options c
  | disconnect => exact absurd rfl hend
  | cancel => exact absurd rfl hcancel

/-! ## Any move -/

namespace Client

variable [Transport σ]

theorem step_produce_some (x : Client σ) {i : Nat} {r : Reader} (h : x.readers[i]? = some r) :
    x.step (.produce i) = {
      connection := (Quiet.on r.stream.advance x.connection).2
      readers := x.readers.set i
        { r with stream := (Quiet.on r.stream.advance x.connection).1 } } := by
  simp only [step, h]

theorem step_produce_none (x : Client σ) {i : Nat} (h : x.readers[i]? = none) :
    x.step (.produce i) = x := by
  simp only [step, h]

/-- A producer leads on, and talks about nothing but its own result set. -/
theorem produce_leads (x : Client σ) (i : Nat) : ∃ talk,
    Leads x.connection talk x.connection.statements (x.step (.produce i)).connection ∧
      ∀ a ∈ talk, ∃ r handle, x.readers[i]? = some r ∧ r.stream.task.handle? = some handle ∧
        a.request.IsAbout handle := by
  cases hr : x.readers[i]? with
  | none =>
    rw [x.step_produce_none hr]
    exact ⟨[], .refl x.connection, by simp⟩
  | some r =>
    rw [x.step_produce_some hr]
    refine ⟨_, (r.stream.advance_yields x.connection).leads, ?_⟩
    intro a ha
    obtain ⟨handle, hhandle, habout⟩ := r.stream.says_said x.connection.line a ha
    exact ⟨r, handle, rfl, hhandle, habout⟩

/-- A move that does not end the connection leads on. -/
theorem step_leads (x : Client σ) {move : Move} (hend : move ≠ .call .disconnect)
    (hcancel : move ≠ .call .cancel) :
    ∃ talk cache, Leads x.connection talk cache (x.step move).connection := by
  cases move with
  | call op =>
    obtain ⟨talk, cache, hleads, -⟩ := op.perform_spoken x.connection
      (fun h => hend (congrArg Move.call h)) fun h => hcancel (congrArg Move.call h)
    exact ⟨talk, cache, hleads⟩
  | produce i =>
    obtain ⟨talk, hleads, -⟩ := x.produce_leads i
    exact ⟨talk, _, hleads⟩
  | receive i | cancelStream i | dropStream i => exact ⟨[], _, .refl x.connection⟩

/-- A closed connection is not disconnected again. -/
theorem disconnect_closed (x : Client σ) (hclosed : x.connection.isOpen = false) :
    (x.step (.call .disconnect)).connection = x.connection ∧ x.talk (.call .disconnect) = [] := by
  have hsame : (x.step (.call .disconnect)).connection = x.connection :=
    Connection.disconnect_of_closed hclosed
  refine ⟨hsame, ?_⟩
  rw [talk, hsame]
  exact (Leads.refl x.connection).exchanges_of_closed hclosed

/-- Where a move leads to a connection that is not cancelled, it has started from one. -/
theorem isCancelled_of_step (x : Client σ) (move : Move)
    (hlive : (x.step move).connection.isCancelled = false) : x.connection.isCancelled = false := by
  by_cases hend : move = .call .disconnect
  · subst hend
    cases hopen : x.connection.isOpen with
    | false => exact Connection.disconnect_of_closed hopen ▸ hlive
    | true =>
      obtain ⟨talk, d, hleads, -, hclose⟩ := Connection.disconnect_leads hopen
      have hlive' : (Quiet.on Connection.close d).2.isCancelled = false := hclose ▸ hlive
      rw [Connection.on_close (hleads.isOpen.trans hopen)] at hlive'
      exact hleads.isCancelled hlive'
  · by_cases hcancel : move = .call .cancel
    · subst hcancel
      cases hlive
    · obtain ⟨talk, cache, hleads⟩ := x.step_leads hend hcancel
      exact hleads.isCancelled hlive

theorem isCancelled_of_run (x : Client σ) (moves : List Move)
    (hlive : (x.run moves).connection.isCancelled = false) : x.connection.isCancelled = false := by
  induction moves generalizing x with
  | nil => exact hlive
  | cons move moves ih => exact x.isCancelled_of_step move (ih (x.step move) hlive)

end Client
end ExasolClient
