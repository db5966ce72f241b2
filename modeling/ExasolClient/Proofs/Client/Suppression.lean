-- SUMMARY: Not to log the errors of the server changes nothing about a session but its log.
import ExasolClient.Proofs.Client.Session
import ExasolClient.Proofs.Exchange.Hushed

/-!
# Suppressed errors

A configuration may ask for errors of the server not to be logged. Two sessions over the same
transport that make the same moves, and of which only one is configured so, run side by side: every
operation, every step of a producer and the handshake are indifferent to the difference, so every
move leaves the two clients the same but for the notices of errors (`Client.Hushed.step`). Main
statement: the errors reach the callers all the same, and nothing else is different either
(`suppression_only_silences`).
-/

namespace ExasolClient

/-! ## Statements -/

namespace Connection

variable [Transport σ]

-- Wherever an operation logs a notice of its own, `nofun` says that it is none of an error.
theorem createStatement_indifferent (key : StatementKey) :
    (createStatement key : Action σ PreparedStatement).IsIndifferent := by
  refine .bind (ask_indifferent PrepareResult _ fun _ => rfl) fun result => ?_
  exact .bind (.note nofun) fun _ => .pure _

theorem closeStatement_indifferent (handle : Int64) :
    Quiet.IsIndifferent (closeStatement handle : Quiet σ Unit) := by
  refine .bind (.attempt (tell_indifferent _ fun _ => rfl)) fun result => ?_
  cases result with
  | ok => exact .pure ()
  | error fault => exact .log nofun

omit [Transport σ] in
/-- Whether statements are cached is another setting. -/
theorem keepStatement_indifferent (key : StatementKey) (statement : PreparedStatement) :
    (keepStatement key statement : Action σ Unit).IsIndifferent := by
  refine .modify (fun c journal => ?_) (fun c => ?_) fun c => ?_
  · change (if c.config.cacheStatements then _ else _) = _
    split <;> rfl
  · split <;> rfl
  · split <;> rfl

omit [Transport σ] in
theorem forgetStatement_indifferent (key : StatementKey) :
    (forgetStatement key : Action σ Unit).IsIndifferent :=
  .modify (fun _ _ => rfl) (fun _ => rfl) fun _ => rfl

theorem prepare_indifferent (key : StatementKey) :
    (prepare key : Action σ PreparedStatement).IsIndifferent := by
  refine .get (fun _ _ => rfl) fun c => ?_
  cases c.statements.find? key with
  | some statement => exact .pure statement
  | none =>
    refine .bind (createStatement_indifferent key) fun statement => ?_
    exact .bind (keepStatement_indifferent key statement) fun _ => .pure statement

theorem runStatement_indifferent (statement : PreparedStatement) (data : Cells)
    (types : Option (List DataType)) :
    (runStatement statement data types : Action σ ExecuteResult).IsIndifferent := by
  refine .bind (.ofExcept _) fun columns => .bind (.note nofun) fun _ => ?_
  exact ask_indifferent ExecuteResult _ fun _ => rfl

theorem runDirectly_indifferent (key : StatementKey) :
    (runDirectly key : Action σ ExecuteResult).IsIndifferent :=
  .bind (.note nofun) fun _ => .mapFault (ask_indifferent ExecuteResult _ fun _ => rfl) _

theorem rerun_indifferent (key : StatementKey) (stale : PreparedStatement) (data : Cells)
    (types : Option (List DataType)) :
    (rerun key stale data types : Action σ _).IsIndifferent := by
  refine .bind (.note nofun) fun _ => .bind (forgetStatement_indifferent key) fun _ => ?_
  refine .bind (.ofQuiet (.attempt (prepare_indifferent key))) fun result => ?_
  cases result with
  | error fault => exact .pure _
  | ok fresh =>
    refine .bind (.note nofun) fun _ => ?_
    exact .bind (.ofQuiet (.attempt (runStatement_indifferent fresh data types))) fun _ => .pure _

theorem tryStatement_indifferent (key : StatementKey) (statement : PreparedStatement)
    (data : Cells) (types : Option (List DataType)) :
    (tryStatement key statement data types : Action σ _).IsIndifferent := by
  refine .bind (.ofQuiet (.attempt (runStatement_indifferent statement data types)))
    fun result => ?_
  cases result with
  | ok result => exact .pure _
  | error fault => exact .ite (rerun_indifferent key statement data types) (.pure _)

theorem dispose_indifferent (handle : Option Int64) :
    (dispose handle : Action σ Unit).IsIndifferent := by
  refine .get (fun _ _ => rfl) fun c => .ite (.pure _) ?_
  cases handle with
  | none => exact .pure _
  | some handle => exact .ofQuiet (closeStatement_indifferent handle)

theorem runPrepared_indifferent (key : StatementKey) (data : Cells)
    (types : Option (List DataType)) :
    (runPrepared key data types : Action σ ExecuteResult).IsIndifferent := by
  rw [runPrepared_eq]
  refine .bind (prepare_indifferent key) fun statement => ?_
  refine .bind (tryStatement_indifferent key statement data types) fun outcome => ?_
  exact .bind (dispose_indifferent outcome.1) fun _ => .ofExcept _

theorem run_indifferent (sql : String) (options : StatementOptions) :
    (run sql options : Action σ ExecuteResult).IsIndifferent := by
  refine .bind (.ofExcept _) fun bindings => ?_
  cases bindings with
  | none => exact runDirectly_indifferent _
  | some data => exact runPrepared_indifferent _ data _

theorem releaseUnread_indifferent (handle : Int64) :
    Quiet.IsIndifferent (releaseUnread handle : Quiet σ Unit) := by
  refine .bind (.attempt (tell_indifferent _ fun _ => rfl)) fun result => ?_
  cases result with
  | ok => exact .pure ()
  | error fault => exact .log nofun

theorem runForCount_indifferent (sql : String) (options : StatementOptions) :
    (runForCount sql options : Action σ Int64).IsIndifferent := by
  refine .bind (run_indifferent sql options) fun result => ?_
  cases unreadHandle? result with
  | none => exact .pure _
  | some handle => exact .bind (.ofQuiet (releaseUnread_indifferent handle)) fun _ => .pure _

end Connection

/-! ## Streams -/

namespace Stream

variable [Transport σ]

open Connection

theorem releaseResultSet_indifferent (handle : Int64) :
    Quiet.IsIndifferent (releaseResultSet handle : Quiet σ Unit) := by
  refine .bind (.attempt (tell_indifferent _ fun _ => rfl)) fun result => ?_
  split
  · exact .pure ()
  · exact .log nofun
  · exact .log nofun

theorem fetchPage_indifferent (s : Stream) (handle : Int64) (position : UInt64) :
    Quiet.IsIndifferent (s.fetchPage handle position : Quiet σ Task) := by
  refine .bind (.attempt (ask_indifferent Chunk _ fun _ => rfl)) fun result => ?_
  cases result with
  | error fault => exact .pure _
  | ok chunk =>
    refine .ite (.pure _) ?_
    cases checkShape s.columns chunk.data chunk.numRows with
    | error fault => exact .pure _
    | ok _ => exact .bind (.log nofun) fun _ => .pure _

omit [Transport σ] in
theorem abandon_indifferent (next : Option (Int64 × UInt64)) :
    Quiet.IsIndifferent (abandon next : Quiet σ Task) := by
  cases next with
  | none => exact .pure _
  | some next => exact .bind (.log nofun) fun _ => .pure _

omit [Transport σ] in
theorem offer_indifferent (s : Stream) (item : Item) :
    Quiet.IsIndifferent (s.offer item : Quiet σ (Delivery × Stream)) := by
  refine .get (fun _ _ => rfl) fun c => ?_
  cases s.delivery c.isCancelled <;> exact .pure _

theorem advance_indifferent (s : Stream) : Quiet.IsIndifferent (s.advance : Quiet σ Stream) := by
  unfold advance
  split
  · exact .pure _
  · exact .pure _
  · exact .pure _
  · exact .ite (.bind (s.fetchPage_indifferent _ _) fun _ => .pure _) (.pure _)
  · exact .pure _
  · exact .pure _
  · refine .bind (s.offer_indifferent _) fun outcome => ?_
    split
    · exact .pure _
    · exact .pure _
    · exact .bind (abandon_indifferent _) fun _ => .pure _
  · refine .bind (s.offer_indifferent _) fun outcome => ?_
    split <;> exact .pure _
  · exact .bind (releaseResultSet_indifferent _) fun _ => .pure _

theorem produce_indifferent (fuel : Nat) (s : Stream) :
    Quiet.IsIndifferent (produce fuel s : Quiet σ Stream) := by
  induction fuel generalizing s with
  | zero => exact .pure s
  | succ fuel ih =>
    refine .get (fun _ _ => rfl) fun c => .ite (.pure s) ?_
    exact .bind s.advance_indifferent fun next => .ite (.pure next) (ih next)

theorem settleRounds_indifferent (rounds : Nat) (s : Stream) :
    Quiet.IsIndifferent (settleRounds rounds s : Quiet σ Stream) := by
  induction rounds generalizing s with
  | zero => exact .pure s
  | succ rounds ih =>
    refine .get (fun _ _ => rfl) fun c => .ite (.pure s) ?_
    exact .bind (produce_indifferent _ s) ih

theorem receive_indifferent (s : Stream) :
    Quiet.IsIndifferent (s.receive : Quiet σ (Option Item × Stream)) := by
  unfold receive
  split
  · exact .pure _
  · exact .pure _
  · refine .bind (produce_indifferent _ _) fun next => ?_
    split <;> exact .pure _

theorem receiveMany_indifferent (count : Nat) (s : Stream) :
    Quiet.IsIndifferent (receiveMany count s : Quiet σ (List (Option Item) × Stream)) := by
  induction count generalizing s with
  | zero => exact .pure _
  | succ count ih =>
    exact .bind s.receive_indifferent fun first => .bind (ih first.2) fun _ => .pure _

theorem receiveChunks_indifferent (rounds : Nat) (s : Stream) :
    Quiet.IsIndifferent (receiveChunks rounds s : Quiet σ (List Item × Stream)) := by
  induction rounds generalizing s with
  | zero => exact .pure _
  | succ rounds ih =>
    refine .bind (receiveMany_indifferent _ s) fun first => .ite (.pure _) ?_
    exact .bind (ih first.2) fun _ => .pure _

end Stream
/-! ## Operations -/

namespace Connection

variable [Transport σ]

theorem refreshAttributes_indifferent :
    (refreshAttributes : Action σ Attributes).IsIndifferent := by
  refine .bind (.mapFault (tell_indifferent _ fun _ => rfl) _) fun _ => ?_
  exact .get (fun _ _ => rfl) fun c => .pure c.attributes

theorem changeAttributes_indifferent (attributes : Attributes) :
    (changeAttributes attributes : Action σ Unit).IsIndifferent :=
  .mapFault (tell_indifferent _ fun _ => rfl) _

theorem changeAutocommit_indifferent (enabled : Bool) :
    (changeAutocommit enabled : Action σ Unit).IsIndifferent := by
  refine .get (fun _ _ => rfl) fun c => .bind (.note nofun) fun _ => ?_
  exact tell_indifferent _ fun _ => rfl

theorem enableAutocommit_indifferent : (enableAutocommit : Action σ Unit).IsIndifferent :=
  .mapFault (changeAutocommit_indifferent true) _

theorem disableAutocommit_indifferent : (disableAutocommit : Action σ Unit).IsIndifferent :=
  .mapFault (changeAutocommit_indifferent false) _

theorem setQueryTimeout_indifferent (timeout : Duration) :
    (setQueryTimeout timeout : Action σ Unit).IsIndifferent :=
  .mapFault (tell_indifferent _ fun _ => rfl) _

theorem execute_indifferent (sql : String) (options : StatementOptions) :
    (execute sql options : Action σ Int64).IsIndifferent :=
  .mapFault (runForCount_indifferent sql options) _

/-- A statement that is executed for nothing but its effect. -/
theorem runForEffect_indifferent (sql : String) (options : StatementOptions)
    (notice : Connection σ → Notice) (operation : String)
    (hsame : ∀ c journal, notice (c.voicing journal) = notice c)
    (hlevel : ∀ c, (notice c).level ≠ .error) :
    (Action.within operation (do
      note (notice (← get))
      let _ ← runForCount sql options) : Action σ Unit).IsIndifferent := by
  refine .mapFault (.get (fun c journal => by rw [hsame]) fun c => ?_) _
  refine .bind (.note (hlevel c)) fun _ => ?_
  exact .bind (runForCount_indifferent sql options) fun _ => .pure _

theorem commit_indifferent : (commit : Action σ Unit).IsIndifferent :=
  runForEffect_indifferent "COMMIT" {} (fun c => .committing c.session.sessionId) _
    (fun _ _ => rfl) fun _ => nofun

theorem rollback_indifferent : (rollback : Action σ Unit).IsIndifferent :=
  runForEffect_indifferent "ROLLBACK" {} (fun c => .rollingBack c.session.sessionId) _
    (fun _ _ => rfl) fun _ => nofun

theorem query_indifferent (sql : String) (options : StatementOptions) :
    (query sql options : Action σ Stream).IsIndifferent := by
  refine .mapFault (.bind (run_indifferent sql options) fun result => ?_) _
  exact .bind (.ofExcept _) fun rows => .get (fun _ _ => rfl) fun c => .pure _

theorem queryAll_indifferent (sql : String) (options : StatementOptions) :
    (queryAll sql options : Action σ (List Row)).IsIndifferent := by
  refine .bind (query_indifferent sql options) fun s => ?_
  refine .bind (.ofQuiet (Stream.receiveChunks_indifferent _ s)) fun received => ?_
  refine .bind (.ofQuiet (Stream.settleRounds_indifferent _ received.2.drop)) fun _ => ?_
  exact .ofExcept _

omit [Transport σ] in
theorem takeStatements_indifferent :
    Quiet.IsIndifferent (takeStatements : Quiet σ (List Int64)) := by
  rintro c _ ⟨hmuted, hjournal⟩
  exact ⟨rfl, .voicing hmuted hjournal⟩

theorem endSession_indifferent : Quiet.IsIndifferent (endSession : Quiet σ Unit) := by
  refine .bind (.attempt (tell_indifferent _ fun _ => rfl)) fun result => ?_
  cases result with
  | ok => exact .pure ()
  | error fault => exact .get (fun _ _ => rfl) fun c => .log nofun

theorem disconnect_indifferent : Quiet.IsIndifferent (disconnect : Quiet σ Unit) := by
  refine .get (fun _ _ => rfl) fun c => .ite ?_ (.pure _)
  refine .bind (.log nofun) fun _ => .bind takeStatements_indifferent fun handles => ?_
  refine .bind (.forM closeStatement_indifferent handles) fun _ => ?_
  exact .bind endSession_indifferent fun _ => close_indifferent

omit [Transport σ] in
theorem cancel_indifferent : Quiet.IsIndifferent (cancel : Quiet σ Unit) :=
  .modify (fun _ _ => rfl) (fun _ => rfl) fun _ => rfl

end Connection

/-! ## Handshakes -/

namespace Connection

variable [Transport σ]

theorem requestSession_indifferent (credentials : Credentials) :
    (requestSession credentials : Action σ SessionInfo).IsIndifferent := by
  refine .bind (ask_indifferent SessionInfo _ fun _ => rfl) fun session => ?_
  exact .ite (.throw _) (.pure _)

theorem authenticate_indifferent (host : ClientHost) :
    (authenticate host : Action σ Unit).IsIndifferent := by
  refine .get (fun _ _ => rfl) fun c => ?_
  refine .bind (.mapFault (ask_indifferent Crypto.OfferedKey _ fun _ => rfl) _) fun key => ?_
  cases key.encrypt host.filler c.config.password with
  | error fault => exact .throw _
  | ok password =>
    refine .bind (.mapFault (requestSession_indifferent _) _) fun session => ?_
    refine .bind (setCompression_indifferent false) fun _ => .bind (.note nofun) fun _ => ?_
    exact .modify (fun _ _ => rfl) (fun _ => rfl) fun _ => rfl

theorem establish_indifferent (host : ClientHost) :
    (establish host : Action σ Unit).IsIndifferent := by
  refine .get (fun _ _ => rfl) fun c => .bind (.mapFault ?_ _) fun _ => ?_
  · refine .bind (.ofExcept _) fun _ => .bind (.note nofun) fun _ => ?_
    exact openTransport_indifferent
  · refine .bind (.modify (fun _ _ => rfl) (fun _ => rfl) fun _ => rfl) fun _ => ?_
    refine .bind (.ofQuiet (.attempt (authenticate_indifferent host))) fun result => ?_
    cases result with
    | ok => exact .pure ()
    | error fault => exact .bind (.ofQuiet close_indifferent) fun _ => .throw _

end Connection

/-! ## What is returned -/

open Connection

/-- What an operation returns to its caller. -/
inductive Returned where
  | done (result : Except Fault Unit)
  | attributes (result : Except Fault Attributes)
  | count (result : Except Fault Int64)
  | rows (result : Except Fault (List Row))
  | stream (result : Except Fault Stream)

/-- The stream that was opened, if there is one. -/
def Returned.opened : Returned → Option Stream
  | .stream result => result.toOption
  | _ => none

/-- Perform an operation, and tell what it returns. -/
def Operation.returning [Transport σ] : Operation → Quiet σ Returned
  | .getAttributes => do return .attributes (← refreshAttributes.attempt)
  | .setAttributes attributes => do return .done (← (changeAttributes attributes).attempt)
  | .enableAutocommit => do return .done (← Connection.enableAutocommit.attempt)
  | .disableAutocommit => do return .done (← Connection.disableAutocommit.attempt)
  | .setQueryTimeout timeout => do return .done (← (Connection.setQueryTimeout timeout).attempt)
  | .commit => do return .done (← Connection.commit.attempt)
  | .rollback => do return .done (← Connection.rollback.attempt)
  | .execute sql options => do return .count (← (Connection.execute sql options).attempt)
  | .query sql options => do return .stream (← (Connection.query sql options).attempt)
  | .queryAll sql options => do return .rows (← (Connection.queryAll sql options).attempt)
  | .disconnect => do return .done (.ok (← Connection.disconnect))
  | .cancel => do return .done (.ok (← Connection.cancel))

section Sessions

variable [Transport σ]

/-- To tell what an operation returns changes nothing about what it does. -/
theorem Operation.perform_eq (op : Operation) :
    (op.perform : Quiet σ (Option Stream)) = (do return (← op.returning).opened) := by
  cases op <;> rfl

theorem Operation.returning_indifferent (op : Operation) :
    Quiet.IsIndifferent (op.returning : Quiet σ Returned) := by
  cases op with
  | getAttributes => exact .bind refreshAttributes_indifferent fun _ => .pure _
  | setAttributes attributes =>
    exact .bind (changeAttributes_indifferent attributes) fun _ => .pure _
  | enableAutocommit => exact .bind enableAutocommit_indifferent fun _ => .pure _
  | disableAutocommit => exact .bind disableAutocommit_indifferent fun _ => .pure _
  | setQueryTimeout timeout => exact .bind (setQueryTimeout_indifferent timeout) fun _ => .pure _
  | commit => exact .bind commit_indifferent fun _ => .pure _
  | rollback => exact .bind rollback_indifferent fun _ => .pure _
  | execute sql options => exact .bind (execute_indifferent sql options) fun _ => .pure _
  | query sql options => exact .bind (query_indifferent sql options) fun _ => .pure _
  | queryAll sql options => exact .bind (queryAll_indifferent sql options) fun _ => .pure _
  | disconnect => exact .bind disconnect_indifferent fun _ => .pure _
  | cancel => exact .bind cancel_indifferent fun _ => .pure _

theorem Operation.perform_indifferent (op : Operation) :
    Quiet.IsIndifferent (op.perform : Quiet σ (Option Stream)) := by
  rw [op.perform_eq]
  exact .bind op.returning_indifferent fun _ => .pure _

/-- What the operations among the moves of a client return, one after the other. -/
def Client.returns (x : Client σ) : List Move → List Returned
  | [] => []
  | .call op :: moves =>
    (Quiet.on op.returning x.connection).1 :: (x.step (.call op)).returns moves
  | move :: moves => (x.step move).returns moves

/-- What the operations of a session return; without a connection there are none. -/
def sessionReturns (host : ClientHost) (config : Config) (peer : σ) (cancelled : Bool)
    (moves : List Move) : List Returned :=
  match Connection.connect host config peer cancelled with
  | (.ok (), c) => Client.returns { connection := c } moves
  | (.error _, _) => []

/-! ## Sessions -/

/-- The second client is the first one, but for the notices of errors that it logs. -/
structure Client.Hushed (x y : Client σ) : Prop where
  connection : x.connection.Hushed y.connection
  readers : x.readers = y.readers

namespace Client.Hushed

variable {x y : Client σ}

/-- One move of both. -/
theorem step (h : x.Hushed y) (move : Move) : (x.step move).Hushed (y.step move) := by
  obtain ⟨hconnection, hreaders⟩ := h
  cases move with
  | call op =>
    obtain ⟨hopened, hafter⟩ := op.perform_indifferent hconnection
    exact ⟨hafter, by simp [Client.step, hreaders, hopened]⟩
  | produce i =>
    simp only [Client.step, hreaders]
    cases y.readers[i]? with
    | none => exact ⟨hconnection, hreaders⟩
    | some r =>
      obtain ⟨hstream, hafter⟩ := r.stream.advance_indifferent hconnection
      exact ⟨hafter, by simp [hstream]⟩
  | receive i => exact ⟨hconnection, by simp [Client.step, hreaders]⟩
  | cancelStream i => exact ⟨hconnection, by simp [Client.step, hreaders]⟩
  | dropStream i => exact ⟨hconnection, by simp [Client.step, hreaders]⟩

theorem run (h : x.Hushed y) (moves : List Move) : (x.run moves).Hushed (y.run moves) := by
  induction moves generalizing x y with
  | nil => exact h
  | cons move moves ih => exact ih (h.step move)

theorem returns (h : x.Hushed y) (moves : List Move) : x.returns moves = y.returns moves := by
  induction moves generalizing x y with
  | nil => rfl
  | cons move moves ih =>
    cases move with
    | call op =>
      obtain ⟨hreturned, -⟩ := op.returning_indifferent h.connection
      simp only [Client.returns, hreturned, ih (h.step _)]
    | produce | receive | cancelStream | dropStream => exact ih (h.step _)

end Client.Hushed

variable (host : ClientHost) (config : Config) (peer : σ) (cancelled : Bool) (moves : List Move)

/-- Two connections are begun that differ in what is logged, and end the handshake alike. -/
theorem connect_hushed :
    let quiet := connect host { config with suppressErrors := true } peer cancelled
    let loud := connect host { config with suppressErrors := false } peer cancelled
    quiet.1 = loud.1 ∧ quiet.2.Hushed loud.2 := by
  have hbegun : (begun { config with suppressErrors := true } peer cancelled).Hushed
      (begun { config with suppressErrors := false } peer cancelled) := .voicing rfl .nil
  exact establish_indifferent host hbegun

/-- Two sessions of which one suppresses errors return the same, and differ in what is logged. -/
theorem session_hushed :
    let quiet : Config := { config with suppressErrors := true }
    let loud : Config := { config with suppressErrors := false }
    sessionReturns host quiet peer cancelled moves = sessionReturns host loud peer cancelled moves ∧
      (session host quiet peer cancelled moves).Hushed
        (session host loud peer cancelled moves) := by
  intro quiet loud
  obtain ⟨hresult, hconnection⟩ := connect_hushed host config peer cancelled
  unfold sessionReturns session
  rcases hquiet : connect host quiet peer cancelled with ⟨result, c⟩
  rcases hloud : connect host loud peer cancelled with ⟨result', d⟩
  rw [hquiet, hloud] at hresult hconnection
  cases hresult
  -- Both have a connection, or neither has; after that each move is made by both.
  have hclient : Client.Hushed { connection := c } { connection := d } := ⟨hconnection, rfl⟩
  cases result with
  | error fault => exact ⟨rfl, hclient⟩
  | ok _ => exact ⟨hclient.returns moves, hclient.run moves⟩

/--
If two sessions are configured alike, but one of them not to log the errors of the server, and the
transport and all moves are the same, then they connect or fail to with the same result, each
operation returns the same, and the streams and what was received of them are the same. The
connections are the same in all but that one setting and the journal, and call the transport in
the same way. The one journal is what is left of the other without its notices of errors; and of
these there is one behind each exchange in which the server reports an error, and no other.
-/
theorem suppression_only_silences :
    let quiet : Config := { config with suppressErrors := true }
    let loud : Config := { config with suppressErrors := false }
    let x := session host quiet peer cancelled moves
    let y := session host loud peer cancelled moves
    (connect host quiet peer cancelled).1 = (connect host loud peer cancelled).1 ∧
      sessionReturns host quiet peer cancelled moves =
        sessionReturns host loud peer cancelled moves ∧
      x.readers = y.readers ∧
      y.connection = { x.connection with
        config := { x.connection.config with suppressErrors := false }
        journal := y.connection.journal } ∧
      x.connection.calls = y.connection.calls ∧
      Event.Hushed x.connection.journal.toList y.connection.journal.toList ∧
      x.connection.journal.toList = y.connection.journal.toList.filter (!·.isError) ∧
      y.connection.journal.toList.filter Event.isError =
        (Event.exchanges y.connection.journal.toList).flatMap Attempt.errorNotices := by
  intro quiet loud x y
  obtain ⟨hresult, -⟩ := connect_hushed host config peer cancelled
  obtain ⟨hreturns, hconnection, hreaders⟩ := session_hushed host config peer cancelled moves
  have hjournal := hconnection.journal
  exact ⟨hresult, hreturns, hreaders, hconnection.eq, hjournal.calls_eq, hjournal,
    hjournal.eq_filter, hjournal.errors⟩

end Sessions
end ExasolClient
