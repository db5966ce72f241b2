-- SUMMARY: The talks by which statements are prepared, executed, executed anew and closed.
import ExasolClient.Connection.Operations
import ExasolClient.Proofs.Exchange.Talk

/-!
# Dialogues about statements

The grammars of the talks that the execution of a statement may have, with the
statements that it leaves in the cache and the way it ends. Each rule of a grammar
is one way through the code. A prepared statement is provided, executed and
disposed of; when its handle is refused, another one is provided in its place and
executed once more. Main statement: whatever the server answers, the execution of
a statement follows its grammar (`run_follows`, `runForCount_follows`).
-/

namespace ExasolClient

/-! ## Requests and replies -/

/-- The request to prepare a statement. -/
def StatementKey.creation (key : StatementKey) : Request :=
  .prepare key.sql (Attributes.ofSchema key.schema)

/-- The request to execute a statement as it is. -/
def StatementKey.execution (key : StatementKey) : Request :=
  .execute key.sql (Attributes.ofSchema key.schema)

/-- The request to execute a prepared statement for all rows of values. -/
def PreparedStatement.execution (s : PreparedStatement) (columns : List Column) (data : Cells) :
    Request :=
  .executePrepared s.handle (.ofNat columns.length) (.ofNat (Connection.height data)) columns data

/-- The prepared statement that the server tells of. -/
def PrepareResult.statement (r : PrepareResult) : PreparedStatement where
  handle := r.handle
  columns := match r.parameters with
    | some parameters => parameters.columns
    | none => []

/-- The prepared statement that the answer to an attempt tells of. -/
def Attempt.statement (a : Attempt) : Except Fault PreparedStatement :=
  (a.payload PrepareResult).map PrepareResult.statement

/-- The cache after a statement was prepared. -/
def StatementCache.keep (caching : Bool) (cache : StatementCache) (key : StatementKey)
    (s : PreparedStatement) : StatementCache :=
  if caching then cache.insert key s else cache

/-! ## Grammars -/

/-- A prepared statement is provided: it is in the cache, or one attempt is made to create it. -/
inductive Provided (caching : Bool) (cache : StatementCache) (key : StatementKey) :
    Grammar PreparedStatement where
  | found {s : PreparedStatement} : cache.find? key = some s →
      Provided caching cache key [] cache (.ok s)
  | refused {a : Attempt} {fault : Fault} : cache.find? key = none →
      a.request = key.creation → a.statement = .error fault →
      Provided caching cache key [a] cache (.error fault)
  | created {a : Attempt} {s : PreparedStatement} : cache.find? key = none →
      a.request = key.creation → a.statement = .ok s →
      Provided caching cache key [a] (cache.keep caching key s) (.ok s)

/-- A prepared statement is executed, if the values to bind fit it. -/
inductive Executed (s : PreparedStatement) (data : Cells) (types : Option (List DataType)) :
    List Attempt → Except Fault ExecuteResult → Prop where
  | unfit {fault : ArgumentFault} : Connection.checkBinds s data types = .error fault →
      Executed s data types [] (.error (.argument fault))
  | sent {columns : List Column} {a : Attempt} : Connection.checkBinds s data types = .ok columns →
      a.request = s.execution columns data →
      Executed s data types [a] (a.payload ExecuteResult)

/-- The server refused the handle of the statement that was executed. -/
def IsStale (result : Except Fault ExecuteResult) : Prop :=
  ∃ fault, result = .error fault ∧ fault.isStaleHandle = true

/--
A prepared statement is executed, and once more under a new handle when the old one
is refused. What is in hand afterwards is the handle that was executed last.
-/
inductive Tried (caching : Bool) (cache : StatementCache) (key : StatementKey) (data : Cells)
    (types : Option (List DataType)) (s : PreparedStatement) :
    List Attempt → StatementCache → Option Int64 → Except Fault ExecuteResult → Prop where
  | settled {t : List Attempt} {result : Except Fault ExecuteResult} :
      Executed s data types t result → ¬IsStale result →
      Tried caching cache key data types s t cache (some s.handle) result
  /-- The handle is refused, and there is no other prepared statement. -/
  | lost {t₁ t₂ : List Attempt} {cache' : StatementCache} {result : Except Fault ExecuteResult}
      {fault : Fault} :
      Executed s data types t₁ result → IsStale result →
      Provided caching (cache.erase key) key t₂ cache' (.error fault) →
      Tried caching cache key data types s (t₁ ++ t₂) cache' none (.error fault)
  /-- The handle is refused, and another prepared statement is executed. -/
  | renewed {t₁ t₂ t₃ : List Attempt} {cache' : StatementCache} {fresh : PreparedStatement}
      {result result' : Except Fault ExecuteResult} :
      Executed s data types t₁ result → IsStale result →
      Provided caching (cache.erase key) key t₂ cache' (.ok fresh) →
      Executed fresh data types t₃ result' →
      Tried caching cache key data types s (t₁ ++ (t₂ ++ t₃)) cache' (some fresh.handle) result'

/-- The prepared statement in hand is kept open, or closed. -/
inductive Disposed (caching : Bool) : Option Int64 → List Attempt → Prop where
  | kept {handle : Option Int64} : caching = true → Disposed caching handle []
  | nothing : Disposed caching none []
  | closed {handle : Int64} {a : Attempt} : caching = false →
      a.request = .closeStatement handle → Disposed caching (some handle) [a]

/-- A statement with values to bind is executed by way of a prepared statement. -/
inductive PreparedRun (caching : Bool) (cache : StatementCache) (key : StatementKey) (data : Cells)
    (types : Option (List DataType)) : Grammar ExecuteResult where
  | unprepared {t : List Attempt} {cache' : StatementCache} {fault : Fault} :
      Provided caching cache key t cache' (.error fault) →
      PreparedRun caching cache key data types t cache' (.error fault)
  | prepared {t₁ t₂ t₃ : List Attempt} {cache₁ cache₂ : StatementCache} {s : PreparedStatement}
      {handle : Option Int64} {result : Except Fault ExecuteResult} :
      Provided caching cache key t₁ cache₁ (.ok s) →
      Tried caching cache₁ key data types s t₂ cache₂ handle result →
      Disposed caching handle t₃ →
      PreparedRun caching cache key data types (t₁ ++ (t₂ ++ t₃)) cache₂
        (result.mapError (.withSql key.sql))

/-- A statement is executed. -/
inductive Performed (caching : Bool) (cache : StatementCache) (key : StatementKey)
    (options : StatementOptions) : Grammar ExecuteResult where
  /-- The values to bind are no matrix. -/
  | misshapen {fault : ArgumentFault} : options.bindings = .error fault →
      Performed caching cache key options [] cache (.error (.argument fault))
  | directly {a : Attempt} : options.bindings = .ok none → a.request = key.execution →
      Performed caching cache key options [a] cache
        ((a.payload ExecuteResult).mapError (.withSql key.sql))
  | prepared {data : Cells} {t : List Attempt} {cache' : StatementCache}
      {result : Except Fault ExecuteResult} : options.bindings = .ok (some data) →
      PreparedRun caching cache key data options.columnTypes t cache' result →
      Performed caching cache key options t cache' result

/-- A statement is executed, and a result set that nobody will read is released. -/
inductive Counted (caching : Bool) (cache : StatementCache) (key : StatementKey)
    (options : StatementOptions) : Grammar Int64 where
  | failed {t : List Attempt} {cache' : StatementCache} {fault : Fault} :
      Performed caching cache key options t cache' (.error fault) →
      Counted caching cache key options t cache' (.error fault)
  | counted {t : List Attempt} {cache' : StatementCache} {result : ExecuteResult} :
      Performed caching cache key options t cache' (.ok result) →
      Connection.unreadHandle? result = none →
      Counted caching cache key options t cache' (.ok result.rowsAffected)
  | released {t : List Attempt} {cache' : StatementCache} {result : ExecuteResult} {handle : Int64}
      {a : Attempt} :
      Performed caching cache key options t cache' (.ok result) →
      Connection.unreadHandle? result = some handle → a.request = .closeResultSets [handle] →
      Counted caching cache key options (t ++ [a]) cache' (.ok result.rowsAffected)

/-! ## The steps -/

namespace Connection

variable [Transport σ]

theorem createStatement_yields (key : StatementKey) (c : Connection σ) :
    (createStatement key).Yields c [c.line.attempt key.creation] c.statements
      (c.line.attempt key.creation).statement := by
  have hask := ask_yields PrepareResult key.creation rfl c
  unfold createStatement Attempt.statement
  cases hpayload : (c.line.attempt key.creation).payload PrepareResult with
  | error fault =>
    rw [hpayload] at hask
    exact hask.bind_error
  | ok result =>
    rw [hpayload] at hask
    have hnote := hask.leads.note (.statementPrepared result.handle result.statement.columns.length)
    exact hask.bind (hnote.after ((hask.leads.trans hnote.leads).pure result.statement))

theorem keepStatement_yields (key : StatementKey) (s : PreparedStatement) (c : Connection σ) :
    (keepStatement key s).Yields c [] (c.statements.keep c.config.cacheStatements key s)
      (.ok ()) := by
  unfold keepStatement StatementCache.keep
  constructor
  · rfl
  · rw [Action.on_modify]
    split
    · exact .setStatements c _
    · exact .refl c

theorem forgetStatement_yields (key : StatementKey) (c : Connection σ) :
    (forgetStatement key).Yields c [] (c.statements.erase key) (.ok ()) :=
  ⟨rfl, .setStatements c _⟩

theorem closeStatement_yields (handle : Int64) (c : Connection σ) :
    Quiet.Yields (closeStatement handle) c [c.line.attempt (.closeStatement handle)] c.statements
      () := by
  refine .bind_attempt (tell_yields (.closeStatement handle) rfl c) ?_
  intro d hleads
  split
  · exact hleads.quiet_pure ()
  · exact hleads.quiet_log _

/-! ## Prepared statements -/

theorem prepare_follows (key : StatementKey) (c : Connection σ) :
    (prepare key).Follows c (Provided c.config.cacheStatements c.statements key) := by
  cases hfind : c.statements.find? key with
  | some s =>
    refine .ofYields (.get ?_) (.found hfind)
    simp only [hfind]
    exact (Leads.refl c).pure s
  | none =>
    have hcreate := createStatement_yields key c
    cases hstatement : (c.line.attempt key.creation).statement with
    | error fault =>
      rw [hstatement] at hcreate
      refine .ofYields (.get ?_) (.refused hfind rfl hstatement)
      simp only [hfind]
      exact hcreate.bind_error
    | ok s =>
      rw [hstatement] at hcreate
      have hkeep := keepStatement_yields key s ((createStatement key).on c).2
      rw [hcreate.leads.statements, hcreate.leads.config] at hkeep
      refine .ofYields (.get ?_) (.created hfind rfl hstatement)
      simp only [hfind]
      exact hcreate.bind (hkeep.after ((hcreate.leads.trans hkeep.leads).pure s))

theorem runStatement_follows (s : PreparedStatement) (data : Cells)
    (types : Option (List DataType)) (c : Connection σ) :
    (runStatement s data types).Follows c fun talk cache result =>
      Executed s data types talk result ∧ cache = c.statements := by
  unfold runStatement
  cases hbinds : checkBinds s data types with
  | error fault =>
    have hcheck := (Leads.refl c).ofExcept (.error (.argument fault) : Except Fault (List Column))
    exact .ofYields hcheck.bind_error ⟨.unfit hbinds, rfl⟩
  | ok columns =>
    have hcheck := (Leads.refl c).ofExcept (.ok columns : Except Fault (List Column))
    have hnote := (Leads.refl c).note (.executingPrepared s.handle columns.length (height data))
    have hask := ask_yields ExecuteResult (s.execution columns data) rfl
      ((note (.executingPrepared s.handle columns.length (height data))).on c).2
    exact .ofYields (hcheck.after (hnote.after hask)) ⟨.sent hbinds rfl, rfl⟩

/-- Execute a prepared statement, and once more under a new handle when the old one is refused. -/
def tryStatement (key : StatementKey) (s : PreparedStatement) (data : Cells)
    (types : Option (List DataType)) : Action σ (Option Int64 × Except Fault ExecuteResult) := do
  match ← Action.ofQuiet (runStatement s data types).attempt with
  | .error fault =>
    if fault.isStaleHandle then rerun key s data types
    else pure (some s.handle, .error fault)
  | .ok result => pure (some s.handle, .ok result)

/-- Close the statement in hand, unless the cache keeps it. -/
def dispose (handle : Option Int64) : Action σ Unit := do
  unless (← get).config.cacheStatements do
    if let some handle := handle then Action.ofQuiet (closeStatement handle)

/-- What is done after the statement in hand was disposed of. -/
theorem dispose_bind (handle : Option Int64) (x : Action σ α) :
    (do
      dispose handle
      x) = (do
      unless (← get).config.cacheStatements do
        if let some handle := handle then Action.ofQuiet (closeStatement handle)
      x) := by
  unfold dispose
  rw [bind_assoc]
  apply bind_congr
  intro d
  split
  · rfl
  · cases handle <;> rfl

theorem runPrepared_eq (key : StatementKey) (data : Cells) (types : Option (List DataType)) :
    (runPrepared key data types : Action σ ExecuteResult) = (do
      let statement ← prepare key
      let (handle, result) ← tryStatement key statement data types
      dispose handle
      Action.ofExcept (result.mapError (.withSql key.sql))) := by
  simp only [dispose_bind]
  unfold runPrepared tryStatement
  apply bind_congr
  intro s
  rw [bind_assoc]
  apply bind_congr
  intro result
  cases result with
  | error fault =>
    dsimp only
    split <;> rfl
  | ok result => rfl

theorem rerun_follows (key : StatementKey) (s : PreparedStatement) (data : Cells)
    (types : Option (List DataType)) {t : List Attempt} {stale : Except Fault ExecuteResult}
    {b c : Connection σ} (hleads : Leads b t b.statements c)
    (hexecuted : Executed s data types t stale) (hstale : IsStale stale) :
    (rerun key s data types).Follows c fun talk cache outcome => ∃ handle result,
      outcome = .ok (handle, result) ∧
      Tried b.config.cacheStatements b.statements key data types s (t ++ talk) cache handle
        result := by
  unfold rerun
  have hnote := hleads.note (.staleStatement s.handle)
  have hforget := forgetStatement_yields key ((note (.staleStatement s.handle)).on c).2
  have hforgotten := (hleads.trans hnote.leads).trans hforget.leads
  rw [hnote.leads.statements] at hforgotten
  refine .after hnote (.after hforget (.bind_attempt (prepare_follows key _) ?_))
  rw [hforgotten.config, hforgotten.statements]
  rintro t' cache' provided d hprovided hleads'
  cases provided with
  | error fault =>
    refine .ofYields (hleads'.pure _) ⟨_, _, rfl, ?_⟩
    rw [List.append_nil]
    exact .lost hexecuted hstale hprovided
  | ok fresh =>
    refine .after (hleads'.note (.retrying fresh.handle))
      (.bind_attempt (runStatement_follows fresh data types _) ?_)
    rintro t'' _ result e ⟨hexecuted', rfl⟩ hleads''
    have hcache := (hleads'.note (.retrying fresh.handle)).leads.statements
    refine .ofYields (hleads''.pure _) ⟨_, _, rfl, ?_⟩
    rw [List.append_nil, hcache]
    exact .renewed hexecuted hstale hprovided hexecuted'

theorem tryStatement_follows (key : StatementKey) (s : PreparedStatement) (data : Cells)
    (types : Option (List DataType)) (c : Connection σ) :
    (tryStatement key s data types).Follows c fun talk cache outcome => ∃ handle result,
      outcome = .ok (handle, result) ∧
      Tried c.config.cacheStatements c.statements key data types s talk cache handle result := by
  refine .bind_attempt (runStatement_follows s data types c) ?_
  rintro t cache result d ⟨hexecuted, rfl⟩ hleads
  cases result with
  | ok result =>
    have hfresh : ¬IsStale (.ok result) := by
      rintro ⟨fault, herror, -⟩
      cases herror
    refine .ofYields (hleads.pure _) ⟨_, _, rfl, ?_⟩
    rw [List.append_nil]
    exact .settled hexecuted hfresh
  | error fault =>
    dsimp only
    split
    next hstale => exact rerun_follows key s data types hleads hexecuted ⟨fault, rfl, hstale⟩
    next hstale =>
      have hfresh : ¬IsStale (.error fault) := by
        rintro ⟨_, herror, hstale'⟩
        cases herror
        exact hstale hstale'
      refine .ofYields (hleads.pure _) ⟨_, _, rfl, ?_⟩
      rw [List.append_nil]
      exact .settled hexecuted hfresh

theorem dispose_follows (handle : Option Int64) (c : Connection σ) :
    (dispose handle).Follows c fun talk cache outcome =>
      Disposed c.config.cacheStatements handle talk ∧ cache = c.statements ∧ outcome = .ok () := by
  cases hcaching : c.config.cacheStatements with
  | true =>
    refine .ofYields (.get ?_) ⟨.kept rfl, rfl, rfl⟩
    simp only [hcaching, if_true]
    exact (Leads.refl c).pure ()
  | false =>
    cases handle with
    | none =>
      refine .ofYields (.get ?_) ⟨.nothing, rfl, rfl⟩
      simp only [hcaching, Bool.false_eq_true, if_false]
      exact (Leads.refl c).pure ()
    | some handle =>
      have hdisposed : Disposed false (some handle) [c.line.attempt (.closeStatement handle)] :=
        .closed rfl rfl
      refine .ofYields (.get ?_) ⟨hdisposed, rfl, rfl⟩
      simp only [hcaching, Bool.false_eq_true, if_false]
      exact .ofQuiet (closeStatement_yields handle c)

theorem runPrepared_follows (key : StatementKey) (data : Cells) (types : Option (List DataType))
    (c : Connection σ) :
    (runPrepared key data types).Follows c
      (PreparedRun c.config.cacheStatements c.statements key data types) := by
  rw [runPrepared_eq]
  refine .bind (prepare_follows key c) ?_ fun _ _ _ hprovided => .unprepared hprovided
  intro t₁ cache₁ s d₁ hprovided hleads₁
  refine .bind (tryStatement_follows key s data types d₁) ?_ ?_
  · rintro t₂ cache₂ ⟨handle, result⟩ d₂ ⟨_, _, houtcome, htried⟩ hleads₂
    cases houtcome
    refine .bind (dispose_follows handle d₂) ?_ ?_
    · rintro t₃ _ _ d₃ ⟨hdisposed, rfl, -⟩ hleads₃
      refine .ofYields (hleads₃.ofExcept _) ?_
      rw [hleads₁.statements, hleads₁.config] at htried
      rw [hleads₂.config, hleads₁.config] at hdisposed
      rw [hleads₂.statements, List.append_nil]
      exact .prepared hprovided htried hdisposed
    · rintro _ _ _ ⟨-, -, herror⟩
      cases herror
  · rintro _ _ _ ⟨_, _, herror, -⟩
    cases herror

theorem run_follows (sql : String) (options : StatementOptions) (c : Connection σ) :
    (run sql options).Follows c
      (Performed c.config.cacheStatements c.statements ⟨options.schema, sql⟩ options) := by
  unfold run
  have hbindings := (Leads.refl c).ofExcept (options.bindings.mapError Fault.argument)
  cases h : options.bindings with
  | error fault =>
    rw [h] at hbindings
    exact .ofYields hbindings.bind_error (.misshapen h)
  | ok binds =>
    rw [h] at hbindings
    cases binds with
    | none =>
      have hnote := (Leads.refl c).note (.executing sql)
      have hask := ask_yields ExecuteResult (StatementKey.execution ⟨options.schema, sql⟩) rfl
        ((note (.executing sql)).on c).2
      refine .ofYields (hbindings.after (hnote.after (hask.mapFault _))) (.directly h rfl)
    | some data =>
      obtain ⟨talk, cache, result, hrun, hyields⟩ :=
        runPrepared_follows ⟨options.schema, sql⟩ data options.columnTypes c
      exact .ofYields (hbindings.after hyields) (.prepared h hrun)

theorem releaseUnread_yields (handle : Int64) (c : Connection σ) :
    Quiet.Yields (releaseUnread handle) c [c.line.attempt (.closeResultSets [handle])]
      c.statements () := by
  refine .bind_attempt (tell_yields (.closeResultSets [handle]) rfl c) ?_
  intro d hleads
  split
  · exact hleads.quiet_pure ()
  · exact hleads.quiet_log _

theorem runForCount_follows (sql : String) (options : StatementOptions) (c : Connection σ) :
    (runForCount sql options).Follows c
      (Counted c.config.cacheStatements c.statements ⟨options.schema, sql⟩ options) := by
  unfold runForCount
  refine .bind (run_follows sql options c) ?_ fun _ _ _ hperformed => .failed hperformed
  intro t cache result d hperformed hleads
  cases hunread : unreadHandle? result with
  | none =>
    refine .ofYields (hleads.pure _) ?_
    rw [List.append_nil]
    exact .counted hperformed hunread
  | some handle =>
    have hrelease := (releaseUnread_yields handle d).leads
    refine .ofYields (Action.Yields.bind (.ofQuiet (releaseUnread_yields handle d))
      (hrelease.pure _)) ?_
    rw [hleads.statements, List.append_nil]
    exact .released hperformed hunread rfl

end Connection
end ExasolClient
