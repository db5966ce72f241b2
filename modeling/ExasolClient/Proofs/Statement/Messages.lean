-- SUMMARY: Which messages the execution of a statement sends, and what each of them depends on.
import ExasolClient.Proofs.Statement.Dialogue
import ExasolClient.Rehearsal.Server

/-!
# Messages of a statement

The execution of a statement has seven places for a message, most of which stay
empty. What stands in a place is a function of the statement, of the cache and of
the answers to the messages before it; `Phases.Lawful` has one equation for each
place. So nothing is executed a second time unless the handle was refused, and
never a third time. Main statement: whatever the server answers, the messages that
an execution hands to the transport are those of lawful phases (`execute_messages`).
-/

namespace ExasolClient

/-! ## Refused handles -/

namespace Attempt

/-- The server answers the execution of a statement with the words for a lost handle. -/
def reportsLostHandle (a : Attempt) : Bool :=
  (a.serverError? ExecuteResult).any fun report =>
    Text.contains staleHandleText.toList report.text.toList

/-- The transport itself fails as if the server had reported a lost handle. -/
def failsAsLostHandle (a : Attempt) : Bool :=
  match a.answer with
  | .unwritten fault | .unread fault => fault.isStaleHandle
  | _ => false

/-- The handle of the statement is refused, be it by the server or by the transport itself. -/
def isRefused (a : Attempt) : Bool := a.reportsLostHandle || a.failsAsLostHandle

end Attempt

/-- Of the classes of a server error the words decide for that of lost handles alone. -/
theorem QueryFault.isStaleHandle_ofServer (message : String) (sqlCode : Option String) :
    (QueryFault.ofServer message sqlCode).isStaleHandle =
      Text.contains staleHandleText.toList message.toList := by
  unfold isStaleHandle ofServer QueryKind.classify
  cases Text.contains staleHandleText.toList message.toList with
  | true => simp
  | false =>
    simp only [Bool.false_eq_true, if_false, decide_eq_false_iff_not]
    repeat' split
    all_goals exact QueryKind.noConfusion

theorem isStale_error (fault : Fault) : IsStale (.error fault) ↔ fault.isStaleHandle = true := by
  constructor
  · rintro ⟨_, herror, hstale⟩
    cases herror
    exact hstale
  · exact fun hstale => ⟨fault, rfl, hstale⟩

theorem not_isStale_ok (result : ExecuteResult) : ¬IsStale (.ok result) := by
  rintro ⟨_, herror, -⟩
  cases herror

/-- An execution is stale when its handle is refused. -/
theorem Attempt.isStale_payload (a : Attempt) :
    IsStale (a.payload ExecuteResult) ↔ a.isRefused = true := by
  obtain ⟨request, answer⟩ := a
  cases answer with
  | cancelled =>
    change IsStale (.error .cancelled) ↔ false = true
    exact isStale_error .cancelled
  | closed =>
    change IsStale (.error .closed) ↔ false = true
    exact isStale_error .closed
  | unwritten fault | unread fault =>
    change IsStale (.error fault) ↔ fault.isStaleHandle = true
    exact isStale_error fault
  | message json =>
    cases hdecode : Reply.decode (Payload.decode : Json → Option ExecuteResult) json with
    | none =>
      have hpayload : (⟨request, .message json⟩ : Attempt).payload ExecuteResult =
          .error (.protocolError (.malformedReply request.command)) := by
        simp [payload, reply, Answer.message?, hdecode, bind, Except.bind]
      have hrefused : (⟨request, .message json⟩ : Attempt).isRefused = false := by
        simp [isRefused, reportsLostHandle, failsAsLostHandle, serverError?, Answer.message?,
          hdecode, Except.toOption]
      rw [hpayload, hrefused]
      exact isStale_error _
    | some r =>
      have hpayload : (⟨request, .message json⟩ : Attempt).payload ExecuteResult =
          r.result >>= Reply.payload := by
        simp [payload, reply, Answer.message?, hdecode, bind, Except.bind]
      rw [hpayload]
      cases hstatus : r.status with
      | ok =>
        have hrefused : (⟨request, .message json⟩ : Attempt).isRefused = false := by
          simp [isRefused, reportsLostHandle, failsAsLostHandle, serverError?, Answer.message?,
            hdecode, hstatus, Except.toOption]
        rw [hrefused]
        simp only [Reply.result, hstatus, Reply.payload, bind, Except.bind]
        split
        · simpa using not_isStale_ok _
        · exact isStale_error _
      | error =>
        have hrefused : (⟨request, .message json⟩ : Attempt).isRefused =
            Text.contains staleHandleText.toList
              (r.exception.getD Reply.unexplained).text.toList := by
          simp [isRefused, reportsLostHandle, failsAsLostHandle, serverError?, Answer.message?,
            hdecode, hstatus, Except.toOption]
        rw [hrefused, ← QueryFault.isStaleHandle_ofServer _
          (r.exception.getD Reply.unexplained).sqlCode]
        simp only [Reply.result, hstatus]
        exact isStale_error _

/-! ## Phases -/

/-- The values to bind, if there are any and they are a matrix. -/
def StatementOptions.data? (o : StatementOptions) : Option Cells :=
  match o.bindings with
  | .ok (some data) => some data
  | _ => none

/-- The request to execute a prepared statement, if the values to bind fit it. -/
def PreparedStatement.execution? (s : PreparedStatement) (data : Cells)
    (types : Option (List DataType)) : Option Request :=
  (Connection.checkBinds s data types).toOption.map fun columns => s.execution columns data

/-- The request to release the result set of a statement that succeeded. -/
def Request.release? (result : Option ExecuteResult) : Option Request := do
  let handle ← Connection.unreadHandle? (← result)
  some (.closeResultSets [handle])

/-- The places of the messages that the execution of a statement may send, in their order. -/
structure Phases where
  /-- The statement is executed as it is. -/
  direct : Option Attempt := none
  create : Option Attempt := none
  execute : Option Attempt := none
  recreate : Option Attempt := none
  reexecute : Option Attempt := none
  close : Option Attempt := none
  /-- A result set that nobody will read is released. -/
  release : Option Attempt := none

namespace Phases

/-- The messages of all places. -/
def attempts (p : Phases) : List Attempt :=
  p.direct.toList ++ (p.create.toList ++ (p.execute.toList ++ (p.recreate.toList ++
    (p.reexecute.toList ++ (p.close.toList ++ p.release.toList)))))

/-- The prepared statement for a key, from the cache or from the server. -/
def provided (p : Phases) (cache : StatementCache) (key : StatementKey) :
    Option PreparedStatement :=
  (cache.find? key).or (p.create.bind (·.statement.toOption))

/-- The prepared statement that takes the place of one whose handle was refused. -/
def renewed (p : Phases) : Option PreparedStatement := p.recreate.bind (·.statement.toOption)

/-- The prepared statement that was executed last. -/
def inHand (p : Phases) (refused : Attempt → Bool) (cache : StatementCache) (key : StatementKey) :
    Option PreparedStatement :=
  if p.execute.any refused then p.renewed else p.provided cache key

/-- The message that decides how the execution ends. -/
def decisive (p : Phases) : Option Attempt :=
  p.direct.or (if p.recreate.isSome then p.reexecute else p.execute)

/-- The result of the statement, if that succeeded. -/
def result (p : Phases) : Option ExecuteResult :=
  p.decisive.bind (·.payload ExecuteResult |>.toOption)

/--
What stands in each place, when an execution is taken to be refused as `refused`
says.
-/
structure Lawful (refused : Attempt → Bool) (caching : Bool) (cache : StatementCache)
    (key : StatementKey) (options : StatementOptions) (p : Phases) : Prop where
  /-- A statement with nothing to bind is executed as it is. -/
  direct : p.direct.map Attempt.request =
    match options.bindings with
    | .ok none => some key.execution
    | _ => none
  /-- A statement with values to bind is prepared, unless the cache holds it. -/
  create : p.create.map Attempt.request =
    if options.data?.isSome ∧ cache.find? key = none then some key.creation else none
  /-- The statement in hand is executed, if the values fit it. -/
  execute : p.execute.map Attempt.request = do
    let data ← options.data?
    (← p.provided cache key).execution? data options.columnTypes
  /-- The statement is prepared once more if its handle was refused, and only then. -/
  recreate : p.recreate.map Attempt.request =
    if p.execute.any refused then some key.creation else none
  /-- The new statement is executed with the same values, if they fit it. -/
  reexecute : p.reexecute.map Attempt.request = do
    let data ← options.data?
    (← p.renewed).execution? data options.columnTypes
  /-- The statement in hand is closed, unless the cache keeps it. -/
  close : p.close.map Attempt.request =
    if options.data?.isSome ∧ caching = false then
      (p.inHand refused cache key).map fun s => .closeStatement s.handle
    else none
  /-- The result set of a statement that succeeded is released. -/
  release : p.release.map Attempt.request = Request.release? p.result

end Phases

/-! ## From talks to phases -/

section

variable {caching : Bool} {cache cache' : StatementCache} {key : StatementKey} {data : Cells}
  {types : Option (List DataType)} {options : StatementOptions} {s : PreparedStatement}
  {t : List Attempt}

theorem toOption_mapError (result : Except Fault α) (f : Fault → Fault) :
    (result.mapError f).toOption = result.toOption := by
  cases result <;> rfl

theorem Provided.phase {r : Except Fault PreparedStatement}
    (h : Provided caching cache key t cache' r) : ∃ create : Option Attempt,
      t = create.toList ∧
      create.map Attempt.request = (if cache.find? key = none then some key.creation else none) ∧
      r.toOption = (cache.find? key).or (create.bind (·.statement.toOption)) := by
  cases h with
  | found hfind => exact ⟨none, rfl, by simp [hfind], by simp [hfind, Except.toOption]⟩
  | refused hfind hrequest hstatement =>
    exact ⟨some _, rfl, by simp [hfind, hrequest], by simp [hfind, hstatement, Except.toOption]⟩
  | created hfind hrequest hstatement =>
    exact ⟨some _, rfl, by simp [hfind, hrequest], by simp [hfind, hstatement, Except.toOption]⟩

theorem Executed.phase {r : Except Fault ExecuteResult} (h : Executed s data types t r) :
    ∃ execute : Option Attempt, t = execute.toList ∧
      execute.map Attempt.request = s.execution? data types ∧
      r.toOption = execute.bind (·.payload ExecuteResult |>.toOption) ∧
      (IsStale r ↔ execute.any Attempt.isRefused = true) := by
  cases h with
  | unfit hbinds =>
    refine ⟨none, rfl, by simp [PreparedStatement.execution?, hbinds, Except.toOption], rfl, ?_⟩
    rw [isStale_error]
    exact Iff.rfl
  | @sent columns a hbinds hrequest =>
    refine ⟨some a, rfl, ?_, rfl, a.isStale_payload⟩
    simp [PreparedStatement.execution?, hbinds, hrequest, Except.toOption]

theorem Disposed.phase {handle : Option Int64} (h : Disposed caching handle t) :
    ∃ close : Option Attempt, t = close.toList ∧ close.map Attempt.request =
      (if caching = false then handle.map Request.closeStatement else none) := by
  cases h with
  | kept hcaching => exact ⟨none, rfl, by simp [hcaching]⟩
  | nothing => exact ⟨none, rfl, by simp⟩
  | closed hcaching hrequest => exact ⟨some _, rfl, by simp [hcaching, hrequest]⟩

theorem PreparedRun.phases {r : Except Fault ExecuteResult}
    (h : PreparedRun caching cache key data options.columnTypes t cache' r)
    (hdata : options.bindings = .ok (some data)) (release : Option Attempt)
    (hrelease : release.map Attempt.request = Request.release? r.toOption) :
    ∃ p : Phases, p.attempts = t ++ release.toList ∧
      p.Lawful Attempt.isRefused caching cache key options := by
  have hdata? : options.data? = some data := by simp [StatementOptions.data?, hdata]
  cases h with
  | unprepared hprovided =>
    obtain ⟨create, rfl, hcreate, hresult⟩ := hprovided.phase
    let p : Phases := { create, release }
    have hnone : p.provided cache key = none := hresult.symm
    refine ⟨p, by simp [p, Phases.attempts], ?_⟩
    constructor <;>
      simp [p, hdata, hdata?, hcreate, hnone, hrelease, Phases.renewed, Phases.inHand,
        Phases.result, Phases.decisive, Except.toOption]
  | @prepared t₁ _ t₃ _ _ s handle _ hprovided htried hdisposed =>
    obtain ⟨create, rfl, hcreate, hresult⟩ := hprovided.phase
    obtain ⟨close, rfl, hclose⟩ := hdisposed.phase
    rw [toOption_mapError] at hrelease
    cases htried with
    | settled hexecuted hstale =>
      obtain ⟨execute, rfl, hexecute, hr, hrefused⟩ := hexecuted.phase
      rw [hrefused, Bool.not_eq_true] at hstale
      let p : Phases := { create, execute, close, release }
      have hsome : p.provided cache key = some s := hresult.symm
      refine ⟨p, by simp [p, Phases.attempts], ?_⟩
      constructor <;>
        simp [p, hdata, hdata?, hcreate, hsome, hexecute, hstale, hclose, hrelease, hr,
          Phases.renewed, Phases.inHand, Phases.result, Phases.decisive]
    | lost hexecuted hstale hagain =>
      obtain ⟨execute, rfl, hexecute, -, hrefused⟩ := hexecuted.phase
      obtain ⟨recreate, rfl, hrecreate, hfresh⟩ := hagain.phase
      rw [hrefused] at hstale
      rw [StatementCache.find?_erase_self] at hrecreate hfresh
      let p : Phases := { create, execute, recreate, close, release }
      have hsome : p.provided cache key = some s := hresult.symm
      have hnone : p.renewed = none := hfresh.symm
      have hsent : recreate.isSome = true := by simpa using congrArg Option.isSome hrecreate
      refine ⟨p, by simp [p, Phases.attempts], ?_⟩
      constructor <;>
        simp [p, hdata, hdata?, hcreate, hsome, hexecute, hstale, hrecreate, hclose, hnone,
          hsent, hrelease, Phases.inHand, Phases.result, Phases.decisive, Except.toOption]
    | @renewed _ _ _ _ fresh _ _ hexecuted hstale hagain hexecuted' =>
      obtain ⟨execute, rfl, hexecute, -, hrefused⟩ := hexecuted.phase
      obtain ⟨recreate, rfl, hrecreate, hfresh⟩ := hagain.phase
      obtain ⟨reexecute, rfl, hreexecute, hr, -⟩ := hexecuted'.phase
      rw [hrefused] at hstale
      rw [StatementCache.find?_erase_self] at hrecreate hfresh
      let p : Phases := { create, execute, recreate, reexecute, close, release }
      have hsome : p.provided cache key = some s := hresult.symm
      have hrenewed : p.renewed = some fresh := hfresh.symm
      have hsent : recreate.isSome = true := by simpa using congrArg Option.isSome hrecreate
      refine ⟨p, by simp [p, Phases.attempts], ?_⟩
      constructor <;>
        simp [p, hdata, hdata?, hcreate, hsome, hexecute, hstale, hrecreate, hclose, hrenewed,
          hreexecute, hsent, hrelease, hr, Phases.inHand, Phases.result, Phases.decisive]

theorem Performed.phases {r : Except Fault ExecuteResult}
    (h : Performed caching cache key options t cache' r) (release : Option Attempt)
    (hrelease : release.map Attempt.request = Request.release? r.toOption) :
    ∃ p : Phases, p.attempts = t ++ release.toList ∧
      p.Lawful Attempt.isRefused caching cache key options := by
  cases h with
  | misshapen hbindings =>
    let p : Phases := { release }
    have hdata? : options.data? = none := by simp [StatementOptions.data?, hbindings]
    refine ⟨p, by simp [p, Phases.attempts], ?_⟩
    constructor <;>
      simp [p, hbindings, hdata?, hrelease, Phases.renewed, Phases.result, Phases.decisive,
        Except.toOption]
  | @directly a hbindings hrequest =>
    let p : Phases := { direct := some a, release }
    have hdata? : options.data? = none := by simp [StatementOptions.data?, hbindings]
    rw [toOption_mapError] at hrelease
    refine ⟨p, by simp [p, Phases.attempts], ?_⟩
    constructor <;>
      simp [p, hbindings, hdata?, hrequest, hrelease, Phases.renewed, Phases.result,
        Phases.decisive]
  | prepared hbindings hrun => exact hrun.phases hbindings release hrelease

/-- The talk of a statement is that of lawful phases. -/
theorem Counted.phases {r : Except Fault Int64} (h : Counted caching cache key options t cache' r) :
    ∃ p : Phases, p.attempts = t ∧ p.Lawful Attempt.isRefused caching cache key options := by
  cases h with
  | failed hperformed =>
    obtain ⟨p, hp, hlawful⟩ := hperformed.phases none rfl
    exact ⟨p, by simpa using hp, hlawful⟩
  | counted hperformed hunread =>
    obtain ⟨p, hp, hlawful⟩ := hperformed.phases none (by
      simp [Request.release?, Except.toOption, hunread])
    exact ⟨p, by simpa using hp, hlawful⟩
  | @released _ _ result handle a hperformed hunread hrequest =>
    obtain ⟨p, hp, hlawful⟩ := hperformed.phases (some a) (by
      simp [Request.release?, Except.toOption, hunread, hrequest])
    exact ⟨p, hp, hlawful⟩

end

/-! ## How often something is sent -/

/-- The request executes a statement. -/
def Request.isExecution : Request → Bool
  | .execute _ _ | .executePrepared _ _ _ _ _ => true
  | _ => false

/-- A place holds no execution if no request that may stand there is one. -/
theorem filter_isExecution_eq_nil {place : Option Attempt} {request : Option Request}
    (h : place.map Attempt.request = request) (hr : ∀ r, request = some r → r.isExecution = false) :
    place.toList.filter (·.request.isExecution) = [] := by
  cases place with
  | none => rfl
  | some a => simpa using hr a.request h.symm

/-- A place holds nothing but executions if every request that may stand there is one. -/
theorem filter_isExecution_eq_self {place : Option Attempt} {request : Option Request}
    (h : place.map Attempt.request = request) (hr : ∀ r, request = some r → r.isExecution = true) :
    place.toList.filter (·.request.isExecution) = place.toList := by
  cases place with
  | none => rfl
  | some a => simpa using hr a.request h.symm

namespace Phases.Lawful

variable {refused : Attempt → Bool} {caching : Bool} {cache : StatementCache} {key : StatementKey}
  {options : StatementOptions} {p : Phases}

/-- A statement that is executed as it is goes with no message but a release. -/
theorem direct_or (h : p.Lawful refused caching cache key options) :
    p.direct = none ∨ p.create = none ∧ p.execute = none ∧ p.recreate = none ∧
      p.reexecute = none ∧ p.close = none := by
  cases hbindings : options.bindings with
  | error fault =>
    have hdirect := h.direct
    rw [hbindings] at hdirect
    exact .inl (Option.map_eq_none_iff.1 hdirect)
  | ok binds =>
    cases binds with
    | some data =>
      have hdirect := h.direct
      rw [hbindings] at hdirect
      exact .inl (Option.map_eq_none_iff.1 hdirect)
    | none =>
      have hdata : options.data? = none := by simp [StatementOptions.data?, hbindings]
      have hexecute : p.execute = none := by simpa [hdata] using h.execute
      refine .inr ⟨?_, hexecute, ?_, ?_, ?_⟩
      · simpa [hdata] using h.create
      · simpa [hexecute] using h.recreate
      · simpa [hdata] using h.reexecute
      · simpa [hdata] using h.close

theorem length_attempts_le (h : p.Lawful refused caching cache key options) :
    p.attempts.length ≤ 6 := by
  have hrelease := Option.length_toList_le (o := p.release)
  rcases h.direct_or with hdirect | ⟨hcreate, hexecute, hrecreate, hreexecute, hclose⟩
  · have hcreate := Option.length_toList_le (o := p.create)
    have hexecute := Option.length_toList_le (o := p.execute)
    have hrecreate := Option.length_toList_le (o := p.recreate)
    have hreexecute := Option.length_toList_le (o := p.reexecute)
    have hclose := Option.length_toList_le (o := p.close)
    simp only [attempts, hdirect, List.length_append, Option.toList_none, List.length_nil]
    omega
  · have hdirect := Option.length_toList_le (o := p.direct)
    simp only [attempts, hcreate, hexecute, hrecreate, hreexecute, hclose, List.length_append,
      Option.toList_none, List.length_nil]
    omega

/-- What executes the statement stands in three places. -/
theorem filter_isExecution (h : p.Lawful refused caching cache key options) :
    p.attempts.filter (·.request.isExecution) =
      p.direct.toList ++ (p.execute.toList ++ p.reexecute.toList) := by
  have hdirect := filter_isExecution_eq_self h.direct (by
    intro r hr
    split at hr <;> cases hr
    rfl)
  have hcreate := filter_isExecution_eq_nil h.create (by
    intro r hr
    split at hr <;> cases hr
    rfl)
  have hexecution {s : PreparedStatement} {data : Cells} {r : Request}
      (hr : s.execution? data options.columnTypes = some r) : r.isExecution = true := by
    obtain ⟨columns, -, rfl⟩ := Option.map_eq_some_iff.1 hr
    rfl
  have hexecute := filter_isExecution_eq_self h.execute (by
    intro r hr
    obtain ⟨data, -, hr⟩ := Option.bind_eq_some_iff.1 hr
    obtain ⟨s, -, hr⟩ := Option.bind_eq_some_iff.1 hr
    exact hexecution hr)
  have hrecreate := filter_isExecution_eq_nil h.recreate (by
    intro r hr
    split at hr <;> cases hr
    rfl)
  have hreexecute := filter_isExecution_eq_self h.reexecute (by
    intro r hr
    obtain ⟨data, -, hr⟩ := Option.bind_eq_some_iff.1 hr
    obtain ⟨s, -, hr⟩ := Option.bind_eq_some_iff.1 hr
    exact hexecution hr)
  have hclose := filter_isExecution_eq_nil h.close (by
    intro r hr
    split at hr
    · obtain ⟨s, -, rfl⟩ := Option.map_eq_some_iff.1 hr
      rfl
    · cases hr)
  have hrelease := filter_isExecution_eq_nil h.release (by
    intro r hr
    obtain ⟨result, -, hr⟩ := Option.bind_eq_some_iff.1 hr
    obtain ⟨handle, -, hr⟩ := Option.bind_eq_some_iff.1 hr
    cases hr
    rfl)
  simp only [attempts, List.filter_append, hdirect, hcreate, hexecute, hrecreate, hreexecute,
    hclose, hrelease, List.nil_append, List.append_nil]

/-- A statement is executed at most twice. -/
theorem length_executions_le (h : p.Lawful refused caching cache key options) :
    (p.attempts.filter (·.request.isExecution)).length ≤ 2 := by
  rw [h.filter_isExecution]
  rcases h.direct_or with hdirect | ⟨-, hexecute, -, hreexecute, -⟩
  · have hexecute := Option.length_toList_le (o := p.execute)
    have hreexecute := Option.length_toList_le (o := p.reexecute)
    simp only [hdirect, List.length_append, Option.toList_none, List.length_nil]
    omega
  · have hdirect := Option.length_toList_le (o := p.direct)
    simp only [hexecute, hreexecute, List.length_append, Option.toList_none, List.length_nil]
    omega

end Phases.Lawful

/-! ## Runs -/

namespace Connection

variable [Transport σ]

/--
The messages that an execution hands to the transport, whether or not that takes
them, are those of lawful phases, when an execution is taken to be refused as
`refused` says.
-/
def Sends (refused : Attempt → Bool) (sql : String) (options : StatementOptions)
    (c : Connection σ) : Prop :=
  ∃ (events : List Event) (p : Phases),
    ((execute sql options).on c).2.journal.toList = c.journal.toList ++ events ∧
    Event.calls events = p.attempts.flatMap Attempt.events ∧
    (∀ a ∈ p.attempts, a.isSent = true) ∧
    p.Lawful refused c.config.cacheStatements c.statements ⟨options.schema, sql⟩ options ∧
    p.attempts.length ≤ 6 ∧ (p.attempts.filter (·.request.isExecution)).length ≤ 2

/--
On an open connection that is not cancelled meanwhile, an execution sends the
messages of lawful phases. A handle is refused when the server says so, or when the
transport fails in just those words.
-/
theorem execute_messages (sql : String) (options : StatementOptions) (c : Connection σ)
    (hopen : c.isOpen = true) (hlive : ((execute sql options).on c).2.isCancelled = false) :
    Sends Attempt.isRefused sql options c := by
  obtain ⟨talk, cache, result, hcounted, hyields⟩ := runForCount_follows sql options c
  have hleads := (hyields.mapFault (.context "Unable to execute")).leads
  obtain ⟨p, rfl, hlawful⟩ := hcounted.phases
  obtain ⟨events, hjournal, hcalls⟩ := hleads.journal
  exact ⟨events, p, hjournal, hcalls, hleads.line.isSent hopen hlive, hlawful,
    hlawful.length_attempts_le, hlawful.length_executions_le⟩

open Rehearsal

/-- An open connection to a server that answers from a script. -/
def rehearsed (script : List (String × List Entry)) : Connection Server where
  config := {}
  peer := { script, modulus := "", exponent := "" }
  isOpen := true

/-- A reply that names a prepared statement with one parameter. -/
def preparedReply (handle : Nat) : Json :=
  success [("statementHandle", .int handle), ("parameterData", .obj [("columns", headers 1)])]

/-- The server forgets the statement between its preparation and its execution. -/
def forgetful : Connection Server :=
  rehearsed [
    ("createPreparedStatement", [
      ⟨.reply (preparedReply 1), false⟩, ⟨.reply (preparedReply 2), false⟩]),
    ("executePreparedStatement", [
      ⟨.reply (.obj [("status", .str "error"),
        ("exception", .obj [("text", .str "Statement handle not found")])]), false⟩,
      ⟨.echoRows, false⟩])]

/-- The options of a statement with one value to bind. -/
def oneBind : StatementOptions := { binds := some [[.int 5]] }

theorem execute_messages_forgetful :
    forgetful.isOpen = true ∧ ((execute "INSERT" oneBind).on forgetful).2.isCancelled = false ∧
      Sends Attempt.isRefused "INSERT" oneBind forgetful :=
  ⟨rfl, rfl, execute_messages "INSERT" oneBind forgetful rfl rfl⟩

/-- The transport fails in the words for a lost handle, where the server says nothing. -/
def failing : Connection Server :=
  rehearsed [
    ("createPreparedStatement", [
      ⟨.reply (preparedReply 1), false⟩, ⟨.reply (preparedReply 2), false⟩]),
    ("executePreparedStatement", [
      ⟨.readFault (.query (.ofServer staleHandleText none)), false⟩, ⟨.echoRows, false⟩])]

/--
The replies alone do not decide: a transport that fails in the words for a lost
handle has the statement executed once more.
-/
theorem execute_messages_not_by_replies :
    failing.isOpen = true ∧ ((execute "INSERT" oneBind).on failing).2.isCancelled = false ∧
      ¬Sends Attempt.reportsLostHandle "INSERT" oneBind failing := by
  refine ⟨rfl, rfl, ?_⟩
  rintro ⟨events, p, hjournal, hcalls, hsent, hlawful, -⟩
  have hexchanges : Event.exchanges ((execute "INSERT" oneBind).on failing).2.journal.toList =
      p.attempts := by
    rw [hjournal]
    exact (Event.exchanges_eq hcalls).trans (List.filter_eq_self.2 hsent)
  have hlength : p.attempts.length = 5 := by
    rw [← hexchanges]
    rfl
  have hunreported : ∀ a ∈ p.attempts, a.reportsLostHandle = false := by
    rw [← hexchanges]
    decide +kernel
  have hrefused : p.execute.any Attempt.reportsLostHandle = false := by
    cases hexecute : p.execute with
    | none => rfl
    | some a => exact hunreported a (by simp [Phases.attempts, hexecute])
  have hdirect : p.direct = none := Option.map_eq_none_iff.1 hlawful.direct
  have hrecreate : p.recreate = none := by simpa [hrefused] using hlawful.recreate
  have hreexecute : p.reexecute = none := by
    simpa [Phases.renewed, hrecreate] using hlawful.reexecute
  have hcreate := Option.length_toList_le (o := p.create)
  have hexecute := Option.length_toList_le (o := p.execute)
  have hclose := Option.length_toList_le (o := p.close)
  have hrelease := Option.length_toList_le (o := p.release)
  simp only [Phases.attempts, hdirect, hrecreate, hreexecute, List.length_append,
    Option.toList_none, List.length_nil] at hlength
  omega

end Connection
end ExasolClient
