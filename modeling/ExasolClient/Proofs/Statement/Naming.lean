-- SUMMARY: Which errors of the server name the statement that they answer.
import ExasolClient.Proofs.Client.Refusal
import ExasolClient.Proofs.Fault.Wrapping
import ExasolClient.Proofs.Statement.Servers

/-!
# Naming the statement

An error that the server reports in answer to a command of a statement should name that
statement. It is given the name where the statement is executed, and where it is prepared anew
because its handle was refused. But the first preparation comes before either, and what is
reported in answer to it is passed on without a name. Main statement: an operation that fails
with an error of the server fails with the report on the last command of its statement, and this
names the statement unless that command is the first one and prepares it (`statement_named`).
-/

namespace ExasolClient

/-! ## Reports on a command -/

/-- A command of a statement: it prepares it, or executes it. -/
def Request.isOfStatement : Request → Bool
  | .execute _ _ | .prepare _ _ | .executePrepared _ _ _ _ _ => true
  | _ => false

/-- The request prepares a statement. -/
def Request.prepares : Request → Bool
  | .prepare _ _ => true
  | _ => false

namespace Attempt

/-- The error that the server reports in answer to a command of a statement. -/
def statementError? (a : Attempt) : Option Exception :=
  if a.request.prepares then a.serverError? PrepareResult else a.serverError? ExecuteResult

/-- The transport itself fails as if the server had reported an error. -/
def failsAsServer (a : Attempt) : Bool :=
  match a.answer with
  | .unwritten fault | .unread fault => fault.isServerError
  | _ => false

/-- The fault is what the server reports in answer to a command, unless the transport fails so. -/
def Explains (a : Attempt) (fault : Fault) : Prop :=
  a.failsAsServer = true ∨ ∃ report, a.statementError? = some report ∧ fault = report.fault

variable {a : Attempt} {fault : Fault}

/-- An attempt that fails with an error of the server was answered with a report. -/
theorem serverError?_of_payload {α : Type} [Payload α] (h : a.payload α = .error fault)
    (hserver : fault.isServerError = true) :
    a.failsAsServer = true ∨ ∃ report, a.serverError? α = some report ∧ fault = report.fault := by
  obtain ⟨request, answer⟩ := a
  cases answer with
  | cancelled | closed =>
    cases h
    cases hserver
  | unwritten _ | unread _ =>
    cases h
    exact .inl hserver
  | message json =>
    right
    unfold payload reply at h
    unfold serverError?
    cases hdecode : Reply.decode (Payload.decode : Json → Option α) json with
    | none =>
      simp only [Answer.message?, hdecode, bind, Except.bind] at h
      cases h
      cases hserver
    | some r =>
      simp only [Answer.message?, hdecode, bind, Except.bind, Reply.result] at h
      cases hstatus : r.status with
      | ok =>
        simp only [hstatus, Reply.payload] at h
        split at h
        · cases h
        · cases h
          cases hserver
      | error =>
        simp only [hstatus] at h
        cases h
        refine ⟨r.exception.getD Reply.unexplained, ?_, rfl⟩
        simp [Answer.message?, hdecode, hstatus, Except.toOption]

theorem explains_of_payload {r : Request} (h : a.payload ExecuteResult = .error fault)
    (hserver : fault.isServerError = true) (hrequest : a.request = r) (hr : r.prepares = false) :
    a.Explains fault := by
  unfold Explains statementError?
  rw [hrequest, hr]
  exact serverError?_of_payload h hserver

theorem explains_of_statement {r : Request} (h : a.statement = .error fault)
    (hserver : fault.isServerError = true) (hrequest : a.request = r) (hr : r.prepares = true) :
    a.Explains fault := by
  unfold Explains statementError?
  rw [hrequest, hr]
  refine serverError?_of_payload ?_ hserver
  unfold Attempt.statement at h
  cases hpayload : a.payload PrepareResult with
  | error cause =>
    rw [hpayload] at h
    cases h
    rfl
  | ok result =>
    rw [hpayload] at h
    cases h

/-- What fails with an error of the server was sent. -/
theorem Explains.isSent (h : a.Explains fault) : a.isSent = true := by
  obtain ⟨request, answer⟩ := a
  cases answer with
  | unwritten _ | unread _ | message _ => rfl
  | cancelled | closed =>
    obtain hfails | ⟨report, hreport, -⟩ := h
    · cases hfails
    · unfold statementError? serverError? at hreport
      split at hreport <;> cases hreport

end Attempt

theorem Fault.isServerError_withSql (fault : Fault) (sql : String) :
    (fault.withSql sql).isServerError = fault.isServerError := by
  cases fault <;> rfl

/-! ## The last command -/

/-- In a talk this is the last command of a statement, and these attempts come before it. -/
structure LastCommand (talk before : List Attempt) (a : Attempt) : Prop where
  isOfStatement : a.request.isOfStatement = true
  last : ∃ after, talk = before ++ a :: after ∧ ∀ b ∈ after, b.request.isOfStatement = false

section LastCommand

variable {talk before : List Attempt} {a : Attempt}

theorem LastCommand.single {r : Request} (hrequest : a.request = r)
    (hr : r.isOfStatement = true) : LastCommand [a] [] a :=
  ⟨hrequest ▸ hr, [], rfl, fun _ hb => nomatch hb⟩

theorem LastCommand.after_more (h : LastCommand talk before a) (more : List Attempt) :
    LastCommand (more ++ talk) (more ++ before) a := by
  obtain ⟨after, rfl, hafter⟩ := h.last
  exact ⟨h.isOfStatement, after, (List.append_assoc more before _).symm, hafter⟩

theorem LastCommand.before_more (h : LastCommand talk before a) {more : List Attempt}
    (hmore : ∀ b ∈ more, b.request.isOfStatement = false) :
    LastCommand (talk ++ more) before a := by
  obtain ⟨after, rfl, hafter⟩ := h.last
  refine ⟨h.isOfStatement, after ++ more, ?_, fun b hb => ?_⟩
  · rw [List.append_assoc, List.cons_append]
  · rcases List.mem_append.1 hb with hb | hb
    · exact hafter b hb
    · exact hmore b hb

/-- If the last command was sent, all that comes before it was sent as well. -/
theorem LastCommand.filter_isSent [Transport σ] {l m : Line σ} (h : LastCommand talk before a)
    (htalk : Talk l talk m) (hsent : a.isSent = true) :
    LastCommand (talk.filter Attempt.isSent) before a := by
  obtain ⟨after, rfl, hafter⟩ := h.last
  obtain ⟨k, hbefore, hrest⟩ := htalk.split
  -- Over a silent line the command would have been refused, like all that comes after it.
  have hspeaks : ¬k.IsSilent := by
    intro hsilent
    have hrefused := (hrest.of_silent hsilent).2 a List.mem_cons_self
    rw [hrefused.1] at hsent
    cases hsent
  obtain ⟨hlive, hopen⟩ := not_or.1 hspeaks
  rw [Bool.not_eq_true] at hlive
  rw [Bool.not_eq_false, hbefore.isOpen] at hopen
  have hall := hbefore.isSent hopen hlive
  refine ⟨h.isOfStatement, after.filter Attempt.isSent, ?_, fun b hb => ?_⟩
  · rw [List.filter_append, List.filter_eq_self.2 hall, List.filter_cons_of_pos hsent]
  · exact hafter b (List.mem_filter.1 hb).1

end LastCommand

/-! ## Faults of a statement -/

/-- This command is the first one, and prepares its statement. -/
def isFirstPreparation (before : List Attempt) (a : Attempt) : Bool :=
  before.isEmpty && a.request.prepares

theorem isFirstPreparation_of_request (before : List Attempt) {a : Attempt} {r : Request}
    (hrequest : a.request = r) (hr : r.prepares = false) :
    isFirstPreparation before a = false := by
  rw [isFirstPreparation, hrequest, hr, Bool.and_false]

theorem isFirstPreparation_append (more : List Attempt) {before : List Attempt} {a : Attempt}
    (h : isFirstPreparation before a = false) : isFirstPreparation (more ++ before) a = false := by
  cases more with
  | nil => exact h
  | cons _ _ => rfl

/--
A fault goes back to the last command of a talk, and was given the name of the statement unless
that command is the first preparation.
-/
def GoesBack (sql : String) (talk : List Attempt) (fault : Fault) : Prop :=
  ∃ before a cause, LastCommand talk before a ∧ a.Explains cause ∧
    fault = if isFirstPreparation before a then cause else cause.withSql sql

section Grammar

variable {caching : Bool} {cache cache' : StatementCache} {key : StatementKey} {data : Cells}
  {types : Option (List DataType)} {options : StatementOptions} {s : PreparedStatement}
  {t : List Attempt} {fault : Fault}

theorem Provided.explains (h : Provided caching cache key t cache' (.error fault))
    (hserver : fault.isServerError = true) :
    ∃ a, t = [a] ∧ a.request = key.creation ∧ a.Explains fault := by
  cases h with
  | @refused a _ _ hrequest hstatement =>
    exact ⟨a, rfl, hrequest, Attempt.explains_of_statement hstatement hserver hrequest rfl⟩

theorem Executed.explains (h : Executed s data types t (.error fault))
    (hserver : fault.isServerError = true) :
    ∃ a columns, t = [a] ∧ a.request = s.execution columns data ∧ a.Explains fault := by
  generalize hresult : (Except.error fault : Except Fault ExecuteResult) = result at h
  cases h with
  | unfit _ =>
    cases hresult
    cases hserver
  | @sent columns a _ hrequest =>
    exact ⟨a, columns, rfl, hrequest,
      Attempt.explains_of_payload hresult.symm hserver hrequest rfl⟩

/-- A handle is refused in answer to an execution. -/
theorem Executed.ne_nil_of_isStale {result : Except Fault ExecuteResult}
    (h : Executed s data types t result) (hstale : IsStale result) : t ≠ [] := by
  cases h with
  | unfit _ =>
    rw [isStale_error] at hstale
    cases hstale
  | sent _ _ => exact List.cons_ne_nil _ _

/-- A statement that fails once it was prepared does not fail for its first preparation. -/
theorem Tried.explains {handle : Option Int64}
    (h : Tried caching cache key data types s t cache' handle (.error fault))
    (hserver : fault.isServerError = true) :
    ∃ before a, LastCommand t before a ∧ a.Explains fault ∧
      isFirstPreparation before a = false := by
  cases h with
  | settled hexecuted _ =>
    obtain ⟨a, columns, rfl, hrequest, hexplains⟩ := hexecuted.explains hserver
    exact ⟨[], a, .single hrequest rfl, hexplains, isFirstPreparation_of_request _ hrequest rfl⟩
  | @lost t₁ _ _ _ _ hexecuted hstale hagain =>
    obtain ⟨a, rfl, hrequest, hexplains⟩ := hagain.explains hserver
    have hlast : LastCommand [a] [] a := .single hrequest rfl
    -- It is prepared a second time, since the handle of the first time was executed and refused.
    have hne := hexecuted.ne_nil_of_isStale hstale
    refine ⟨t₁ ++ [], a, hlast.after_more t₁, hexplains, ?_⟩
    rw [isFirstPreparation, List.append_nil, List.isEmpty_eq_false_iff.2 hne]
    rfl
  | @renewed t₁ t₂ _ _ _ _ _ _ _ _ hexecuted' =>
    obtain ⟨a, columns, rfl, hrequest, hexplains⟩ := hexecuted'.explains hserver
    have hlast : LastCommand [a] [] a := .single hrequest rfl
    exact ⟨t₁ ++ (t₂ ++ []), a, (hlast.after_more t₂).after_more t₁, hexplains,
      isFirstPreparation_of_request _ hrequest rfl⟩

theorem PreparedRun.goesBack (h : PreparedRun caching cache key data types t cache' (.error fault))
    (hserver : fault.isServerError = true) : GoesBack key.sql t fault := by
  generalize hresult : (Except.error fault : Except Fault ExecuteResult) = result at h
  cases h with
  | unprepared hprovided =>
    cases hresult
    obtain ⟨a, rfl, hrequest, hexplains⟩ := hprovided.explains hserver
    refine ⟨[], a, fault, .single hrequest rfl, hexplains, ?_⟩
    rw [isFirstPreparation, hrequest]
    rfl
  | @prepared t₁ _ t₃ _ _ _ _ tried _ htried hdisposed =>
    cases tried with
    | ok _ => cases hresult
    | error cause =>
      cases hresult
      rw [Fault.isServerError_withSql] at hserver
      obtain ⟨before, a, hlast, hexplains, hfirst⟩ := htried.explains hserver
      have hclose : ∀ b ∈ t₃, b.request.isOfStatement = false := by
        cases hdisposed with
        | kept _ | nothing => exact fun _ hb => nomatch hb
        | closed _ hrequest => simp [hrequest, Request.isOfStatement]
      refine ⟨t₁ ++ before, a, cause, (hlast.before_more hclose).after_more t₁, hexplains, ?_⟩
      rw [isFirstPreparation_append t₁ hfirst]
      rfl

/-- An error of the server goes back to the last command of the statement. -/
theorem Performed.goesBack (h : Performed caching cache key options t cache' (.error fault))
    (hserver : fault.isServerError = true) : GoesBack key.sql t fault := by
  generalize hresult : (Except.error fault : Except Fault ExecuteResult) = result at h
  cases h with
  | misshapen _ =>
    cases hresult
    cases hserver
  | @directly a _ hrequest =>
    cases hpayload : a.payload ExecuteResult with
    | ok _ =>
      rw [hpayload] at hresult
      cases hresult
    | error cause =>
      rw [hpayload] at hresult
      cases hresult
      rw [Fault.isServerError_withSql] at hserver
      refine ⟨[], a, cause, .single hrequest rfl,
        Attempt.explains_of_payload hpayload hserver hrequest rfl, ?_⟩
      rw [isFirstPreparation_of_request _ hrequest rfl]
      rfl
  | prepared _ hrun =>
    cases hresult
    exact hrun.goesBack hserver

end Grammar

/-! ## Operations -/

/--
An error of the server is the report on the last command of a statement in a talk, and it names
the statement unless that command is the first preparation. Only the transport may fail in other
words.
-/
def ReportsLast (sql : String) (talk : List Attempt) (q : QueryFault) : Prop :=
  ∃ before a, LastCommand talk before a ∧
    (a.failsAsServer = true ∨ ∃ report, a.statementError? = some report ∧
      q = { QueryFault.ofServer report.text report.sqlCode with
        sql := if isFirstPreparation before a then none else some sql })

/-- If an operation fails with an error of the server, then because its statement does. -/
def FailsAs (P : Grammar ExecuteResult) : Grammar α := fun talk cache result =>
  ∀ fault, result = .error fault → fault.isServerError = true →
    ∃ cause : Fault, cause.root = fault.root ∧ P talk cache (.error cause)

section Operations

variable {talk : List Attempt} {cache : StatementCache} {sql : String} {fault : Fault}
  {q : QueryFault} {P : Grammar ExecuteResult}

theorem FailsAs.of_statement {β : Type} (h : P talk cache (.error fault)) :
    FailsAs P talk cache (.error fault : Except Fault β) := by
  rintro _ ⟨⟩ _
  exact ⟨fault, rfl, h⟩

theorem FailsAs.of_ok (a : α) : FailsAs P talk cache (.ok a) := fun _ hfault => nomatch hfault

/-- It does not matter what a failed operation would have returned. -/
theorem FailsAs.of_error {β : Type} (h : FailsAs P talk cache (.error fault : Except Fault α)) :
    FailsAs P talk cache (.error fault : Except Fault β) := by
  rintro _ ⟨⟩ hserver
  exact h fault rfl hserver

/-- The name of the operation changes nothing about what has failed. -/
theorem FailsAs.within {result : Except Fault α} (h : FailsAs P talk cache result)
    (operation : String) : FailsAs P talk cache (result.mapError (.context operation)) := by
  cases result with
  | ok a => exact .of_ok a
  | error inner =>
    rintro _ ⟨⟩ hserver
    exact h inner rfl hserver

/-- What a query makes of a result is no error of the server. -/
theorem FailsAs.of_query {performed : Except Fault ExecuteResult} (h : P talk cache performed)
    (size : UInt64) : FailsAs P talk cache
      ((performed.bind (Connection.opening size)).mapError (.context "Unable to query")) := by
  refine FailsAs.within ?_ _
  cases performed with
  | error fault => exact .of_statement h
  | ok result =>
    change FailsAs P talk cache (Connection.opening size result)
    unfold Connection.opening
    cases Connection.soleResultSet result with
    | error cause =>
      rintro _ ⟨⟩ hserver
      cases hserver
    | ok rows => exact .of_ok _

variable [Transport σ] {c d : Connection σ}

namespace Connection

theorem execute_failsAs (sql : String) (options : StatementOptions) (c : Connection σ) :
    (execute sql options).Follows c (FailsAs
      (Performed c.config.cacheStatements c.statements ⟨options.schema, sql⟩ options)) := by
  refine .mapFault _ (runForCount_follows sql options c) fun talk cache result hcounted => ?_
  refine FailsAs.within ?_ _
  cases hcounted with
  | failed hperformed => exact .of_statement hperformed
  | counted _ _ | released _ _ _ => exact .of_ok _

theorem query_failsAs (sql : String) (options : StatementOptions) (c : Connection σ) :
    (query sql options).Follows c (FailsAs
      (Performed c.config.cacheStatements c.statements ⟨options.schema, sql⟩ options)) := by
  refine .mono (query_runs sql options c) ?_
  rintro talk cache _ ⟨performed, hperformed, rfl⟩
  exact FailsAs.of_query hperformed _

end Connection

/-- How an operation fails, and what it has said before. -/
theorem Action.Follows.ending {action : Action σ α} {P : Grammar α} (h : action.Follows c P)
    (hfails : (Quiet.on action.ending c).1 = some fault) :
    ∃ talk cache, P talk cache (.error fault) ∧
      Leads c talk cache (Quiet.on action.ending c).2 := by
  obtain ⟨talk, cache, result, hP, hyields⟩ := h.attempt Connection.fault?
  have hresult : Connection.fault? result = some fault := hyields.returns.symm.trans hfails
  cases result with
  | ok _ => cases hresult
  | error _ =>
    cases hresult
    exact ⟨talk, cache, hP, hyields.leads⟩

/-- What goes back to a command of a talk is found in the exchanges. -/
theorem GoesBack.reportsLast (h : GoesBack sql talk fault) (hroot : fault.root = .query q)
    (hleads : Leads c talk cache d) : ReportsLast sql (talk.filter Attempt.isSent) q := by
  obtain ⟨before, a, cause, hlast, hexplains, rfl⟩ := h
  refine ⟨before, a, hlast.filter_isSent hleads.line hexplains.isSent, ?_⟩
  refine hexplains.imp_right fun ⟨report, hreport, hcause⟩ => ⟨report, hreport, ?_⟩
  subst hcause
  cases hfirst : isFirstPreparation before a with
  | true | false =>
    rw [hfirst] at hroot
    cases hroot
    rfl

theorem Action.Follows.reportsLast {action : Action σ α} {options : StatementOptions}
    (h : action.Follows c (FailsAs
      (Performed c.config.cacheStatements c.statements ⟨options.schema, sql⟩ options)))
    (hfails : (Quiet.on action.ending c).1 = some fault) (hroot : fault.root = .query q) :
    ReportsLast sql (Event.exchanges
      ((Quiet.on action.ending c).2.journal.toList.drop c.journal.size)) q := by
  obtain ⟨talk, cache, hback, hleads⟩ := h.ending hfails
  have hserver := Fault.isServerError_of_root hroot
  obtain ⟨cause, hcause, hperformed⟩ := hback fault rfl hserver
  have hgoes := hperformed.goesBack ((Fault.agrees_of_root hcause).isServerError.trans hserver)
  rw [hleads.exchanges]
  exact hgoes.reportsLast (hcause.trans hroot) hleads

theorem Client.connection_call (x : Client σ) (op : Operation) :
    (x.step (.call op)).connection = (Quiet.on op.ending x.connection).2 :=
  (op.on_ending x.connection).symm

/--
Whatever the server answers and whatever is cached: when the execution of a statement or a query
fails with an error of the server, this is the report on the last command of the statement. It
names the statement, in the words of the caller, unless that command is the first one and
prepares the statement; then it names none.
-/
theorem statement_named (x : Client σ) (sql : String) (options : StatementOptions)
    (op : Operation) (hop : op = .execute sql options ∨ op = .query sql options)
    (fault : Fault) (q : QueryFault) (hfails : (Quiet.on op.ending x.connection).1 = some fault)
    (hroot : fault.root = .query q) : ReportsLast sql (x.talk (.call op)) q := by
  unfold Client.talk
  rw [x.connection_call]
  obtain rfl | rfl := hop
  · exact (Connection.execute_failsAs sql options x.connection).reportsLast hfails hroot
  · exact (Connection.query_failsAs sql options x.connection).reportsLast hfails hroot

end Operations

open Connection (rehearsed preparedReply oneBind)
open Rehearsal

/-- A reply that reports an error with its code. -/
def codedFailure (text sqlCode : String) : Json :=
  .obj [("status", .str "error"),
    ("exception", .obj [("text", .str text), ("sqlCode", .str sqlCode)])]

/-- The server prepares the statement, but the values violate a constraint. -/
def constrained : Connection Server :=
  rehearsed [
    ("createPreparedStatement", [⟨.reply (preparedReply 1), false⟩]),
    ("executePreparedStatement", [⟨.reply (codedFailure "constraint violation" "23000"), false⟩])]

theorem statement_named_constrained :
    ∃ fault q, (Quiet.on (Operation.execute "INSERT" oneBind).ending constrained).1 = some fault ∧
      fault.root = .query q ∧
      ReportsLast "INSERT" (Client.talk { connection := constrained }
        (.call (.execute "INSERT" oneBind))) q :=
  ⟨_, _, rfl, rfl, statement_named { connection := constrained } "INSERT" oneBind _ (.inl rfl) _ _
    rfl rfl⟩

/-- The server refuses to prepare the statement. -/
def unpreparable : Connection Server :=
  rehearsed [
    ("createPreparedStatement", [⟨.reply (codedFailure "object T not found" "42000"), false⟩])]

/--
The error with which a statement fails need not name it: the server refuses to prepare the
statement, which is its only command, and nothing in the error tells which one that was.
-/
theorem statement_unnamed :
    ∃ fault q a report,
      (Quiet.on (Operation.execute "INSERT INTO t VALUES (?)" oneBind).ending unpreparable).1 =
        some fault ∧
      fault.root = .query q ∧
      Client.talk { connection := unpreparable }
        (.call (.execute "INSERT INTO t VALUES (?)" oneBind)) = [a] ∧
      a.request = .prepare "INSERT INTO t VALUES (?)" none ∧
      a.statementError? = some report ∧ q.message = report.text ∧
      q.sql ≠ some "INSERT INTO t VALUES (?)" :=
  ⟨_, _, _, ⟨"object T not found", some "42000"⟩, rfl, rfl, rfl, rfl, by decide +kernel, rfl,
    by decide⟩

end ExasolClient
