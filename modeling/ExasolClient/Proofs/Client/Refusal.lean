-- SUMMARY: How every operation ends on a connection over which nothing is sent any more.
import ExasolClient.Proofs.Client.Silence

/-!
# Refused operations

An operation that meets with silence says nothing, and so it fails. The values to bind are
looked at before anything is sent, so they are complained of even then: if they are no matrix,
or if the statement is in the cache and they do not fit it (`StatementOptions.misfit?`).
Anything else fails with the refusal of the line. Main statement: an operation on a silent
connection fails for one of these reasons and leaves nothing behind but notices
(`Operation.refused`).
-/

namespace ExasolClient

/-! ## Values that do not fit -/

/-- Why values do not fit the parameters of a prepared statement. -/
def PreparedStatement.misfit? (s : PreparedStatement) (data : Cells)
    (types : Option (List DataType)) : Option ArgumentFault :=
  match Connection.checkBinds s data types with
  | .error cause => some cause
  | .ok _ => none

/-- Why a statement cannot be executed with its values, as far as the client can tell. -/
def StatementOptions.misfit? (options : StatementOptions) (cache : StatementCache)
    (key : StatementKey) : Option ArgumentFault :=
  match options.bindings with
  | .error cause => some cause
  | .ok none => none
  | .ok (some data) => (cache.find? key).bind (·.misfit? data options.columnTypes)

/-- The complaint about the values to bind, or else the refusal of the line. -/
def complaint (misfit? : Option ArgumentFault) (refusal : Fault) : Fault :=
  misfit?.elim refusal .argument

/-! ## Statements -/

section Statements

variable {l : Line σ} {caching : Bool} {cache cache' : StatementCache} {key : StatementKey}
  {data : Cells} {types : Option (List DataType)} {options : StatementOptions}
  {s : PreparedStatement} {talk : List Attempt}

theorem Attempt.IsRefused.statement {a : Attempt} {fault : Fault} (h : a.IsRefused fault) :
    a.statement = .error fault := by
  unfold Attempt.statement
  rw [h.payload PrepareResult]
  rfl

theorem Line.withSql_complaint (l : Line σ) (misfit? : Option ArgumentFault) (sql : String) :
    (complaint misfit? l.refusal).withSql sql = complaint misfit? l.refusal := by
  cases misfit? with
  | none => exact l.withSql_refusal sql
  | some cause => rfl

theorem Line.root_complaint (l : Line σ) (misfit? : Option ArgumentFault) :
    (complaint misfit? l.refusal).root = complaint misfit? l.refusal := by
  cases misfit? with
  | none => exact l.root_refusal
  | some cause => rfl

/-- In silence a prepared statement is found in the cache or not at all. -/
theorem Provided.in_silence {result : Except Fault PreparedStatement}
    (h : Provided caching cache key talk cache' result)
    (hrefused : ∀ a ∈ talk, a.IsRefused l.refusal) :
    cache' = cache ∧ result = (cache.find? key).elim (.error l.refusal) .ok := by
  cases h with
  | found hfind =>
    rw [hfind]
    exact ⟨rfl, rfl⟩
  | refused hfind _ hstatement =>
    rw [hfind, ← hstatement]
    exact ⟨rfl, (hrefused _ List.mem_cons_self).statement⟩
  | created _ _ hstatement =>
    rw [(hrefused _ List.mem_cons_self).statement] at hstatement
    cases hstatement

theorem Executed.in_silence {result : Except Fault ExecuteResult}
    (h : Executed s data types talk result) (hrefused : ∀ a ∈ talk, a.IsRefused l.refusal) :
    result = .error (complaint (s.misfit? data types) l.refusal) := by
  unfold PreparedStatement.misfit?
  cases h with
  | unfit hbinds =>
    rw [hbinds]
    rfl
  | sent hbinds _ =>
    rw [hbinds]
    exact (hrefused _ List.mem_cons_self).payload ExecuteResult

/-- What is refused in silence is not refused by the server. -/
theorem Executed.not_isStale {result : Except Fault ExecuteResult}
    (h : Executed s data types talk result) (hrefused : ∀ a ∈ talk, a.IsRefused l.refusal) :
    ¬IsStale result := by
  rw [h.in_silence hrefused]
  rintro ⟨fault, herror, hstale⟩
  cases herror
  cases hmisfit : s.misfit? data types with
  | none =>
    rw [hmisfit] at hstale
    exact Bool.false_ne_true (l.not_isStale_refusal.symm.trans hstale)
  | some cause =>
    rw [hmisfit] at hstale
    cases hstale

theorem Tried.in_silence {handle : Option Int64} {result : Except Fault ExecuteResult}
    (h : Tried caching cache key data types s talk cache' handle result)
    (hrefused : ∀ a ∈ talk, a.IsRefused l.refusal) :
    cache' = cache ∧ result = .error (complaint (s.misfit? data types) l.refusal) := by
  cases h with
  | settled hexecuted _ => exact ⟨rfl, hexecuted.in_silence hrefused⟩
  | lost hexecuted hstale _ | renewed hexecuted hstale _ _ =>
    exact absurd hstale (hexecuted.not_isStale fun a ha => hrefused a (List.mem_append_left _ ha))

theorem PreparedRun.in_silence {result : Except Fault ExecuteResult}
    (h : PreparedRun caching cache key data types talk cache' result)
    (hrefused : ∀ a ∈ talk, a.IsRefused l.refusal) :
    cache' = cache ∧
      result = .error (complaint ((cache.find? key).bind (·.misfit? data types)) l.refusal) := by
  cases h with
  | unprepared hprovided =>
    obtain ⟨hcache, hresult⟩ := hprovided.in_silence hrefused
    cases hfind : cache.find? key with
    | none =>
      rw [hfind] at hresult
      cases hresult
      exact ⟨hcache, rfl⟩
    | some s =>
      rw [hfind] at hresult
      cases hresult
  | prepared hprovided htried _ =>
    obtain ⟨rfl, hs⟩ := hprovided.in_silence fun a ha => hrefused a (List.mem_append_left _ ha)
    obtain ⟨rfl, rfl⟩ := htried.in_silence fun a ha =>
      hrefused a (List.mem_append_right _ (List.mem_append_left _ ha))
    cases hfind : StatementCache.find? _ key with
    | none =>
      rw [hfind] at hs
      cases hs
    | some s =>
      rw [hfind] at hs
      cases hs
      exact ⟨rfl, congrArg Except.error (l.withSql_complaint _ key.sql)⟩

/-- In silence a statement is not executed, and the cache stays as it is. -/
theorem Performed.in_silence {result : Except Fault ExecuteResult}
    (h : Performed caching cache key options talk cache' result)
    (hrefused : ∀ a ∈ talk, a.IsRefused l.refusal) :
    cache' = cache ∧ result = .error (complaint (options.misfit? cache key) l.refusal) := by
  unfold StatementOptions.misfit?
  cases h with
  | misshapen hbindings =>
    rw [hbindings]
    exact ⟨rfl, rfl⟩
  | directly hbindings _ =>
    rw [hbindings, (hrefused _ List.mem_cons_self).payload ExecuteResult]
    exact ⟨rfl, congrArg Except.error (l.withSql_refusal key.sql)⟩
  | prepared hbindings hrun =>
    rw [hbindings]
    exact hrun.in_silence hrefused

theorem Counted.in_silence {result : Except Fault Int64}
    (h : Counted caching cache key options talk cache' result)
    (hrefused : ∀ a ∈ talk, a.IsRefused l.refusal) :
    cache' = cache ∧ result = .error (complaint (options.misfit? cache key) l.refusal) := by
  cases h with
  | failed hperformed =>
    obtain ⟨hcache, hfault⟩ := hperformed.in_silence hrefused
    cases hfault
    exact ⟨hcache, rfl⟩
  | counted hperformed _ => cases (hperformed.in_silence hrefused).2
  | released hperformed _ _ =>
    cases (hperformed.in_silence fun a ha => hrefused a (List.mem_append_left _ ha)).2

end Statements

/-! ## Operations that fail -/

/-- An operation fails on a connection, and leaves nothing behind but notices. -/
structure Action.Fails (action : Action σ α) (c : Connection σ) (fault : Fault) : Prop where
  returns : (action.on c).1 = .error fault
  undisturbed : c.Undisturbed (action.on c).2

section Rules

variable [Transport σ] {c : Connection σ} {fault : Fault}

namespace Action.Fails

omit [Transport σ] in
/-- Nothing is done after an operation that fails. -/
theorem bind {x : Action σ α} (h : x.Fails c fault) (f : α → Action σ β) :
    (x >>= f).Fails c fault := by
  constructor
  · rw [on_bind_error h.returns]
  · rw [on_bind_error h.returns]
    exact h.undisturbed

omit [Transport σ] in
theorem get {f : Connection σ → Action σ α} (h : (f c).Fails c fault) :
    (MonadState.get >>= f).Fails c fault :=
  ⟨h.returns, h.undisturbed⟩

omit [Transport σ] in
theorem within {x : Action σ α} (h : x.Fails c fault) (operation : String) :
    (Action.within operation x).Fails c (.context operation fault) := by
  constructor
  · rw [on_within, h.returns]
    rfl
  · exact h.undisturbed

omit [Transport σ] in
/-- A notice comes first. -/
theorem after_note {x : Action σ α} (notice : Notice)
    (h : ∀ d : Connection σ, c.Undisturbed d → x.Fails d fault) :
    (Connection.note notice >>= fun _ => x).Fails c fault := by
  have hnote := Connection.on_note notice c
  have hundisturbed : c.Undisturbed ((Connection.note notice).on c).2 := by
    refine ⟨rfl, ?_⟩
    rw [hnote]
    exact (congrArg Event.calls Array.toList_push).trans
      ((Event.calls_append _ _).trans (List.append_nil _))
  have hx := h _ hundisturbed
  constructor
  · rw [on_bind_ok (congrArg Prod.fst hnote)]
    exact hx.returns
  · rw [on_bind_ok (congrArg Prod.fst hnote)]
    exact hundisturbed.trans hx.undisturbed

/-- In silence an operation fails as its grammar says. -/
theorem of_follows {action : Action σ α} {P : Grammar α} (h : action.Follows c P)
    (hsilent : c.line.IsSilent)
    (hP : ∀ talk cache result, P talk cache result → (∀ a ∈ talk, a.IsRefused c.line.refusal) →
      cache = c.statements ∧ result = .error fault) : action.Fails c fault := by
  obtain ⟨talk, cache, result, hgrammar, hyields⟩ := h
  obtain ⟨hundisturbed, hrefused⟩ := hyields.leads.of_silent hsilent
  obtain ⟨rfl, rfl⟩ := hP talk cache result hgrammar hrefused
  exact ⟨hyields.returns, hundisturbed⟩

end Action.Fails

namespace Connection

theorem tell_fails {r : Request} (hr : r.Promises Unit) (hsilent : c.line.IsSilent) :
    (tell r).Fails c c.line.refusal := by
  have hyields := tell_yields r hr c
  obtain ⟨hundisturbed, hrefused⟩ := hyields.leads.of_silent hsilent
  refine ⟨hyields.returns.trans ?_, hundisturbed⟩
  rw [(hrefused _ List.mem_cons_self).reply Unit]
  rfl

theorem changeAutocommit_fails (enabled : Bool) (hsilent : c.line.IsSilent) :
    (changeAutocommit enabled).Fails c c.line.refusal := by
  refine .get (.after_note _ fun d hd => ?_)
  rw [← hd.line] at hsilent ⊢
  exact tell_fails rfl hsilent

theorem runForCount_fails (sql : String) (options : StatementOptions)
    (hsilent : c.line.IsSilent) : (runForCount sql options).Fails c
      (complaint (options.misfit? c.statements ⟨options.schema, sql⟩) c.line.refusal) :=
  .of_follows (runForCount_follows sql options c) hsilent fun _ _ _ h => h.in_silence

/-- A statement without values fails with the refusal, after a notice. -/
theorem runForEffect_fails (sql : String) (notice : Connection σ → Notice) (operation : String)
    (hsilent : c.line.IsSilent) : (Action.within operation (do
      note (notice (← get))
      let _ ← runForCount sql {})).Fails c (.context operation c.line.refusal) := by
  refine .within (.get (.after_note _ fun d hd => .bind ?_ _)) operation
  rw [← hd.line] at hsilent ⊢
  exact runForCount_fails sql {} hsilent

theorem query_fails (sql : String) (options : StatementOptions) (hsilent : c.line.IsSilent) :
    (query sql options).Fails c (.context "Unable to query"
      (complaint (options.misfit? c.statements ⟨options.schema, sql⟩) c.line.refusal)) := by
  refine .within (.bind ?_ _) _
  exact .of_follows (run_follows sql options c) hsilent fun _ _ _ h => h.in_silence

end Connection

end Rules

/-! ## Any operation -/

/-- How an operation ends: the fault with which it fails, if it does. -/
def Action.ending (action : Action σ α) : Quiet σ (Option Fault) := do
  return Connection.fault? (← action.attempt)

open Connection in
/-- Perform an operation, and tell how it ends. -/
def Operation.ending [Transport σ] : Operation → Quiet σ (Option Fault)
  | .getAttributes => refreshAttributes.ending
  | .setAttributes attributes => (changeAttributes attributes).ending
  | .enableAutocommit => Connection.enableAutocommit.ending
  | .disableAutocommit => Connection.disableAutocommit.ending
  | .setQueryTimeout timeout => (Connection.setQueryTimeout timeout).ending
  | .commit => Connection.commit.ending
  | .rollback => Connection.rollback.ending
  | .execute sql options => (Connection.execute sql options).ending
  | .query sql options => (Connection.query sql options).ending
  | .queryAll sql options => (Connection.queryAll sql options).ending
  | .disconnect => do
    Connection.disconnect
    return none
  | .cancel => do
    Connection.cancel
    return none

/-- Why an operation cannot be performed with its values, as far as the client can tell. -/
def Operation.misfit? (cache : StatementCache) : Operation → Option ArgumentFault
  | .execute sql options | .query sql options | .queryAll sql options =>
    options.misfit? cache ⟨options.schema, sql⟩
  | _ => none

section Operations

variable [Transport σ] {c : Connection σ}

/-- To tell how an operation ends changes nothing about what it does. -/
theorem Operation.on_ending (op : Operation) (c : Connection σ) :
    (Quiet.on op.ending c).2 = (Quiet.on op.perform c).2 := by
  cases op <;> rfl

omit [Transport σ] in
theorem Action.Fails.ending {action : Action σ α} {fault root : Fault}
    (h : action.Fails c fault) (hroot : fault.root = root) :
    ∃ fault, (Quiet.on action.ending c).1 = some fault ∧ fault.root = root ∧
      c.Undisturbed (Quiet.on action.ending c).2 := by
  refine ⟨fault, ?_, hroot, h.undisturbed⟩
  exact congrArg Connection.fault? h.returns

open Connection in
/--
On a connection over which nothing is sent any more, an operation fails with a complaint about
its values or else with the refusal, and leaves nothing behind but notices.
-/
theorem Operation.refused (op : Operation) (hsilent : c.line.IsSilent)
    (hend : op ≠ .disconnect) (hcancel : op ≠ .cancel) :
    ∃ fault, (Quiet.on op.ending c).1 = some fault ∧
      fault.root = complaint (op.misfit? c.statements) c.line.refusal ∧
      c.Undisturbed (Quiet.on op.ending c).2 := by
  have hroot := c.line.root_complaint (op.misfit? c.statements)
  have htell (r : Request) (hr : r.Promises Unit) (operation : String) :
      (Action.within operation (tell r)).Fails c (.context operation c.line.refusal) :=
    (tell_fails hr hsilent).within operation
  cases op with
  | getAttributes => exact Action.Fails.ending ((htell .getAttributes rfl _).bind _) hroot
  | setAttributes attributes =>
    exact Action.Fails.ending (htell (.setAttributes attributes) rfl _) hroot
  | setQueryTimeout timeout =>
    exact Action.Fails.ending (htell (.setAttributes _) rfl _) hroot
  | enableAutocommit =>
    exact Action.Fails.ending ((changeAutocommit_fails true hsilent).within _) hroot
  | disableAutocommit =>
    exact Action.Fails.ending ((changeAutocommit_fails false hsilent).within _) hroot
  | commit => exact Action.Fails.ending (runForEffect_fails "COMMIT" _ _ hsilent) hroot
  | rollback => exact Action.Fails.ending (runForEffect_fails "ROLLBACK" _ _ hsilent) hroot
  | execute sql options =>
    exact Action.Fails.ending ((runForCount_fails sql options hsilent).within _) hroot
  | query sql options => exact Action.Fails.ending (query_fails sql options hsilent) hroot
  | queryAll sql options =>
    exact Action.Fails.ending ((query_fails sql options hsilent).bind _) hroot
  | disconnect => exact absurd rfl hend
  | cancel => exact absurd rfl hcancel

end Operations

end ExasolClient
