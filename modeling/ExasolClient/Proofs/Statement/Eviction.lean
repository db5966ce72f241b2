-- SUMMARY: Which refused handles are still cached when an operation returns.
import ExasolClient.Proofs.Client.Unread
import ExasolClient.Proofs.Statement.Naming
import ExasolClient.Proofs.Statement.Provenance

/-!
# Eviction

A handle that the server has refused should not stay in the cache, where the next operation
finds it and is refused as well. The handle that is executed first leaves the cache when it is
refused. The one that takes its place enters the cache before it is executed, and it stays there
even if it is refused in its turn. Main statement: an operation with values to bind leaves all
other keys alone, and it leaves a dead handle under its own key if and only if two of them were
refused (`dead_iff_refused_twice`).
-/

namespace ExasolClient

/-! ## Dead handles -/

/--
The handle that is refused in answer to an attempt, when an execution is taken to be refused
as `refused` says.
-/
def Attempt.refused? (refused : Attempt → Bool) (a : Attempt) : Option Int64 :=
  if refused a then a.request.executed? else none

/-- The handles that are refused in a talk. -/
def refusals (refused : Attempt → Bool) (talk : List Attempt) : List Int64 :=
  talk.filterMap (Attempt.refused? refused)

/-- A handle was refused, and no answer since has told of it. -/
def IsDead (refused : Attempt → Bool) (handle : Int64) : List Attempt → Prop
  | [] => False
  | a :: rest =>
    a.refused? refused = some handle ∧ handle ∉ created rest ∨ IsDead refused handle rest

instance IsDead.decidable (refused : Attempt → Bool) (handle : Int64) :
    (talk : List Attempt) → Decidable (IsDead refused handle talk)
  | [] => .isFalse id
  | _ :: rest =>
    have := IsDead.decidable refused handle rest
    inferInstanceAs (Decidable (_ ∨ _))

section Dead

variable {refused : Attempt → Bool} {talk before after : List Attempt} {a : Attempt}
  {handle : Int64}

theorem Attempt.refused?_of_not_isSent (h : a.isSent = false) :
    a.refused? Attempt.isRefused = none := by
  obtain ⟨request, answer⟩ := a
  cases answer with
  | cancelled | closed => rfl
  | unwritten _ | unread _ | message _ => cases h

theorem Attempt.refused?_of_not_executed (h : a.request.executed? = none) :
    a.refused? refused = none := by
  simp [refused?, h]

@[simp]
theorem refusals_nil : refusals refused [] = [] := rfl

@[simp]
theorem refusals_cons (a : Attempt) (rest : List Attempt) :
    refusals refused (a :: rest) = (a.refused? refused).toList ++ refusals refused rest := by
  rw [refusals, List.filterMap_cons]
  cases a.refused? refused <;> rfl

@[simp]
theorem refusals_append :
    refusals refused (before ++ after) = refusals refused before ++ refusals refused after :=
  List.filterMap_append

/-- Where nothing prepared is executed, no handle is refused. -/
theorem refusals_of_unexecuted (h : ∀ a ∈ talk, a.request.executed? = none) :
    refusals refused talk = [] :=
  List.filterMap_eq_nil_iff.2 fun a ha => a.refused?_of_not_executed (h a ha)

theorem refusals_filter_isSent (talk : List Attempt) :
    refusals Attempt.isRefused (talk.filter Attempt.isSent) = refusals Attempt.isRefused talk :=
  Attempt.filterMap_filter_isSent (fun _ => Attempt.refused?_of_not_isSent) talk

theorem created_filter_isSent (talk : List Attempt) :
    created (talk.filter Attempt.isSent) = created talk :=
  Attempt.filterMap_filter_isSent (fun _ => Attempt.created?_of_not_isSent) talk

/-- A handle dies in the first part and is not told of in the second, or it dies there. -/
theorem isDead_append : IsDead refused handle (before ++ after) ↔
    IsDead refused handle before ∧ handle ∉ created after ∨ IsDead refused handle after := by
  induction before with
  | nil => simp [IsDead]
  | cons a rest ih =>
    simp only [List.cons_append, IsDead, ih, created_append, List.mem_append, not_or]
    grind

theorem IsDead.mem_refusals (h : IsDead refused handle talk) : handle ∈ refusals refused talk := by
  induction talk with
  | nil => cases h
  | cons a rest ih =>
    rw [refusals, List.mem_filterMap]
    obtain ⟨hrefused, -⟩ | hrest := h
    · exact ⟨a, List.mem_cons_self, hrefused⟩
    · obtain ⟨b, hb, hrefused⟩ := List.mem_filterMap.1 (ih hrest)
      exact ⟨b, List.mem_cons_of_mem a hb, hrefused⟩

theorem not_isDead_of_refusals (h : refusals refused talk = []) : ¬IsDead refused handle talk := by
  intro hdead
  have hmem := hdead.mem_refusals
  rw [h] at hmem
  cases hmem

/-- What was not sent neither kills a handle nor brings it back. -/
theorem isDead_filter_isSent (talk : List Attempt) :
    IsDead Attempt.isRefused handle (talk.filter Attempt.isSent) ↔
      IsDead Attempt.isRefused handle talk := by
  induction talk with
  | nil => exact Iff.rfl
  | cons a rest ih =>
    cases hsent : a.isSent with
    | true => simp [hsent, IsDead, ih, created_filter_isSent]
    | false => simp [hsent, IsDead, ih, Attempt.refused?_of_not_isSent]

end Dead

/-! ## What remains -/

/--
What remains of the entry for a key when its statement was executed: there is none any more,
or it holds a handle that is not dead, or it holds the second handle that was refused.
-/
inductive Remains (refused : Attempt → Bool) (talk : List Attempt)
    (result : Except Fault ExecuteResult) : Option PreparedStatement → Prop where
  | absent : (refusals refused talk).length ≠ 2 → Remains refused talk result none
  | alive {s : PreparedStatement} : (refusals refused talk).length ≠ 2 →
      ¬IsDead refused s.handle talk → ¬IsStale result → Remains refused talk result (some s)
  | dead {s : PreparedStatement} : (refusals refused talk).length = 2 →
      IsDead refused s.handle talk → Remains refused talk result (some s)

namespace Remains

variable {refused : Attempt → Bool} {talk before after : List Attempt}
  {result result' : Except Fault ExecuteResult} {entry : Option PreparedStatement}

theorem dead_iff (h : Remains refused talk result entry) :
    (∃ s, entry = some s ∧ IsDead refused s.handle talk) ↔ (refusals refused talk).length = 2 := by
  cases h with
  | absent hrefusals => simp [hrefusals]
  | alive hrefusals halive _ => simp [hrefusals, halive]
  | dead hrefusals hdead => simp [hrefusals, hdead]

/-- Behind a statement that fails for a refused handle, only a dead one remains. -/
theorem isSome_iff (h : Remains refused talk result entry) (hstale : IsStale result) :
    entry.isSome = true ↔ (refusals refused talk).length = 2 := by
  cases h with
  | absent hrefusals => simp [hrefusals]
  | alive _ _ hfresh => exact absurd hstale hfresh
  | dead hrefusals _ => simp [hrefusals]

/-- An entry that was not touched remains as it is, if nothing was refused. -/
theorem of_unrefused (h : refusals refused talk = []) (hfresh : ¬IsStale result)
    (entry : Option PreparedStatement) : Remains refused talk result entry := by
  have hrefusals : (refusals refused talk).length ≠ 2 := by simp [h]
  cases entry with
  | none => exact .absent hrefusals
  | some s => exact .alive hrefusals (not_isDead_of_refusals h) hfresh

theorem of_result (h : Remains refused talk result entry)
    (hstale : IsStale result' → IsStale result) : Remains refused talk result' entry := by
  cases h with
  | absent hrefusals => exact .absent hrefusals
  | alive hrefusals halive hfresh => exact .alive hrefusals halive fun h => hfresh (hstale h)
  | dead hrefusals hdead => exact .dead hrefusals hdead

/-- It only matters which handles were refused, and which of them are dead. -/
theorem of_talk {talk' : List Attempt} (h : Remains refused talk result entry)
    (hrefusals : refusals refused talk' = refusals refused talk)
    (hdead : ∀ handle, IsDead refused handle talk' ↔ IsDead refused handle talk) :
    Remains refused talk' result entry := by
  cases h with
  | absent hlength => exact .absent (hrefusals ▸ hlength)
  | alive hlength halive hfresh =>
    exact .alive (hrefusals ▸ hlength) (fun h => halive ((hdead _).1 h)) hfresh
  | dead hlength h => exact .dead (hrefusals ▸ hlength) ((hdead _).2 h)

/-- Neither what comes before the first execution matters, nor what is idle. -/
theorem append (h : Remains refused talk result entry)
    (hbefore : ∀ a ∈ before, a.request.executed? = none) (hafter : ∀ a ∈ after, a.IsIdle) :
    Remains refused (before ++ (talk ++ after)) result entry := by
  have hnone : refusals refused before = [] := refusals_of_unexecuted hbefore
  have hidle : refusals refused after = [] :=
    refusals_of_unexecuted fun a ha => (hafter a ha).executed
  refine h.of_talk (by simp [hnone, hidle]) fun handle => ?_
  simp [isDead_append, not_isDead_of_refusals hnone, not_isDead_of_refusals hidle,
    created_of_idle hafter]

theorem filter_isSent (h : Remains Attempt.isRefused talk result entry) :
    Remains Attempt.isRefused (talk.filter Attempt.isSent) result entry :=
  h.of_talk (refusals_filter_isSent talk) fun _ => isDead_filter_isSent talk

end Remains

/-! ## The steps of a statement -/

section Steps

variable {cache cache' : StatementCache} {key other : StatementKey} {data : Cells}
  {types : Option (List DataType)} {options : StatementOptions} {s : PreparedStatement}
  {t : List Attempt} {result : Except Fault ExecuteResult}

theorem Provided.find?_of_ne {r : Except Fault PreparedStatement}
    (h : Provided true cache key t cache' r) (hne : other ≠ key) :
    cache'.find? other = cache.find? other := by
  cases h with
  | found _ | refused _ _ _ => rfl
  | created _ _ _ => exact StatementCache.find?_insert_of_ne cache hne _

/-- A statement that cannot be provided is not in the cache. -/
theorem Provided.find?_of_error {fault : Fault}
    (h : Provided true cache key t cache' (.error fault)) : cache'.find? key = none := by
  cases h with
  | refused hfind _ _ => exact hfind

/-- The execution that makes a result stale is the one that is refused. -/
theorem Executed.refusals_eq (h : Executed s data types t result) :
    (IsStale result ∧ ∃ a, t = [a] ∧ a.refused? Attempt.isRefused = some s.handle) ∨
      (¬IsStale result ∧ refusals Attempt.isRefused t = []) := by
  cases h with
  | unfit _ => exact .inr ⟨fun hstale => Bool.noConfusion ((isStale_error _).1 hstale), rfl⟩
  | @sent columns a _ hrequest =>
    have hexecuted : a.request.executed? = some s.handle := by
      simp [Request.executed?, hrequest, PreparedStatement.execution]
    rw [a.isStale_payload]
    cases hrefused : a.isRefused with
    | true => exact .inl ⟨rfl, a, rfl, by simp [Attempt.refused?, hrefused, hexecuted]⟩
    | false => exact .inr ⟨Bool.false_ne_true, by simp [refusals, Attempt.refused?, hrefused]⟩

theorem Executed.refused (h : Executed s data types t result) (hstale : IsStale result) :
    ∃ a, t = [a] ∧ a.refused? Attempt.isRefused = some s.handle :=
  h.refusals_eq.elim And.right fun hfresh => absurd hstale hfresh.1

theorem Executed.unrefused (h : Executed s data types t result) (hfresh : ¬IsStale result) :
    refusals Attempt.isRefused t = [] :=
  h.refusals_eq.elim (fun hstale => absurd hstale.1 hfresh) And.right

theorem Tried.find?_of_ne {handle : Option Int64}
    (h : Tried true cache key data types s t cache' handle result) (hne : other ≠ key) :
    cache'.find? other = cache.find? other := by
  cases h with
  | settled _ _ => rfl
  | lost _ _ hagain | renewed _ _ hagain _ =>
    exact (hagain.find?_of_ne hne).trans (StatementCache.find?_erase_of_ne cache hne)

theorem Tried.remains {handle : Option Int64}
    (h : Tried true cache key data types s t cache' handle result) :
    Remains Attempt.isRefused t result (cache'.find? key) := by
  cases h with
  | settled hexecuted hfresh => exact .of_unrefused (hexecuted.unrefused hfresh) hfresh _
  | @lost t₁ t₂ _ _ _ hexecuted hstale hagain =>
    obtain ⟨a, rfl, hrefused⟩ := hexecuted.refused hstale
    have hagain' : refusals Attempt.isRefused t₂ = [] := refusals_of_unexecuted hagain.executed
    rw [hagain.find?_of_error]
    exact .absent (by simp [hagain', hrefused])
  | @renewed t₁ t₂ t₃ _ fresh _ _ hexecuted hstale hagain hexecuted' =>
    obtain ⟨a, rfl, hrefused⟩ := hexecuted.refused hstale
    have hagain' : refusals Attempt.isRefused t₂ = [] := refusals_of_unexecuted hagain.executed
    have hcreated : created t₂ = [fresh.handle] :=
      hagain.created_eq (StatementCache.find?_erase_self cache key)
    rw [hagain.find?]
    by_cases hstale' : IsStale result
    · -- The second handle is refused after it was created, and stays in the cache.
      obtain ⟨b, rfl, hrefused'⟩ := hexecuted'.refused hstale'
      refine .dead ?_ ?_
      · simp [hagain', hrefused, hrefused']
      · simp [isDead_append, IsDead, hrefused', created]
    · have hfinal := hexecuted'.unrefused hstale'
      refine .alive ?_ ?_ hstale'
      · simp [hagain', hfinal, hrefused]
      · simp [IsDead, isDead_append, created_append, hcreated, not_isDead_of_refusals hagain',
          not_isDead_of_refusals hfinal]

@[simp]
theorem Fault.isStaleHandle_withSql (fault : Fault) (sql : String) :
    (fault.withSql sql).isStaleHandle = fault.isStaleHandle := by
  cases fault with
  | query error =>
    change QueryFault.isStaleHandle (if error.sql.isNone then { error with sql := some sql }
      else error) = error.isStaleHandle
    split <;> rfl
  | _ => rfl

theorem Disposed.eq_nil {handle : Option Int64} (h : Disposed true handle t) : t = [] := by
  cases h with
  | kept _ | nothing => rfl
  | closed hcaching _ => cases hcaching

theorem PreparedRun.find?_of_ne (h : PreparedRun true cache key data types t cache' result)
    (hne : other ≠ key) : cache'.find? other = cache.find? other := by
  cases h with
  | unprepared hprovided => exact hprovided.find?_of_ne hne
  | prepared hprovided htried _ => exact (htried.find?_of_ne hne).trans (hprovided.find?_of_ne hne)

theorem PreparedRun.remains (h : PreparedRun true cache key data types t cache' result) :
    Remains Attempt.isRefused t result (cache'.find? key) := by
  cases h with
  | unprepared hprovided =>
    rw [hprovided.find?_of_error]
    exact .absent (by simp [refusals_of_unexecuted hprovided.executed])
  | prepared hprovided htried hdisposed =>
    obtain rfl := hdisposed.eq_nil
    have hidle : ∀ a ∈ ([] : List Attempt), a.IsIdle := by simp
    refine (htried.remains.append hprovided.executed hidle).of_result ?_
    rintro ⟨fault, hfault, hstale⟩
    obtain ⟨cause, hcause, rfl⟩ := mapError_eq_error.1 hfault
    exact ⟨cause, hcause, by simpa using hstale⟩

theorem Performed.find?_of_ne (h : Performed true cache key options t cache' result)
    (hne : other ≠ key) : cache'.find? other = cache.find? other := by
  cases h with
  | misshapen _ | directly _ _ => rfl
  | prepared _ hrun => exact hrun.find?_of_ne hne

theorem Performed.remains (h : Performed true cache key options t cache' result)
    (hbinds : options.bindings ≠ .ok none) :
    Remains Attempt.isRefused t result (cache'.find? key) := by
  cases h with
  | misshapen _ =>
    exact .of_unrefused rfl (fun hstale => Bool.noConfusion ((isStale_error _).1 hstale)) _
  | directly hnone _ => exact absurd hnone hbinds
  | prepared _ hrun => exact hrun.remains

/-- A statement that succeeds by way of a handle leaves that in the cache. -/
theorem Performed.isSome_of_ok {r : ExecuteResult}
    (h : Performed true cache key options t cache' (.ok r)) (hbinds : options.bindings ≠ .ok none) :
    (cache'.find? key).isSome = true := by
  generalize hresult : (Except.ok r : Except Fault ExecuteResult) = result at h
  cases h with
  | misshapen _ => cases hresult
  | directly hnone _ => exact absurd hnone hbinds
  | prepared _ hrun =>
    cases hrun with
    | unprepared _ => cases hresult
    | prepared hprovided htried _ =>
      cases htried with
      | settled _ _ => simp [hprovided.find?]
      | lost _ _ _ => cases hresult
      | renewed _ _ hagain _ => simp [hagain.find?]

end Steps

/-! ## Operations -/

section Operations

variable [Transport σ] {c : Connection σ} {talk : List Attempt} {cache : StatementCache}
  {sql : String} {options : StatementOptions} {fault : Fault}

theorem Attempt.executed?_of_not_isSent {a : Attempt} (h : a.isSent = false) :
    a.executed? = none := by
  obtain ⟨request, answer⟩ := a
  cases answer <;> cases h <;> cases request <;> rfl

theorem told_filter_isSent (talk : List Attempt) : told (talk.filter Attempt.isSent) = told talk :=
  Attempt.filterMap_filter_isSent (fun _ => Attempt.executed?_of_not_isSent) talk

/-- An operation fails as its statement does, or after that has succeeded. -/
def FailsBefore (P : Grammar ExecuteResult) : Grammar α := fun talk cache result =>
  FailsAs P talk cache result ∨ ∃ t more r, talk = t ++ more ∧ P t cache (.ok r)

namespace Connection

theorem execute_failsBefore (sql : String) (options : StatementOptions) (c : Connection σ) :
    (execute sql options).Follows c (FailsBefore
      (Performed c.config.cacheStatements c.statements ⟨options.schema, sql⟩ options)) :=
  (execute_failsAs sql options c).mono fun _ _ _ => .inl

theorem query_failsBefore (sql : String) (options : StatementOptions) (c : Connection σ) :
    (query sql options).Follows c (FailsBefore
      (Performed c.config.cacheStatements c.statements ⟨options.schema, sql⟩ options)) :=
  (query_failsAs sql options c).mono fun _ _ _ => .inl

/-- Once the statement of a query has a result, what may fail is only the stream. -/
theorem queryAll_failsBefore (sql : String) (options : StatementOptions) (c : Connection σ) :
    (queryAll sql options).Follows c (FailsBefore
      (Performed c.config.cacheStatements c.statements ⟨options.schema, sql⟩ options)) := by
  refine .mono (queryAll_of_query (query_runs sql options c)) ?_
  rintro talk cache result (⟨fault, rfl, performed, hperformed, hfault⟩ |
    ⟨t, more, s, rfl, ⟨performed, hperformed, hopened⟩, -⟩)
  · left
    have hfails := FailsAs.of_query hperformed c.config.bytesPerFetch
    rw [← hfault] at hfails
    exact hfails.of_error
  · right
    cases performed with
    | error fault => cases hopened
    | ok result => exact ⟨t, more, result, rfl, hperformed⟩

end Connection

/-- How an operation with values ends for a refused handle, and what it leaves in the cache. -/
theorem Action.Follows.isSome_of_stale {action : Action σ α}
    (h : action.Follows c
      (FailsBefore (Performed true c.statements ⟨options.schema, sql⟩ options)))
    (hbinds : options.bindings ≠ .ok none) (hfails : (Quiet.on action.ending c).1 = some fault)
    (hstale : fault.isStaleHandle = true) :
    let d := (Quiet.on action.ending c).2
    let talk := Event.exchanges (d.journal.toList.drop c.journal.size)
    (d.statements.find? ⟨options.schema, sql⟩).isSome = true ↔
      (refusals Attempt.isRefused talk).length = 2 ∨ told talk ≠ [] := by
  obtain ⟨talk, cache, hends, hleads⟩ := h.ending hfails
  dsimp only
  rw [hleads.exchanges, hleads.statements, refusals_filter_isSent, told_filter_isSent]
  obtain hfailsAs | ⟨t, more, r, rfl, hperformed⟩ := hends
  · obtain ⟨cause, hroot, hperformed⟩ :=
      hfailsAs fault rfl (Fault.isServerError_of_isStaleHandle hstale)
    have hcause : IsStale (.error cause) := by
      rw [isStale_error, Fault.isStaleHandle, hroot]
      exact hstale
    have htold : told talk = [] := hperformed.told
    simpa [htold] using (hperformed.remains hbinds).isSome_iff hcause
  · have htold : told t = [r] := hperformed.told
    simp [told_append, htold, hperformed.isSome_of_ok hbinds]

omit [Transport σ] in
theorem Stated.find?_of_ne {cache' : StatementCache} {other : StatementKey}
    (h : Stated true cache (some (sql, options)) talk cache')
    (hne : other ≠ ⟨options.schema, sql⟩) : cache'.find? other = cache.find? other := by
  cases h with
  | statement hperformed _ => exact hperformed.find?_of_ne hne

omit [Transport σ] in
theorem Stated.remains {cache' : StatementCache}
    (h : Stated true cache (some (sql, options)) talk cache')
    (hbinds : options.bindings ≠ .ok none) :
    ∃ result, Remains Attempt.isRefused talk result (cache'.find? ⟨options.schema, sql⟩) := by
  cases h with
  | @statement _ _ before after _ result hperformed hidle =>
    have hnone : ∀ a ∈ ([] : List Attempt), a.request.executed? = none := by simp
    exact ⟨result, (hperformed.remains hbinds).append hnone hidle⟩

theorem Client.isSome_of_stale (x : Client σ) (op : Operation)
    (hcaching : x.connection.config.cacheStatements = true)
    (hop : op.statement? = some (sql, options)) (hbinds : options.bindings ≠ .ok none)
    (hfails : (Quiet.on op.ending x.connection).1 = some fault)
    (hstale : fault.isStaleHandle = true) :
    ((x.step (.call op)).connection.statements.find? ⟨options.schema, sql⟩).isSome = true ↔
      (refusals Attempt.isRefused (x.talk (.call op))).length = 2 ∨
        told (x.talk (.call op)) ≠ [] := by
  unfold Client.talk
  rw [x.connection_call]
  cases op with
  | execute sql options =>
    cases hop
    have hfollows := Connection.execute_failsBefore sql options x.connection
    rw [hcaching] at hfollows
    exact hfollows.isSome_of_stale hbinds hfails hstale
  | query sql options =>
    cases hop
    have hfollows := Connection.query_failsBefore sql options x.connection
    rw [hcaching] at hfollows
    exact hfollows.isSome_of_stale hbinds hfails hstale
  | queryAll sql options =>
    cases hop
    have hfollows := Connection.queryAll_failsBefore sql options x.connection
    rw [hcaching] at hfollows
    exact hfollows.isSome_of_stale hbinds hfails hstale
  | commit | rollback =>
    cases hop
    exact absurd rfl hbinds
  | _ => cases hop

/--
With caching an operation with values to bind leaves the entries of all other keys as they are.
The entry of its own key holds a dead handle afterwards if and only if two were refused, be it by
the server or by a transport that fails in just its words. Where the operation fails with the
words for a lost handle there is no entry at all but in that case, and in the one where its
statement had a result and only the stream has failed.
-/
theorem dead_iff_refused_twice (x : Client σ) (op : Operation) (sql : String)
    (options : StatementOptions) (hcaching : x.connection.config.cacheStatements = true)
    (hop : op.statement? = some (sql, options)) (hbinds : options.bindings ≠ .ok none) :
    let key : StatementKey := ⟨options.schema, sql⟩
    let talk := x.talk (.call op)
    let cache := (x.step (.call op)).connection.statements
    (∀ other, other ≠ key → cache.find? other = x.connection.statements.find? other) ∧
      ((∃ s, cache.find? key = some s ∧ IsDead Attempt.isRefused s.handle talk) ↔
        (refusals Attempt.isRefused talk).length = 2) ∧
      ∀ fault, (Quiet.on op.ending x.connection).1 = some fault → fault.isStaleHandle = true →
        ((cache.find? key).isSome = true ↔
          (refusals Attempt.isRefused talk).length = 2 ∨ told talk ≠ []) := by
  intro key talk cache
  have hend : op ≠ .disconnect := by
    rintro rfl
    cases hop
  have hcancel : op ≠ .cancel := by
    rintro rfl
    cases hop
  obtain ⟨said, cache', hleads, hstated⟩ := op.perform_stated x.connection hend hcancel
  rw [hop, hcaching] at hstated
  have htalk : talk = said.filter Attempt.isSent := hleads.exchanges
  have hcache : cache = cache' := hleads.statements
  obtain ⟨result, hremains⟩ := hstated.remains hbinds
  refine ⟨fun other hne => ?_, ?_, fun fault => x.isSome_of_stale op hcaching hop hbinds⟩
  · rw [hcache]
    exact hstated.find?_of_ne hne
  · rw [htalk, hcache]
    exact hremains.filter_isSent.dead_iff

end Operations

open Connection (rehearsed preparedReply oneBind)
open Rehearsal

/-- With caching, the server refuses the first handle and does not prepare the statement again. -/
def lapsed : Client Server where
  connection := { rehearsed [
    ("createPreparedStatement", [
      ⟨.reply (preparedReply 7), false⟩, ⟨.reply (codedFailure staleHandleText "00000"), false⟩]),
    ("executePreparedStatement", [⟨.reply (codedFailure staleHandleText "00000"), false⟩])]
    with config := { cacheStatements := true } }

theorem dead_iff_refused_twice_lapsed :
    let op : Operation := .execute "INSERT" oneBind
    lapsed.connection.config.cacheStatements = true ∧
      op.statement? = some ("INSERT", oneBind) ∧ oneBind.bindings ≠ .ok none ∧
      ∃ fault, (Quiet.on op.ending lapsed.connection).1 = some fault ∧
        fault.isStaleHandle = true ∧
        ((lapsed.step (.call op)).connection.statements.find? ⟨none, "INSERT"⟩).isSome = false := by
  intro op
  have hbinds : oneBind.bindings ≠ .ok none := fun h => nomatch h
  obtain ⟨-, -, hstale⟩ := dead_iff_refused_twice lapsed op "INSERT" oneBind rfl rfl hbinds
  refine ⟨rfl, rfl, hbinds, _, rfl, rfl, ?_⟩
  rw [← Bool.not_eq_true]
  refine mt (hstale _ rfl rfl).1 ?_
  decide +kernel

/-- With caching, the server refuses every handle that it has created. -/
def obstinate : Client Server where
  connection := { rehearsed [
    ("createPreparedStatement", [
      ⟨.reply (preparedReply 7), false⟩, ⟨.reply (preparedReply 8), false⟩]),
    ("executePreparedStatement", [⟨.reply (codedFailure staleHandleText "00000"), false⟩])]
    with config := { cacheStatements := true } }

/-- An operation that fails for a refused handle may leave that very handle in the cache. -/
theorem refused_handle_cached :
    let op : Operation := .execute "INSERT" oneBind
    obstinate.connection.config.cacheStatements = true ∧
      ∃ fault s, (Quiet.on op.ending obstinate.connection).1 = some fault ∧
        fault.isStaleHandle = true ∧
        (obstinate.step (.call op)).connection.statements.find? ⟨none, "INSERT"⟩ = some s ∧
        IsDead Attempt.reportsLostHandle s.handle (obstinate.talk (.call op)) :=
  ⟨rfl, _, _, rfl, rfl, rfl, by decide +kernel⟩

end ExasolClient
