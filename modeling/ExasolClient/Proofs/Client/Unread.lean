-- SUMMARY: Which of the result sets that nobody will read are given up before an operation returns.
import ExasolClient.Proofs.Stream.Delivery

/-!
# Unread result sets

A statement may be answered with any number of results. An operation that counts rows
reads none of them, nor does a query that is rejected. Of all those result sets such an
operation gives up that of the first result if it counts rows, and none if it is a query.
Main statement: so every one of them is given up only where there is none but that
(`unread_released`).
-/

namespace ExasolClient

/-! ## Results told and result sets given up -/

/-- The result sets of which the server keeps rows. -/
def ExecuteResult.openHandles (result : ExecuteResult) : List Int64 :=
  result.results.filterMap fun
    | .resultSet (some rows) => rows.openHandle?
    | _ => none

/-- The result sets that a request gives up. -/
def Request.givenUp : Request → List Int64
  | .closeResultSets handles => handles
  | _ => []

/-- The result of a statement whose execution succeeded. -/
def Attempt.executed? (a : Attempt) : Option ExecuteResult :=
  if a.request.isExecution then (a.payload ExecuteResult).toOption else none

/-- The result sets that are given up in a talk. -/
def givenUp (talk : List Attempt) : List Int64 := talk.flatMap (·.request.givenUp)

/-- The results of the statements that are executed in a talk. -/
def told (talk : List Attempt) : List ExecuteResult := talk.filterMap Attempt.executed?

section Told

variable {t t' : List Attempt}

theorem givenUp_append : givenUp (t ++ t') = givenUp t ++ givenUp t' := List.flatMap_append

theorem told_append : told (t ++ t') = told t ++ told t' := List.filterMap_append

theorem told_single (a : Attempt) : told [a] = a.executed?.toList := by
  rw [told, List.filterMap_cons]
  cases a.executed? <;> rfl

theorem told_of_request {a : Attempt} {r : Request} (h : a.request = r)
    (hr : r.isExecution = false) : told [a] = [] := by
  rw [told_single, Attempt.executed?, h, hr]
  rfl

theorem told_execution {a : Attempt} {r : Request} (h : a.request = r)
    (hr : r.isExecution = true) : told [a] = (a.payload ExecuteResult).toOption.toList := by
  rw [told_single, Attempt.executed?, h, hr, if_pos rfl]

/-- Where nothing closes a result set, none is given up. -/
theorem Harmless.givenUp (h : Harmless t) : givenUp t = [] := by
  refine List.flatMap_eq_nil_iff.2 fun a ha => ?_
  have hcloses := h a ha
  cases hrequest : a.request with
  | closeResultSets handles =>
    refine List.eq_nil_iff_forall_not_mem.2 fun handle hhandle => hcloses handle ?_
    rw [hrequest]
    exact hhandle
  | _ => rfl

end Told

/-! ## Statements -/

section Statements

variable {caching : Bool} {cache cache' : StatementCache} {key : StatementKey} {data : Cells}
  {types : Option (List DataType)} {s : PreparedStatement} {t : List Attempt}
  {result : Except Fault ExecuteResult}

theorem IsStale.toOption (h : IsStale result) : result.toOption = none := by
  obtain ⟨fault, rfl, -⟩ := h
  rfl

theorem Provided.told {result : Except Fault PreparedStatement}
    (h : Provided caching cache key t cache' result) : told t = [] := by
  cases h with
  | found _ => rfl
  | refused _ hrequest _ | created _ hrequest _ => exact told_of_request hrequest rfl

theorem Executed.told (h : Executed s data types t result) : told t = result.toOption.toList := by
  cases h with
  | unfit _ => rfl
  | sent _ hrequest => exact told_execution hrequest rfl

theorem Tried.told {handle : Option Int64}
    (h : Tried caching cache key data types s t cache' handle result) :
    told t = result.toOption.toList := by
  cases h with
  | settled hexecuted _ => exact hexecuted.told
  | lost hexecuted hstale hprovided =>
    rw [told_append, hexecuted.told, hstale.toOption, hprovided.told]
    rfl
  | renewed hexecuted hstale hprovided hexecuted' =>
    rw [told_append, told_append, hexecuted.told, hstale.toOption, hprovided.told, hexecuted'.told]
    rfl

theorem Disposed.told {handle : Option Int64} (h : Disposed caching handle t) : told t = [] := by
  cases h with
  | kept _ | nothing => rfl
  | closed _ hrequest => exact told_of_request hrequest rfl

theorem PreparedRun.told (h : PreparedRun caching cache key data types t cache' result) :
    told t = result.toOption.toList := by
  cases h with
  | unprepared hprovided => exact hprovided.told
  | prepared hprovided htried hdisposed =>
    rw [told_append, told_append, hprovided.told, htried.told, hdisposed.told, List.append_nil,
      toOption_mapError]
    rfl

/-- A statement is told one result, which is that of its execution. -/
theorem Performed.told {options : StatementOptions}
    (h : Performed caching cache key options t cache' result) :
    told t = result.toOption.toList := by
  cases h with
  | misshapen _ => rfl
  | directly _ hrequest => rw [told_execution hrequest rfl, toOption_mapError]
  | prepared _ hrun => exact hrun.told

end Statements

/-! ## Operations -/

/-- The operation executes a statement for the rows that it affects. -/
def Operation.counts : Operation → Bool
  | .commit | .rollback | .execute _ _ => true
  | _ => false

/-- The operation runs a query. -/
def Operation.queries : Operation → Bool
  | .query _ _ | .queryAll _ _ => true
  | _ => false

/-- With this result the operation reads no result set: it counts rows, or the query is rejected. -/
def Operation.ReadsNothing (op : Operation) (result : ExecuteResult) : Prop :=
  op.counts = true ∨ op.queries = true ∧ (Connection.soleResultSet result).toOption = none

instance {op : Operation} {result : ExecuteResult} : Decidable (op.ReadsNothing result) :=
  inferInstanceAs (Decidable (_ ∨ _ ∧ _))

/-- The result sets that an operation gives up which reads none. -/
def Operation.releases (op : Operation) (result : ExecuteResult) : List Int64 :=
  if op.counts then (Connection.unreadHandle? result).toList else []

section Operations

variable {caching : Bool} {cache cache' : StatementCache} {key : StatementKey}
  {options : StatementOptions} {t : List Attempt} {result : ExecuteResult}

/-- Whoever counts rows gives up the result set of the first result. -/
theorem Counted.givenUp_eq {count : Except Fault Int64}
    (h : Counted caching cache key options t cache' count) (hresult : result ∈ told t) :
    givenUp t = (Connection.unreadHandle? result).toList := by
  cases h with
  | failed hperformed =>
    rw [hperformed.told] at hresult
    cases hresult
  | counted hperformed hunread =>
    rw [hperformed.told] at hresult
    cases List.mem_singleton.1 hresult
    rw [hunread, hperformed.tells.harmless.givenUp]
    rfl
  | released hperformed hunread hrequest =>
    rw [told_append, hperformed.told, told_of_request hrequest rfl, List.append_nil] at hresult
    cases List.mem_singleton.1 hresult
    rw [hunread, givenUp_append, hperformed.tells.harmless.givenUp, List.nil_append,
      givenUp, List.flatMap_singleton, hrequest]
    rfl

/-- A query gives nothing up, and opens a stream unless it is rejected. -/
theorem Queried.givenUp_eq {opened : Except Fault Stream}
    (h : Queried caching cache key options t cache' opened) :
    givenUp t = [] ∧ ∀ s, opened = .ok s →
      ∀ result ∈ told t, (Connection.soleResultSet result).toOption ≠ none := by
  cases h with
  | failed hperformed => exact ⟨hperformed.tells.harmless.givenUp, nofun⟩
  | opened hperformed hsole =>
    refine ⟨hperformed.tells.harmless.givenUp, fun _ _ result hresult => ?_⟩
    rw [hperformed.told] at hresult
    rw [List.mem_singleton.1 hresult, hsole]
    exact Option.some_ne_none _

/-- A producer executes nothing. -/
theorem told_of_says {s : Stream} (h : s.Says t) : told t = [] := by
  refine List.filterMap_eq_nil_iff.2 fun a ha => ?_
  obtain ⟨handle, -, ⟨position, numBytes, hrequest⟩ | hrequest⟩ := h a ha <;>
    rw [Attempt.executed?, hrequest] <;> rfl

variable [Transport σ]

open Connection in
/-- What an operation gives up that executes a statement and reads nothing. -/
theorem Operation.perform_releases (op : Operation) (c : Connection σ)
    (hop : op.counts = true ∨ op.queries = true) :
    ∃ talk cache, Leads c talk cache (Quiet.on op.perform c).2 ∧
      ∀ result ∈ told talk, op.ReadsNothing result → givenUp talk = op.releases result := by
  have hcounted {α : Type} {action : Action σ α} {key : StatementKey} {options : StatementOptions}
      (h : action.Follows c fun talk cache _ => ∃ result,
        Counted c.config.cacheStatements c.statements key options talk cache result) :
      ∃ talk cache, Leads c talk cache (Quiet.on action.unheeded c).2 ∧
        ∀ result ∈ told talk, givenUp talk = (unreadHandle? result).toList := by
    obtain ⟨talk, cache, _, ⟨_, hcounted⟩, hyields⟩ := h.attempt fun _ => (none : Option Stream)
    exact ⟨talk, cache, hyields.leads, fun result hresult => hcounted.givenUp_eq hresult⟩
  cases op with
  | commit =>
    obtain ⟨talk, cache, hleads, hreleased⟩ := hcounted (runForEffect_follows "COMMIT" {} c
      (fun c => .committing c.session.sessionId) "Unable to commit")
    exact ⟨talk, cache, hleads, fun result hresult _ => hreleased result hresult⟩
  | rollback =>
    obtain ⟨talk, cache, hleads, hreleased⟩ := hcounted (runForEffect_follows "ROLLBACK" {} c
      (fun c => .rollingBack c.session.sessionId) "Unable to rollback")
    exact ⟨talk, cache, hleads, fun result hresult _ => hreleased result hresult⟩
  | execute sql options =>
    obtain ⟨talk, cache, hleads, hreleased⟩ := hcounted (execute_follows sql options c)
    exact ⟨talk, cache, hleads, fun result hresult _ => hreleased result hresult⟩
  | query sql options =>
    obtain ⟨talk, cache, _, hqueried, hyields⟩ :=
      (query_follows sql options c).attempt Except.toOption
    exact ⟨talk, cache, hyields.leads, fun _ _ _ => hqueried.givenUp_eq.1⟩
  | queryAll sql options =>
    obtain ⟨talk, cache, _, hqueried, hyields⟩ :=
      (queryAll_follows sql options c).attempt fun _ => (none : Option Stream)
    refine ⟨talk, cache, hyields.leads, fun result hresult hreads => ?_⟩
    have hrejected : (soleResultSet result).toOption = none := (hreads.resolve_left nofun).2
    rcases hqueried with ⟨fault, hqueried⟩ | ⟨t, more, s, rfl, hqueried, hsays⟩
    · exact hqueried.givenUp_eq.1
    · rw [told_append, told_of_says hsays, List.append_nil] at hresult
      exact absurd hrejected (hqueried.givenUp_eq.2 s rfl result hresult)
  | getAttributes | setAttributes | enableAutocommit | disableAutocommit | setQueryTimeout |
      disconnect | cancel => exact hop.elim nofun nofun

/--
An operation that executes a statement and reads no result set gives up the result set of the
first result if it counts rows, and none if it is a query that is rejected. So every result
set that the server keeps open for the statement is given up exactly where there is no other
than that of the first result, or for a query none at all.
-/
theorem unread_released (x : Client σ) (op : Operation) {result : ExecuteResult}
    (hopen : x.connection.isOpen = true)
    (hlive : (x.step (.call op)).connection.isCancelled = false)
    (hresult : result ∈ told (x.talk (.call op))) (hreads : op.ReadsNothing result) :
    givenUp (x.talk (.call op)) = op.releases result ∧
      ((∀ handle ∈ result.openHandles, handle ∈ givenUp (x.talk (.call op))) ↔
        ∀ handle ∈ result.openHandles,
          op.counts = true ∧ Connection.unreadHandle? result = some handle) := by
  obtain ⟨talk, cache, hleads, hreleased⟩ :=
    op.perform_releases x.connection (hreads.imp_right And.left)
  have htalk : x.talk (.call op) = talk := hleads.exchanges_of_open hopen hlive
  rw [htalk] at hresult ⊢
  have hgiven : givenUp talk = op.releases result := hreleased result hresult hreads
  refine ⟨hgiven, forall₂_congr fun handle _ => ?_⟩
  rw [hgiven, Operation.releases]
  split
  next hcounts => rw [Option.mem_toList, hcounts, eq_self, true_and]
  next hcounts => simp [hcounts]

end Operations

/-! ## Several result sets -/

section Several

open Connection Rehearsal

/-- A statement has a result set of three rows under each of these handles. -/
def resultSetsUnder (handles : List Int64) : Json :=
  success [("numResults", .int handles.length), ("results", .arr (handles.map fun handle =>
    .obj [("resultType", .str "resultSet"), ("resultSet", .obj [
      ("resultSetHandle", .ofInt64 handle), ("numRows", .int 3)])]))]

/-- A client of a server that answers every statement with these result sets. -/
def answeredWith (handles : List Int64) : Client Server where
  connection := rehearsed [("execute", [⟨.reply (resultSetsUnder handles), false⟩])]

/-- A statement with the result sets that the server keeps under these handles. -/
def keptUnder (handles : List Int64) : ExecuteResult where
  numResults := .ofNat handles.length
  results := handles.map fun handle => .resultSet (some { handle := some handle, numRows := 3 })

/-- The only result set of a statement is given up. -/
theorem unread_released_single :
    let x := answeredWith [9]
    let op : Operation := .execute "SELECT * FROM big" {}
    x.connection.isOpen = true ∧ (x.step (.call op)).connection.isCancelled = false ∧
      keptUnder [9] ∈ told (x.talk (.call op)) ∧ op.ReadsNothing (keptUnder [9]) ∧
      ∀ handle ∈ (keptUnder [9]).openHandles, handle ∈ givenUp (x.talk (.call op)) := by
  intro x op
  have hresult : keptUnder [9] ∈ told (x.talk (.call op)) := by decide +kernel
  refine ⟨rfl, rfl, hresult, .inl rfl, ?_⟩
  refine (unread_released x op rfl rfl hresult (.inl rfl)).2.2 fun handle hhandle => ⟨rfl, ?_⟩
  rw [List.mem_singleton.1 hhandle]
  rfl

/--
Of two result sets that nobody reads the second one is left open, and behind a query that is
rejected the first one as well.
-/
theorem unread_left_open :
    let x := answeredWith [5, 6]
    let kept := keptUnder [5, 6]
    let execute : Operation := .execute "CALL p()" {}
    let query : Operation := .query "CALL p()" {}
    x.connection.isOpen = true ∧ kept.openHandles = [5, 6] ∧
    (x.step (.call execute)).connection.isCancelled = false ∧ execute.ReadsNothing kept ∧
    told (x.talk (.call execute)) = [kept] ∧ givenUp (x.talk (.call execute)) = [5] ∧
    (x.step (.call query)).connection.isCancelled = false ∧ query.ReadsNothing kept ∧
    told (x.talk (.call query)) = [kept] ∧ givenUp (x.talk (.call query)) = [] := by
  decide +kernel

end Several

end ExasolClient
