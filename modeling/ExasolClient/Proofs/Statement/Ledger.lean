-- SUMMARY: The handles of prepared statements: created, cached, evicted and closed.
import ExasolClient.Proofs.Client.Moves
import ExasolClient.Proofs.Statement.Messages

/-!
# The ledger of statement handles

A handle that the server has created is either closed by the operation that created
it, or it is in the cache, or it was evicted because the execution was refused. A
refused handle is not closed, since the server does not know it any more. Without a
cache the books are balanced by every single operation (`Settled`); with one they
are balanced up to what the cache holds (`Balanced`). Main statements: both hold in
every run of a client (`ledger_of_run`), but they do not if only what the server says
counts as a refusal (`ledger_not_by_replies`).
-/

namespace ExasolClient

/-! ## Entries -/

/-- The handle of the prepared statement that a request closes. -/
def Request.closed? : Request → Option Int64
  | .closeStatement handle => some handle
  | _ => none

/-- The handle of the prepared statement that a request executes. -/
def Request.executed? : Request → Option Int64
  | .executePrepared handle _ _ _ _ => some handle
  | _ => none

namespace Attempt

/-- The handle that the server has created in answer to an attempt. -/
def created? (a : Attempt) : Option Int64 :=
  match a.request with
  | .prepare _ _ => a.statement.toOption.map PreparedStatement.handle
  | _ => none

/-- An attempt that the ledger takes no note of. -/
structure IsIdle (a : Attempt) : Prop where
  created : a.created? = none
  closed : a.request.closed? = none
  executed : a.request.executed? = none

end Attempt

/-- The handles that were created. -/
def created (talk : List Attempt) : List Int64 := talk.filterMap Attempt.created?

/-- The handles of the prepared statements that were closed. -/
def closed (talk : List Attempt) : List Int64 := talk.filterMap (·.request.closed?)

/--
The handle that an operation executes first, if that is refused, when an execution is taken to
be refused as `refused` says.
-/
def evicted (refused : Attempt → Bool) (talk : List Attempt) : List Int64 :=
  match talk.find? (·.request.executed?.isSome) with
  | some a => if refused a then a.request.executed?.toList else []
  | none => []

/--
Every handle that was created is closed afterwards, and only once, except the first
one if it was refused.
-/
def Settled (refused : Attempt → Bool) (talk : List Attempt) : Prop :=
  ∃ before after, talk = before ++ after ∧ closed before = [] ∧ created after = [] ∧
    created before = evicted refused talk ++ closed after

/-- What was created is in the cache afterwards, or was evicted, or was closed. -/
def Balanced (refused : Attempt → Bool) (cache : StatementCache) (talk : List Attempt)
    (cache' : StatementCache) : Prop :=
  (cache'.handles ++ (evicted refused talk ++ closed talk)).Perm (cache.handles ++ created talk)

section Entries

variable {refused : Attempt → Bool} {talk more : List Attempt}

theorem created_append : created (talk ++ more) = created talk ++ created more :=
  List.filterMap_append

theorem closed_append : closed (talk ++ more) = closed talk ++ closed more :=
  List.filterMap_append

theorem created_of_idle (h : ∀ a ∈ talk, a.IsIdle) : created talk = [] :=
  List.filterMap_eq_nil_iff.2 fun a ha => (h a ha).created

theorem closed_of_idle (h : ∀ a ∈ talk, a.IsIdle) : closed talk = [] :=
  List.filterMap_eq_nil_iff.2 fun a ha => (h a ha).closed

/-- What comes before the first execution has no part in the eviction. -/
theorem evicted_append (h : ∀ a ∈ talk, a.request.executed? = none) :
    evicted refused (talk ++ more) = evicted refused more := by
  have hnone : talk.find? (·.request.executed?.isSome) = none := by
    rw [List.find?_eq_none]
    intro a ha
    simp [h a ha]
  unfold evicted
  rw [List.find?_append, hnone, Option.none_or]

theorem evicted_eq_nil (h : ∀ a ∈ talk, a.request.executed? = none) :
    evicted refused talk = [] := by
  have hevicted : evicted refused (talk ++ []) = evicted refused [] := evicted_append h
  rwa [List.append_nil] at hevicted

/-- The first execution decides about the eviction. -/
theorem evicted_cons {a : Attempt} {handle : Int64} (h : a.request.executed? = some handle) :
    evicted refused (a :: talk) = if refused a then [handle] else [] := by
  simp [evicted, h]

/-- What comes without an execution has no part in the eviction either. -/
theorem evicted_append_of_idle (h : ∀ a ∈ more, a.request.executed? = none) :
    evicted refused (talk ++ more) = evicted refused talk := by
  have hnone : more.find? (·.request.executed?.isSome) = none := by
    rw [List.find?_eq_none]
    intro a ha
    simp [h a ha]
  unfold evicted
  rw [List.find?_append, hnone, Option.or_none]

theorem Settled.append_idle (h : Settled refused talk) (hmore : ∀ a ∈ more, a.IsIdle) :
    Settled refused (talk ++ more) := by
  obtain ⟨before, after, rfl, hclosed, hcreated, hbalance⟩ := h
  refine ⟨before, after ++ more, List.append_assoc _ _ _, hclosed, ?_, ?_⟩
  · rw [created_append, hcreated, created_of_idle hmore]
    rfl
  · rw [evicted_append_of_idle fun a ha => (hmore a ha).executed, closed_append,
      closed_of_idle hmore, List.append_nil]
    exact hbalance

theorem Settled.of_idle (h : ∀ a ∈ talk, a.IsIdle) : Settled refused talk := by
  have hnil : Settled refused [] := ⟨[], [], rfl, rfl, rfl, rfl⟩
  simpa using hnil.append_idle h

theorem Balanced.append_idle {cache cache' : StatementCache}
    (h : Balanced refused cache talk cache') (hmore : ∀ a ∈ more, a.IsIdle) :
    Balanced refused cache (talk ++ more) cache' := by
  unfold Balanced at h ⊢
  rwa [evicted_append_of_idle fun a ha => (hmore a ha).executed, closed_append,
    closed_of_idle hmore, created_append, created_of_idle hmore, List.append_nil, List.append_nil]

theorem Balanced.of_idle (cache : StatementCache) (h : ∀ a ∈ talk, a.IsIdle) :
    Balanced refused cache talk cache := by
  have hnil : Balanced refused cache [] cache := .refl _
  simpa using hnil.append_idle h

end Entries

/-! ## Caches -/

namespace StatementCache

/-- No key has two statements. -/
def Distinct (c : StatementCache) : Prop := (c.entries.map Prod.fst).Nodup

variable {c : StatementCache} {key : StatementKey} {s : PreparedStatement}

theorem distinct_empty : Distinct .empty := List.nodup_nil

theorem Distinct.erase (h : c.Distinct) (key : StatementKey) : (c.erase key).Distinct :=
  (List.filter_sublist.map Prod.fst).nodup h

theorem Distinct.insert (h : c.Distinct) (key : StatementKey) (s : PreparedStatement) :
    (c.insert key s).Distinct := by
  refine List.nodup_cons.2 ⟨?_, h.erase key⟩
  simp [StatementCache.erase]

theorem Distinct.keep (h : c.Distinct) (caching : Bool) (key : StatementKey)
    (s : PreparedStatement) : (c.keep caching key s).Distinct := by
  unfold StatementCache.keep
  split
  · exact h.insert key s
  · exact h

theorem handles_perm (c : StatementCache) :
    c.handles.Perm (c.entries.map fun entry => entry.2.handle) :=
  List.mergeSort_perm _ _

theorem handles_empty : StatementCache.empty.handles = [] :=
  (handles_perm .empty).eq_nil

theorem erase_of_find?_eq_none (h : c.find? key = none) : c.erase key = c := by
  have hkeys : ∀ entry ∈ c.entries, entry.1 ≠ key := by
    intro entry hentry
    have hne := List.lookup_eq_none_iff.1 h entry hentry
    simpa using Ne.symm (by simpa using hne)
  unfold StatementCache.erase
  rw [List.filter_eq_self.2 (by simpa using hkeys)]

/-- A new statement adds its handle. -/
theorem handles_insert (h : c.find? key = none) :
    (c.insert key s).handles.Perm (s.handle :: c.handles) := by
  apply (handles_perm _).trans
  rw [StatementCache.insert, erase_of_find?_eq_none h]
  exact (handles_perm c).symm.cons s.handle

/-- A statement that is taken out takes its handle along. -/
theorem handles_erase (hc : c.Distinct) (h : c.find? key = some s) :
    c.handles.Perm (s.handle :: (c.erase key).handles) := by
  refine (handles_perm c).trans (.trans ?_ ((handles_perm _).symm.cons s.handle))
  obtain ⟨entries⟩ := c
  obtain ⟨before, after, hentries, hbefore⟩ := List.lookup_eq_some_iff.1 h
  dsimp only at hentries
  subst hentries
  have hother : ∀ entry ∈ before ++ after, entry.1 ≠ key := by
    intro entry hentry
    rcases List.mem_append.1 hentry with hentry | hentry
    · simpa using Ne.symm (by simpa using hbefore entry hentry)
    · have hafter : key ∉ after.map Prod.fst := by
        have hnodup : (before.map Prod.fst ++ key :: after.map Prod.fst).Nodup := by
          simpa [Distinct] using hc
        exact (List.nodup_cons.1 (List.nodup_append.1 hnodup).2.1).1
      rintro rfl
      exact hafter (List.mem_map_of_mem hentry)
  have herase : (before ++ (key, s) :: after).filter (fun entry => entry.1 ≠ key) =
      before ++ after := by
    rw [List.filter_append, List.filter_cons_of_neg (by simp), ← List.filter_append]
    exact List.filter_eq_self.2 (by simpa using hother)
  rw [StatementCache.erase, herase, List.map_append, List.map_append]
  exact List.perm_middle

end StatementCache

/-! ## The steps of a statement -/

section Steps

variable {caching : Bool} {cache cache' : StatementCache} {key : StatementKey} {data : Cells}
  {types : Option (List DataType)} {options : StatementOptions} {s : PreparedStatement}
  {t more : List Attempt}

theorem created_creation {a : Attempt} (h : a.request = key.creation) :
    created [a] = (a.statement.toOption.map PreparedStatement.handle).toList := by
  have hcreated : a.created? = a.statement.toOption.map PreparedStatement.handle := by
    unfold Attempt.created?
    rw [h]
    rfl
  cases hstatement : a.statement.toOption.map PreparedStatement.handle <;>
    simp [created, hcreated, hstatement]

theorem Provided.closed (h : Provided caching cache key t cache' r) : closed t = [] := by
  cases h with
  | found _ => rfl
  | refused _ hrequest _ | created _ hrequest _ =>
    simp [ExasolClient.closed, Request.closed?, hrequest, StatementKey.creation]

theorem Provided.executed (h : Provided caching cache key t cache' r) :
    ∀ a ∈ t, a.request.executed? = none := by
  cases h with
  | found _ => simp
  | refused _ hrequest _ | created _ hrequest _ =>
    simp [Request.executed?, hrequest, StatementKey.creation]

/-- A statement that is not in the cache is created, or there is none. -/
theorem Provided.created_eq (h : Provided caching cache key t cache' r)
    (hfind : cache.find? key = none) :
    ExasolClient.created t = (r.toOption.map PreparedStatement.handle).toList := by
  cases h with
  | found hfound =>
    rw [hfind] at hfound
    cases hfound
  | refused _ hrequest hstatement | created _ hrequest hstatement =>
    rw [created_creation hrequest, hstatement]

/-- Without caching the cache stays as it is. -/
theorem Provided.cache_eq (h : Provided false cache key t cache' r) : cache' = cache := by
  cases h <;> rfl

/-- With caching a statement that is provided is in the cache afterwards. -/
theorem Provided.find? (h : Provided true cache key t cache' (.ok s)) :
    cache'.find? key = some s := by
  cases h with
  | found hfound => exact hfound
  | created _ _ _ => exact StatementCache.find?_insert_self _ _ _

theorem Provided.distinct (h : Provided caching cache key t cache' r) (hc : cache.Distinct) :
    cache'.Distinct := by
  cases h with
  | found _ => exact hc
  | refused _ _ _ => exact hc
  | created _ _ _ => exact hc.keep caching key _

/-- With caching the handle that is created is the one that the cache gains. -/
theorem Provided.handles (h : Provided true cache key t cache' r) :
    cache'.handles.Perm (ExasolClient.created t ++ cache.handles) := by
  cases h with
  | found _ => exact .refl _
  | refused hfind hrequest hstatement =>
    rw [created_creation hrequest, hstatement]
    exact .refl _
  | created hfind hrequest hstatement =>
    rw [created_creation hrequest, hstatement]
    exact StatementCache.handles_insert hfind

theorem Executed.created (h : Executed s data types t r) : created t = [] := by
  cases h with
  | unfit _ => rfl
  | sent _ hrequest =>
    simp [ExasolClient.created, Attempt.created?, hrequest, PreparedStatement.execution]

theorem Executed.closed (h : Executed s data types t r) : closed t = [] := by
  cases h with
  | unfit _ => rfl
  | sent _ hrequest =>
    simp [ExasolClient.closed, Request.closed?, hrequest, PreparedStatement.execution]

/-- A handle that is refused is evicted, whatever comes after. -/
theorem Executed.evicted_of_stale (h : Executed s data types t r) (hstale : IsStale r) :
    evicted Attempt.isRefused (t ++ more) = [s.handle] := by
  cases h with
  | unfit _ =>
    rw [isStale_error] at hstale
    cases hstale
  | @sent columns a _ hrequest =>
    have hexecuted : a.request.executed? = some s.handle := by
      simp [Request.executed?, hrequest, PreparedStatement.execution]
    rw [List.singleton_append, evicted_cons hexecuted, a.isStale_payload.1 hstale, if_pos rfl]

/-- A handle that is not refused is not evicted. -/
theorem Executed.evicted_of_not_stale (h : Executed s data types t r) (hstale : ¬IsStale r) :
    evicted Attempt.isRefused t = [] := by
  cases h with
  | unfit _ => rfl
  | @sent columns a _ hrequest =>
    have hexecuted : a.request.executed? = some s.handle := by
      simp [Request.executed?, hrequest, PreparedStatement.execution]
    rw [a.isStale_payload] at hstale
    rw [evicted_cons hexecuted, if_neg hstale]

theorem Disposed.created {handle : Option Int64} (h : Disposed caching handle t) :
    created t = [] := by
  cases h with
  | kept _ => rfl
  | nothing => rfl
  | closed _ hrequest => simp [ExasolClient.created, Attempt.created?, hrequest]

theorem Disposed.executed {handle : Option Int64} (h : Disposed caching handle t) :
    ∀ a ∈ t, a.request.executed? = none := by
  cases h with
  | kept _ => simp
  | nothing => simp
  | closed _ hrequest => simp [Request.executed?, hrequest]

/-- The handle in hand is closed, unless the cache keeps it. -/
theorem Disposed.closed_eq {handle : Option Int64} (h : Disposed caching handle t) :
    ExasolClient.closed t = if caching then [] else handle.toList := by
  cases h with
  | kept hcaching => simp [ExasolClient.closed, hcaching]
  | nothing => simp [ExasolClient.closed]
  | closed hcaching hrequest =>
    simp [ExasolClient.closed, Request.closed?, hrequest, hcaching]

theorem Tried.closed {handle : Option Int64}
    (h : Tried caching cache key data types s t cache' handle r) : closed t = [] := by
  cases h with
  | settled hexecuted _ => exact hexecuted.closed
  | lost hexecuted _ hagain => rw [closed_append, hexecuted.closed, hagain.closed]; rfl
  | renewed hexecuted _ hagain hexecuted' =>
    rw [closed_append, closed_append, hexecuted.closed, hagain.closed, hexecuted'.closed]
    rfl

/-- Without caching, every handle but a refused first one is in hand afterwards. -/
theorem Tried.created_eq {handle : Option Int64}
    (h : Tried false .empty key data types s t cache' handle r)
    (hmore : ∀ a ∈ more, a.request.executed? = none) :
    cache' = .empty ∧
      s.handle :: ExasolClient.created t =
        evicted Attempt.isRefused (t ++ more) ++ handle.toList := by
  cases h with
  | settled hexecuted hstale =>
    rw [evicted_append_of_idle hmore, hexecuted.evicted_of_not_stale hstale, hexecuted.created]
    exact ⟨rfl, rfl⟩
  | @lost t₁ t₂ _ _ _ hexecuted hstale hagain =>
    have hcreated := hagain.created_eq rfl
    rw [List.append_assoc, hexecuted.evicted_of_stale hstale, created_append, hexecuted.created,
      hcreated]
    exact ⟨hagain.cache_eq, rfl⟩
  | renewed hexecuted hstale hagain hexecuted' =>
    have hcreated := hagain.created_eq rfl
    rw [List.append_assoc, hexecuted.evicted_of_stale hstale, created_append, created_append,
      hexecuted.created, hcreated, hexecuted'.created]
    exact ⟨hagain.cache_eq, rfl⟩

theorem Tried.distinct {handle : Option Int64}
    (h : Tried caching cache key data types s t cache' handle r) (hc : cache.Distinct) :
    cache'.Distinct := by
  cases h with
  | settled _ _ => exact hc
  | lost _ _ hagain => exact hagain.distinct (hc.erase key)
  | renewed _ _ hagain _ => exact hagain.distinct (hc.erase key)

/-- What was taken out goes from one side of the books to the other. -/
theorem perm_exchange (added kept : List Int64) (taken : Int64) :
    ((added ++ kept) ++ [taken]).Perm (taken :: kept ++ added) := by
  rw [List.append_assoc]
  exact List.perm_append_comm.trans ((List.perm_append_singleton taken kept).append_right added)

/-- With caching, a refused handle leaves the cache, and the new one enters it. -/
theorem Tried.handles {handle : Option Int64}
    (h : Tried true cache key data types s t cache' handle r) (hc : cache.Distinct)
    (hfind : cache.find? key = some s) (hmore : ∀ a ∈ more, a.request.executed? = none) :
    (cache'.handles ++ evicted Attempt.isRefused (t ++ more)).Perm
      (cache.handles ++ ExasolClient.created t) := by
  have herase := StatementCache.handles_erase hc hfind
  have hexchange {t₂ : List Attempt} {result : Except Fault PreparedStatement}
      (hagain : Provided true (cache.erase key) key t₂ cache' result) :
      (cache'.handles ++ [s.handle]).Perm (cache.handles ++ ExasolClient.created t₂) :=
    calc cache'.handles ++ [s.handle]
      _ |>.Perm (ExasolClient.created t₂ ++ (cache.erase key).handles ++ [s.handle]) :=
        hagain.handles.append_right _
      _ |>.Perm (s.handle :: (cache.erase key).handles ++ ExasolClient.created t₂) :=
        perm_exchange _ _ _
      _ |>.Perm (cache.handles ++ ExasolClient.created t₂) := herase.symm.append_right _
  cases h with
  | settled hexecuted hstale =>
    rw [evicted_append_of_idle hmore, hexecuted.evicted_of_not_stale hstale, hexecuted.created]
  | lost hexecuted hstale hagain =>
    rw [List.append_assoc, hexecuted.evicted_of_stale hstale, created_append, hexecuted.created]
    exact hexchange hagain
  | renewed hexecuted hstale hagain hexecuted' =>
    rw [List.append_assoc, hexecuted.evicted_of_stale hstale, created_append, created_append,
      hexecuted.created, hexecuted'.created, List.append_nil]
    exact hexchange hagain

/-! ## Statements and operations -/

theorem PreparedRun.settled (h : PreparedRun false .empty key data types t cache' r) :
    cache' = .empty ∧ Settled Attempt.isRefused t := by
  cases h with
  | unprepared hprovided =>
    refine ⟨hprovided.cache_eq, t, [], (List.append_nil t).symm, hprovided.closed, rfl, ?_⟩
    rw [hprovided.created_eq rfl, evicted_eq_nil hprovided.executed]
    rfl
  | @prepared t₁ t₂ t₃ _ _ s handle _ hprovided htried hdisposed =>
    rw [hprovided.cache_eq] at htried
    obtain ⟨hcache, hcreated⟩ := htried.created_eq hdisposed.executed
    refine ⟨hcache, t₁ ++ t₂, t₃, (List.append_assoc _ _ _).symm, ?_, hdisposed.created, ?_⟩
    · rw [closed_append, hprovided.closed, htried.closed]
      rfl
    · rw [created_append, hprovided.created_eq rfl, evicted_append hprovided.executed,
        hdisposed.closed_eq]
      exact hcreated

theorem PreparedRun.balanced (h : PreparedRun true cache key data types t cache' r)
    (hc : cache.Distinct) :
    cache'.Distinct ∧ closed t = [] ∧ Balanced Attempt.isRefused cache t cache' := by
  cases h with
  | unprepared hprovided =>
    refine ⟨hprovided.distinct hc, hprovided.closed, ?_⟩
    unfold Balanced
    rw [evicted_eq_nil hprovided.executed, hprovided.closed, List.append_nil, List.append_nil]
    exact hprovided.handles.trans List.perm_append_comm
  | @prepared t₁ t₂ t₃ cache₁ _ s handle _ hprovided htried hdisposed =>
    have hclosed : closed (t₁ ++ (t₂ ++ t₃)) = [] := by
      rw [closed_append, closed_append, hprovided.closed, htried.closed, hdisposed.closed_eq]
      rfl
    have hc₁ := hprovided.distinct hc
    refine ⟨htried.distinct hc₁, hclosed, ?_⟩
    have hhandles := htried.handles hc₁ hprovided.find? hdisposed.executed
    unfold Balanced
    rw [hclosed, List.append_nil, evicted_append hprovided.executed, created_append,
      created_append, hdisposed.created, List.append_nil]
    rw [← List.append_assoc]
    exact hhandles.trans ((hprovided.handles.trans List.perm_append_comm).append_right _)

/-- A statement that is executed as it is has no part in the ledger. -/
theorem isIdle_execution {a : Attempt} (h : a.request = key.execution) : a.IsIdle := by
  constructor <;>
    simp [Attempt.created?, Request.closed?, Request.executed?, h, StatementKey.execution]

theorem Performed.settled (h : Performed false .empty key options t cache' r) :
    cache' = .empty ∧ Settled Attempt.isRefused t := by
  cases h with
  | misshapen _ => exact ⟨rfl, .of_idle (by simp)⟩
  | directly _ hrequest => exact ⟨rfl, .of_idle (by simpa using isIdle_execution hrequest)⟩
  | prepared _ hrun => exact hrun.settled

theorem Performed.balanced (h : Performed true cache key options t cache' r) (hc : cache.Distinct) :
    cache'.Distinct ∧ closed t = [] ∧ Balanced Attempt.isRefused cache t cache' := by
  cases h with
  | misshapen _ => exact ⟨hc, rfl, .of_idle _ (by simp)⟩
  | directly _ hrequest =>
    have hidle := isIdle_execution hrequest
    exact ⟨hc, closed_of_idle (by simpa using hidle), .of_idle _ (by simpa using hidle)⟩
  | prepared _ hrun => exact hrun.balanced hc

/-- The talk about a result set has no part in the ledger. -/
theorem isIdle_of_isAbout {a : Attempt} {handle : Int64} (h : a.request.IsAbout handle) :
    a.IsIdle := by
  rcases h with ⟨position, numBytes, hrequest⟩ | hrequest <;> constructor <;>
    simp [Attempt.created?, Request.closed?, Request.executed?, hrequest]

theorem isIdle_of_says {stream : Stream} (h : stream.Says t) : ∀ a ∈ t, a.IsIdle := by
  intro a ha
  obtain ⟨handle, -, habout⟩ := h a ha
  exact isIdle_of_isAbout habout

/-- Of what an operation says only its statement has a part in the ledger. -/
theorem Spoken.cases_statement {opened : Option Stream}
    (h : Spoken caching cache t cache' opened) :
    ((∀ a ∈ t, a.IsIdle) ∧ cache' = cache) ∨
      ∃ key options before after result, t = before ++ after ∧ (∀ a ∈ after, a.IsIdle) ∧
        Performed caching cache key options before cache' result := by
  cases h with
  | @attributes a hrequest =>
    refine .inl ⟨?_, rfl⟩
    intro b hb
    rw [List.mem_singleton] at hb
    subst hb
    rcases hrequest with hrequest | ⟨attributes, hrequest⟩ <;> constructor <;>
      simp [Attempt.created?, Request.closed?, Request.executed?, hrequest]
  | counted hcounted =>
    cases hcounted with
    | failed hperformed =>
      exact .inr ⟨_, _, t, [], _, (List.append_nil t).symm, by simp, hperformed⟩
    | counted hperformed _ =>
      exact .inr ⟨_, _, t, [], _, (List.append_nil t).symm, by simp, hperformed⟩
    | released hperformed _ hrequest =>
      exact .inr ⟨_, _, _, _, _, rfl,
        by simpa using isIdle_of_isAbout (.inr hrequest), hperformed⟩
  | queried hqueried =>
    cases hqueried with
    | failed hperformed =>
      exact .inr ⟨_, _, t, [], _, (List.append_nil t).symm, by simp, hperformed⟩
    | opened hperformed _ =>
      exact .inr ⟨_, _, t, [], _, (List.append_nil t).symm, by simp, hperformed⟩
  | collected hqueried hsays =>
    cases hqueried with
    | opened hperformed _ => exact .inr ⟨_, _, _, _, _, rfl, isIdle_of_says hsays, hperformed⟩

theorem Spoken.settled {opened : Option Stream} (h : Spoken false .empty t cache' opened) :
    cache' = .empty ∧ Settled Attempt.isRefused t := by
  rcases h.cases_statement with ⟨hidle, hcache⟩ | ⟨_, _, _, _, _, rfl, hidle, hperformed⟩
  · exact ⟨hcache, .of_idle hidle⟩
  · exact ⟨hperformed.settled.1, hperformed.settled.2.append_idle hidle⟩

theorem Spoken.balanced {opened : Option Stream} (h : Spoken true cache t cache' opened)
    (hc : cache.Distinct) :
    cache'.Distinct ∧ closed t = [] ∧ Balanced Attempt.isRefused cache t cache' := by
  rcases h.cases_statement with ⟨hidle, rfl⟩ | ⟨_, _, _, _, _, rfl, hidle, hperformed⟩
  · exact ⟨hc, closed_of_idle hidle, .of_idle _ hidle⟩
  · obtain ⟨hc', hclosed, hbalanced⟩ := hperformed.balanced hc
    refine ⟨hc', ?_, hbalanced.append_idle hidle⟩
    rw [closed_append, hclosed, closed_of_idle hidle]
    rfl

end Steps

/-! ## Moves -/

/-- The cache of a connection is in order. -/
structure Connection.InOrder (c : Connection σ) : Prop where
  distinct : c.statements.Distinct
  /-- Without caching nothing is cached. -/
  off : c.config.cacheStatements = false → c.statements = .empty
  /-- Nothing stays cached when the connection is closed. -/
  ended : c.isOpen = false → c.statements = .empty

/-- The ledger after some exchanges, in the course of which the connection may have been closed. -/
structure Connection.Enters (c : Connection σ) (talk : List Attempt) (ending : Prop)
    (d : Connection σ) : Prop where
  inOrder : d.InOrder
  config : d.config = c.config
  settled : c.config.cacheStatements = false → Settled Attempt.isRefused talk
  balanced : c.config.cacheStatements = true →
    Balanced Attempt.isRefused c.statements talk d.statements
  unclosed : c.config.cacheStatements = true → ¬ending → closed talk = []

theorem Attempt.created?_of_not_isSent {a : Attempt} (h : a.isSent = false) :
    a.created? = none := by
  obtain ⟨request, answer⟩ := a
  cases answer <;> cases h <;> cases request <;> rfl

theorem created_of_not_isSent {talk : List Attempt} (h : ∀ a ∈ talk, a.isSent = false) :
    created talk = [] :=
  List.filterMap_eq_nil_iff.2 fun a ha => a.created?_of_not_isSent (h a ha)

theorem eq_empty_of_handles {cache : StatementCache} (h : cache.handles.Perm []) :
    cache = .empty := by
  have hentries := cache.handles_perm.symm.trans h
  obtain ⟨entries⟩ := cache
  rw [List.perm_nil, List.map_eq_nil_iff] at hentries
  dsimp only at hentries
  rw [hentries]
  rfl

section Moves

variable [Transport σ] {c d : Connection σ} {talk : List Attempt} {cache : StatementCache}

/-- Whatever leads on has its place in the ledger, if each of the two laws holds of it. -/
theorem Leads.enters (h : Leads c talk cache d) (hc : c.InOrder) (hlive : d.isCancelled = false)
    (ending : Prop)
    (hsettled : c.config.cacheStatements = false → cache = .empty ∧ Settled Attempt.isRefused talk)
    (hbalanced : c.config.cacheStatements = true →
      cache.Distinct ∧ closed talk = [] ∧ Balanced Attempt.isRefused c.statements talk cache) :
    c.Enters (Event.exchanges (d.journal.toList.drop c.journal.size)) ending d := by
  have hoff : d.config.cacheStatements = false → d.statements = .empty := by
    rw [h.config, h.statements]
    exact fun hcaching => (hsettled hcaching).1
  have hdistinct : d.statements.Distinct := by
    cases hcaching : c.config.cacheStatements with
    | true =>
      rw [h.statements]
      exact (hbalanced hcaching).1
    | false =>
      rw [hoff (h.config ▸ hcaching)]
      exact StatementCache.distinct_empty
  cases hopen : c.isOpen with
  | true =>
    rw [h.exchanges_of_open hopen hlive]
    refine ⟨⟨hdistinct, hoff, ?_⟩, h.config, fun hcaching => (hsettled hcaching).2, ?_, ?_⟩
    · intro hclosed
      rw [h.isOpen, hopen] at hclosed
      cases hclosed
    · rw [h.statements]
      exact fun hcaching => (hbalanced hcaching).2.2
    · exact fun hcaching _ => (hbalanced hcaching).2.1
  | false =>
    have hempty : d.statements = .empty := by
      cases hcaching : c.config.cacheStatements with
      | false => exact hoff (h.config ▸ hcaching)
      | true =>
        have hperm := (hbalanced hcaching).2.2
        rw [Balanced, created_of_not_isSent (h.line.not_isSent hopen), hc.ended hopen,
          StatementCache.handles_empty] at hperm
        rw [h.statements]
        exact eq_empty_of_handles (List.perm_nil.2 (List.append_eq_nil_iff.1 hperm.eq_nil).1)
    rw [h.exchanges_of_closed hopen]
    refine ⟨⟨hdistinct, hoff, fun _ => hempty⟩, h.config, fun _ => .of_idle (by simp), ?_, ?_⟩
    · intro _
      rw [hempty, hc.ended hopen]
      exact .of_idle _ (by simp)
    · exact fun _ _ => rfl

theorem Leads.enters_idle (h : Leads c talk c.statements d) (hc : c.InOrder)
    (hlive : d.isCancelled = false) (ending : Prop) (hidle : ∀ a ∈ talk, a.IsIdle) :
    c.Enters (Event.exchanges (d.journal.toList.drop c.journal.size)) ending d :=
  h.enters hc hlive ending (fun hcaching => ⟨hc.off hcaching, .of_idle hidle⟩)
    fun _ => ⟨hc.distinct, closed_of_idle hidle, .of_idle _ hidle⟩

/-- The end of a session closes whatever is cached. -/
theorem entries_of_end {handles : List Int64}
    (h : talk.map Attempt.request = handles.map .closeStatement ++ [.disconnect]) :
    created talk = [] ∧ closed talk = handles ∧ evicted Attempt.isRefused talk = [] := by
  have hrequest : ∀ a ∈ talk, (∃ handle, a.request = .closeStatement handle) ∨
      a.request = .disconnect := by
    intro a ha
    have hmem : a.request ∈ handles.map Request.closeStatement ++ [.disconnect] :=
      h ▸ List.mem_map_of_mem ha
    rcases List.mem_append.1 hmem with hmem | hmem
    · obtain ⟨handle, -, hr⟩ := List.mem_map.1 hmem
      exact .inl ⟨handle, hr.symm⟩
    · exact .inr (List.mem_singleton.1 hmem)
  refine ⟨?_, ?_, ?_⟩
  · apply List.filterMap_eq_nil_iff.2
    intro a ha
    rcases hrequest a ha with ⟨handle, hr⟩ | hr <;> simp [Attempt.created?, hr]
  · have hclosed : closed talk = (talk.map Attempt.request).filterMap Request.closed? := by
      rw [List.filterMap_map]
      rfl
    have hhandles : (handles.map Request.closeStatement).filterMap Request.closed? = handles := by
      rw [List.filterMap_map]
      exact List.filterMap_some
    rw [hclosed, h, List.filterMap_append, hhandles]
    exact List.append_nil handles
  · apply evicted_eq_nil
    intro a ha
    rcases hrequest a ha with ⟨handle, hr⟩ | hr <;> simp [Request.executed?, hr]

theorem disconnect_enters (hc : c.InOrder)
    (hlive : (Quiet.on Connection.disconnect c).2.isCancelled = false) {ending : Prop}
    (hending : ending) :
    c.Enters (Event.exchanges ((Quiet.on Connection.disconnect c).2.journal.toList.drop
      c.journal.size)) ending (Quiet.on Connection.disconnect c).2 := by
  cases hopen : c.isOpen with
  | false =>
    rw [Connection.disconnect_of_closed hopen] at hlive ⊢
    exact (Leads.refl c).enters_idle hc hlive ending (by simp)
  | true =>
    obtain ⟨talk, hexchanges, hrequests, hempty, hconfig⟩ :=
      Connection.disconnect_exchanges hopen hlive
    obtain ⟨hcreated, hclosed, hevicted⟩ := entries_of_end hrequests
    rw [hexchanges]
    refine ⟨⟨?_, fun _ => hempty, fun _ => hempty⟩, hconfig, ?_, ?_, ?_⟩
    · rw [hempty]
      exact StatementCache.distinct_empty
    · intro hcaching
      refine ⟨talk, [], (List.append_nil talk).symm, ?_, rfl, ?_⟩
      · rw [hclosed, hc.off hcaching, StatementCache.handles_empty]
      · rw [hcreated, hevicted]
        rfl
    · intro _
      rw [Balanced, hempty, hcreated, hclosed, hevicted, StatementCache.handles_empty,
        List.append_nil]
      exact .refl _
    · exact fun _ hnot => absurd hending hnot

theorem Client.step_enters (x : Client σ) (move : Move) (hx : x.connection.InOrder)
    (hlive : (x.step move).connection.isCancelled = false) :
    x.connection.Enters (x.talk move) (move = .call .disconnect) (x.step move).connection := by
  cases move with
  | call op =>
    by_cases hend : op = .disconnect
    · subst hend
      exact disconnect_enters hx hlive rfl
    by_cases hcancel : op = .cancel
    · subst hcancel
      cases hlive
    obtain ⟨talk, cache, hleads, hspoken⟩ := op.perform_spoken x.connection hend hcancel
    apply hleads.enters hx hlive
    · intro hcaching
      rw [hcaching, hx.off hcaching] at hspoken
      exact hspoken.settled
    · intro hcaching
      rw [hcaching] at hspoken
      exact hspoken.balanced hx.distinct
  | produce i =>
    obtain ⟨talk, hleads, habout⟩ := x.produce_leads i
    apply hleads.enters_idle hx hlive
    intro a ha
    obtain ⟨_, handle, -, -, hrequest⟩ := habout a ha
    exact isIdle_of_isAbout hrequest
  | receive i | cancelStream i | dropStream i =>
    exact (Leads.refl x.connection).enters_idle hx hlive _ (by simp)

/-- The ledger of a whole run, in which the entries of all moves add up. -/
theorem Client.run_enters (x : Client σ) (moves : List Move) (hx : x.connection.InOrder)
    (hlive : (x.run moves).connection.isCancelled = false) :
    (x.run moves).connection.InOrder ∧
      (x.run moves).connection.config = x.connection.config ∧
      (x.connection.config.cacheStatements = false →
        ∀ talk ∈ x.talks moves, Settled Attempt.isRefused talk) ∧
      (x.connection.config.cacheStatements = true →
        ((x.run moves).connection.statements.handles ++
          ((x.talks moves).flatMap (evicted Attempt.isRefused) ++
            (x.talks moves).flatMap closed)).Perm
        (x.connection.statements.handles ++ (x.talks moves).flatMap created) ∧
        (.call .disconnect ∉ moves → (x.talks moves).flatMap closed = [])) := by
  induction moves generalizing x with
  | nil =>
    exact ⟨hx, rfl, fun _ => by simp [talks], fun _ => ⟨.refl _, fun _ => rfl⟩⟩
  | cons move moves ih =>
    have hnext := (x.step move).isCancelled_of_run moves hlive
    have hstep := x.step_enters move hx hnext
    obtain ⟨hinOrder, hconfig, hsettled, hbalanced⟩ := ih (x.step move) hstep.inOrder hlive
    rw [hstep.config] at hconfig hsettled hbalanced
    refine ⟨hinOrder, hconfig, fun hcaching talk htalk => ?_, fun hcaching => ⟨?_, fun hend => ?_⟩⟩
    · rcases List.mem_cons.1 htalk with rfl | htalk
      · exact hstep.settled hcaching
      · exact hsettled hcaching talk htalk
    · have hfirst := hstep.balanced hcaching
      have hrest := (hbalanced hcaching).1
      unfold Balanced at hfirst
      rw [List.perm_iff_count] at hfirst hrest ⊢
      intro handle
      have hfirst := hfirst handle
      have hrest := hrest handle
      simp only [run, List.foldl_cons, talks, List.flatMap_cons, List.count_append] at *
      omega
    · rw [talks, List.flatMap_cons, (hbalanced hcaching).2 fun h => hend (List.mem_cons_of_mem _ h),
        hstep.unclosed hcaching fun h => hend (h ▸ List.mem_cons_self)]
      rfl

/--
Without caching every operation closes what it creates, except a first handle that
was refused, be it by the server or by a transport that fails in just its words. With
caching what was created is in the cache or was evicted, and is not closed before the
connection is; then every cached statement is closed once, in some order.
-/
theorem ledger_of_run (x : Client σ) (moves : List Move)
    (hempty : x.connection.statements = .empty)
    (hlive : (x.run moves).connection.isCancelled = false) :
    (x.connection.config.cacheStatements = false →
      (x.run moves).connection.statements = .empty ∧
        ∀ talk ∈ x.talks moves, Settled Attempt.isRefused talk) ∧
    (x.connection.config.cacheStatements = true →
      ((x.talks moves).flatMap created).Perm
        ((x.run moves).connection.statements.handles ++
          ((x.talks moves).flatMap (evicted Attempt.isRefused) ++
            (x.talks moves).flatMap closed)) ∧
      (.call .disconnect ∉ moves → (x.talks moves).flatMap closed = []) ∧
      ((x.run moves).connection.isOpen = true →
        ((x.run moves).step (.call .disconnect)).connection.isCancelled = false →
        ∃ handles : List Int64, handles.Perm (x.run moves).connection.statements.handles ∧
          ((x.run moves).talk (.call .disconnect)).map Attempt.request =
            handles.map .closeStatement ++ [.disconnect])) := by
  have hx : x.connection.InOrder := by
    refine ⟨?_, fun _ => hempty, fun _ => hempty⟩
    rw [hempty]
    exact StatementCache.distinct_empty
  obtain ⟨hinOrder, hconfig, hsettled, hbalanced⟩ := x.run_enters moves hx hlive
  refine ⟨fun hcaching => ⟨hinOrder.off (hconfig ▸ hcaching), hsettled hcaching⟩, ?_⟩
  intro hcaching
  obtain ⟨hperm, hunclosed⟩ := hbalanced hcaching
  rw [hempty, StatementCache.handles_empty, List.nil_append] at hperm
  refine ⟨hperm.symm, hunclosed, ?_⟩
  intro hopen hlive'
  obtain ⟨talk, hexchanges, hrequests, -⟩ := Connection.disconnect_exchanges hopen hlive'
  refine ⟨_, .refl _, ?_⟩
  rw [← hrequests, ← hexchanges]
  rfl

end Moves

open Connection in
/--
With a server that forgets a statement the first handle is evicted. The second one is
closed at once, or it is cached, and closed at the end.
-/
theorem ledger_of_forgetful_run :
    let plain : Client Rehearsal.Server := { connection := forgetful }
    let caching : Client Rehearsal.Server :=
      { connection := { forgetful with config := { cacheStatements := true } } }
    let moves : List Move := [.call (.execute "INSERT" oneBind)]
    ((plain.talks moves).flatMap created = [1, 2] ∧
      (plain.run moves).connection.statements = .empty ∧
      ∀ talk ∈ plain.talks moves, Settled Attempt.isRefused talk) ∧
    ((caching.run moves).connection.statements.handles = [2] ∧
      ((caching.talks moves).flatMap created).Perm ([2] ++ ([1] ++ [])) ∧
      ((caching.run moves).talk (.call .disconnect)).map Attempt.request =
        [.closeStatement 2, .disconnect]) := by
  intro plain caching moves
  have hplain := (ledger_of_run plain moves rfl (by decide +kernel)).1 rfl
  have hcaching := (ledger_of_run caching moves rfl (by decide +kernel)).2 rfl
  have hhandles : (caching.run moves).connection.statements.handles = [2] := by decide +kernel
  have hevicted : (caching.talks moves).flatMap (evicted Attempt.isRefused) = [1] := by
    decide +kernel
  have hclosed : (caching.talks moves).flatMap closed = [] :=
    hcaching.2.1 (by simp [moves])
  obtain ⟨handles, hperm, hend⟩ := hcaching.2.2 (by decide +kernel) (by decide +kernel)
  rw [hhandles, List.perm_singleton] at hperm
  subst hperm
  refine ⟨⟨by decide +kernel, hplain⟩, hhandles, ?_, hend⟩
  rw [← hhandles, ← hevicted, ← hclosed]
  exact hcaching.1

/-- In a settled talk the books balance as a whole. -/
theorem Settled.created_eq {refused : Attempt → Bool} {talk : List Attempt}
    (h : Settled refused talk) : created talk = evicted refused talk ++ closed talk := by
  obtain ⟨before, after, rfl, hclosed, hcreated, hbalance⟩ := h
  rw [created_append, closed_append, hclosed, hcreated, List.append_nil, List.nil_append]
  exact hbalance

open Connection in
/--
A transport that fails in the words for a lost handle has the first handle evicted, of which
the server has said nothing: without a cache it is not closed, and with one it is not kept.
-/
theorem ledger_not_by_replies :
    let plain : Client Rehearsal.Server := { connection := failing }
    let caching : Client Rehearsal.Server :=
      { connection := { failing with config := { cacheStatements := true } } }
    let moves : List Move := [.call (.execute "INSERT" oneBind)]
    ((plain.run moves).connection.isCancelled = false ∧
      (∀ talk ∈ plain.talks moves, ∀ a ∈ talk, a.reportsLostHandle = false) ∧
      (plain.talks moves).flatMap created = [1, 2] ∧ (plain.talks moves).flatMap closed = [2] ∧
      ¬∀ talk ∈ plain.talks moves, Settled Attempt.reportsLostHandle talk) ∧
    ((caching.run moves).connection.isCancelled = false ∧
      ¬((caching.talks moves).flatMap created).Perm
        ((caching.run moves).connection.statements.handles ++
          ((caching.talks moves).flatMap (evicted Attempt.reportsLostHandle) ++
            (caching.talks moves).flatMap closed))) := by
  intro plain caching moves
  refine ⟨⟨rfl, by decide +kernel, by decide +kernel, by decide +kernel, fun hsettled => ?_⟩, rfl,
    by decide +kernel⟩
  have hbalance := (hsettled _ (List.mem_singleton_self _)).created_eq
  revert hbalance
  decide +kernel

end ExasolClient
