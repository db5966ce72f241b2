-- SUMMARY: Where the handle, the parameters and the values of every prepared execution come from.
import ExasolClient.Proofs.Statement.Ledger

/-!
# Provenance

A prepared execution is put together from three sources: the reply that created the
statement, now or many operations ago, the types that this call gives in place of the
reported ones, and the values that this call binds. The invariant is `Traced`:
whatever is in the cache was told in reply to the creation of its key. Main
statement: in every run, whatever the server answers, each prepared execution carries
the handle and the parameters of a reply for its very statement, and the values of
its own call (`Client.execution_carries`).
-/

namespace ExasolClient

/-! ## Values -/

namespace StatementOptions

/--
The values of a statement, column by column: there is a row and a column, all columns
are of one height, and every value is where the caller has put it.
-/
structure Binds (o : StatementOptions) (data : Cells) : Prop where
  hasColumn : 0 < data.length
  hasRow : 0 < Connection.height data
  rectangular : ∀ column ∈ data, column.length = Connection.height data
  values : ∃ binds, o.binds = some binds ∧ match o.orientation with
    | .columns => data = binds
    | .rows => ∀ column row : Nat, (data[column]?.bind fun values => values[row]?) =
        binds[row]?.bind fun values => values[column]?

/-- The lists of values are not longer than a machine word can count; no others fit in memory. -/
def IsAddressable (o : StatementOptions) : Prop :=
  ∀ binds, o.binds = some binds →
    binds.length < UInt64.size ∧ ∀ values ∈ binds, values.length < UInt64.size

theorem rectangular_of_firstOfOtherLength? {rows : List (List α)} {expected index : Nat}
    (h : firstOfOtherLength? expected index rows = none) : Rectangular expected rows := by
  induction rows generalizing index with
  | nil => exact fun _ hrow => nomatch hrow
  | cons row rows ih =>
    unfold firstOfOtherLength? at h
    split at h
    next hrow =>
      intro other hother
      rcases List.mem_cons.1 hother with rfl | hother
      · exact hrow
      · exact ih h other hother
    next => cases h

/-- Values that are accepted form a matrix with a row and a column. -/
theorem rectangular_of_bindings {o : StatementOptions} {data : Cells}
    (h : o.bindings = .ok (some data)) :
    ∃ binds w, o.binds = some binds ∧ Rectangular (w + 1) binds ∧ binds ≠ [] ∧
      data = match o.orientation with
        | .columns => binds
        | .rows => transpose binds := by
  unfold bindings at h
  split at h
  · cases h
  next binds hbinds =>
    split at h
    · cases h
    next hfilled =>
      split at h
      · cases h
      next hfirst =>
        cases h
        have hrect := rectangular_of_firstOfOtherLength? hfirst
        have hwidth : width binds ≠ 0 := by
          intro hzero
          apply hfilled
          rw [hzero] at hrect
          simpa [List.all_eq_true] using
            fun values hvalues => List.length_eq_zero_iff.1 (hrect values hvalues)
        obtain ⟨w, hw⟩ := Nat.exists_eq_succ_of_ne_zero hwidth
        rw [hw] at hrect
        refine ⟨binds, w, hbinds, hrect, ?_, rfl⟩
        rintro rfl
        exact hfilled rfl

theorem binds_of_bindings {o : StatementOptions} {data : Cells}
    (h : o.bindings = .ok (some data)) : o.Binds data := by
  obtain ⟨binds, w, hbinds, hrect, hne, hdata⟩ := rectangular_of_bindings h
  have hpos : 0 < binds.length := List.length_pos_iff.2 hne
  cases horientation : o.orientation with
  | columns =>
    rw [horientation] at hdata
    dsimp only at hdata
    subst hdata
    have hheight : Connection.height data = w + 1 := width_eq hrect hne
    refine ⟨hpos, ?_, ?_, data, hbinds, ?_⟩
    · rw [hheight]
      exact Nat.succ_pos w
    · rw [hheight]
      exact hrect
    · rw [horientation]
  | rows =>
    rw [horientation] at hdata
    dsimp only at hdata
    rw [transpose, width_eq hrect hne] at hdata
    subst hdata
    have hcolumns := rectangular_columnsOf hrect
    have hwidth : 0 < (columnsOf (w + 1) binds).length := by
      rw [length_columnsOf]
      exact Nat.succ_pos w
    have hheight : Connection.height (columnsOf (w + 1) binds) = binds.length :=
      width_eq hcolumns (List.length_pos_iff.1 hwidth)
    refine ⟨hwidth, ?_, ?_, binds, hbinds, ?_⟩
    · rw [hheight]
      exact hpos
    · rw [hheight]
      exact hcolumns
    · rw [horientation]
      exact columnsOf_getElem? hrect

/-- Of values that are addressable the columns and the rows can be counted. -/
theorem Binds.lt_size {o : StatementOptions} {data : Cells} (h : o.Binds data)
    (ho : o.IsAddressable) : data.length < UInt64.size ∧ Connection.height data < UInt64.size := by
  obtain ⟨binds, hbinds, hvalues⟩ := h.values
  obtain ⟨hlength, hlengths⟩ := ho binds hbinds
  obtain ⟨first, hfirst⟩ : ∃ first, data[0]? = some first :=
    ⟨_, List.getElem?_eq_getElem h.hasColumn⟩
  have hheight := h.rectangular first (List.mem_of_getElem? hfirst)
  cases horientation : o.orientation with
  | columns =>
    rw [horientation] at hvalues
    dsimp only at hvalues
    subst hvalues
    exact ⟨hlength, hheight ▸ hlengths first (List.mem_of_getElem? hfirst)⟩
  | rows =>
    rw [horientation] at hvalues
    dsimp only at hvalues
    -- The last cell of the first column and the last one of the first row bound the lengths.
    have hcell (column row : Nat) (hcolumn : column < data.length)
        (hrow : row < Connection.height data) :
        ∃ values, binds[row]? = some values ∧ column < values.length := by
      have hmem := List.getElem_mem hcolumn
      have hin : row < data[column].length := by rwa [h.rectangular _ hmem]
      have hvalue := hvalues column row
      rw [List.getElem?_eq_getElem hcolumn, Option.bind_some,
        List.getElem?_eq_getElem hin] at hvalue
      obtain ⟨values, hrow', hcolumn'⟩ := Option.bind_eq_some_iff.1 hvalue.symm
      exact ⟨values, hrow', (List.getElem?_eq_some_iff.1 hcolumn').1⟩
    have hcolumns := h.hasColumn
    have hrows := h.hasRow
    obtain ⟨values, hvalues₀, hwide⟩ := hcell (data.length - 1) 0 (by omega) hrows
    obtain ⟨_, hlast, -⟩ := hcell 0 (Connection.height data - 1) hcolumns (by omega)
    have hshort := hlengths values (List.mem_of_getElem? hvalues₀)
    have htall := (List.getElem?_eq_some_iff.1 hlast).1
    omega

end StatementOptions

/-! ## What an execution carries -/

/-- The first columns have other types; their names, their order and all other types stay. -/
structure Retyped (reported : List Column) (types : List DataType) (columns : List Column) :
    Prop where
  fits : types.length ≤ reported.length
  column : ∀ i : Nat, columns[i]? =
    reported[i]?.map fun column => { column with dataType := types[i]?.getD column.dataType }

/-- A statement was created in reply to the request for its text in its schema. -/
def Prepared (told : List Attempt) (key : StatementKey) (s : PreparedStatement) : Prop :=
  ∃ a ∈ told, a.request = key.creation ∧ a.statement = .ok s

/--
What a prepared execution of a statement carries: the handle and the parameters that
were told in reply to its creation, with the types of this call, and the values of
this call.
-/
structure Carries (told : List Attempt) (sql : String) (options : StatementOptions)
    (handle : Int64) (numColumns numRows : UInt64) (columns : List Column) (data : Cells) :
    Prop where
  prepared : ∃ a ∈ told, ∃ s, a.request = .prepare sql
      (options.schema.map fun schema => { currentSchema := some schema }) ∧
    a.statement = .ok s ∧ handle = s.handle ∧
    Retyped s.columns (options.columnTypes.getD []) columns
  binds : options.Binds data
  width : columns.length = data.length
  columnCount : numColumns = .ofNat columns.length
  rowCount : numRows = .ofNat (Connection.height data)
  counts : options.IsAddressable →
    numColumns.toNat = columns.length ∧ numRows.toNat = Connection.height data

theorem PreparedStatement.retype_getElem? (columns : List Column) (types : List DataType)
    (i : Nat) : (retype columns types)[i]? =
      columns[i]?.map fun column => { column with dataType := types[i]?.getD column.dataType } := by
  induction columns generalizing types i with
  | nil => cases types <;> rfl
  | cons column columns ih =>
    cases types with
    | nil => simp [retype]
    | cons type types =>
      cases i with
      | zero => rfl
      | succ i => simpa [retype] using ih types i

theorem PreparedStatement.retyped {s : PreparedStatement} {types : Option (List DataType)}
    {columns : List Column} (h : s.typedColumns types = .ok columns) :
    Retyped s.columns (types.getD []) columns := by
  unfold typedColumns at h
  split at h
  next =>
    cases h
    exact ⟨Nat.zero_le _, fun i => by simp⟩
  next types =>
    split at h
    · cases h
    next hfits =>
      cases h
      exact ⟨Nat.le_of_not_lt hfits, PreparedStatement.retype_getElem? s.columns types⟩

/-- Values that fit a statement have a column for each of its parameters. -/
theorem Connection.checkBinds_eq_ok {s : PreparedStatement} {data : Cells}
    {types : Option (List DataType)} {columns : List Column}
    (h : checkBinds s data types = .ok columns) :
    s.typedColumns types = .ok columns ∧ columns.length = data.length := by
  unfold checkBinds at h
  cases htyped : s.typedColumns types with
  | error fault =>
    rw [htyped] at h
    cases h
  | ok typed =>
    rw [htyped] at h
    simp only [bind, Except.bind] at h
    split at h
    · cases h
    next hlength =>
      cases h
      exact ⟨rfl, Decidable.not_not.1 hlength⟩

section Carries

variable {told told' t t' : List Attempt} {sql : String} {options : StatementOptions}
  {s : PreparedStatement} {data : Cells} {columns : List Column} {a : Attempt}

theorem carries_of_checkBinds (hs : Prepared told ⟨options.schema, sql⟩ s)
    (hdata : options.Binds data) (hcheck : Connection.checkBinds s data options.columnTypes =
      .ok columns) :
    Carries told sql options s.handle (.ofNat columns.length) (.ofNat (Connection.height data))
      columns data := by
  obtain ⟨a, ha, hrequest, hstatement⟩ := hs
  obtain ⟨htyped, hwidth⟩ := Connection.checkBinds_eq_ok hcheck
  refine ⟨⟨a, ha, s, hrequest, hstatement, rfl, PreparedStatement.retyped htyped⟩, hdata, hwidth,
    rfl, rfl, ?_⟩
  intro haddressable
  obtain ⟨hcolumns, hrows⟩ := hdata.lt_size haddressable
  exact ⟨UInt64.toNat_ofNat_of_lt' (hwidth ▸ hcolumns), UInt64.toNat_ofNat_of_lt' hrows⟩

/-- An answer that tells of a statement is an answer to a request that was sent. -/
theorem Attempt.isSent_of_statement (h : a.statement = .ok s) : a.isSent = true := by
  obtain ⟨request, answer⟩ := a
  cases answer <;> first | rfl | cases h

/-- What was told was told in answer to requests that were sent. -/
def Covers (told told' : List Attempt) : Prop := ∀ a ∈ told, a.isSent = true → a ∈ told'

theorem Covers.snoc (h : Covers told told') (a : Attempt) :
    Covers (told ++ [a]) (told' ++ [a]) := by
  intro b hb hsent
  rcases List.mem_append.1 hb with hb | hb
  · exact List.mem_append_left [a] (h b hb hsent)
  · exact List.mem_append_right told' hb

theorem Covers.unsent (h : Covers told told') (ha : a.isSent = false) :
    Covers (told ++ [a]) told' := by
  intro b hb hsent
  rcases List.mem_append.1 hb with hb | hb
  · exact h b hb hsent
  · rw [List.mem_singleton.1 hb, ha] at hsent
    cases hsent

theorem Carries.of_covers {handle : Int64} {numColumns numRows : UInt64}
    (h : Carries told sql options handle numColumns numRows columns data)
    (hcovers : Covers told told') :
    Carries told' sql options handle numColumns numRows columns data := by
  obtain ⟨a, ha, s, hrequest, hstatement, hcolumns⟩ := h.prepared
  exact { h with
    prepared := ⟨a, hcovers a ha (Attempt.isSent_of_statement hstatement), s, hrequest, hstatement,
      hcolumns⟩ }

/-- Every prepared execution of a talk carries what it should, by what was told before it. -/
def Grounded (sql : String) (options : StatementOptions) : (told talk : List Attempt) → Prop
  | _, [] => True
  | told, a :: rest =>
    (∀ handle numColumns numRows columns data,
      a.request = .executePrepared handle numColumns numRows columns data →
      Carries told sql options handle numColumns numRows columns data) ∧
    Grounded sql options (told ++ [a]) rest

theorem Grounded.append (h : Grounded sql options told t)
    (h' : Grounded sql options (told ++ t) t') : Grounded sql options told (t ++ t') := by
  induction t generalizing told with
  | nil => rwa [List.append_nil] at h'
  | cons a rest ih =>
    refine ⟨h.1, ih h.2 ?_⟩
    rwa [List.append_assoc, List.singleton_append]

/-- Where nothing prepared is executed there is nothing to show. -/
theorem Grounded.of_unexecuted (told : List Attempt) (h : ∀ a ∈ t, a.request.executed? = none) :
    Grounded sql options told t := by
  induction t generalizing told with
  | nil => trivial
  | cons a rest ih =>
    refine ⟨?_, ih (told ++ [a]) fun b hb => h b (List.mem_cons_of_mem a hb)⟩
    intro handle numColumns numRows columns data hrequest
    have hnone := h a List.mem_cons_self
    rw [hrequest] at hnone
    cases hnone

/-- It is enough to look at the requests that were sent. -/
theorem Grounded.sent (h : Grounded sql options told t) (hcovers : Covers told told') :
    Grounded sql options told' (t.filter Attempt.isSent) := by
  induction t generalizing told told' with
  | nil => trivial
  | cons a rest ih =>
    cases hsent : a.isSent with
    | true =>
      rw [List.filter_cons_of_pos hsent]
      exact ⟨fun _ _ _ _ _ hrequest => (h.1 _ _ _ _ _ hrequest).of_covers hcovers,
        ih h.2 (hcovers.snoc a)⟩
    | false =>
      rw [List.filter_cons_of_neg (by simp [hsent])]
      exact ih h.2 (hcovers.unsent hsent)

theorem Grounded.carries {before after : List Attempt} {handle : Int64}
    {numColumns numRows : UInt64} (h : Grounded sql options told (before ++ a :: after))
    (hrequest : a.request = .executePrepared handle numColumns numRows columns data) :
    Carries (told ++ before) sql options handle numColumns numRows columns data := by
  induction before generalizing told with
  | nil =>
    rw [List.append_nil]
    exact h.1 _ _ _ _ _ hrequest
  | cons b before ih =>
    have hrest := ih h.2
    rwa [List.append_assoc, List.singleton_append] at hrest

end Carries

/-! ## The invariant -/

/-- Whatever is cached was created for its key. -/
def StatementCache.Traced (cache : StatementCache) (told : List Attempt) : Prop :=
  ∀ key s, cache.find? key = some s → Prepared told key s

section Traced

variable {caching : Bool} {cache cache' : StatementCache} {told told' t : List Attempt}
  {key : StatementKey} {sql : String} {options : StatementOptions} {s : PreparedStatement}
  {data : Cells}

theorem StatementCache.Traced.empty (told : List Attempt) : Traced .empty told := by
  intro key s h
  cases h

theorem Prepared.append (h : Prepared told key s) (t : List Attempt) :
    Prepared (told ++ t) key s := by
  obtain ⟨a, ha, htold⟩ := h
  exact ⟨a, List.mem_append_left t ha, htold⟩

theorem StatementCache.Traced.append (h : cache.Traced told) (t : List Attempt) :
    cache.Traced (told ++ t) :=
  fun key s hfind => (h key s hfind).append t

theorem StatementCache.Traced.of_covers (h : cache.Traced told) (hcovers : Covers told told') :
    cache.Traced told' := by
  intro key s hfind
  obtain ⟨a, ha, hrequest, hstatement⟩ := h key s hfind
  exact ⟨a, hcovers a ha (Attempt.isSent_of_statement hstatement), hrequest, hstatement⟩

theorem StatementCache.Traced.erase (h : cache.Traced told) (key : StatementKey) :
    (cache.erase key).Traced told := by
  intro key' s hfind
  by_cases hkey : key' = key
  · rw [hkey, find?_erase_self] at hfind
    cases hfind
  · rw [find?_erase_of_ne _ hkey] at hfind
    exact h key' s hfind

theorem StatementCache.Traced.keep (h : cache.Traced told) (hs : Prepared told key s)
    (caching : Bool) : (cache.keep caching key s).Traced told := by
  unfold StatementCache.keep
  split
  · intro key' s' hfind
    by_cases hkey : key' = key
    · rw [hkey, find?_insert_self] at hfind
      cases hfind
      exact hkey ▸ hs
    · rw [find?_insert_of_ne _ hkey] at hfind
      exact h key' s' hfind
  · exact h

/-! ## The steps of a statement -/

theorem Provided.traced {result : Except Fault PreparedStatement}
    (h : Provided caching cache key t cache' result) (hcache : cache.Traced told) :
    cache'.Traced (told ++ t) ∧ ∀ s, result = .ok s → Prepared (told ++ t) key s := by
  cases h with
  | found hfind =>
    rw [List.append_nil]
    refine ⟨hcache, fun found hfound => ?_⟩
    cases hfound
    exact hcache key _ hfind
  | @refused a _ _ _ _ => exact ⟨hcache.append [a], fun s hs => nomatch hs⟩
  | @created a s _ hrequest hstatement =>
    have hprepared : Prepared (told ++ [a]) key s :=
      ⟨a, List.mem_append_right told List.mem_cons_self, hrequest, hstatement⟩
    refine ⟨(hcache.append [a]).keep hprepared caching, ?_⟩
    rintro s ⟨⟩
    exact hprepared

theorem Executed.grounded {result : Except Fault ExecuteResult}
    (h : Executed s data options.columnTypes t result)
    (hs : Prepared told ⟨options.schema, sql⟩ s) (hdata : options.Binds data) :
    Grounded sql options told t := by
  cases h with
  | unfit _ => trivial
  | sent hcheck hrequest =>
    refine ⟨?_, trivial⟩
    intro handle numColumns numRows columns' data' hsame
    rw [hrequest] at hsame
    cases hsame
    exact carries_of_checkBinds hs hdata hcheck

theorem Tried.traced {handle : Option Int64} {result : Except Fault ExecuteResult}
    (h : Tried caching cache ⟨options.schema, sql⟩ data options.columnTypes s t cache' handle
      result)
    (hcache : cache.Traced told) (hs : Prepared told ⟨options.schema, sql⟩ s)
    (hdata : options.Binds data) :
    cache'.Traced (told ++ t) ∧ Grounded sql options told t := by
  cases h with
  | settled hexecuted _ => exact ⟨hcache.append t, hexecuted.grounded hs hdata⟩
  | @lost t₁ t₂ _ _ _ hexecuted _ hagain =>
    obtain ⟨hcache', -⟩ := hagain.traced ((hcache.append t₁).erase _)
    rw [List.append_assoc] at hcache'
    exact ⟨hcache', (hexecuted.grounded hs hdata).append (.of_unexecuted _ hagain.executed)⟩
  | @renewed t₁ t₂ t₃ _ fresh _ _ hexecuted _ hagain hexecuted' =>
    obtain ⟨hcache', hfresh⟩ := hagain.traced ((hcache.append t₁).erase _)
    have hexecution := hexecuted'.grounded (hfresh fresh rfl) hdata
    have hcache'' := hcache'.append t₃
    rw [List.append_assoc, List.append_assoc] at hcache''
    exact ⟨hcache'', (hexecuted.grounded hs hdata).append
      ((Grounded.of_unexecuted _ hagain.executed).append hexecution)⟩

theorem PreparedRun.traced {result : Except Fault ExecuteResult}
    (h : PreparedRun caching cache ⟨options.schema, sql⟩ data options.columnTypes t cache' result)
    (hcache : cache.Traced told) (hdata : options.Binds data) :
    cache'.Traced (told ++ t) ∧ Grounded sql options told t := by
  cases h with
  | unprepared hprovided =>
    exact ⟨(hprovided.traced hcache).1, .of_unexecuted told hprovided.executed⟩
  | @prepared t₁ t₂ t₃ _ _ s _ _ hprovided htried hdisposed =>
    obtain ⟨hcache₁, hs⟩ := hprovided.traced hcache
    obtain ⟨hcache₂, hgrounded⟩ := htried.traced hcache₁ (hs s rfl) hdata
    have hcache₃ := hcache₂.append t₃
    rw [List.append_assoc, List.append_assoc] at hcache₃
    exact ⟨hcache₃, (Grounded.of_unexecuted told hprovided.executed).append
      (hgrounded.append (.of_unexecuted _ hdisposed.executed))⟩

theorem Performed.traced {result : Except Fault ExecuteResult}
    (h : Performed caching cache ⟨options.schema, sql⟩ options t cache' result)
    (hcache : cache.Traced told) :
    cache'.Traced (told ++ t) ∧ Grounded sql options told t := by
  cases h with
  | misshapen _ => exact ⟨hcache.append [], trivial⟩
  | @directly a _ hrequest =>
    refine ⟨hcache.append [a], .of_unexecuted told ?_⟩
    simpa using (isIdle_execution hrequest).executed
  | prepared hbindings hrun =>
    exact hrun.traced hcache (StatementOptions.binds_of_bindings hbindings)

end Traced

/-! ## Operations -/

/-- The statement that an operation executes. -/
def Operation.statement? : Operation → Option (String × StatementOptions)
  | .execute sql options | .query sql options | .queryAll sql options => some (sql, options)
  | .commit => some ("COMMIT", {})
  | .rollback => some ("ROLLBACK", {})
  | .getAttributes | .setAttributes _ | .enableAutocommit | .disableAutocommit
  | .setQueryTimeout _ | .disconnect | .cancel => none

/-- What an operation says: it begins with its statement, if it has one. -/
inductive Stated (caching : Bool) (cache : StatementCache) :
    Option (String × StatementOptions) → List Attempt → StatementCache → Prop where
  | aside {t : List Attempt} : (∀ a ∈ t, a.IsIdle) → Stated caching cache none t cache
  | statement {sql : String} {options : StatementOptions} {before after : List Attempt}
      {cache' : StatementCache} {result : Except Fault ExecuteResult} :
      Performed caching cache ⟨options.schema, sql⟩ options before cache' result →
      (∀ a ∈ after, a.IsIdle) →
      Stated caching cache (some (sql, options)) (before ++ after) cache'

section Stated

variable {caching : Bool} {cache cache' : StatementCache} {told t : List Attempt}
  {sql : String} {options : StatementOptions}

theorem Counted.stated {result : Except Fault Int64}
    (h : Counted caching cache ⟨options.schema, sql⟩ options t cache' result) :
    Stated caching cache (some (sql, options)) t cache' := by
  have hnil : ∀ a ∈ ([] : List Attempt), a.IsIdle := fun _ ha => nomatch ha
  cases h with
  | failed hperformed => exact List.append_nil t ▸ .statement hperformed hnil
  | counted hperformed _ => exact List.append_nil t ▸ .statement hperformed hnil
  | released hperformed _ hrequest =>
    exact .statement hperformed (by simpa using isIdle_of_isAbout (.inr hrequest))

theorem Queried.stated {result : Except Fault Stream} {more : List Attempt}
    (h : Queried caching cache ⟨options.schema, sql⟩ options t cache' result)
    (hmore : ∀ a ∈ more, a.IsIdle) :
    Stated caching cache (some (sql, options)) (t ++ more) cache' := by
  cases h with
  | failed hperformed => exact .statement hperformed hmore
  | opened hperformed _ => exact .statement hperformed hmore

namespace Connection

variable [Transport σ] {c : Connection σ}

theorem unheeded_stated {action : Action σ α} {P : Grammar α}
    {statement? : Option (String × StatementOptions)} (h : action.Follows c P)
    (hp : ∀ talk cache result, P talk cache result →
      Stated c.config.cacheStatements c.statements statement? talk cache) :
    ∃ talk cache, Leads c talk cache (Quiet.on action.unheeded c).2 ∧
      Stated c.config.cacheStatements c.statements statement? talk cache := by
  obtain ⟨talk, cache, result, hP, hyields⟩ := h
  have hunheeded : Quiet.Yields action.unheeded c talk cache none :=
    .bind_attempt hyields fun d hleads => hleads.quiet_pure none
  exact ⟨talk, cache, hunheeded.leads, hp _ _ _ hP⟩

/-- Reading or changing the session attributes is not about statements. -/
theorem aside_of_attributes {r : Request}
    (hr : r = .getAttributes ∨ ∃ attributes, r = .setAttributes attributes)
    (h : (∃ a : Attempt, t = [a] ∧ a.request = r) ∧ cache' = cache) :
    Stated caching cache none t cache' := by
  obtain ⟨⟨a, rfl, rfl⟩, rfl⟩ := h
  apply Stated.aside
  intro b hb
  rw [List.mem_singleton] at hb
  subst hb
  obtain hr | ⟨attributes, hr⟩ := hr <;> constructor <;>
    simp [Attempt.created?, Request.closed?, Request.executed?, hr]

end Connection

open Connection in
/-- What an operation says that does not end the connection begins with its statement. -/
theorem Operation.perform_stated [Transport σ] (op : Operation) (c : Connection σ)
    (hend : op ≠ .disconnect) (hcancel : op ≠ .cancel) :
    ∃ talk cache, Leads c talk cache (Quiet.on op.perform c).2 ∧
      Stated c.config.cacheStatements c.statements op.statement? talk cache := by
  cases op with
  | getAttributes =>
    exact unheeded_stated (refreshAttributes_follows c) fun _ _ _ => aside_of_attributes (.inl rfl)
  | setAttributes attributes =>
    exact unheeded_stated (.mapFault _ (tell_follows (.setAttributes attributes) rfl c)
      fun _ _ _ h => h) fun _ _ _ => aside_of_attributes (.inr ⟨attributes, rfl⟩)
  | enableAutocommit =>
    exact unheeded_stated (.mapFault _ (changeAutocommit_follows true c) fun _ _ _ h => h)
      fun _ _ _ => aside_of_attributes (.inr ⟨_, rfl⟩)
  | disableAutocommit =>
    exact unheeded_stated (.mapFault _ (changeAutocommit_follows false c) fun _ _ _ h => h)
      fun _ _ _ => aside_of_attributes (.inr ⟨_, rfl⟩)
  | setQueryTimeout timeout =>
    exact unheeded_stated (.mapFault _ (tell_follows
      (.setAttributes { queryTimeout := some timeout.wholeSeconds }) rfl c) fun _ _ _ h => h)
      fun _ _ _ => aside_of_attributes (.inr ⟨_, rfl⟩)
  | commit =>
    exact unheeded_stated
      (runForEffect_follows "COMMIT" {} c (fun c => .committing c.session.sessionId) _)
      fun _ _ _ ⟨_, hcounted⟩ => hcounted.stated
  | rollback =>
    exact unheeded_stated
      (runForEffect_follows "ROLLBACK" {} c (fun c => .rollingBack c.session.sessionId) _)
      fun _ _ _ ⟨_, hcounted⟩ => hcounted.stated
  | execute sql options =>
    exact unheeded_stated (execute_follows sql options c)
      fun _ _ _ ⟨_, hcounted⟩ => hcounted.stated
  | query sql options =>
    obtain ⟨talk, cache, result, hqueried, hyields⟩ := query_follows sql options c
    have hperform : Quiet.Yields (Operation.query sql options).perform c talk cache
        result.toOption :=
      .bind_attempt hyields fun d hleads => hleads.quiet_pure _
    exact ⟨talk, cache, hperform.leads,
      List.append_nil talk ▸ hqueried.stated fun _ ha => nomatch ha⟩
  | queryAll sql options =>
    refine unheeded_stated (queryAll_follows sql options c) ?_
    rintro talk _ _ (⟨fault, hqueried⟩ | ⟨t, more, s, rfl, hqueried, hsays⟩)
    · have hnil : ∀ a ∈ ([] : List Attempt), a.IsIdle := fun _ ha => nomatch ha
      have hstated := hqueried.stated hnil
      rwa [List.append_nil] at hstated
    · exact hqueried.stated <| isIdle_of_says hsays
  | disconnect => exact absurd rfl hend
  | cancel => exact absurd rfl hcancel

end Stated

/-! ## Moves -/

/-- In a move only the statement of an operation is executed. -/
def Move.Executes (move : Move) (told talk : List Attempt) : Prop :=
  (∀ a ∈ talk, a.request.executed? = none) ∨
    ∃ op sql options, move = .call op ∧ op.statement? = some (sql, options) ∧
      Grounded sql options told talk

section Moves

variable [Transport σ] {c d : Connection σ} {talk told : List Attempt} {cache : StatementCache}

/-- What was told, before and now, is found in the exchanges. -/
theorem covers_sent (told talk : List Attempt) :
    Covers (told ++ talk) (told ++ talk.filter Attempt.isSent) := by
  intro a ha hsent
  rcases List.mem_append.1 ha with ha | ha
  · exact List.mem_append_left _ ha
  · exact List.mem_append_right told (List.mem_filter.2 ⟨ha, hsent⟩)

/-- Of what an operation says, what was sent is grounded and accounts for the cache. -/
theorem Stated.traced {caching : Bool} {cache cache' : StatementCache}
    {statement? : Option (String × StatementOptions)}
    (h : Stated caching cache statement? talk cache') (hcache : cache.Traced told) :
    cache'.Traced (told ++ talk.filter Attempt.isSent) ∧
      ((∀ a ∈ talk.filter Attempt.isSent, a.request.executed? = none) ∨
        ∃ sql options, statement? = some (sql, options) ∧
          Grounded sql options told (talk.filter Attempt.isSent)) := by
  cases h with
  | aside hidle =>
    exact ⟨hcache.append _, .inl fun a ha => (hidle a (List.mem_filter.1 ha).1).executed⟩
  | @statement sql options before after _ _ hperformed hidle =>
    obtain ⟨htraced, hgrounded⟩ := hperformed.traced hcache
    have htraced' := htraced.append after
    rw [List.append_assoc] at htraced'
    have hafter : Grounded sql options (told ++ before) after :=
      .of_unexecuted _ fun a ha => (hidle a ha).executed
    exact ⟨htraced'.of_covers (covers_sent told _),
      .inr ⟨sql, options, rfl, (hgrounded.append hafter).sent fun a ha _ => ha⟩⟩

/-- Disconnecting empties the cache, and executes nothing. -/
theorem Client.disconnect_traced (x : Client σ) (h : x.connection.statements.Traced told) :
    (x.step (.call .disconnect)).connection.statements.Traced
        (told ++ x.talk (.call .disconnect)) ∧
      ∀ a ∈ x.talk (.call .disconnect), a.request.executed? = none := by
  cases hopen : x.connection.isOpen with
  | false =>
    obtain ⟨hsame, hnone⟩ := x.disconnect_closed hopen
    rw [hsame, hnone, List.append_nil]
    exact ⟨h, fun a ha => nomatch ha⟩
  | true =>
    obtain ⟨talk, d, hleads, hrequests, hon, hexchanges⟩ := Connection.disconnect_sends hopen
    have hempty : (x.step (.call .disconnect)).connection.statements = .empty :=
      (congrArg Connection.statements hon).trans hleads.statements
    refine ⟨hempty ▸ .empty _, fun a ha => ?_⟩
    have hsaid : a ∈ talk.filter Attempt.isSent := hexchanges ▸ ha
    have hmem : a.request ∈ talk.map Attempt.request :=
      List.mem_map_of_mem (List.mem_filter.1 hsaid).1
    rw [hrequests, List.mem_append, List.mem_map, List.mem_singleton] at hmem
    obtain ⟨handle, -, hrequest⟩ | hrequest := hmem
    · rw [← hrequest]
      rfl
    · rw [hrequest]
      rfl

theorem Client.step_traced (x : Client σ) (move : Move)
    (h : x.connection.statements.Traced told) :
    (x.step move).connection.statements.Traced (told ++ x.talk move) ∧
      move.Executes told (x.talk move) := by
  cases move with
  | call op =>
    by_cases hend : op = .disconnect
    · subst hend
      exact (x.disconnect_traced h).imp_right .inl
    by_cases hcancel : op = .cancel
    · subst hcancel
      have hnone : x.talk (.call .cancel) = [] := (Leads.refl x.connection).exchanges
      rw [hnone, List.append_nil]
      exact ⟨h, .inl fun a ha => nomatch ha⟩
    obtain ⟨talk, cache, hleads, hstated⟩ := op.perform_stated x.connection hend hcancel
    have hsaid : x.talk (.call op) = talk.filter Attempt.isSent := hleads.exchanges
    have hcache : (x.step (.call op)).connection.statements = cache := hleads.statements
    rw [hsaid, hcache]
    refine (hstated.traced h).imp_right fun hexecutes => hexecutes.imp_right ?_
    rintro ⟨sql, options, hstatement, hgrounded⟩
    exact ⟨op, sql, options, rfl, hstatement, hgrounded⟩
  | produce i =>
    obtain ⟨talk, hleads, habout⟩ := x.produce_leads i
    have hsaid : x.talk (.produce i) = talk.filter Attempt.isSent := hleads.exchanges
    rw [hsaid, hleads.statements]
    refine ⟨h.append _, .inl ?_⟩
    intro a ha
    obtain ⟨_, handle, -, -, hrequest⟩ := habout a (List.mem_filter.1 ha).1
    exact (isIdle_of_isAbout hrequest).executed
  | receive i | cancelStream i | dropStream i =>
    have hnone :
        Event.exchanges (x.connection.journal.toList.drop x.connection.journal.size) = [] :=
      (Leads.refl x.connection).exchanges
    refine ⟨h.append _, .inl ?_⟩
    intro a ha
    have hmem : a ∈ ([] : List Attempt) := hnone ▸ ha
    cases hmem

/-- Whatever is cached after a run was told in one of its exchanges, or before. -/
theorem Client.run_traced (x : Client σ) (moves : List Move)
    (h : x.connection.statements.Traced told) :
    (x.run moves).connection.statements.Traced (told ++ (x.talks moves).flatten) := by
  induction moves generalizing x told with
  | nil => exact h.append []
  | cons move moves ih =>
    have hrest := ih (x.step move) (x.step_traced move h).1
    rwa [List.append_assoc] at hrest

/-- Every prepared execution of a run is grounded in what was told before it. -/
theorem Client.execution_carries (x : Client σ) {moves : List Move} {move : Move}
    {before after : List Attempt} {a : Attempt} {handle : Int64} {numColumns numRows : UInt64}
    {columns : List Column} {data : Cells} (hempty : x.connection.statements = .empty)
    (htalk : (x.run moves).talk move = before ++ a :: after)
    (hrequest : a.request = .executePrepared handle numColumns numRows columns data) :
    ∃ op sql options, move = .call op ∧ op.statement? = some (sql, options) ∧
      Carries ((x.talks moves).flatten ++ before) sql options handle numColumns numRows columns
        data := by
  have hcache : x.connection.statements.Traced [] := hempty ▸ .empty []
  have htraced := x.run_traced moves hcache
  rw [List.nil_append] at htraced
  obtain ⟨-, hnone | ⟨op, sql, options, hmove, hstatement, hgrounded⟩⟩ :=
    (x.run moves).step_traced move htraced
  · have hexecuted := hnone a (htalk ▸ List.mem_append_right before List.mem_cons_self)
    rw [hrequest] at hexecuted
    cases hexecuted
  · rw [htalk] at hgrounded
    exact ⟨op, sql, options, hmove, hstatement, hgrounded.carries hrequest⟩

end Moves

end ExasolClient
