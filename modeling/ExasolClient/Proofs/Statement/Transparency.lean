-- SUMMARY: Callers cannot tell whether prepared statements are cached.
import ExasolClient.Proofs.Statement.Servers

/-!
# Caching is invisible

A server that answers every request is described by what its statements do to the
database (`Behaviour`) and by which handles are live (`Serves`). Between two
operations it may forget any of them; a client that caches then finds its handle
refused, and prepares the statement anew. The invariant is `Known`: whatever is in
the cache was compiled for its key, and if its handle is live, then for that key.
Main statement: with and without a cache a sequence of executions has the same
results and leaves the same database behind (`caching_invisible`), as long as the
server does not give the handle of one statement to another.
-/

namespace ExasolClient

/-! ## What callers see -/

namespace Behaviour

variable {δ : Type} (b : Behaviour δ)

/-- A compiled statement is executed, if the values to bind fit it. -/
def executeBound (db : δ) (key : StatementKey) (columns : List Column) (data : Cells)
    (types : Option (List DataType)) : Except Fault ExecuteResult × δ :=
  match Connection.checkBinds ⟨0, columns⟩ data types with
  | .error fault => (.error (.argument fault), db)
  | .ok columns =>
    let outcome := b.execute db key columns data
    (outcome.1.mapError Exception.fault, outcome.2)

/-- A statement with values to bind is compiled and executed. -/
def prepared (db : δ) (key : StatementKey) (data : Cells) (types : Option (List DataType)) :
    Except Fault ExecuteResult × δ :=
  match b.compile key with
  | .error e => (.error e.fault, db)
  | .ok columns =>
    let outcome := b.executeBound db key columns data types
    (outcome.1.mapError (.withSql key.sql), outcome.2)

/-- A statement is executed. -/
def performed (db : δ) (key : StatementKey) (options : StatementOptions) :
    Except Fault ExecuteResult × δ :=
  match options.bindings with
  | .error fault => (.error (.argument fault), db)
  | .ok none =>
    let outcome := b.direct db key
    ((outcome.1.mapError Exception.fault).mapError (.withSql key.sql), outcome.2)
  | .ok (some data) => b.prepared db key data options.columnTypes

/-- What a caller sees of an execution, and the database that it leaves behind. -/
def seen (db : δ) (sql : String) (options : StatementOptions) : Except Fault Int64 × δ :=
  let outcome := b.performed db ⟨options.schema, sql⟩ options
  ((outcome.1.map ExecuteResult.rowsAffected).mapError (.context "Unable to execute"), outcome.2)

/-- What callers see of a sequence of executions. -/
def seenOf (db : δ) : List (String × StatementOptions) → List (Except Fault Int64 × δ)
  | [] => []
  | (sql, options) :: rest => b.seen db sql options :: seenOf (b.seen db sql options).2 rest

end Behaviour

/--
A sequence of executions on a connection, before each of which the server may forget
handles: what callers saw, with the database afterwards, and the exchanges.
-/
inductive Executions [Transport σ] (database : σ → δ) (live : σ → Int64 → Option StatementKey) :
    Connection σ → List (String × StatementOptions) → List (Except Fault Int64 × δ) →
      List Attempt → Prop where
  | nil (c : Connection σ) : Executions database live c [] [] []
  | cons {c d : Connection σ} {p : σ} {sql : String} {options : StatementOptions}
      {result : Except Fault Int64} {rest : List (String × StatementOptions)}
      {seen : List (Except Fault Int64 × δ)} {talk : List Attempt} :
      Forgets database live c.peer p →
      (Connection.execute sql options).on { c with peer := p } = (result, d) →
      Executions database live d rest seen talk →
      Executions database live c ((sql, options) :: rest) ((result, database d.peer) :: seen)
        (Event.exchanges (d.journal.toList.drop c.journal.size) ++ talk)

/--
What callers see of a sequence of executions, and the exchanges, when the server
forgets handles as `forget` says.
-/
def observe [Transport σ] (database : σ → δ) (forget : σ → σ) :
    Connection σ → List (String × StatementOptions) →
      List (Except Fault Int64 × δ) × List Attempt
  | _, [] => ([], [])
  | c, (sql, options) :: rest =>
    let (result, d) := (Connection.execute sql options).on { c with peer := forget c.peer }
    let (seen, talk) := observe database forget d rest
    ((result, database d.peer) :: seen,
      Event.exchanges (d.journal.toList.drop c.journal.size) ++ talk)

/-- Whatever a server forgets, every sequence can be executed. -/
theorem executions_observe [Transport σ] {database : σ → δ}
    {live : σ → Int64 → Option StatementKey} {forget : σ → σ}
    (hforget : ∀ p, Forgets database live p (forget p)) (c : Connection σ)
    (ops : List (String × StatementOptions)) :
    Executions database live c ops (observe database forget c ops).1
      (observe database forget c ops).2 := by
  induction ops generalizing c with
  | nil => exact .nil c
  | cons op rest ih => exact .cons (hforget c.peer) rfl (ih _)

/-- No two requests are answered with the same handle, unless they are the same. -/
def Unambiguous (talk : List Attempt) : Prop :=
  ∀ a ∈ talk, ∀ a' ∈ talk, a.created?.isSome = true → a.created? = a'.created? →
    a.request = a'.request

instance (talk : List Attempt) : Decidable (Unambiguous talk) :=
  inferInstanceAs (Decidable (∀ a ∈ talk, ∀ a' ∈ talk, _ → _ → _))

theorem Unambiguous.of_append {talk more : List Attempt} (h : Unambiguous (talk ++ more)) :
    Unambiguous talk :=
  fun a ha a' ha' => h a (List.mem_append_left more ha) a' (List.mem_append_left more ha')

/-! ## The invariant -/

/-- Whatever is cached was compiled for its key, and its handle is live for no other one. -/
def Known (b : Behaviour δ) (live : σ → Int64 → Option StatementKey) (p : σ)
    (cache : StatementCache) (talk : List Attempt) : Prop :=
  ∀ key s, cache.find? key = some s →
    b.compile key = .ok s.columns ∧
    (∃ a ∈ talk, a.request = key.creation ∧ a.created? = some s.handle) ∧
    ∀ key', live p s.handle = some key' → key' = key

theorem StatementKey.creation_injective {key key' : StatementKey}
    (h : key.creation = key'.creation) : key = key' := by
  obtain ⟨schema, sql⟩ := key
  obtain ⟨schema', sql'⟩ := key'
  simp only [creation, Request.prepare.injEq] at h
  obtain ⟨rfl, hschema⟩ := h
  cases schema <;> cases schema' <;> simp_all [Attributes.ofSchema]

section Invariant

variable {live : σ → Int64 → Option StatementKey} {b : Behaviour δ} {p p' : σ}
  {cache : StatementCache} {talk : List Attempt} {a : Attempt} {key : StatementKey}
  {caching : Bool} {s : PreparedStatement}

theorem Known.empty (b : Behaviour δ) (live : σ → Int64 → Option StatementKey) (p : σ)
    (talk : List Attempt) : Known b live p .empty talk := by
  intro key s h
  cases h

theorem Known.mono (h : Known b live p cache talk) (hshrinks : Shrinks live p p')
    (t : List Attempt) : Known b live p' cache (talk ++ t) := by
  intro key s hfind
  obtain ⟨hcompile, ⟨a, ha, hcreated⟩, hlive⟩ := h key s hfind
  exact ⟨hcompile, ⟨a, List.mem_append_left t ha, hcreated⟩,
    fun key' hkey' => hlive key' (hshrinks _ _ hkey')⟩

theorem Known.erase (h : Known b live p cache talk) (key : StatementKey) :
    Known b live p (cache.erase key) talk := by
  intro key' s hfind
  by_cases hkey : key' = key
  · rw [hkey, StatementCache.find?_erase_self] at hfind
    cases hfind
  · rw [StatementCache.find?_erase_of_ne _ hkey] at hfind
    exact h key' s hfind

/-- A statement that was just created may be cached, if its handle names no other statement. -/
theorem Known.insert (h : Known b live p cache talk)
    (hrequest : a.request = key.creation) (hcreated : a.created? = some s.handle)
    (hcompile : b.compile key = .ok s.columns) (hnew : live p' s.handle = some key)
    (hold : ∀ other key', other ≠ s.handle → live p' other = some key' → live p other = some key')
    (hone : Unambiguous (talk ++ [a])) : Known b live p' (cache.insert key s) (talk ++ [a]) := by
  intro key' s' hfind
  by_cases hkey : key' = key
  · rw [hkey, StatementCache.find?_insert_self] at hfind
    cases hfind
    refine ⟨hkey ▸ hcompile, ⟨a, by simp, hkey ▸ hrequest, hcreated⟩, ?_⟩
    intro key'' hlive
    rw [hnew] at hlive
    cases hlive
    exact hkey.symm
  · rw [StatementCache.find?_insert_of_ne _ hkey] at hfind
    obtain ⟨hcompile', ⟨a', ha', hrequest', hcreated'⟩, hlive'⟩ := h key' s' hfind
    refine ⟨hcompile', ⟨a', by simp [ha'], hrequest', hcreated'⟩, ?_⟩
    intro key'' hlive
    have hother : s'.handle ≠ s.handle := by
      intro hhandle
      have hsame := hone a' (by simp [ha']) a (by simp) (by rw [hcreated']; rfl)
        (by rw [hcreated', hcreated, hhandle])
      rw [hrequest, hrequest'] at hsame
      exact hkey (StatementKey.creation_injective hsame)
    exact hlive' key'' (hold _ _ hother hlive)

/-- The cache is empty without caching, and else what it holds is known. -/
structure Sound (b : Behaviour δ) (live : σ → Int64 → Option StatementKey) (caching : Bool) (p : σ)
    (cache : StatementCache) (talk : List Attempt) : Prop where
  known : Known b live p cache talk
  bare : caching = false → cache = .empty

theorem Sound.mono (h : Sound b live caching p cache talk) (hshrinks : Shrinks live p p')
    (t : List Attempt) : Sound b live caching p' cache (talk ++ t) :=
  ⟨h.known.mono hshrinks t, h.bare⟩

theorem Sound.erase (h : Sound b live caching p cache talk) (key : StatementKey) :
    Sound b live caching p (cache.erase key) talk :=
  ⟨h.known.erase key, fun hbare => by rw [h.bare hbare]; rfl⟩

theorem Attempt.created?_of_statement (hrequest : a.request = key.creation)
    (hstatement : a.statement = .ok s) : a.created? = some s.handle := by
  have hkind : a.created? = a.statement.toOption.map PreparedStatement.handle := by
    unfold Attempt.created?
    rw [hrequest]
    rfl
  rw [hkind, hstatement]
  rfl

/-- What was just created may be kept. -/
theorem Sound.keep (h : Sound b live caching p cache talk) (hrequest : a.request = key.creation)
    (hcreated : a.created? = some s.handle) (hcompile : b.compile key = .ok s.columns)
    (hnew : live p' s.handle = some key)
    (hold : ∀ other key', other ≠ s.handle → live p' other = some key' → live p other = some key')
    (hone : caching = true → Unambiguous (talk ++ [a])) :
    Sound b live caching p' (cache.keep caching key s) (talk ++ [a]) := by
  cases caching with
  | true =>
    exact ⟨h.known.insert hrequest hcreated hcompile hnew hold (hone rfl), (nomatch ·)⟩
  | false =>
    have hkeep : cache.keep false key s = .empty := h.bare rfl
    rw [hkeep]
    exact ⟨.empty b live p' _, fun _ => rfl⟩

end Invariant

/-! ## Talks with a server -/

section Talks

variable [Transport σ] {database : σ → δ} {live : σ → Int64 → Option StatementKey}
  {b : Behaviour δ} {p p' : σ} {l : Line σ} {cache cache' : StatementCache}
  {talk t : List Attempt} {a : Attempt} {key : StatementKey} {caching : Bool}
  {s : PreparedStatement} {data : Cells} {types : Option (List DataType)}

/-- A statement was compiled for a key, and its handle is live for no other one. -/
structure IsFor (b : Behaviour δ) (live : σ → Int64 → Option StatementKey) (p : σ)
    (key : StatementKey) (s : PreparedStatement) : Prop where
  compiled : b.compile key = .ok s.columns
  own : ∀ key', live p s.handle = some key' → key' = key

/-- The statement in hand is the one for a key, live if it was just created. -/
def Supplied (b : Behaviour δ) (live : σ → Int64 → Option StatementKey) (p : σ)
    (key : StatementKey) (isNew : Prop) : Except Fault PreparedStatement → Prop
  | .error fault => ∃ e, b.compile key = .error e ∧ fault = e.fault
  | .ok s => IsFor b live p key s ∧ (isNew → live p s.handle = some key)

theorem Provided.supplied {result : Except Fault PreparedStatement}
    (h : Provided caching cache key t cache' result) (server : Serves database live b)
    (hsound : Sound b live caching p cache talk)
    (hone : caching = true → Unambiguous (talk ++ t)) (hline : Talk (Line.ready p) t l) :
    ∃ p', l = Line.ready p' ∧ database p' = database p ∧
      Sound b live caching p' cache' (talk ++ t) ∧
      Supplied b live p' key (cache.find? key = none) result := by
  cases h with
  | @found s hfind =>
    obtain ⟨hcompile, -, hown⟩ := hsound.known key s hfind
    refine ⟨p, hline.of_nil, rfl, ?_, ⟨hcompile, hown⟩, fun hnone => ?_⟩
    · rwa [List.append_nil]
    · rw [hfind] at hnone
      cases hnone
  | @refused a fault hfind hrequest hstatement =>
    obtain ⟨ha, hl⟩ := server.single hline hrequest
    cases hcompile : b.compile key with
    | ok columns =>
      obtain ⟨handle, hcreated, -⟩ := server.compiled p key columns hcompile
      rw [← ha, hstatement] at hcreated
      cases hcreated
    | error e =>
      obtain ⟨hrefused, hdatabase, hshrinks⟩ := server.uncompiled p key e hcompile
      rw [← ha, hstatement] at hrefused
      cases hrefused
      exact ⟨_, hl, hdatabase, hsound.mono hshrinks [a], e, hcompile, rfl⟩
  | @created a s hfind hrequest hstatement =>
    obtain ⟨ha, hl⟩ := server.single hline hrequest
    cases hcompile : b.compile key with
    | error e =>
      have hrefused := (server.uncompiled p key e hcompile).1
      rw [← ha, hstatement] at hrefused
      cases hrefused
    | ok columns =>
      obtain ⟨handle, hcreated, hdatabase, hnew, hold⟩ := server.compiled p key columns hcompile
      rw [← ha, hstatement] at hcreated
      cases hcreated
      have hkept := hsound.keep hrequest (Attempt.created?_of_statement hrequest hstatement)
        hcompile hnew hold hone
      refine ⟨_, hl, hdatabase, hkept, ⟨hcompile, fun key' hkey' => ?_⟩, fun _ => hnew⟩
      rw [hnew] at hkey'
      cases hkey'
      rfl

/-! ## Executions -/

/-- A handle that the server does not know is refused, and all else is its behaviour. -/
theorem Executed.outcome {result : Except Fault ExecuteResult} (h : Executed s data types t result)
    (server : Serves database live b) (hs : IsFor b live p key s)
    (hline : Talk (Line.ready p) t l) :
    ∃ p', l = Line.ready p' ∧ Shrinks live p p' ∧
      ((IsStale result ∧ live p s.handle = none ∧ database p' = database p) ∨
        (¬IsStale result ∧
          (result, database p') = b.executeBound (database p) key s.columns data types)) := by
  cases h with
  | @unfit fault hbinds =>
    have hfresh : ¬IsStale (.error (.argument fault)) := by
      rw [isStale_error]
      exact Bool.false_ne_true
    refine ⟨p, hline.of_nil, fun _ _ hlive => hlive, .inr ⟨hfresh, ?_⟩⟩
    unfold Behaviour.executeBound
    have hbinds' : Connection.checkBinds ⟨0, s.columns⟩ data types = .error fault := hbinds
    rw [hbinds']
  | @sent columns a hbinds hrequest =>
    obtain ⟨ha, hl⟩ := server.single hline hrequest
    cases hlive : live p s.handle with
    | none =>
      obtain ⟨hrefused, hdatabase, hshrinks⟩ := server.refused p s columns data hlive
      rw [← ha] at hrefused
      refine ⟨_, hl, hshrinks, .inl ⟨?_, rfl, hdatabase⟩⟩
      rw [Attempt.isStale_payload, Attempt.isRefused, hrefused]
      rfl
    | some key' =>
      cases hs.own key' hlive
      obtain ⟨hpayload, hdatabase, hshrinks⟩ := server.executed p s key columns data hlive
      rw [← ha] at hpayload
      refine ⟨_, hl, hshrinks, .inr ⟨?_, ?_⟩⟩
      · rw [hpayload]
        cases houtcome : (b.execute (database p) key columns data).1 with
        | ok result => exact not_isStale_ok result
        | error e =>
          have hstale : e.fault.isStaleHandle =
              Text.contains staleHandleText.toList e.text.toList :=
            QueryFault.isStaleHandle_ofServer e.text e.sqlCode
          have hgenuine := server.genuine _ key columns data e houtcome
          change ¬IsStale (.error e.fault)
          rw [isStale_error, hstale, hgenuine]
          exact Bool.false_ne_true
      · unfold Behaviour.executeBound
        have hbinds' : Connection.checkBinds ⟨0, s.columns⟩ data types = .ok columns := hbinds
        rw [hbinds', hpayload, hdatabase]

/-- However often the handle was refused, the statement is executed once. -/
theorem Tried.outcome {handle : Option Int64} {result : Except Fault ExecuteResult}
    (h : Tried caching cache key data types s t cache' handle result)
    (server : Serves database live b) (hs : IsFor b live p key s)
    (hsound : Sound b live caching p cache talk)
    (hone : caching = true → Unambiguous (talk ++ t)) (hline : Talk (Line.ready p) t l) :
    ∃ p', l = Line.ready p' ∧ Sound b live caching p' cache' (talk ++ t) ∧
      (result, database p') = b.executeBound (database p) key s.columns data types := by
  cases h with
  | settled hexecuted hfresh =>
    obtain ⟨p', hl, hshrinks, ⟨hstale, -⟩ | ⟨-, houtcome⟩⟩ := hexecuted.outcome server hs hline
    · exact absurd hstale hfresh
    · exact ⟨p', hl, hsound.mono hshrinks t, houtcome⟩
  | @lost t₁ t₂ _ _ fault hexecuted hstale hprovided =>
    obtain ⟨m, hline₁, hline₂⟩ := hline.split
    obtain ⟨p₁, rfl, hshrinks, ⟨-, -, -⟩ | ⟨hfresh, -⟩⟩ := hexecuted.outcome server hs hline₁
    · rw [← List.append_assoc] at hone
      obtain ⟨_, _, _, _, e, hcompile, -⟩ := hprovided.supplied server
        ((hsound.mono hshrinks t₁).erase key) hone hline₂
      rw [hs.compiled] at hcompile
      cases hcompile
    · exact absurd hstale hfresh
  | @renewed t₁ t₂ t₃ _ fresh _ _ hexecuted hstale hprovided hexecuted' =>
    obtain ⟨m₁, hline₁, hline₂₃⟩ := hline.split
    obtain ⟨m₂, hline₂, hline₃⟩ := hline₂₃.split
    obtain ⟨p₁, rfl, hshrinks₁, ⟨-, -, hdatabase₁⟩ | ⟨hfresh, -⟩⟩ :=
      hexecuted.outcome server hs hline₁
    · rw [← List.append_assoc, ← List.append_assoc] at hone ⊢
      obtain ⟨p₂, rfl, hdatabase₂, hsound₂, hfor, hlive⟩ := hprovided.supplied server
        ((hsound.mono hshrinks₁ t₁).erase key) (fun h => (hone h).of_append) hline₂
      obtain ⟨p₃, rfl, hshrinks₃, ⟨-, hnone, -⟩ | ⟨-, houtcome⟩⟩ :=
        hexecuted'.outcome server hfor hline₃
      · rw [hlive (StatementCache.find?_erase_self cache key)] at hnone
        cases hnone
      · have hcolumns : s.columns = fresh.columns :=
          Except.ok.inj (hs.compiled.symm.trans hfor.compiled)
        refine ⟨p₃, rfl, hsound₂.mono hshrinks₃ t₃, ?_⟩
        rw [houtcome, hdatabase₂, hdatabase₁, hcolumns]
    · exact absurd hstale hfresh

theorem Disposed.outcome {handle : Option Int64} (h : Disposed caching handle t)
    (server : Serves database live b) (hline : Talk (Line.ready p) t l) :
    ∃ p', l = Line.ready p' ∧ Forgets database live p p' := by
  cases h with
  | kept _ => exact ⟨p, hline.of_nil, rfl, fun _ _ hlive => hlive⟩
  | nothing => exact ⟨p, hline.of_nil, rfl, fun _ _ hlive => hlive⟩
  | @closed handle a _ hrequest =>
    obtain ⟨-, hl⟩ := server.single hline hrequest
    exact ⟨_, hl, server.released p _ (.inl ⟨handle, rfl⟩)⟩

theorem PreparedRun.outcome {result : Except Fault ExecuteResult}
    (h : PreparedRun caching cache key data types t cache' result)
    (server : Serves database live b) (hsound : Sound b live caching p cache talk)
    (hone : caching = true → Unambiguous (talk ++ t)) (hline : Talk (Line.ready p) t l) :
    ∃ p', l = Line.ready p' ∧ Sound b live caching p' cache' (talk ++ t) ∧
      (result, database p') = b.prepared (database p) key data types := by
  unfold Behaviour.prepared
  cases h with
  | unprepared hprovided =>
    obtain ⟨p', hl, hdatabase, hsound', e, hcompile, rfl⟩ :=
      hprovided.supplied server hsound hone hline
    refine ⟨p', hl, hsound', ?_⟩
    rw [hcompile, hdatabase]
  | @prepared t₁ t₂ t₃ _ _ s handle result hprovided htried hdisposed =>
    obtain ⟨m₁, hline₁, hline₂₃⟩ := hline.split
    obtain ⟨m₂, hline₂, hline₃⟩ := hline₂₃.split
    rw [← List.append_assoc, ← List.append_assoc] at hone ⊢
    obtain ⟨p₁, rfl, hdatabase₁, hsound₁, hfor, -⟩ := hprovided.supplied server hsound
      (fun h => (hone h).of_append.of_append) hline₁
    obtain ⟨p₂, rfl, hsound₂, houtcome⟩ := htried.outcome server hfor hsound₁
      (fun h => (hone h).of_append) hline₂
    obtain ⟨p₃, rfl, hdatabase₃, hshrinks₃⟩ := hdisposed.outcome server hline₃
    refine ⟨p₃, rfl, hsound₂.mono hshrinks₃ t₃, ?_⟩
    rw [hfor.compiled, hdatabase₃, ← hdatabase₁]
    dsimp only
    rw [← houtcome]

theorem Performed.outcome {options : StatementOptions} {result : Except Fault ExecuteResult}
    (h : Performed caching cache key options t cache' result)
    (server : Serves database live b) (hsound : Sound b live caching p cache talk)
    (hone : caching = true → Unambiguous (talk ++ t)) (hline : Talk (Line.ready p) t l) :
    ∃ p', l = Line.ready p' ∧ Sound b live caching p' cache' (talk ++ t) ∧
      (result, database p') = b.performed (database p) key options := by
  unfold Behaviour.performed
  cases h with
  | misshapen hbindings =>
    refine ⟨p, hline.of_nil, ?_, ?_⟩
    · rwa [List.append_nil]
    · rw [hbindings]
  | @directly a hbindings hrequest =>
    obtain ⟨ha, hl⟩ := server.single hline hrequest
    obtain ⟨hpayload, hdatabase, hshrinks⟩ := server.direct p key
    rw [← ha] at hpayload
    refine ⟨_, hl, hsound.mono hshrinks [a], ?_⟩
    rw [hbindings, hpayload, hdatabase]
  | prepared hbindings hrun =>
    obtain ⟨p', hl, hsound', houtcome⟩ := hrun.outcome server hsound hone hline
    refine ⟨p', hl, hsound', ?_⟩
    rw [hbindings, houtcome]

theorem Counted.outcome {options : StatementOptions} {result : Except Fault Int64}
    (h : Counted caching cache key options t cache' result)
    (server : Serves database live b) (hsound : Sound b live caching p cache talk)
    (hone : caching = true → Unambiguous (talk ++ t)) (hline : Talk (Line.ready p) t l) :
    ∃ p', l = Line.ready p' ∧ Sound b live caching p' cache' (talk ++ t) ∧
      result = (b.performed (database p) key options).1.map ExecuteResult.rowsAffected ∧
      database p' = (b.performed (database p) key options).2 := by
  cases h with
  | failed hperformed =>
    obtain ⟨p', hl, hsound', houtcome⟩ := hperformed.outcome server hsound hone hline
    rw [← houtcome]
    exact ⟨p', hl, hsound', rfl, rfl⟩
  | counted hperformed =>
    obtain ⟨p', hl, hsound', houtcome⟩ := hperformed.outcome server hsound hone hline
    rw [← houtcome]
    exact ⟨p', hl, hsound', rfl, rfl⟩
  | @released t _ result handle a hperformed _ hrequest =>
    obtain ⟨m, hline', hclose⟩ := hline.split
    rw [← List.append_assoc] at hone ⊢
    obtain ⟨p', rfl, hsound', houtcome⟩ := hperformed.outcome server hsound
      (fun h => (hone h).of_append) hline'
    obtain ⟨-, hl⟩ := server.single hclose hrequest
    obtain ⟨hdatabase, hshrinks⟩ := server.released p' _ (.inr ⟨handle, rfl⟩)
    rw [← houtcome]
    exact ⟨_, hl, hsound'.mono hshrinks [a], rfl, hdatabase⟩

/-! ## Runs -/

/-- An execution on a connection has the result and the effect of the behaviour. -/
theorem Serves.execute {c d : Connection σ} {sql : String} {options : StatementOptions}
    {result : Except Fault Int64} (server : Serves database live b)
    (hon : (Connection.execute sql options).on c = (result, d)) (hline : c.line = Line.ready p)
    (hexchanges : t = Event.exchanges (d.journal.toList.drop c.journal.size))
    (hsound : Sound b live c.config.cacheStatements p c.statements talk)
    (hone : c.config.cacheStatements = true → Unambiguous (talk ++ t)) :
    ∃ p', d.line = Line.ready p' ∧ d.config = c.config ∧
      Sound b live c.config.cacheStatements p' d.statements (talk ++ t) ∧
      (result, database p') = b.seen (database p) sql options := by
  obtain ⟨t', cache', counted, hcounted, hyields⟩ := Connection.runForCount_follows sql options c
  have hresult : counted.mapError (.context "Unable to execute") = result := by
    rw [← hyields.returns]
    exact congrArg Prod.fst hon
  have hleads : Leads c t' cache' d := by
    have hafter : ((Connection.runForCount sql options).on c).2 = d := congrArg Prod.snd hon
    exact hafter ▸ hyields.leads
  have hopen : c.isOpen = true := congrArg Line.isOpen hline
  have htalk := hleads.line
  rw [hline] at htalk
  have hquiet := server.quietly htalk
  have ht : t = t' := hexchanges.trans (hleads.exchanges_of_open hopen hquiet)
  subst ht
  obtain ⟨p', hl, hsound', hcount, hdatabase⟩ := hcounted.outcome server hsound hone htalk
  refine ⟨p', hl, hleads.config, ?_, ?_⟩
  · rw [hleads.statements]
    exact hsound'
  · rw [← hresult, hcount, hdatabase]
    rfl

/-- Callers see the behaviour of the server, whether statements are cached or not. -/
theorem Executions.seen_eq {c : Connection σ} {ops : List (String × StatementOptions)}
    {seen : List (Except Fault Int64 × δ)} {more : List Attempt}
    (h : Executions database live c ops seen more) (server : Serves database live b)
    (hopen : c.isOpen = true) (hlive : c.isCancelled = false)
    (hsound : Sound b live c.config.cacheStatements c.peer c.statements talk)
    (hone : c.config.cacheStatements = true → Unambiguous (talk ++ more)) :
    seen = b.seenOf (database c.peer) ops := by
  induction h generalizing talk with
  | nil c => rfl
  | @cons c d p sql options result rest seen more hforgets hon hrest ih =>
    rw [← List.append_assoc] at hone
    have hline : Connection.line { c with peer := p } = Line.ready p := by
      simp only [Connection.line, hopen, hlive, Line.ready]
    have hforgotten := hsound.mono hforgets.2 []
    rw [List.append_nil] at hforgotten
    obtain ⟨p', hd, hconfig, hsound', houtcome⟩ := server.execute hon hline rfl hforgotten
      fun h => (hone h).of_append
    have hpeer : d.peer = p' := congrArg Line.peer hd
    rw [← hpeer] at hsound' houtcome
    have hmore := ih (congrArg Line.isOpen hd) (congrArg Line.isCancelled hd)
      (hconfig ▸ hsound') (hconfig ▸ hone)
    rw [Behaviour.seenOf, ← hforgets.1, ← houtcome, hmore]

/--
Callers cannot tell whether statements are cached: whatever handles a server forgets
between executions, these have the same results and the same effects, as long as it
does not give the handle of one statement to another.
-/
theorem caching_invisible (c c' : Connection σ) {ops : List (String × StatementOptions)}
    {seen seen' : List (Except Fault Int64 × δ)} {talk' : List Attempt}
    (server : Serves database live b) (hopen : c.isOpen = true) (hopen' : c'.isOpen = true)
    (hlive : c.isCancelled = false) (hlive' : c'.isCancelled = false)
    (hempty : c.statements = .empty) (hempty' : c'.statements = .empty)
    (hplain : c'.config.cacheStatements = false) (hdatabase : database c.peer = database c'.peer)
    (hruns : Executions database live c ops seen talk)
    (hruns' : Executions database live c' ops seen' talk') (hone : Unambiguous talk) :
    seen = seen' := by
  have hsound : Sound b live c.config.cacheStatements c.peer c.statements [] := by
    rw [hempty]
    exact ⟨.empty b live c.peer [], fun _ => rfl⟩
  have hsound' : Sound b live c'.config.cacheStatements c'.peer c'.statements [] := by
    rw [hempty']
    exact ⟨.empty b live c'.peer [], fun _ => rfl⟩
  have hseen := hruns.seen_eq server hopen hlive hsound fun _ => hone
  have hseen' := hruns'.seen_eq server hopen' hlive' hsound' fun hcaching => by
    rw [hplain] at hcaching
    cases hcaching
  rw [hseen, hseen', hdatabase]

end Talks

namespace Registry

/-- An open connection to a server that has not compiled any statement. -/
def fresh (cacheStatements : Bool) : Connection Registry where
  config := { cacheStatements }
  peer := {}
  isOpen := true

/-- After its first execution the server has forgotten all handles. -/
def lapse (p : Registry) : Registry :=
  if p.executed.length = 1 then { p with compiled := [] } else p

/-- After its first execution the server has forgotten all handles, and hands them out again. -/
def restart (p : Registry) : Registry :=
  if p.executed.length = 1 then { p with compiled := [], next := 1 } else p

theorem forgets_of_compiled {p p' : Registry} (hexecuted : p'.executed = p.executed)
    (hcompiled : p'.compiled = p.compiled ∨ p'.compiled = []) : Forgets executed live p p' := by
  refine ⟨hexecuted, ?_⟩
  intro handle key hlive
  obtain hcompiled | hcompiled := hcompiled <;> simp_all [live]

theorem forgets_lapse (p : Registry) : Forgets executed live p p.lapse := by
  unfold lapse
  split <;> exact forgets_of_compiled rfl (by simp)

theorem forgets_restart (p : Registry) : Forgets executed live p p.restart := by
  unfold restart
  split <;> exact forgets_of_compiled rfl (by simp)

/-- Two statements, and the first one again. -/
def alternation : List (String × StatementOptions) :=
  [("INSERT", Connection.oneBind), ("DELETE", Connection.oneBind), ("INSERT", Connection.oneBind)]

end Registry

open Registry in
/-- The server has forgotten the first statement when it is executed again. -/
theorem caching_invisible_lapse :
    Serves executed live behaviour ∧
      Unambiguous (observe executed lapse (fresh true) alternation).2 ∧
      (observe executed lapse (fresh true) alternation).1 =
        (observe executed lapse (fresh false) alternation).1 :=
  have hone : Unambiguous (observe executed lapse (fresh true) alternation).2 := by decide +kernel
  ⟨serves, hone, caching_invisible (fresh true) (fresh false) serves rfl rfl rfl rfl rfl rfl rfl rfl
    (executions_observe forgets_lapse _ _) (executions_observe forgets_lapse _ _) hone⟩

open Registry in
/--
Where the server gives a handle that it has forgotten to another statement, that one
is executed in place of the cached one.
-/
theorem caching_visible_restart :
    ∃ seen talk seen' talk', Serves executed live behaviour ∧
      (fresh true).config.cacheStatements = true ∧ (fresh false).config.cacheStatements = false ∧
      (fresh true).line = Line.ready {} ∧ (fresh false).line = Line.ready {} ∧
      (fresh true).statements = .empty ∧ (fresh false).statements = .empty ∧
      Executions executed live (fresh true) alternation seen talk ∧
      Executions executed live (fresh false) alternation seen' talk' ∧ seen ≠ seen' := by
  refine ⟨_, _, _, _, serves, rfl, rfl, rfl, rfl, rfl, rfl,
    executions_observe forgets_restart (fresh true) alternation,
    executions_observe forgets_restart (fresh false) alternation, ?_⟩
  intro hsame
  have hexecuted := congrArg (List.map Prod.snd) hsame
  revert hexecuted
  decide +kernel

end ExasolClient
