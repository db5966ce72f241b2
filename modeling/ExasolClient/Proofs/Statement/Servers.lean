-- SUMMARY: What a server of statements does, apart from the handles under which it knows them.
import ExasolClient.Proofs.Statement.Ledger
import ExasolClient.Rehearsal.Server

/-!
# Servers

A server that answers every request is described by what its statements do to the
database (`Behaviour`) and by which handles are live. The laws that tie the two
together are those of `Serves`. As an example stands a server that numbers the
statements as it compiles them, and counts how often each of them is executed
(`Registry.serves`).
-/

namespace ExasolClient

/-! ## Servers -/

/-- What the statements of a server do, apart from any handles. -/
structure Behaviour (δ : Type) where
  /-- The parameters of a statement, unless it cannot be compiled. -/
  compile : StatementKey → Except Exception (List Column)
  /-- Execute a compiled statement for all rows of values. -/
  execute : δ → StatementKey → List Column → Cells → Except Exception ExecuteResult × δ
  /-- Execute a statement as it is. -/
  direct : δ → StatementKey → Except Exception ExecuteResult × δ

/-- The line of an open connection that is not cancelled. -/
def Line.ready (p : σ) : Line σ := ⟨p, true, false⟩

section Servers

variable [Transport σ]

/-- The state of the server after it has answered a request. -/
def nextPeer (p : σ) (r : Request) : σ := ((Line.ready p).after r).peer

variable (database : σ → δ) (live : σ → Int64 → Option StatementKey)

/-- No handle has come to life. -/
def Shrinks (p p' : σ) : Prop := ∀ handle key, live p' handle = some key → live p handle = some key

/-- The database is as it was, and handles may have been forgotten. -/
def Forgets (p p' : σ) : Prop := database p' = database p ∧ Shrinks live p p'

/--
A server answers every request as a behaviour says. A handle that is not live is
refused; a handle that was just created is live.
-/
structure Serves (b : Behaviour δ) : Prop where
  quiet : ∀ (p : σ) (r : Request), ((Line.ready p).after r).isCancelled = false
  compiled : ∀ (p : σ) (key : StatementKey) (columns : List Column), b.compile key = .ok columns →
    ∃ handle, ((Line.ready p).attempt key.creation).statement = .ok ⟨handle, columns⟩ ∧
      database (nextPeer p key.creation) = database p ∧
      live (nextPeer p key.creation) handle = some key ∧
      ∀ other key', other ≠ handle → live (nextPeer p key.creation) other = some key' →
        live p other = some key'
  uncompiled : ∀ (p : σ) (key : StatementKey) (e : Exception), b.compile key = .error e →
    ((Line.ready p).attempt key.creation).statement = .error e.fault ∧
      Forgets database live p (nextPeer p key.creation)
  executed : ∀ (p : σ) (s : PreparedStatement) (key : StatementKey) (columns : List Column)
    (data : Cells), live p s.handle = some key →
    ((Line.ready p).attempt (s.execution columns data)).payload ExecuteResult =
        (b.execute (database p) key columns data).1.mapError Exception.fault ∧
      database (nextPeer p (s.execution columns data)) =
        (b.execute (database p) key columns data).2 ∧
      Shrinks live p (nextPeer p (s.execution columns data))
  refused : ∀ (p : σ) (s : PreparedStatement) (columns : List Column) (data : Cells),
    live p s.handle = none →
    ((Line.ready p).attempt (s.execution columns data)).reportsLostHandle = true ∧
      Forgets database live p (nextPeer p (s.execution columns data))
  direct : ∀ (p : σ) (key : StatementKey),
    ((Line.ready p).attempt key.execution).payload ExecuteResult =
        (b.direct (database p) key).1.mapError Exception.fault ∧
      database (nextPeer p key.execution) = (b.direct (database p) key).2 ∧
      Shrinks live p (nextPeer p key.execution)
  released : ∀ (p : σ) (r : Request),
    ((∃ handle, r = .closeStatement handle) ∨ ∃ handle, r = .closeResultSets [handle]) →
    Forgets database live p (nextPeer p r)
  /-- No statement fails in the words for a lost handle. -/
  genuine : ∀ (db : δ) (key : StatementKey) (columns : List Column) (data : Cells) (e : Exception),
    (b.execute db key columns data).1 = .error e →
    Text.contains staleHandleText.toList e.text.toList = false

variable {database : σ → δ} {live : σ → Int64 → Option StatementKey} {b : Behaviour δ} {p : σ}
  {l : Line σ} {a : Attempt} {t : List Attempt}

/-- A line is as it was before the first attempt, if there is none. -/
theorem Talk.of_nil {m : Line σ} (h : Talk l [] m) : m = l := by
  cases h
  rfl

/-- A server leaves the line ready for the next request. -/
theorem Serves.after (server : Serves database live b) (p : σ) (r : Request) :
    (Line.ready p).after r = Line.ready (nextPeer p r) := by
  have hopen : ((Line.ready p).after r).isOpen = true := Line.isOpen_after _ r
  exact congr (congrArg (Line.mk (nextPeer p r)) hopen) (server.quiet p r)

/-- One attempt with a server. -/
theorem Serves.single (server : Serves database live b) {r : Request}
    (h : Talk (Line.ready p) [a] l) (hrequest : a.request = r) :
    a = (Line.ready p).attempt r ∧ l = Line.ready (nextPeer p r) := by
  cases h with
  | cons h =>
    cases hrequest
    exact ⟨rfl, h.of_nil.trans (server.after p _)⟩

/-- A talk with a server leaves the line ready for another. -/
theorem Serves.quietly (server : Serves database live b) (h : Talk (Line.ready p) t l) :
    l.isCancelled = false := by
  generalize hready : Line.ready p = start at h
  induction h generalizing p with
  | nil => rw [← hready]; rfl
  | cons _ ih => exact ih (by rw [← hready, server.after])

end Servers

/-! ## Replies -/

open Rehearsal in
/-- A reply that reports success is read as its payload. -/
theorem Reply.decode_success {payload : Json → Option α} {members : List (String × Json)} {a : α}
    (h : payload (.obj members) = some a) :
    Reply.decode payload (success members) = some ⟨.ok, some a, none, none⟩ := by
  have hoptional : Json.Fields.optional "responseData" payload
      (.named [("status", .str "ok"), ("responseData", .obj members)]) =
        some (some a, .named [("status", .str "ok"), ("responseData", .obj members)]) := by
    change StateT.lift (m := Option) ((payload (.obj members)).map some) _ = _
    rw [h]
    rfl
  change Option.map _ (Option.bind (Json.Fields.optional "responseData" payload
    (.named [("status", .str "ok"), ("responseData", .obj members)])) _) = _
  rw [hoptional]
  rfl

open Rehearsal in
theorem Attempt.payload_success {α : Type} [Payload α] {members : List (String × Json)} {a : α}
    (r : Request) (h : Payload.decode (Json.obj members) = some a) :
    (⟨r, .message (success members)⟩ : Attempt).payload α = .ok a := by
  simp [payload, reply, Answer.message?, bind, Except.bind, Reply.decode_success h, Reply.result,
    Reply.payload]

/-! ## A server that counts -/

/-- A server that numbers the statements as it compiles them, and counts executions. -/
structure Registry where
  /-- The statements that were executed, one after the other. -/
  executed : List StatementKey := []
  /-- The statements that are live, by their handles. -/
  compiled : List (Int64 × StatementKey) := []
  /-- The handle of the next statement. -/
  next : Int64 := 1
  /-- The reply to the last message. -/
  answer : Json := .null

namespace Registry

open Rehearsal

/-- The statement that a message is about. -/
def keyOf (message : Json) : StatementKey where
  schema := ((message.get? "attributes").bind (·.get? "currentSchema")).bind Json.str?
  sql := ((message.get? "sqlText").bind Json.str?).getD ""

/-- The handle that a message is about. -/
def handleOf (message : Json) : Int64 :=
  ((message.get? "statementHandle").bind Json.int64?).getD 0

/-- A reply that reports an error. -/
def failure (text : String) : Json :=
  .obj [("status", .str "error"), ("exception", .obj [("text", .str text)])]

/-- The parameter that every statement has. -/
def parameter : Column where
  name := ""
  dataType := { name := "DECIMAL" }

/-- Only a statement with a text can be compiled. -/
def compile (key : StatementKey) : Except Exception (List Column) :=
  if key.sql = "" then .error ⟨"no statement", none⟩ else .ok [parameter]

/-- How often a statement was executed when it is executed once more. -/
def count (executed : List StatementKey) (key : StatementKey) : Int64 :=
  .ofNat ((key :: executed).count key)

/-- Executing a statement counts it. -/
def behaviour : Behaviour (List StatementKey) where
  compile := compile
  execute executed key _ _ := (.ok ⟨1, [.rowCount (count executed key)]⟩, key :: executed)
  direct executed key := (.ok ⟨1, [.rowCount (count executed key)]⟩, key :: executed)

/-- Compile a statement. -/
def prepare (p : Registry) (key : StatementKey) : Registry :=
  match compile key with
  | .error e => { p with answer := failure e.text }
  | .ok columns => { p with
      compiled := (p.next, key) :: p.compiled
      next := p.next + 1
      answer := success [("statementHandle", .ofInt64 p.next),
        ("parameterData", .obj [("columns", .arr (columns.map (·.encode)))])] }

/-- Execute a statement. -/
def execute (p : Registry) (key : StatementKey) : Registry := { p with
  executed := key :: p.executed
  answer := outcome "rowCount" (.ofInt64 (count p.executed key)) }

/-- The statement of a live handle. -/
def live (p : Registry) (handle : Int64) : Option StatementKey := p.compiled.lookup handle

/-- Execute the statement of a handle. -/
def executePrepared (p : Registry) (handle : Int64) : Registry :=
  match p.live handle with
  | some key => p.execute key
  | none => { p with answer := failure staleHandleText }

/-- Take a message, and prepare the reply to it. -/
def take (p : Registry) (message : Json) : Registry :=
  match commandOf message with
  | "createPreparedStatement" => p.prepare (keyOf message)
  | "executePreparedStatement" => p.executePrepared (handleOf message)
  | "execute" => p.execute (keyOf message)
  | _ => { p with answer := .obj [("status", .str "ok")] }

instance : Transport Registry where
  connect _ _ _ p := { result := .ok (), next := p }
  setCompression _ p := p
  write message p := { result := .ok (), next := p.take message }
  read p := { result := .ok p.answer, next := p }
  close p := p

theorem attempt_eq (p : Registry) (r : Request) :
    (Line.ready p).attempt r = ⟨r, .message (p.take r.encode).answer⟩ := rfl

theorem nextPeer_eq (p : Registry) (r : Request) : nextPeer p r = p.take r.encode := rfl

theorem take_creation (p : Registry) (key : StatementKey) :
    p.take key.creation.encode = p.prepare key := by
  obtain ⟨schema, sql⟩ := key
  cases schema <;> rfl

theorem take_execution (p : Registry) (key : StatementKey) :
    p.take key.execution.encode = p.execute key := by
  obtain ⟨schema, sql⟩ := key
  cases schema <;> rfl

theorem take_prepared (p : Registry) (s : PreparedStatement) (columns : List Column)
    (data : Cells) : p.take (s.execution columns data).encode = p.executePrepared s.handle := by
  have hhandle : handleOf (s.execution columns data).encode = s.handle :=
    congrArg (Option.getD · 0) (Json.int64?_ofInt64 s.handle)
  exact congrArg p.executePrepared hhandle

theorem statement_created (r : Request) (handle : Int64) :
    (⟨r, .message (success [("statementHandle", .ofInt64 handle),
      ("parameterData", .obj [("columns", .arr [parameter.encode])])])⟩ : Attempt).statement =
        .ok ⟨handle, [parameter]⟩ := by
  have hdecode : (Payload.decode (.obj [("statementHandle", .ofInt64 handle),
      ("parameterData", .obj [("columns", .arr [parameter.encode])])]) : Option PrepareResult) =
        some ⟨handle, some ⟨0, [parameter]⟩⟩ := by
    change Option.map _ (Option.bind (Option.bind (Json.int64? (.ofInt64 handle)) _) _) = _
    rw [Json.int64?_ofInt64]
    rfl
  unfold Attempt.statement
  rw [Attempt.payload_success r hdecode]
  rfl

theorem payload_counted (r : Request) (n : Int64) :
    (⟨r, .message (outcome "rowCount" (.ofInt64 n))⟩ : Attempt).payload ExecuteResult =
      .ok ⟨1, [.rowCount n]⟩ := by
  have hresult : StatementResult.decode
      (.obj [("resultType", .str "rowCount"), ("rowCount", .ofInt64 n)]) = some (.rowCount n) := by
    change Option.map _ (Option.map _ (Option.bind (Json.int64? (.ofInt64 n)) _)) = _
    rw [Json.int64?_ofInt64]
    rfl
  have hdecode : (Payload.decode (.obj [("numResults", .int 1),
      ("results", .arr [.obj [("resultType", .str "rowCount"), ("rowCount", .ofInt64 n)]])]) :
        Option ExecuteResult) = some ⟨1, [.rowCount n]⟩ := by
    change Option.map _ (Option.bind (Option.bind (List.mapM StatementResult.decode _) _) _) = _
    rw [List.mapM_cons, hresult]
    rfl
  exact Attempt.payload_success r hdecode

theorem refused_failure (r : Request) :
    (⟨r, .message (failure staleHandleText)⟩ : Attempt).reportsLostHandle = true := by
  change Text.contains staleHandleText.toList staleHandleText.toList = true
  decide +kernel

theorem compile_eq_ok {key : StatementKey} {columns : List Column}
    (h : compile key = .ok columns) : columns = [parameter] := by
  unfold compile at h
  split at h
  · cases h
  · cases h
    rfl

theorem compile_eq_error {key : StatementKey} {e : Exception} (h : compile key = .error e) :
    e.sqlCode = none := by
  unfold compile at h
  split at h
  · cases h
    rfl
  · cases h

theorem executePrepared_of_live {p : Registry} {handle : Int64} {key : StatementKey}
    (h : p.live handle = some key) : p.executePrepared handle = p.execute key := by
  unfold executePrepared
  rw [h]

theorem executePrepared_of_forgotten {p : Registry} {handle : Int64} (h : p.live handle = none) :
    p.executePrepared handle = { p with answer := failure staleHandleText } := by
  unfold executePrepared
  rw [h]

/-- The server that counts is a server: every request is answered as its behaviour says. -/
theorem serves : Serves executed live behaviour where
  quiet _ _ := rfl
  compiled p key columns hcompile := by
    have hprepare : p.prepare key = { p with
        compiled := (p.next, key) :: p.compiled
        next := p.next + 1
        answer := success [("statementHandle", .ofInt64 p.next),
          ("parameterData", .obj [("columns", .arr (columns.map (·.encode)))])] } := by
      unfold prepare
      rw [show compile key = .ok columns from hcompile]
    rw [attempt_eq, nextPeer_eq, take_creation, hprepare, compile_eq_ok hcompile]
    refine ⟨p.next, statement_created _ _, rfl, by simp [live], ?_⟩
    intro other key' hother hlive
    simpa [live, List.lookup_cons, beq_false_of_ne hother] using hlive
  uncompiled p key e hcompile := by
    have hprepare : p.prepare key = { p with answer := failure e.text } := by
      unfold prepare
      rw [show compile key = .error e from hcompile]
    obtain ⟨text, sqlCode⟩ := e
    have hcode : sqlCode = none := compile_eq_error hcompile
    rw [attempt_eq, nextPeer_eq, take_creation, hprepare, hcode]
    exact ⟨rfl, rfl, fun _ _ hlive => hlive⟩
  executed p s key columns data hlive := by
    rw [attempt_eq, nextPeer_eq, take_prepared, executePrepared_of_live hlive]
    exact ⟨payload_counted _ _, rfl, fun _ _ hlive => hlive⟩
  refused p s columns data hlive := by
    rw [attempt_eq, nextPeer_eq, take_prepared, executePrepared_of_forgotten hlive]
    exact ⟨refused_failure _, rfl, fun _ _ hlive => hlive⟩
  direct p key := by
    rw [attempt_eq, nextPeer_eq, take_execution]
    exact ⟨payload_counted _ _, rfl, fun _ _ hlive => hlive⟩
  released p r hrelease := by
    rw [nextPeer_eq]
    obtain ⟨handle, rfl⟩ | ⟨handle, rfl⟩ := hrelease
    · exact ⟨rfl, fun _ _ hlive => hlive⟩
    · exact ⟨rfl, fun _ _ hlive => hlive⟩
  genuine _ _ _ _ _ herror := by cases herror

end Registry
end ExasolClient
