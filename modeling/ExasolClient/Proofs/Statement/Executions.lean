-- SUMMARY: What stands in every message that executes a prepared statement.
import ExasolClient.Proofs.Client.Recording
import ExasolClient.Proofs.Statement.Provenance

/-!
# Messages of prepared executions

A message that executes a prepared statement names a handle, says how many columns and rows there
are, and carries both. Where all this comes from is known of the requests of a run
(`Carries`); here it is said of the messages that the transport is given, and of those that were
written and read before them. Main statement: whatever the server answers, every such message
carries the handle and the columns of a statement that was created before with just this text in
just this schema, and the types and values of its own call (`prepared_execution_carries`).
-/

namespace ExasolClient

/-! ## Messages -/

/-- As the reply to a request that creates a statement, the message tells of statement `s`. -/
def Json.TellsOf (reply : Json) (s : PreparedStatement) : Prop :=
  ∃ p : PrepareResult, reply.Brings p ∧ s.handle = p.handle ∧
    s.columns = (p.parameters.map (·.columns)).getD []

/-- Among these calls the text was written as that of a statement, and the reply tells of `s`. -/
def Created (told : List Call) (sql : String) (schema : Option String) (s : PreparedStatement) :
    Prop :=
  ∃ message reply, [.write message none, .read (.ok reply)] <:+: told ∧
    message.Holds [
      ("command", some (.str "createPreparedStatement")),
      ("sqlText", some (.str sql)),
      ("attributes", schema.map fun schema => .obj [("currentSchema", .str schema)])] ∧
    reply.TellsOf s

/--
A message executes a statement that was created among these calls, on some columns: they are
those of the statement with the types of this call, the data are the values of this call, and
the counts are right. The columns of the message are read as those of a reply are.
-/
structure Executes (told : List Call) (sql : String) (options : StatementOptions) (message : Json)
    (s : PreparedStatement) (columns : List Column) (data : Cells) : Prop where
  created : Created told sql options.schema s
  retyped : Retyped s.columns (options.columnTypes.getD []) columns
  binds : options.Binds data
  width : columns.length = data.length
  holds : message.Holds [
    ("command", some (.str "executePreparedStatement")),
    ("statementHandle", some (.int s.handle.toInt)),
    ("numColumns", some (.int (UInt64.ofNat columns.length).toNat)),
    ("numRows", some (.int (UInt64.ofNat (Connection.height data)).toNat)),
    ("columns", some (.arr (columns.map Column.encode))),
    ("data", some (.arr (data.map .arr)))]
  readable : (message.get? "columns").bind (Json.list? Column.decode) = some columns
  counts : options.IsAddressable → message.get? "numColumns" = some (.int columns.length) ∧
    message.get? "numRows" = some (.int (Connection.height data))

/-! ## From requests to messages -/

theorem Request.eq_executePrepared {r : Request}
    (h : r.encode.get? "command" = some (.str "executePreparedStatement")) :
    ∃ handle numColumns numRows columns data,
      r = .executePrepared handle numColumns numRows columns data := by
  rw [r.get?_command] at h
  cases r with
  | executePrepared => exact ⟨_, _, _, _, _, rfl⟩
  | _ => simp [command] at h

/-- An attempt that tells of a statement was answered by a message that does. -/
theorem Attempt.tellsOf_of_statement {a : Attempt} {s : PreparedStatement}
    (h : a.statement = .ok s) : ∃ reply, a.answer = .message reply ∧ reply.TellsOf s := by
  unfold statement at h
  cases hpayload : a.payload PrepareResult with
  | error fault =>
    rw [hpayload] at h
    cases h
  | ok p =>
    rw [hpayload] at h
    cases h
    obtain ⟨reply, hanswer, hbrings⟩ := brings_of_payload hpayload
    refine ⟨reply, hanswer, p, hbrings, rfl, ?_⟩
    unfold PrepareResult.statement
    cases p.parameters <;> rfl

theorem created_of_told {told : List Attempt} {calls : List Call} {a : Attempt} {sql : String}
    {schema : Option String} {s : PreparedStatement}
    (htold : ∀ b ∈ told, b.taped <:+: calls) (ha : a ∈ told)
    (hrequest : a.request = .prepare sql
      (schema.map fun schema => { currentSchema := some schema }))
    (hstatement : a.statement = .ok s) : Created calls sql schema s := by
  obtain ⟨request, answer⟩ := a
  obtain ⟨reply, hanswer, htells⟩ := Attempt.tellsOf_of_statement hstatement
  cases hanswer
  cases hrequest
  refine ⟨_, reply, htold _ ha, ?_, htells⟩
  have hholds := (Request.prepare sql
    (schema.map fun schema => { currentSchema := some schema })).holds_encode
  cases schema <;> exact hholds

theorem Carries.executes {told : List Attempt} {calls : List Call} {sql : String}
    {options : StatementOptions} {handle : Int64} {numColumns numRows : UInt64}
    {columns : List Column} {data : Cells}
    (h : Carries told sql options handle numColumns numRows columns data)
    (htold : ∀ b ∈ told, b.taped <:+: calls) :
    ∃ s, Executes calls sql options
      (Request.executePrepared handle numColumns numRows columns data).encode s columns data := by
  obtain ⟨a, ha, s, hrequest, hstatement, rfl, hretyped⟩ := h.prepared
  have hholds := (Request.executePrepared s.handle numColumns numRows columns data).holds_encode
  have hcolumns := h.columnCount
  have hrows := h.rowCount
  refine ⟨s, created_of_told htold ha hrequest hstatement, hretyped, h.binds, h.width, ?_, ?_, ?_⟩
  · rw [← hcolumns, ← hrows]
    exact hholds
  · have hfield := hholds.field ("columns", some (.arr (columns.map Column.encode)))
      (by simp [Request.fields, Request.members])
    rw [hfield]
    exact Json.list?_map Column.decode_encode columns
  · intro haddressable
    obtain ⟨hwide, hlong⟩ := h.counts haddressable
    rw [← hwide, ← hlong]
    exact ⟨rfl, rfl⟩

/-! ## Runs -/

/--
Every message of a run that executes a prepared statement belongs to an operation on a statement.
It carries the handle and the columns that an earlier reply has told for just this text and schema,
with the types that this operation gives, and the values that it binds.
-/
theorem prepared_execution_carries [Transport σ] (x : Client σ) (moves : List Move) (move : Move)
    (before after : List Call) (message : Json) (fault : Option Fault)
    (hempty : x.connection.statements = .empty)
    (hrecorded : x.recorded (moves ++ [move]) =
      x.recorded moves ++ (before ++ .write message fault :: after))
    (hcommand : message.get? "command" = some (.str "executePreparedStatement")) :
    ∃ op sql options s columns data, move = .call op ∧ op.statement? = some (sql, options) ∧
      Executes (x.recorded moves ++ before) sql options message s columns data := by
  obtain ⟨t, a, t', htalk, rfl, htold⟩ := x.exchange_of_recorded hrecorded
  obtain ⟨handle, numColumns, numRows, columns, data, hrequest⟩ :=
    Request.eq_executePrepared hcommand
  obtain ⟨op, sql, options, hmove, hstatement, hcarries⟩ :=
    x.onTape.execution_carries hempty htalk hrequest
  obtain ⟨s, hexecutes⟩ := hcarries.executes htold
  exact ⟨op, sql, options, s, columns, data, hmove, hstatement, hrequest ▸ hexecutes⟩

open Connection Rehearsal in
/--
The second of two executions uses the cached statement. Its message carries the type that the
server has reported, and not the one that the first execution gives in its place.
-/
theorem prepared_execution_carries_again :
    let x : Client Server := { connection := {
      rehearsed [("createPreparedStatement", [⟨.reply (preparedReply 1), false⟩]),
        ("executePreparedStatement", [⟨.echoRows, false⟩])]
      with config := { cacheStatements := true } } }
    let first := Move.call (.execute "INSERT" { oneBind with columnTypes := some [.double] })
    let options : StatementOptions := { binds := some [[.int 5], [.int 6]] }
    let again := Move.call (.execute "INSERT" options)
    let execution (rows : Int) (type : String) (data : List Json) : Json := .obj [
      ("command", .str "executePreparedStatement"), ("statementHandle", .int 1),
      ("numColumns", .int 1), ("numRows", .int rows),
      ("columns", .arr [.obj [("name", .str "C0"), ("dataType", .obj [("type", .str type)])]]),
      ("data", .arr [.arr data])]
    let message := execution 2 "VARCHAR" [.int 5, .int 6]
    Call.messages (x.recorded [first]) = [
      .obj [("command", .str "createPreparedStatement"), ("sqlText", .str "INSERT")],
      execution 1 "DOUBLE" [.int 5]] ∧
    Call.messages (x.recorded ([first] ++ [again])) =
      Call.messages (x.recorded [first]) ++ [message] ∧
    ∃ before s columns data,
      Executes (x.recorded [first] ++ before) "INSERT" options message s columns data := by
  intro x first options again execution message
  have hmessages : Call.messages (x.recorded ([first] ++ [again])) =
      Call.messages (x.recorded [first]) ++ [message] := by decide +kernel
  obtain ⟨before, fault, after, hrecorded⟩ := x.written_of_messages [first] again hmessages
  obtain ⟨_, _, _, s, columns, data, hmove, hstatement, hexecutes⟩ :=
    prepared_execution_carries x [first] again before after message fault rfl hrecorded rfl
  change Move.call (.execute "INSERT" options) = .call _ at hmove
  cases hmove
  cases hstatement
  exact ⟨by decide +kernel, hmessages, before, s, columns, data, hexecutes⟩

end ExasolClient
