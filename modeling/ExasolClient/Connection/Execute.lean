-- SUMMARY: The execution of a statement, directly or by way of a prepared statement.
import ExasolClient.Connection.Exchange
import ExasolClient.Statement.Options

/-!
# Execution

A statement with nothing to bind is executed directly. One with values to bind is
prepared first, unless the cache holds it; should the server no longer know its
handle, it is prepared and executed once more. Without a cache a prepared
statement is closed before the operation returns.
-/

namespace ExasolClient.Connection

variable [Transport σ]

-- ---------------------------------------------------------------------------
-- Prepared statements
-- ---------------------------------------------------------------------------

/-- Prepare a statement on the server. -/
def createStatement (key : StatementKey) : Action σ PreparedStatement := do
  let result ← ask PrepareResult (.prepare key.sql (Attributes.ofSchema key.schema))
  let columns := match result.parameters with
    | some parameters => parameters.columns
    | none => []
  note (.statementPrepared result.handle columns.length)
  return { handle := result.handle, columns := columns }

/-- Close a prepared statement; a failure is logged and otherwise ignored. -/
def closeStatement (handle : Int64) : Quiet σ Unit := do
  match ← (tell (.closeStatement handle)).attempt with
  | .ok () => return
  | .error fault => log (.statementNotClosed handle fault)

/-- Keep a prepared statement open, if the configuration says so. -/
def keepStatement (key : StatementKey) (statement : PreparedStatement) : Action σ Unit :=
  modify fun c =>
    if c.config.cacheStatements then
      { c with statements := c.statements.insert key statement }
    else c

/-- Forget the prepared statement for a key. -/
def forgetStatement (key : StatementKey) : Action σ Unit :=
  modify fun c => { c with statements := c.statements.erase key }

/-- The prepared statement for a key, from the cache or from the server. -/
def prepare (key : StatementKey) : Action σ PreparedStatement := do
  match (← get).statements.find? key with
  | some statement => return statement
  | none =>
    let statement ← createStatement key
    keepStatement key statement
    return statement

/-- The parameters of a statement, to each of which there is a column of values. -/
def checkBinds (statement : PreparedStatement) (data : Cells) (types : Option (List DataType)) :
    Except ArgumentFault (List Column) := do
  let columns ← statement.typedColumns types
  if columns.length ≠ data.length then .error (.bindCount columns.length data.length)
  return columns

/-- The height of a matrix given by its columns. -/
def height (data : Cells) : Nat := width data

/-- Execute a prepared statement once for all rows of values. -/
def runStatement (statement : PreparedStatement) (data : Cells) (types : Option (List DataType)) :
    Action σ ExecuteResult := do
  let columns ← Action.ofExcept ((checkBinds statement data types).mapError .argument)
  note (.executingPrepared statement.handle columns.length (height data))
  ask ExecuteResult (.executePrepared statement.handle (.ofNat columns.length)
    (.ofNat (height data)) columns data)

-- ---------------------------------------------------------------------------
-- Statements
-- ---------------------------------------------------------------------------

/-- Execute a statement with nothing to bind. -/
def runDirectly (key : StatementKey) : Action σ ExecuteResult := do
  note (.executing key.sql)
  (ask ExecuteResult (.execute key.sql (Attributes.ofSchema key.schema))).mapFault
    (.withSql key.sql)

/--
Execute a statement once more after its handle was refused: the statement is
forgotten and prepared anew. Also returned is the new handle, if there is one.
-/
def rerun (key : StatementKey) (stale : PreparedStatement) (data : Cells)
    (types : Option (List DataType)) : Action σ (Option Int64 × Except Fault ExecuteResult) := do
  note (.staleStatement stale.handle)
  forgetStatement key
  match ← Action.ofQuiet (prepare key).attempt with
  | .error fault => return (none, .error fault)
  | .ok fresh =>
    note (.retrying fresh.handle)
    return (some fresh.handle, ← Action.ofQuiet (runStatement fresh data types).attempt)

/-- Execute a statement with values to bind. -/
def runPrepared (key : StatementKey) (data : Cells) (types : Option (List DataType)) :
    Action σ ExecuteResult := do
  let statement ← prepare key
  let (handle, result) ← match ← Action.ofQuiet (runStatement statement data types).attempt with
    | .error fault =>
      if fault.isStaleHandle then rerun key statement data types
      else pure (some statement.handle, .error fault)
    | .ok result => pure (some statement.handle, .ok result)
  unless (← get).config.cacheStatements do
    if let some handle := handle then Action.ofQuiet (closeStatement handle)
  Action.ofExcept (result.mapError (.withSql key.sql))

/-- Execute a statement. -/
def run (sql : String) (options : StatementOptions) : Action σ ExecuteResult := do
  let key : StatementKey := { schema := options.schema, sql := sql }
  match ← Action.ofExcept (options.bindings.mapError .argument) with
  | none => runDirectly key
  | some data => runPrepared key data options.columnTypes

end ExasolClient.Connection
