-- SUMMARY: The payloads of replies: the key and the session, results of statements, fetched rows.
import ExasolClient.Crypto.Password
import ExasolClient.Wire.DataType

/-!
# Payloads

What the server answers to each kind of request, apart from the envelope. A result
set comes with its rows when they are few, column by column, or else with a handle
under which they are fetched.
-/

namespace ExasolClient

/-- Cells column by column. -/
abbrev Cells := List (List Json)

/-- The cells that a value stands for. -/
def Cells.decode : Json → Option Cells := Json.list? (Json.list? some)

open Json.Fields

-- ---------------------------------------------------------------------------
-- The handshake
-- ---------------------------------------------------------------------------

/-- An offered key, read field by field. -/
def Crypto.OfferedKey.fields : Json.Fields Crypto.OfferedKey := do
  return {
    pem := ← optional "publicKeyPem" Json.str?
    modulus := ← required "publicKeyModulus" Json.str?
    exponent := ← required "publicKeyExponent" Json.str? }

/-- What the server says about a session. -/
structure SessionInfo where
  sessionId : UInt64 := 0
  protocolVersion : UInt32 := 0
  releaseVersion : String := ""
  databaseName : String := ""
  productName : String := ""
  maxDataMessageSize : UInt64 := 0
  maxIdentifierLength : UInt32 := 0
  maxVarcharLength : UInt32 := 0
  identifierQuoteString : String := ""
  timeZone : String := ""
  timeZoneBehavior : String := ""
  deriving DecidableEq, Repr, Inhabited

/-- What is said about a session, read field by field. -/
def SessionInfo.fields : Json.Fields SessionInfo := do
  return {
    sessionId := ← withDefault "sessionId" 0 Json.uint64?
    protocolVersion := ← withDefault "protocolVersion" 0 Json.uint32?
    releaseVersion := ← withDefault "releaseVersion" "" Json.str?
    databaseName := ← withDefault "databaseName" "" Json.str?
    productName := ← withDefault "productName" "" Json.str?
    maxDataMessageSize := ← withDefault "maxDataMessageSize" 0 Json.uint64?
    maxIdentifierLength := ← withDefault "maxIdentifierLength" 0 Json.uint32?
    maxVarcharLength := ← withDefault "maxVarcharLength" 0 Json.uint32?
    identifierQuoteString := ← withDefault "identifierQuoteString" "" Json.str?
    timeZone := ← withDefault "timeZone" "" Json.str?
    timeZoneBehavior := ← withDefault "timeZoneBehavior" "" Json.str? }

-- ---------------------------------------------------------------------------
-- Results
-- ---------------------------------------------------------------------------

/-- A result set, with its rows or with the handle under which they are fetched. -/
structure ResultSet where
  handle : Option Int64 := none
  numColumns : UInt64 := 0
  numRows : UInt64 := 0
  numRowsInMessage : UInt64 := 0
  columns : List Column := []
  data : Option Cells := none
  deriving DecidableEq, Repr, Inhabited

/-- A result set, read field by field. -/
def ResultSet.fields : Json.Fields ResultSet := do
  return {
    handle := ← optional "resultSetHandle" Json.int64?
    numColumns := ← withDefault "numColumns" 0 Json.uint64?
    numRows := ← withDefault "numRows" 0 Json.uint64?
    numRowsInMessage := ← withDefault "numRowsInMessage" 0 Json.uint64?
    columns := ← withDefault "columns" [] (Json.list? Column.decode)
    data := ← optional "data" Cells.decode }

/-- The handle under which rows are fetched; only a positive number is one. -/
def ResultSet.openHandle? (r : ResultSet) : Option Int64 := r.handle.filter (0 < ·)

/-- The names of the columns of a result set. -/
def ResultSet.columnNames (r : ResultSet) : List String := r.columns.map (·.name)

/-- The outcome of one statement. -/
inductive StatementResult where
  /-- So many rows were affected. -/
  | rowCount (count : Int64)
  | resultSet (rows : Option ResultSet)
  deriving DecidableEq, Repr

/-- The outcome of the kind that its tag names. -/
def StatementResult.ofTag (tag : String) (content : Json) : Option StatementResult :=
  if tag = "rowCount" then
    .rowCount <$> Json.record? (withDefault "rowCount" 0 Json.int64?) content
  else if tag = "resultSet" then
    .resultSet <$> Json.record? (optional "resultSet" (Json.record? ResultSet.fields)) content
  else none

/-- The outcome that a value stands for: the tag is a member, or the first item of a list. -/
def StatementResult.decode : Json → Option StatementResult
  | .obj members => do ofTag (← (← members.lookup "resultType").str?) (.obj members)
  | .arr (tag :: rest) => do ofTag (← tag.str?) (.arr rest)
  | _ => none

/-- The outcomes of the statements of one request, with their number as the server counts them. -/
structure ExecuteResult where
  numResults : UInt64 := 0
  results : List StatementResult := []
  deriving DecidableEq, Repr, Inhabited

/-- The outcomes, read field by field. -/
def ExecuteResult.fields : Json.Fields ExecuteResult := do
  return {
    numResults := ← withDefault "numResults" 0 Json.uint64?
    results := ← withDefault "results" [] (Json.list? StatementResult.decode) }

/-- The rows affected by the first statement; a result set affects none. -/
def ExecuteResult.rowsAffected (r : ExecuteResult) : Int64 :=
  if r.numResults = 0 then 0
  else match r.results.head? with
    | some (.rowCount count) => count
    | _ => 0

-- ---------------------------------------------------------------------------
-- Prepared statements and fetched rows
-- ---------------------------------------------------------------------------

/-- The parameters of a prepared statement. -/
structure Parameters where
  numColumns : UInt64 := 0
  columns : List Column := []
  deriving DecidableEq, Repr, Inhabited

/-- The parameters, read field by field. -/
def Parameters.fields : Json.Fields Parameters := do
  return {
    numColumns := ← withDefault "numColumns" 0 Json.uint64?
    columns := ← withDefault "columns" [] (Json.list? Column.decode) }

/-- A statement that the server has prepared. -/
structure PrepareResult where
  handle : Int64
  parameters : Option Parameters
  deriving DecidableEq, Repr, Inhabited

/-- A prepared statement, read field by field. -/
def PrepareResult.fields : Json.Fields PrepareResult := do
  return {
    handle := ← required "statementHandle" Json.int64?
    parameters := ← optional "parameterData" (Json.record? Parameters.fields) }

/-- Rows that were fetched, column by column, with their number as the server counts them. -/
structure Chunk where
  numRows : UInt64 := 0
  data : Cells := []
  deriving DecidableEq, Repr, Inhabited

/-- Fetched rows, read field by field. -/
def Chunk.fields : Json.Fields Chunk := do
  return {
    numRows := ← withDefault "numRows" 0 Json.uint64?
    data := ← withDefault "data" [] Cells.decode }

end ExasolClient
