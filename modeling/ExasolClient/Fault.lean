-- SUMMARY: What can go wrong: faults as causes, their texts, their classes, and what lies behind them.
import ExasolClient.Config.TlsMode
import ExasolClient.Json.Writer
import ExasolClient.Text.Split

/-!
# Faults

A fault is a cause, and its text is one function of it. A fault may be wrapped in
the name of the public operation that failed; `root` looks through the wrappers,
and every question about a fault is put to its root. `sources` are the faults
behind a fault, the nearest first.
-/

namespace ExasolClient

-- ---------------------------------------------------------------------------
-- Causes
-- ---------------------------------------------------------------------------

/-- At which point the connection to the server failed. -/
inductive ConnectionKind where
  /-- The transport could not be set up. -/
  | connect
  /-- The remote host refused. -/
  | refused
  /-- The encryption could not be negotiated. -/
  | tls
  /-- The connection was lost or closed. -/
  | disconnected
  /-- The first step of the handshake failed. -/
  | login
  /-- The second step of the handshake failed. -/
  | authentication
  deriving DecidableEq, Repr

/-- The class of an error that the server reported. -/
inductive QueryKind where
  | syntaxOrAccess
  | constraint
  | notFound
  | permission
  | serialization
  | timeout
  | staleHandle
  | database
  deriving DecidableEq, Repr

/-- An error that the server reported, with the statement it answers when that is known. -/
structure QueryFault where
  kind : QueryKind
  message : String
  sqlCode : Option String
  sql : Option String
  deriving DecidableEq, Repr

/-- What was found in place of a value of the expected type. -/
inductive Found where
  /-- A cell of another type. -/
  | cell (value : Json)
  /-- No cell: the row is too short. -/
  | pastEnd (index length : Nat)
  /-- No column of that name. -/
  | noColumn (name : String)
  | other (text : String)
  deriving DecidableEq, Repr

/-- A value was not of the expected type. -/
structure TypeFault where
  expected : String
  found : Found
  column : Option String
  deriving DecidableEq, Repr

/-- An answer of the server that makes no sense. -/
inductive ProtocolFault where
  | malformedReply (command : String)
  | missingData
  | noSessionId
  | unexpectedResultCount (count : UInt64)
  | missingResultSet
  | rowCountInsteadOfRows
  | emptyFetch (position total : UInt64)
  | chunkWidth (found expected : Nat)
  | chunkHeight (column found : Nat) (declared : UInt64)
  | other (text : String)
  deriving DecidableEq, Repr

/-- A configuration that cannot be used. -/
inductive ConfigFault where
  | notExasolUrl (url : String)
  | missingHost (url : String)
  | unterminatedHost (address : String)
  | invalidPort (text : String)
  | invalidTlsMode (text : String)
  | invalidCacheFlag (text : String)
  | unknownParameter (name : String)
  | tlsUnavailable (mode : TlsMode)
  | other (text : String)
  deriving DecidableEq, Repr

/-- Which way round the caller gave the values to bind. -/
inductive Orientation where
  | rows
  | columns
  deriving DecidableEq, Repr

/-- Arguments of the wrong shape. -/
inductive ArgumentFault where
  | raggedBinds (orientation : Orientation) (index found expected : Nat)
  | bindCount (parameters columns : Nat)
  | typeCount (types parameters : Nat)
  | other (text : String)
  deriving DecidableEq, Repr

/-- What went wrong. -/
inductive Fault where
  | connection (kind : ConnectionKind) (message : String) (source : Option Fault)
  | query (error : QueryFault)
  | type (error : TypeFault)
  | protocol (cause : ProtocolFault) (source : Option Fault)
  | config (cause : ConfigFault)
  | argument (cause : ArgumentFault)
  /-- A fault within a public operation. -/
  | context (operation : String) (inner : Fault)
  | io (message : String)
  | cancelled
  | serialization (message : String)
  /-- A fault of which nothing but its text is known. -/
  | foreign (text : String)
  deriving Repr, Inhabited

-- ---------------------------------------------------------------------------
-- Texts
-- ---------------------------------------------------------------------------

/-- The error with the code that the server gave it. -/
def QueryFault.text (q : QueryFault) : String :=
  match q.sqlCode with
  | some code => s!"{q.message} (SQL code {code})"
  | none => q.message

/-- What was found, in words. -/
def Found.text : Found → String
  | .cell .null => "NULL"
  | .cell (.bool _) => "boolean"
  | .cell (.int n) => "number " ++ Json.intText n
  | .cell (.float x) => "number " ++ Json.floatText x
  | .cell (.str s) => "string " ++ Text.quoted s
  | .cell (.arr _) => "array"
  | .cell (.obj _) => "object"
  | .pastEnd index length => s!"index {index} out of bounds (row has {length} columns)"
  | .noColumn name => s!"column '{name}' not found"
  | .other text => text

def TypeFault.message (t : TypeFault) : String :=
  match t.column with
  | some column => s!"expected {t.expected} for column '{column}', found {t.found.text}"
  | none => s!"expected {t.expected}, found {t.found.text}"

def ProtocolFault.message : ProtocolFault → String
  | .malformedReply command => s!"Malformed reply to {command}: not of the expected form"
  | .missingData => "Missing responseData in reply"
  | .noSessionId => "Authentication reply carried no sessionId"
  | .unexpectedResultCount count => s!"Unexpected numResults: {count}"
  | .missingResultSet => "Missing result set"
  | .rowCountInsteadOfRows => "Unexpected result type: rowCount"
  | .emptyFetch position total => s!"fetch returned no rows at position {position} of {total}"
  | .chunkWidth found expected => s!"result chunk has {found} columns, expected {expected}"
  | .chunkHeight column found declared =>
    s!"result column {column} has {found} values, {declared} rows declared"
  | .other text => text

def ConfigFault.message : ConfigFault → String
  | .notExasolUrl url => s!"URL must start with exa://: {url}"
  | .missingHost url => s!"missing host in URL: {url}"
  | .unterminatedHost address => s!"unterminated IPv6 host: {address}"
  | .invalidPort text => s!"invalid port: {text}"
  | .invalidTlsMode text => s!"invalid tls mode: {text}"
  | .invalidCacheFlag text => s!"invalid cache flag: {text}"
  | .unknownParameter name => s!"unknown URL parameter: {name}"
  | .tlsUnavailable mode =>
    s!"TLS mode {mode.name} requested but exaws was built without the `tls` feature"
  | .other text => text

/-- One of the lists in which the values to bind were given. -/
def Orientation.item : Orientation → String
  | .rows => "row"
  | .columns => "column"

def ArgumentFault.message : ArgumentFault → String
  | .raggedBinds orientation index found expected =>
    s!"bind {orientation.item} {index} has {found} values, expected {expected}"
  | .bindCount parameters columns =>
    s!"statement has {parameters} parameters but {columns} bind columns were given"
  | .typeCount types parameters =>
    s!"{types} column types given but the statement has {parameters} parameters"
  | .other text => text

/-- The text of a fault, wrappers included. -/
def Fault.message : Fault → String
  | .connection _ message _ => "Connection error: " ++ message
  | .query error => "Query error: " ++ error.text
  | .type error => "Type error: " ++ error.message
  | .protocol cause _ => "Protocol error: " ++ cause.message
  | .config cause => "Configuration error: " ++ cause.message
  | .argument cause => "Invalid argument: " ++ cause.message
  | .context operation inner => operation ++ ": " ++ inner.message
  | .io message => "I/O error: " ++ message
  | .cancelled => "Operation cancelled"
  | .serialization message => "Serialization error: " ++ message
  | .foreign text => text

-- ---------------------------------------------------------------------------
-- Classes
-- ---------------------------------------------------------------------------

/-- The words by which the server says that it no longer knows a statement handle. -/
def staleHandleText : String := "Statement handle not found"

/--
The class of a server error. The words for a lost statement handle decide before
any code; of the codes the most specific one decides.
-/
def QueryKind.classify (message : String) (sqlCode : Option String) : QueryKind :=
  let code := (sqlCode.getD "").toList
  if Text.contains staleHandleText.toList message.toList then .staleHandle
  else if code = "40001".toList then .serialization
  else if code = "R0001".toList then .timeout
  else if code = "42500".toList then .permission
  else if (Text.afterLead "23".toList code).isSome then .constraint
  else if (Text.afterLead "42".toList code).isSome then
    if Text.contains "not found".toList message.toList then .notFound else .syntaxOrAccess
  else .database

/-- The error that a report of the server stands for. -/
def QueryFault.ofServer (message : String) (sqlCode : Option String) : QueryFault where
  kind := .classify message sqlCode
  message := message
  sqlCode := sqlCode
  sql := none

def QueryFault.isStaleHandle (q : QueryFault) : Bool :=
  q.kind = .staleHandle

namespace Fault

/-- The innermost fault. -/
def root : Fault → Fault
  | .context _ inner => inner.root
  | fault => fault

/-- The server no longer knows a statement handle. -/
def isStaleHandle (f : Fault) : Bool :=
  match f.root with
  | .query error => error.isStaleHandle
  | _ => false

/-- The server answered, with an error. -/
def isServerError (f : Fault) : Bool :=
  match f.root with
  | .query _ => true
  | _ => false

/-- The connection can no longer be used. -/
def isConnectionError (f : Fault) : Bool :=
  match f.root with
  | .connection _ _ _ | .io _ => true
  | _ => false

/-- The caller broke the contract. -/
def isArgumentError (f : Fault) : Bool :=
  match f.root with
  | .argument _ => true
  | _ => false

/-- The code that the server gave its error. -/
def sqlCode (f : Fault) : Option String :=
  match f.root with
  | .query error => error.sqlCode
  | _ => none

/-- At which point the connection failed. -/
def connectionKind (f : Fault) : Option ConnectionKind :=
  match f.root with
  | .connection kind _ _ => some kind
  | _ => none

/-- The faults behind a fault, the nearest first. -/
def sources : Fault → List Fault
  | .connection _ _ (some source) => source :: source.sources
  | .protocol _ (some source) => source :: source.sources
  | .context _ inner => inner :: inner.sources
  | .io message => [.foreign message]
  | _ => []

-- ---------------------------------------------------------------------------
-- Faults of the client itself
-- ---------------------------------------------------------------------------

/-- The connection was closed. -/
def closed : Fault := .connection .disconnected "connection is closed" none

/-- An answer of the server that makes no sense. -/
def protocolError (cause : ProtocolFault) : Fault := .protocol cause none

/-- The statement that a server error answers, unless another one is already named. -/
def withSql (sql : String) : Fault → Fault
  | .query error => .query (if error.sql.isNone then { error with sql := some sql } else error)
  | fault => fault

end Fault
end ExasolClient
