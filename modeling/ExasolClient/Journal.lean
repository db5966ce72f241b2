-- SUMMARY: What a connection leaves behind: the calls of its transport, and the notices it logs.
import ExasolClient.Config.Basic
import ExasolClient.Fault
import ExasolClient.Wire.Request

/-!
# Journal

A connection keeps a journal of what it did to its transport and of the notices
that it logs on the way, in order. A notice says what happened; its level, its
text and its fields are functions of that.
-/

namespace ExasolClient

/-- How urgent a notice is, the most urgent first. -/
inductive Level where
  | error
  | warning
  | info
  | debug
  | trace
  deriving DecidableEq, Repr

/-- Something worth logging. -/
inductive Notice where
  | connecting (endpoint user : String)
  | sessionEstablished (session : UInt64) (database release : String)
  | sendingCommand (command : String)
  | serverError (command : String) (fault : Fault)
  | executing (sql : String)
  | statementPrepared (handle : Int64) (parameters : Nat)
  | executingPrepared (handle : Int64) (columns rows : Nat)
  | staleStatement (handle : Int64)
  | retrying (handle : Int64)
  | statementNotClosed (handle : Int64) (fault : Fault)
  | chunkFetched (handle : Int64) (position rows : UInt64)
  | streamAbandoned (handle : Int64) (position : UInt64)
  | resultSetLeftOpen (handle : Int64)
  | resultSetNotClosed (handle : Int64) (fault : Fault)
  | changingAutocommit (session : UInt64) (enabled : Bool)
  | committing (session : UInt64)
  | rollingBack (session : UInt64)
  | disconnecting (session : UInt64)
  | notDisconnected (session : UInt64) (fault : Fault)
  deriving Repr

namespace Notice

def level : Notice → Level
  | .serverError _ _ => .error
  | .staleStatement _ | .retrying _ | .statementNotClosed _ _ | .resultSetNotClosed _ _
  | .notDisconnected _ _ => .warning
  | .sessionEstablished _ _ _ | .changingAutocommit _ _ | .committing _ | .rollingBack _
  | .disconnecting _ => .info
  | .connecting _ _ | .executing _ | .statementPrepared _ _ | .executingPrepared _ _ _
  | .streamAbandoned _ _ | .resultSetLeftOpen _ => .debug
  | .sendingCommand _ | .chunkFetched _ _ _ => .trace

/-- What happened, in words. -/
def message : Notice → String
  | .connecting _ _ => "connecting"
  | .sessionEstablished _ _ _ => "session established"
  | .sendingCommand _ => "sending command"
  | .serverError _ _ => "server returned an error"
  | .executing _ => "execute"
  | .statementPrepared _ _ => "prepared statement"
  | .executingPrepared _ _ _ => "execute prepared statement"
  | .staleStatement _ => "statement handle not found"
  | .retrying _ => "retrying with new statement handle"
  | .statementNotClosed _ _ => "unable to close prepared statement"
  | .chunkFetched _ _ _ => "fetched chunk"
  | .streamAbandoned _ _ => "result stream abandoned"
  | .resultSetLeftOpen _ => "result set left open after cancellation"
  | .resultSetNotClosed _ _ => "unable to close result set"
  | .changingAutocommit _ true => "enabling autocommit"
  | .changingAutocommit _ false => "disabling autocommit"
  | .committing _ => "committing transaction"
  | .rollingBack _ => "rolling back transaction"
  | .disconnecting _ => "disconnecting"
  | .notDisconnected _ _ => "unable to disconnect cleanly"

/-- What a log shows beside the words. -/
def fields : Notice → List (String × Json)
  | .connecting endpoint user => [("endpoint", .str endpoint), ("user", .str user)]
  | .sessionEstablished session database release =>
    [("session_id", .ofUInt64 session), ("database", .str database), ("release", .str release)]
  | .sendingCommand command => [("command", .str command)]
  | .serverError command fault => [("command", .str command), ("error", .str fault.message)]
  | .executing sql => [("sql", .str sql)]
  | .statementPrepared handle parameters =>
    [("handle", .ofInt64 handle), ("parameters", .int parameters)]
  | .executingPrepared handle columns rows =>
    [("handle", .ofInt64 handle), ("columns", .int columns), ("rows", .int rows)]
  | .staleStatement handle | .retrying handle | .resultSetLeftOpen handle =>
    [("handle", .ofInt64 handle)]
  | .statementNotClosed handle fault | .resultSetNotClosed handle fault =>
    [("handle", .ofInt64 handle), ("error", .str fault.message)]
  | .chunkFetched handle position rows =>
    [("handle", .ofInt64 handle), ("position", .ofUInt64 position), ("rows", .ofUInt64 rows)]
  | .streamAbandoned handle position =>
    [("handle", .ofInt64 handle), ("position", .ofUInt64 position)]
  | .changingAutocommit session _ | .committing session | .rollingBack session
  | .disconnecting session => [("session_id", .ofUInt64 session)]
  | .notDisconnected session fault =>
    [("session_id", .ofUInt64 session), ("error", .str fault.message)]

end Notice

/-- An entry of the journal. -/
inductive Event where
  | connected (endpoint : String) (mode : TlsMode) (timeout : Duration) (fault : Option Fault)
  /-- A request was handed to the transport. -/
  | wrote (request : Request) (fault : Option Fault)
  /-- A message was asked of the transport. -/
  | read (reply : Except Fault Json)
  | compression (enabled : Bool)
  | closed
  | logged (notice : Notice)

end ExasolClient
