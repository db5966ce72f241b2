-- SUMMARY: The requests of the client, and their form on the wire.
import ExasolClient.Wire.Attributes
import ExasolClient.Wire.Payload

/-!
# Requests

Every request but the second of the handshake names its command. Attributes that
a request leaves open do not travel.
-/

namespace ExasolClient

/-- The version of the protocol that the client speaks. -/
def protocolVersion : UInt32 := 1

/-- Who asks for a session, and on behalf of whom. -/
structure Credentials where
  user : String
  /-- The password, encrypted. -/
  password : String
  useCompression : Bool
  clientName : String
  driverName : String
  clientOs : String
  clientOsUser : String
  clientVersion : String
  clientRuntime : String
  attributes : Attributes
  deriving DecidableEq, Repr, Inhabited

/-- A request. -/
inductive Request where
  /-- Begin the handshake. -/
  | login (protocolVersion : UInt32)
  /-- Complete the handshake. -/
  | authenticate (credentials : Credentials)
  | getAttributes
  | setAttributes (attributes : Attributes)
  | execute (sql : String) (attributes : Option Attributes)
  | prepare (sql : String) (attributes : Option Attributes)
  | executePrepared (handle : Int64) (numColumns numRows : UInt64) (columns : List Column)
      (data : Cells)
  | closeStatement (handle : Int64)
  | fetch (handle : Int64) (start numBytes : UInt64)
  | closeResultSets (handles : List Int64)
  | disconnect
  deriving DecidableEq, Repr

namespace Request

/-- The name of the command; the one request without a command is called `auth`. -/
def command : Request → String
  | .login _ => "login"
  | .authenticate _ => "auth"
  | .getAttributes => "getAttributes"
  | .setAttributes _ => "setAttributes"
  | .execute _ _ => "execute"
  | .prepare _ _ => "createPreparedStatement"
  | .executePrepared _ _ _ _ _ => "executePreparedStatement"
  | .closeStatement _ => "closePreparedStatement"
  | .fetch _ _ _ => "fetch"
  | .closeResultSets _ => "closeResultSet"
  | .disconnect => "disconnect"

/-- Cells in their form on the wire. -/
def encodeCells (data : Cells) : Json := .arr (data.map .arr)

/-- What a request says besides its command, by the names on the wire. -/
def members : Request → List (String × Option Json)
  | .login version => [("protocolVersion", some (.ofUInt32 version))]
  | .authenticate c => [
      ("username", some (.str c.user)),
      ("password", some (.str c.password)),
      ("useCompression", some (.bool c.useCompression)),
      ("clientName", some (.str c.clientName)),
      ("driverName", some (.str c.driverName)),
      ("clientOs", some (.str c.clientOs)),
      ("clientOsUsername", some (.str c.clientOsUser)),
      ("clientVersion", some (.str c.clientVersion)),
      ("clientRuntime", some (.str c.clientRuntime)),
      ("attributes", some c.attributes.encode)]
  | .getAttributes | .disconnect => []
  | .setAttributes attributes => [("attributes", some attributes.encode)]
  | .execute sql attributes | .prepare sql attributes => [
      ("sqlText", some (.str sql)),
      ("attributes", attributes.map (·.encode))]
  | .executePrepared handle numColumns numRows columns data => [
      ("statementHandle", some (.ofInt64 handle)),
      ("numColumns", some (.ofUInt64 numColumns)),
      ("numRows", some (.ofUInt64 numRows)),
      ("columns", some (.arr (columns.map (·.encode)))),
      ("data", some (encodeCells data))]
  | .closeStatement handle => [("statementHandle", some (.ofInt64 handle))]
  | .fetch handle start numBytes => [
      ("resultSetHandle", some (.ofInt64 handle)),
      ("startPosition", some (.ofUInt64 start)),
      ("numBytes", some (.ofUInt64 numBytes))]
  | .closeResultSets handles => [
      ("resultSetHandles", some (.arr (handles.map .ofInt64)))]

/-- The form on the wire. -/
def encode (r : Request) : Json :=
  match r with
  | .authenticate _ => .ofMembers r.members
  | _ => .ofMembers (("command", some (.str r.command)) :: r.members)

end Request
end ExasolClient
