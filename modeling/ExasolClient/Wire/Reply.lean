-- SUMMARY: The envelope that every reply of the server comes in.
import ExasolClient.Fault
import ExasolClient.Wire.Attributes
import ExasolClient.Wire.Payload

/-!
# Replies

Every reply says whether the request succeeded, and may carry a payload, session
attributes and the report of an error. `Payload` names what the reply to a request
carries; a reply of which any part is not of its form is malformed as a whole.
-/

namespace ExasolClient

/-- A report of an error. -/
structure Exception where
  text : String
  sqlCode : Option String
  deriving DecidableEq, Repr, Inhabited

open Json.Fields in
/-- A report, read field by field. -/
def Exception.fields : Json.Fields Exception := do
  return {
    text := ← withDefault "text" "" Json.str?
    sqlCode := ← optional "sqlCode" Json.str? }

/-- Whether a request succeeded. -/
inductive Status where
  | ok
  | error
  deriving DecidableEq, Repr

/-- The status of this name. -/
def Status.ofName? (name : String) : Option Status :=
  if name = "ok" then some .ok else if name = "error" then some .error else none

/-- The status that a value stands for: its name, or an object that has it as its one member. -/
def Status.decode : Json → Option Status
  | .str name => ofName? name
  | .obj [(name, .null)] => ofName? name
  | _ => none

/-- A reply with a payload of type `α`. -/
structure Reply (α : Type) where
  status : Status
  data : Option α
  attributes : Option Attributes
  exception : Option Exception
  deriving DecidableEq, Repr

namespace Reply

open Json.Fields in
/-- The reply that a value stands for, its payload read by `payload`. -/
def decode (payload : Json → Option α) : Json → Option (Reply α) :=
  Json.record? do
    return {
      status := ← required "status" Status.decode
      data := ← optional "responseData" payload
      attributes := ← optional "attributes" Attributes.decode
      exception := ← optional "exception" (Json.record? Exception.fields) }

/-- The report of an error of which the server says nothing more. -/
def unexplained : Exception where
  text := "server reported an error without details"
  sqlCode := none

/-- The reply, unless it reports an error. -/
def result (r : Reply α) : Except Fault (Reply α) :=
  match r.status with
  | .ok => .ok r
  | .error =>
    let report := r.exception.getD unexplained
    .error (.query (.ofServer report.text report.sqlCode))

/-- The payload, which must not be missing. -/
def payload (r : Reply α) : Except Fault α :=
  match r.data with
  | some data => .ok data
  | none => .error (.protocolError .missingData)

end Reply

/-- What a reply may carry: a way of reading its payload. -/
class Payload (α : Type) where
  decode : Json → Option α

instance : Payload Crypto.OfferedKey := ⟨Json.record? Crypto.OfferedKey.fields⟩
instance : Payload SessionInfo := ⟨Json.record? SessionInfo.fields⟩
instance : Payload ExecuteResult := ⟨Json.record? ExecuteResult.fields⟩
instance : Payload PrepareResult := ⟨Json.record? PrepareResult.fields⟩
instance : Payload Chunk := ⟨Json.record? Chunk.fields⟩

/-- Any value will do where the payload is not looked at. -/
instance : Payload Unit := ⟨fun _ => some ()⟩

end ExasolClient
