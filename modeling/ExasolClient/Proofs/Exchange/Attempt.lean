-- SUMMARY: Attempts to send a request: what came of them, how they read, and what they leave in a journal.
import ExasolClient.Journal
import ExasolClient.Wire.Reply

/-!
# Attempts

Every request of the client is an attempt: it may not be sent at all, the
transport may fail, or a message comes back. What an operation learns of the
server is what the answers to its attempts say, read as replies of the type that
the request asks for. An attempt that was sent leaves its two calls of the
transport in the journal, and `exchanges` finds it there again.
-/

namespace ExasolClient

/-- What came of an attempt to send a request. -/
inductive Answer where
  /-- The connection was cancelled, and nothing was sent. -/
  | cancelled
  /-- The connection was closed, and nothing was sent. -/
  | closed
  /-- The transport did not take the request. -/
  | unwritten (fault : Fault)
  /-- The transport took the request, but then there was no message to read. -/
  | unread (fault : Fault)
  | message (json : Json)

/-- The message of an answer. -/
def Answer.message? : Answer → Except Fault Json
  | .cancelled => .error .cancelled
  | .closed => .error .closed
  | .unwritten fault | .unread fault => .error fault
  | .message json => .ok json

/-- An attempt to send a request. -/
structure Attempt where
  request : Request
  answer : Answer

/-! ## Reading an answer -/

/-- The fault that a report of the server is for the client. -/
def Exception.fault (e : Exception) : Fault := .query (.ofServer e.text e.sqlCode)

/-- Read as a reply, the message reports success and brings a payload. -/
def Json.Brings [Payload α] (reply : Json) (payload : α) : Prop :=
  ∃ r : Reply α, Reply.decode Payload.decode reply = some r ∧ r.status = .ok ∧ r.data = some payload

/-- The attributes that a message reports when it is read with a payload of type `α`. -/
def reportedAs (α : Type) [Payload α] (json : Json) : Attributes :=
  match Reply.decode (Payload.decode : Json → Option α) json with
  | some reply => reply.attributes.getD .empty
  | none => .empty

/-- The attributes that a message reports when it is read as the reply to a request. -/
def Request.reported : Request → Json → Attributes
  | .login _ => reportedAs Crypto.OfferedKey
  | .authenticate _ => reportedAs SessionInfo
  | .execute _ _ | .executePrepared _ _ _ _ _ => reportedAs ExecuteResult
  | .prepare _ _ => reportedAs PrepareResult
  | .fetch _ _ _ => reportedAs Chunk
  | .getAttributes | .setAttributes _ | .closeStatement _ | .closeResultSets _ | .disconnect =>
    reportedAs Unit

/-- The notices of an error with which a request was answered. -/
def Request.errorNotices (r : Request) (report? : Option Exception) : List Event :=
  report?.toList.map fun report => .logged (.serverError r.command report.fault)

/-- The reply to a request carries a payload of type `α`. -/
def Request.Promises (r : Request) (α : Type) [Payload α] : Prop := r.reported = reportedAs α

namespace Attempt

/-- The request was handed to the transport. -/
def isSent (a : Attempt) : Bool :=
  match a.answer with
  | .cancelled | .closed => false
  | .unwritten _ | .unread _ | .message _ => true

/-- The reply, if there is one that reports success. -/
def reply (α : Type) [Payload α] (a : Attempt) : Except Fault (Reply α) := do
  match Reply.decode (Payload.decode : Json → Option α) (← a.answer.message?) with
  | some reply => reply.result
  | none => .error (.protocolError (.malformedReply a.request.command))

/-- The payload of the reply. -/
def payload (α : Type) [Payload α] (a : Attempt) : Except Fault α := a.reply α >>= Reply.payload

/-- What is a payload came in a message that brings it. -/
theorem brings_of_payload {α : Type} [Payload α] {a : Attempt} {p : α} (h : a.payload α = .ok p) :
    ∃ json, a.answer = .message json ∧ json.Brings p := by
  obtain ⟨request, answer⟩ := a
  cases answer with
  | cancelled | closed | unwritten _ | unread _ => cases h
  | message json =>
    simp only [payload, reply, Answer.message?, bind, Except.bind] at h
    cases hdecode : Reply.decode (Payload.decode : Json → Option α) json with
    | none =>
      rw [hdecode] at h
      cases h
    | some r =>
      obtain ⟨status, data, attributes, exception⟩ := r
      rw [hdecode] at h
      cases status with
      | error => cases h
      | ok =>
        cases data with
        | none => cases h
        | some data =>
          cases h
          exact ⟨json, rfl, _, hdecode, rfl, rfl⟩

/-- The error that the reply reports. -/
def serverError? (α : Type) [Payload α] (a : Attempt) : Option Exception := do
  let json ← a.answer.message?.toOption
  let reply ← Reply.decode (Payload.decode : Json → Option α) json
  match reply.status with
  | .ok => none
  | .error => some (reply.exception.getD Reply.unexplained)

/-- The attributes that the reply reports. -/
def attributes (a : Attempt) : Attributes :=
  match a.answer with
  | .message json => a.request.reported json
  | _ => .empty

/-! ## The journal -/

/-- The calls of the transport that an attempt is made of. -/
def events (a : Attempt) : List Event :=
  match a.answer with
  | .cancelled | .closed => []
  | .unwritten fault => [.wrote a.request (some fault)]
  | .unread fault => [.wrote a.request none, .read (.error fault)]
  | .message json => [.wrote a.request none, .read (.ok json)]

/-- What only attempts that were sent bring, the exchanges bring as well. -/
theorem filterMap_filter_isSent {f : Attempt → Option β}
    (hf : ∀ a : Attempt, a.isSent = false → f a = none) (talk : List Attempt) :
    (talk.filter isSent).filterMap f = talk.filterMap f := by
  rw [List.filterMap_filter]
  congr 1
  funext a
  split
  · rfl
  next hsent => exact (hf a (by simpa using hsent)).symm

end Attempt

namespace Event

/-- An entry that is not about the transport. -/
def isNotice : Event → Bool
  | .logged _ => true
  | _ => false

/-- The entries that are about the transport. -/
def calls (events : List Event) : List Event := events.filter (!·.isNotice)

@[simp]
theorem calls_append (a b : List Event) : calls (a ++ b) = calls a ++ calls b := by
  simp [calls]

/-- The exchanges that a list of calls of the transport is made of. -/
def paired : List Event → List Attempt
  | .wrote r (some fault) :: rest => ⟨r, .unwritten fault⟩ :: paired rest
  | .wrote r none :: .read (.error fault) :: rest => ⟨r, .unread fault⟩ :: paired rest
  | .wrote r none :: .read (.ok json) :: rest => ⟨r, .message json⟩ :: paired rest
  | _ :: rest => paired rest
  | [] => []

/-- The exchanges that took place between the entries of a journal. -/
def exchanges (events : List Event) : List Attempt := paired (calls events)

/-- The calls of a list of attempts are found again as those attempts that were sent. -/
theorem paired_flatMap_events (talk : List Attempt) (rest : List Event) :
    paired (talk.flatMap Attempt.events ++ rest) = talk.filter Attempt.isSent ++ paired rest := by
  induction talk with
  | nil => rfl
  | cons a talk ih =>
    obtain ⟨request, answer⟩ := a
    cases answer <;>
      simp [Attempt.events, List.filter_cons, Attempt.isSent, paired, ih]

/-- A journal whose calls are those of a list of attempts tells which of them were sent. -/
theorem exchanges_eq {events : List Event} {talk : List Attempt}
    (h : calls events = talk.flatMap Attempt.events) :
    exchanges events = talk.filter Attempt.isSent := by
  have hpaired := paired_flatMap_events talk []
  rw [List.append_nil] at hpaired
  rw [exchanges, h, hpaired]
  exact List.append_nil _

end Event

/-- All that an attempt leaves are calls of the transport. -/
@[simp]
theorem Attempt.calls_events (a : Attempt) : Event.calls a.events = a.events := by
  obtain ⟨request, answer⟩ := a
  cases answer <;> rfl

end ExasolClient
