-- SUMMARY: One request and its reply.
import ExasolClient.Connection.Basic
import ExasolClient.Wire.Reply

/-!
# Exchanges

The protocol is one request, one reply: the message read next answers the message
just written. A cancelled connection sends nothing, and neither does a closed one.
The attributes that come with a reply are merged into the known ones whether or
not the reply reports an error.
-/

namespace ExasolClient.Connection

variable [Transport σ]

/-- Take the attributes of a reply over. -/
def adopt (attributes : Option Attributes) : Action σ Unit :=
  modify fun c => { c with attributes := c.attributes.merge (attributes.getD .empty) }

/-- Log an error of the server, unless the configuration asks not to. -/
def logServerError (command : String) (fault : Fault) : Action σ Unit := do
  unless (← get).config.suppressErrors do
    note (.serverError command fault)

/-- Send a request and take its reply. -/
def send (α : Type) [Payload α] (request : Request) : Action σ (Reply α) := do
  if (← get).isCancelled then throw .cancelled
  note (.sendingCommand request.command)
  unless (← get).isOpen do throw .closed
  write request
  match Reply.decode (Payload.decode : Json → Option α) (← read) with
  | none => throw (.protocolError (.malformedReply request.command))
  | some reply =>
    adopt reply.attributes
    match reply.result with
    | .ok reply => return reply
    | .error fault =>
      logServerError request.command fault
      throw fault

/-- Send a request and take the payload of its reply. -/
def ask (α : Type) [Payload α] (request : Request) : Action σ α := do
  Action.ofExcept (← send α request).payload

/-- Send a request of which nothing but its success matters. -/
def tell (request : Request) : Action σ Unit := do
  let _ ← send Unit request

end ExasolClient.Connection
