-- SUMMARY: A server that answers from a script.
import ExasolClient.Transport

/-!
# Scripted servers

For a rehearsal the part of the server is played from a script: for each command a
list of entries, of which every message takes the next one and the last one stays.
A command without entries is answered with success. Entries are whole replies, or
recipes for results of any size.
-/

namespace ExasolClient.Rehearsal

/-- How a message is answered. -/
inductive Answer where
  | reply (json : Json)
  /-- A page of a result of `total` rows, at most `size` of them. -/
  | page (total size columns : Nat)
  /-- A result of `total` rows in one piece. -/
  | inline (total columns : Nat)
  /-- As many rows affected as the message carries. -/
  | echoRows
  /-- The message is not taken. -/
  | writeFault (fault : Fault)
  /-- The message is not answered. -/
  | readFault (fault : Fault)

/-- An entry of a script. -/
structure Entry where
  answer : Answer
  /-- The connection is cancelled before the reply is read. -/
  cancels : Bool := false

/-- A server, and what is left of its script. -/
structure Server where
  script : List (String × List Entry)
  /-- The key that it offers, in base sixteen. -/
  modulus : String
  exponent : String
  connectFault : Option Fault := none
  /-- The reply to the last message. -/
  answer : Except Fault Json := .ok .null

-- ---------------------------------------------------------------------------
-- Replies
-- ---------------------------------------------------------------------------

/-- A reply that reports success and carries a payload. -/
def success (payload : List (String × Json)) : Json :=
  .obj [("status", .str "ok"), ("responseData", .obj payload)]

/-- The cell of a made-up result in a row and a column. -/
def cell (row column : Nat) : Json :=
  if column % 2 = 0 then .int row else .str s!"n{row}"

/-- The cells of `count` rows from `start` on, column by column. -/
def cells (start count columns : Nat) : Json :=
  .arr <| (List.range columns).map fun column =>
    .arr <| (List.range count).map fun i => cell (start + i) column

/-- The columns of a made-up result. -/
def headers (columns : Nat) : Json :=
  .arr <| (List.range columns).map fun column =>
    .obj [("name", .str s!"C{column}"), ("dataType", .obj [("type", .str "VARCHAR")])]

/-- A reply with the outcome of one statement. -/
def outcome (tag : String) (content : Json) : Json :=
  success [("numResults", .int 1),
    ("results", .arr [.obj [("resultType", .str tag), (tag, content)]])]

/-- A number that a message carries. -/
def number (name : String) (message : Json) : Nat :=
  match message.get? name with
  | some (.int n) => n.toNat
  | _ => 0

/-- The reply that an answer makes to a message. -/
def Answer.toReply (message : Json) : Answer → Except Fault Json
  | .reply json => .ok json
  | .page total size columns =>
    let start := number "startPosition" message
    let count := min (start + size) total - start
    .ok (success [("numRows", .int count), ("data", cells start count columns)])
  | .inline total columns =>
    .ok <| outcome "resultSet" <| .obj [
      ("numColumns", .int columns), ("numRows", .int total), ("numRowsInMessage", .int total),
      ("columns", headers columns), ("data", cells 0 total columns)]
  | .echoRows => .ok (outcome "rowCount" (.int (number "numRows" message)))
  | .writeFault fault | .readFault fault => .error fault

-- ---------------------------------------------------------------------------
-- The script
-- ---------------------------------------------------------------------------

/-- The name of the command of a message; one without a command is called `auth`. -/
def commandOf (message : Json) : String :=
  ((message.get? "command").bind Json.str?).getD "auth"

namespace Server

/-- The answer to a message for which the script has no entry. -/
def unscripted (s : Server) (command : String) : Json :=
  if command = "login" then
    success [("publicKeyModulus", .str s.modulus), ("publicKeyExponent", .str s.exponent)]
  else if command = "auth" then
    success [("sessionId", .int 4242424242), ("databaseName", .str "EXA_TEST")]
  else .obj [("status", .str "ok")]

/-- The next entry for a command, and the script without it unless it is the last one. -/
def takeEntry (command : String) :
    List (String × List Entry) → Option (Entry × List (String × List Entry))
  | [] => none
  | (name, entries) :: rest =>
    if name = command then
      match entries with
      | [] => none
      | [entry] => some (entry, (name, [entry]) :: rest)
      | entry :: entries => some (entry, (name, entries) :: rest)
    else (takeEntry command rest).map fun (entry, rest) => (entry, (name, entries) :: rest)

/-- Take a message, and prepare the reply to it. -/
def take (s : Server) (message : Json) : Outcome Server Unit :=
  let command := commandOf message
  match takeEntry command s.script with
  | none => { result := .ok (), next := { s with answer := .ok (s.unscripted command) } }
  | some (entry, script) =>
    let result := match entry.answer with
      | .writeFault fault => .error fault
      | _ => .ok ()
    let next := { s with script := script, answer := entry.answer.toReply message }
    { result := result, next := next, cancels := entry.cancels }

instance : Transport Server where
  connect _ _ _ s :=
    let result := match s.connectFault with
      | some fault => .error fault
      | none => .ok ()
    { result := result, next := s }
  setCompression _ s := s
  write message s := s.take message
  read s := { result := s.answer, next := s }
  close s := s

end Server
end ExasolClient.Rehearsal
