-- SUMMARY: Session attributes: their form on the wire, and the merging of what the server reports.
import ExasolClient.Json.Record

/-!
# Session attributes

A set of attributes may leave any of them open. Open attributes do not travel; an
attribute that is set to false or to zero does. Merging takes the later value of
every attribute that the later set holds.
-/

namespace ExasolClient

/-- A set of session attributes. -/
structure Attributes where
  autocommit : Option Bool := none
  compressionEnabled : Option Bool := none
  currentSchema : Option String := none
  dateFormat : Option String := none
  dateLanguage : Option String := none
  datetimeFormat : Option String := none
  defaultLikeEscapeCharacter : Option String := none
  feedbackInterval : Option UInt32 := none
  numericCharacters : Option String := none
  openTransaction : Option Bool := none
  /-- In seconds; zero means no limit. -/
  queryTimeout : Option UInt64 := none
  snapshotTransactionsEnabled : Option Bool := none
  timestampUtcEnabled : Option Bool := none
  timezone : Option String := none
  timezoneBehavior : Option String := none
  deriving DecidableEq, Repr, Inhabited

namespace Attributes

/-- The set in which every attribute is open. -/
def empty : Attributes := {}

def isEmpty (a : Attributes) : Bool := a = empty

/-- The set of both, in which `b` decides wherever it is not open. -/
def merge (a b : Attributes) : Attributes where
  autocommit := b.autocommit.or a.autocommit
  compressionEnabled := b.compressionEnabled.or a.compressionEnabled
  currentSchema := b.currentSchema.or a.currentSchema
  dateFormat := b.dateFormat.or a.dateFormat
  dateLanguage := b.dateLanguage.or a.dateLanguage
  datetimeFormat := b.datetimeFormat.or a.datetimeFormat
  defaultLikeEscapeCharacter := b.defaultLikeEscapeCharacter.or a.defaultLikeEscapeCharacter
  feedbackInterval := b.feedbackInterval.or a.feedbackInterval
  numericCharacters := b.numericCharacters.or a.numericCharacters
  openTransaction := b.openTransaction.or a.openTransaction
  queryTimeout := b.queryTimeout.or a.queryTimeout
  snapshotTransactionsEnabled := b.snapshotTransactionsEnabled.or a.snapshotTransactionsEnabled
  timestampUtcEnabled := b.timestampUtcEnabled.or a.timestampUtcEnabled
  timezone := b.timezone.or a.timezone
  timezoneBehavior := b.timezoneBehavior.or a.timezoneBehavior

/-- The attributes by their names on the wire. -/
def members (a : Attributes) : List (String × Option Json) := [
  ("autocommit", a.autocommit.map .bool),
  ("compressionEnabled", a.compressionEnabled.map .bool),
  ("currentSchema", a.currentSchema.map .str),
  ("dateFormat", a.dateFormat.map .str),
  ("dateLanguage", a.dateLanguage.map .str),
  ("datetimeFormat", a.datetimeFormat.map .str),
  ("defaultLikeEscapeCharacter", a.defaultLikeEscapeCharacter.map .str),
  ("feedbackInterval", a.feedbackInterval.map .ofUInt32),
  ("numericCharacters", a.numericCharacters.map .str),
  ("openTransaction", a.openTransaction.map .bool),
  ("queryTimeout", a.queryTimeout.map .ofUInt64),
  ("snapshotTransactionsEnabled", a.snapshotTransactionsEnabled.map .bool),
  ("timestampUtcEnabled", a.timestampUtcEnabled.map .bool),
  ("timezone", a.timezone.map .str),
  ("timezoneBehavior", a.timezoneBehavior.map .str)]

/-- The form on the wire. -/
def encode (a : Attributes) : Json := .ofMembers a.members

open Json.Fields in
/-- The attributes, read field by field. -/
def fields : Json.Fields Attributes := do
  return {
    autocommit := ← optional "autocommit" Json.bool?
    compressionEnabled := ← optional "compressionEnabled" Json.bool?
    currentSchema := ← optional "currentSchema" Json.str?
    dateFormat := ← optional "dateFormat" Json.str?
    dateLanguage := ← optional "dateLanguage" Json.str?
    datetimeFormat := ← optional "datetimeFormat" Json.str?
    defaultLikeEscapeCharacter := ← optional "defaultLikeEscapeCharacter" Json.str?
    feedbackInterval := ← optional "feedbackInterval" Json.uint32?
    numericCharacters := ← optional "numericCharacters" Json.str?
    openTransaction := ← optional "openTransaction" Json.bool?
    queryTimeout := ← optional "queryTimeout" Json.uint64?
    snapshotTransactionsEnabled := ← optional "snapshotTransactionsEnabled" Json.bool?
    timestampUtcEnabled := ← optional "timestampUtcEnabled" Json.bool?
    timezone := ← optional "timezone" Json.str?
    timezoneBehavior := ← optional "timezoneBehavior" Json.str? }

/-- The attributes that a value stands for. -/
def decode : Json → Option Attributes := Json.record? fields

/-- The attributes that name the schema of a statement, if it has one. -/
def ofSchema (schema : Option String) : Option Attributes :=
  schema.map fun s => { currentSchema := some s }

@[simp]
theorem merge_empty (a : Attributes) : a.merge empty = a := by
  cases a
  simp [merge, empty]

@[simp]
theorem empty_merge (a : Attributes) : empty.merge a = a := by
  cases a
  simp [merge, empty]

/-- Of three sets the last one decides, in whichever order they are merged. -/
theorem merge_assoc (a b c : Attributes) : (a.merge b).merge c = a.merge (b.merge c) := by
  simp [merge, Option.or_assoc]

end Attributes
end ExasolClient
