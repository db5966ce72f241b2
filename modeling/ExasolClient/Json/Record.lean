-- SUMMARY: Records in JSON: fields read by name from an object or in order from an array.
import ExasolClient.Json.Basic

/-!
# Records

A record travels as an object, whose members are found by name and of which the
unknown ones are ignored, or as an array of its fields in the order in which they
are declared. A missing field takes its default, if it has one; an array may only
miss fields at its end, and must not have more items than there are fields. A
`null` stands for an absent value in an optional field and nowhere else.
-/

namespace ExasolClient.Json

/-- What a record is read from: the members of an object, or the items still to come. -/
inductive Record where
  | named (members : List (String × Json))
  | listed (items : List Json)
  deriving Repr, DecidableEq

/-- A reader of some fields of a record. -/
abbrev Fields (α : Type) := StateT Record Option α

namespace Fields

/-- The value of the next field, whose name is `name`, if the record has one. -/
def next (name : String) : Fields (Option Json) := fun
  | .named members => some (members.lookup name, .named members)
  | .listed [] => some (none, .listed [])
  | .listed (item :: rest) => some (some item, .listed rest)

/-- The next field, by `decode`; a record without it is refused. -/
def required (name : String) (decode : Json → Option α) : Fields α := do
  match ← next name with
  | some j => StateT.lift (decode j)
  | none => failure

/-- The next field, by `decode`, or the default of a record without it. -/
def withDefault (name : String) (default : α) (decode : Json → Option α) : Fields α := do
  match ← next name with
  | some j => StateT.lift (decode j)
  | none => return default

/-- The next field, by `decode`; absent when the record lacks it or holds `null`. -/
def optional (name : String) (decode : Json → Option α) : Fields (Option α) := do
  match ← next name with
  | none | some .null => return none
  | some j => StateT.lift ((decode j).map some)

end Fields

/-- The record a value stands for. -/
def record? (fields : Fields α) : Json → Option α
  | .obj members => (fields (.named members)).map fun (a, _) => a
  | .arr items =>
    match fields (.listed items) with
    | some (a, .listed []) => some a
    | _ => none
  | _ => none

end ExasolClient.Json
