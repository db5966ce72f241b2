-- SUMMARY: The types and the names of columns and parameters, and their form on the wire.
import ExasolClient.Json.Record

/-!
# Data types

A column or parameter has a type: its name and the modifiers that this type takes.
Modifiers that a type does not take do not travel.
-/

namespace ExasolClient

/-- The declared type of a column or parameter. -/
structure DataType where
  name : String
  precision : Option UInt32 := none
  scale : Option UInt32 := none
  size : Option UInt64 := none
  characterSet : Option String := none
  withLocalTimeZone : Option Bool := none
  fraction : Option UInt32 := none
  srid : Option UInt32 := none
  intervalRange : Option UInt32 := none
  deriving DecidableEq, Repr, Inhabited

namespace DataType

/-- A decimal number of `precision` digits, `scale` of them behind the point. -/
def decimal (precision scale : UInt32) : DataType :=
  { name := "DECIMAL", precision := some precision, scale := some scale }

def double : DataType := { name := "DOUBLE" }

def boolean : DataType := { name := "BOOLEAN" }

/-- A text of at most `size` characters. -/
def varchar (size : UInt64) : DataType :=
  { name := "VARCHAR", size := some size, characterSet := some "UTF8" }

/-- The parts of a type by their names on the wire. -/
def members (t : DataType) : List (String × Option Json) := [
  ("type", some (.str t.name)),
  ("precision", t.precision.map .ofUInt32),
  ("scale", t.scale.map .ofUInt32),
  ("size", t.size.map .ofUInt64),
  ("characterSet", t.characterSet.map .str),
  ("withLocalTimeZone", t.withLocalTimeZone.map .bool),
  ("fraction", t.fraction.map .ofUInt32),
  ("srid", t.srid.map .ofUInt32),
  ("intervalRange", t.intervalRange.map .ofUInt32)]

/-- The form on the wire. -/
def encode (t : DataType) : Json := .ofMembers t.members

open Json.Fields in
/-- A type, read field by field. -/
def fields : Json.Fields DataType := do
  return {
    name := ← required "type" Json.str?
    precision := ← optional "precision" Json.uint32?
    scale := ← optional "scale" Json.uint32?
    size := ← optional "size" Json.uint64?
    characterSet := ← optional "characterSet" Json.str?
    withLocalTimeZone := ← optional "withLocalTimeZone" Json.bool?
    fraction := ← optional "fraction" Json.uint32?
    srid := ← optional "srid" Json.uint32?
    intervalRange := ← optional "intervalRange" Json.uint32? }

/-- The type that a value stands for. -/
def decode : Json → Option DataType := Json.record? fields

end DataType

/-- A column or parameter. -/
structure Column where
  name : String
  dataType : DataType
  deriving DecidableEq, Repr, Inhabited

namespace Column

/-- The form on the wire. -/
def encode (c : Column) : Json :=
  .obj [("name", .str c.name), ("dataType", c.dataType.encode)]

open Json.Fields in
/-- A column, read field by field; one without a name has the empty name. -/
def fields : Json.Fields Column := do
  return {
    name := ← withDefault "name" "" Json.str?
    dataType := ← required "dataType" DataType.decode }

/-- The column that a value stands for. -/
def decode : Json → Option Column := Json.record? fields

end Column
end ExasolClient
