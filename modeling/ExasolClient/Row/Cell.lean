-- SUMMARY: Reading the cells of a row as typed values.
import ExasolClient.Binary64.Reading
import ExasolClient.Fault
import ExasolClient.Text.Blank

/-!
# Cells

A cell is a JSON value. Decimals that do not fit a number travel as texts, so the
readers of numbers accept a text too, blanks around it aside. A reader carries
the name of its type twice: the short name stands in a report on a cell of
another type, the full one where there is no cell at all.
-/

namespace ExasolClient

/-- A way of reading a cell as a value of type `α`. -/
structure CellReader (α : Type) where
  /-- The full name of the type. -/
  typeName : String
  /-- The value of a cell. -/
  read : Json → Except TypeFault α

namespace CellReader

/-- The reader that takes what `value?` finds and reports every other cell under `shortName`. -/
def ofPartial (typeName shortName : String) (value? : Json → Option α) : CellReader α where
  typeName := typeName
  read cell :=
    match value? cell with
    | some a => .ok a
    | none => .error { expected := shortName, found := .cell cell, column := none }

/-- The integer in `low ≤ n < high` that a number or a text stands for, by `readText`. -/
def integerWithin? (low high : Int) (readText : List Char → Option Int) (cell : Json) :
    Option Int :=
  let value : Option Int := match cell with
    | .int n => some n
    | .str s => readText (Text.trim s.toList)
    | _ => none
  value.filter fun n => low ≤ n && n < high

def bool : CellReader Bool := .ofPartial "bool" "bool" Json.bool?

/-- Integers of 64 bits with a sign. -/
def int64 : CellReader Int64 :=
  .ofPartial "i64" "i64" fun cell =>
    (integerWithin? Int64.minValue.toInt (Int64.maxValue.toInt + 1) Text.readInt cell).map
      Int64.ofInt

/-- Integers of 32 bits with a sign. -/
def int32 : CellReader Int32 :=
  .ofPartial "i32" "i32" fun cell =>
    (integerWithin? Int32.minValue.toInt (Int32.maxValue.toInt + 1) Text.readInt cell).map
      Int32.ofInt

/-- Integers of 64 bits without a sign; a text with a minus sign is none, not even `-0`. -/
def uint64 : CellReader UInt64 :=
  .ofPartial "u64" "u64" fun cell =>
    (integerWithin? 0 UInt64.size (fun cs => (Text.readNat cs).map Int.ofNat) cell).map
      fun n => UInt64.ofNat n.toNat

/-- The number nearest to the one a cell holds. -/
def binary64? : Json → Option Binary64
  | .int n => some (.ofInt n)
  | .float x => some x
  | .str s => Binary64.read (Text.trim s.toList)
  | _ => none

def binary64 : CellReader Binary64 := .ofPartial "f64" "f64" binary64?

/-- A text as it is, a number as its text. -/
def text? : Json → Option String
  | .str s => some s
  | .int n => some (Json.intText n)
  | .float x => some (Json.floatText x)
  | _ => none

def text : CellReader String := .ofPartial "alloc::string::String" "String" text?

/-- The cell itself. -/
def value : CellReader Json where
  typeName := "serde_json::value::Value"
  read cell := .ok cell

/-- Nothing for `NULL`, and otherwise what `reader` reads. -/
def optional (reader : CellReader α) : CellReader (Option α) where
  typeName := s!"core::option::Option<{reader.typeName}>"
  read
    | .null => .ok none
    | cell => (reader.read cell).map some

end CellReader
end ExasolClient
