-- SUMMARY: The rows of a result set, and access to their cells by index and by name.
import ExasolClient.Row.Cell
import ExasolClient.Row.Columns

/-!
# Rows

A row has the columns of its result set and one cell after the other. A cell is
found by its index or by the name of its column; a typed read of it fails when
there is no such cell or when the cell is of another type.
-/

namespace ExasolClient

/-- A row of a result set. -/
structure Row where
  columns : Columns
  values : List Json
  deriving DecidableEq, Repr, Inhabited

namespace Row

/-- The number of cells. -/
def size (r : Row) : Nat := r.values.length

def isEmpty (r : Row) : Bool := r.values.isEmpty

/-- The cell at an index. -/
def get? (r : Row) (index : Nat) : Option Json := r.values[index]?

/-- The cell in the column called `name`. -/
def getByName? (r : Row) (name : String) : Option Json :=
  (r.columns.indexOf? name).bind r.get?

/-- The cell at an index, as a typed value. -/
def read (r : Row) (reader : CellReader α) (index : Nat) : Except TypeFault α :=
  match r.get? index with
  | some cell => reader.read cell
  | none => .error
    { expected := reader.typeName, found := .pastEnd index r.size, column := none }

/-- The cell in the column called `name`, as a typed value; a fault names the column. -/
def readByName (r : Row) (reader : CellReader α) (name : String) : Except TypeFault α :=
  match r.getByName? name with
  | some cell => (reader.read cell).mapError fun fault => { fault with column := some name }
  | none => .error
    { expected := reader.typeName, found := .noColumn name, column := some name }

end Row
end ExasolClient
