-- SUMMARY: The options of a statement, and the values to bind, column by column.
import ExasolClient.Fault
import ExasolClient.Statement.Matrix
import ExasolClient.Wire.DataType
import ExasolClient.Wire.Payload

/-!
# Options of a statement

A statement may come with values to bind, row by row or column by column, with
the schema in which its names are looked up, and with types that take the place
of those the server reports. Values of the wrong shape are refused before
anything is sent.
-/

namespace ExasolClient

/-- The options of a statement. -/
structure StatementOptions where
  /-- The values to bind, as `orientation` says. -/
  binds : Option (List (List Json)) := none
  /-- The schema in which unqualified names are looked up. -/
  schema : Option String := none
  /-- The types of the first parameters, in place of the reported ones. -/
  columnTypes : Option (List DataType) := none
  orientation : Orientation := .rows
  deriving Repr, Inhabited

namespace StatementOptions

/-- The options with one more row of values. -/
def bindRow (o : StatementOptions) (row : List Json) : StatementOptions :=
  { o with binds := some (o.binds.getD [] ++ [row]) }

/-- The first list whose length is not `expected`, with its index. -/
def firstOfOtherLength? (expected index : Nat) : List (List α) → Option (Nat × Nat)
  | [] => none
  | row :: rows =>
    if row.length = expected then firstOfOtherLength? expected (index + 1) rows
    else some (index, row.length)

/-- The values to bind, column by column; `none` when there is nothing to bind. -/
def bindings (o : StatementOptions) : Except ArgumentFault (Option Cells) :=
  match o.binds with
  | none => .ok none
  | some binds =>
    if binds.all (·.isEmpty) then .ok none
    else
      match firstOfOtherLength? (width binds) 0 binds with
      | some (index, found) =>
        .error (.raggedBinds o.orientation index found (width binds))
      | none =>
        .ok <| some <| match o.orientation with
          | .columns => binds
          | .rows => transpose binds

end StatementOptions
end ExasolClient
