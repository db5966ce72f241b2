-- SUMMARY: What is found under the name of a column, in its columns and in a row of them.
import ExasolClient.Row.Basic
import Mathlib.Data.List.Infix

/-!
# Looking up columns

A table of the names with their indices finds a column at once. It is filled in the order of the
columns, so an entry for a name that occurs again takes the place of the earlier one, and what is
found is the last column of that name (`getElem?_table`). In a row with one cell for each column a
name and the index found for it stand for the same cell, and a typed read by name is the typed read
at the index, save that its fault names the column. Main statement: `columns_looked_up`.
-/

namespace ExasolClient

/-! ## Tables -/

namespace Columns

/-- The table of the names with their indices, filled in the order of the columns. -/
def table (c : Columns) : Std.HashMap String Nat := .ofList c.names.zipIdx

/-- A name behind the others is found at its own index, and hides no other name. -/
theorem lastIndex?_snoc (name last : String) (names : List String) :
    lastIndex? name (names ++ [last]) =
      if last = name then some names.length else lastIndex? name names := by
  induction names with
  | nil => simp [lastIndex?]
  | cons n names ih =>
    by_cases h : last = name
    · subst h
      simp [lastIndex?, ih]
    · simp [lastIndex?, ih, h]

/-- In the table the last column of a name is found. -/
theorem getElem?_table (c : Columns) (name : String) : c.table[name]? = c.indexOf? name := by
  obtain ⟨names⟩ := c
  unfold table indexOf?
  induction names using List.reverseRecOn with
  | nil => simp [lastIndex?]
  | append_singleton names last ih =>
    rw [lastIndex?_snoc, ← ih]
    simp [List.zipIdx_append, Std.HashMap.ofList_eq_insertMany_empty, Std.HashMap.insertMany_append,
      Std.HashMap.getElem?_insert]

/-- Among distinct names each index is found for its name. -/
theorem indexOf?_iff_of_nodup {c : Columns} (h : c.names.Nodup) {name : String} {i : Nat} :
    c.indexOf? name = some i ↔ c.nameAt? i = some name := by
  rw [indexOf?_eq_some_iff]
  refine ⟨And.left, fun hi => ⟨hi, fun j hj hname => ?_⟩⟩
  have hlt : i < c.names.length := (List.getElem?_eq_some_iff.1 hi).1
  have hsame : i = j := (List.getElem?_inj hlt h).1 (hi.trans hname.symm)
  omega

/-- Columns are the same if they have the same names at the same indices. -/
theorem ext_nameAt? {c d : Columns} (h : ∀ i, c.nameAt? i = d.nameAt? i) : c = d := by
  obtain ⟨names⟩ := c
  obtain ⟨names'⟩ := d
  exact congrArg mk (List.ext_getElem? h)

theorem lt_size_of_indexOf? {c : Columns} {name : String} {i : Nat}
    (h : c.indexOf? name = some i) : i < c.size :=
  (List.getElem?_eq_some_iff.1 (indexOf?_eq_some_iff.1 h).1).1

end Columns

/-! ## Rows -/

/-- A fault about the column called `name`. -/
def TypeFault.inColumn (name : String) (fault : TypeFault) : TypeFault :=
  { fault with column := some name }

namespace Row

variable {r : Row} {name : String} {i : Nat} {cell : Json}

/-- By a name the same is found as at an index. -/
structure Finds (r : Row) (name : String) (i : Nat) : Prop where
  cell : ∃ cell, r.get? i = some cell ∧ r.getByName? name = some cell
  /-- A typed read by name gives a value just if the read at the index gives that value. -/
  value : ∀ {α : Type} (reader : CellReader α) (a : α),
    r.readByName reader name = .ok a ↔ r.read reader i = .ok a
  /-- And it fails just if the other does, with the same fault but for the column in it. -/
  fault : ∀ {α : Type} (reader : CellReader α) (fault : TypeFault),
    r.readByName reader name = .error fault ↔
      ∃ cause, r.read reader i = .error cause ∧ fault = cause.inColumn name

theorem getByName?_eq (hindex : r.columns.indexOf? name = some i) :
    r.getByName? name = r.get? i := by
  rw [getByName?, hindex, Option.bind_some]

/-- Where there is a cell, a read by name is a read at the index. -/
theorem readByName_eq (hindex : r.columns.indexOf? name = some i) (hcell : r.get? i = some cell)
    (reader : CellReader α) :
    r.readByName reader name = (r.read reader i).mapError (.inColumn name) := by
  simp only [readByName, read, getByName?_eq hindex, hcell]
  rfl

theorem finds_of_indexOf? (hsize : r.size = r.columns.size)
    (hindex : r.columns.indexOf? name = some i) : r.Finds name i := by
  have hlt : i < r.values.length := by
    rw [← size, hsize]
    exact Columns.lt_size_of_indexOf? hindex
  have hcell : r.get? i = some r.values[i] := List.getElem?_eq_getElem hlt
  refine ⟨⟨_, hcell, (getByName?_eq hindex).trans hcell⟩, fun reader a => ?_,
    fun reader fault => ?_⟩
  · rw [readByName_eq hindex hcell]
    cases r.read reader i <;> simp [Except.mapError]
  · rw [readByName_eq hindex hcell]
    cases r.read reader i <;> simp [Except.mapError, eq_comm]

end Row

/--
Whatever the names of the columns, the table finds nothing under a name that does not occur, and
otherwise the greatest index at which the name stands; so distinct names and their indices find
each other. Columns are the same just if they have the same name at each index, and then they find
the same under each name. In a row with one cell for each column nothing is found under a name that
does not occur, and otherwise what stands at the index found for it.
-/
theorem columns_looked_up (c : Columns) :
    (∀ name : String, c.table[name]? = c.indexOf? name) ∧
    (∀ name, c.indexOf? name = none ↔ name ∉ c.names) ∧
    (∀ name i, c.indexOf? name = some i ↔
      c.nameAt? i = some name ∧ ∀ j, i < j → c.nameAt? j ≠ some name) ∧
    (c.names.Nodup → ∀ name i, c.indexOf? name = some i ↔ c.nameAt? i = some name) ∧
    (∀ d : Columns, (c == d) = true ↔ ∀ i, c.nameAt? i = d.nameAt? i) ∧
    (∀ d : Columns, (c == d) = true → ∀ name : String, c.table[name]? = d.table[name]?) ∧
    ∀ r : Row, r.columns = c → r.size = c.size →
      (∀ name, r.getByName? name = none ↔ name ∉ c.names) ∧
      ∀ name i, c.indexOf? name = some i → r.Finds name i := by
  refine ⟨c.getElem?_table, fun _ => Columns.indexOf?_eq_none_iff,
    fun _ _ => Columns.indexOf?_eq_some_iff, fun h _ _ => Columns.indexOf?_iff_of_nodup h,
    fun d => ?_, fun d h _ => ?_, ?_⟩
  · rw [beq_iff_eq]
    exact ⟨fun h _ => h ▸ rfl, Columns.ext_nameAt?⟩
  · rw [beq_iff_eq.1 h]
  · rintro r rfl hsize
    refine ⟨fun name => ?_, fun _ _ => Row.finds_of_indexOf? hsize⟩
    rw [← Columns.indexOf?_eq_none_iff]
    cases hindex : r.columns.indexOf? name with
    | none => simp [Row.getByName?, hindex]
    | some i =>
      obtain ⟨cell, -, hcell⟩ := (Row.finds_of_indexOf? hsize hindex).cell
      simp [hcell]

/-- Two columns of a joined query may have one name; of a single table they have distinct ones. -/
theorem columns_looked_up_joined :
    let single : Columns := ⟨["ID", "NAME"]⟩
    let joined : Columns := ⟨["ID", "NAME", "ID"]⟩
    let row : Row := { columns := joined, values := [.int 1, .str "Alice", .int 2] }
    single.names.Nodup ∧ (∀ name i, single.indexOf? name = some i ↔ single.nameAt? i = some name) ∧
      (joined == joined) = true ∧ row.columns = joined ∧ row.size = joined.size ∧
      joined.indexOf? "ID" = some 2 ∧ row.Finds "ID" 2 := by
  intro single joined row
  have hdistinct : single.names.Nodup := by decide
  obtain ⟨-, -, -, hinverse, -⟩ := columns_looked_up single
  obtain ⟨-, -, -, -, hequal, -, hrow⟩ := columns_looked_up joined
  have hindex : joined.indexOf? "ID" = some 2 := by decide
  exact ⟨hdistinct, hinverse hdistinct, (hequal joined).2 fun _ => rfl, rfl, rfl, hindex,
    (hrow row rfl rfl).2 "ID" 2 hindex⟩

end ExasolClient
