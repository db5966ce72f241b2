-- SUMMARY: Prepared statements, and the cache in which they stay open for the next use.
import ExasolClient.Fault
import ExasolClient.Wire.DataType

/-!
# Prepared statements

The server compiles a statement for a schema and names the result by a handle. The
cache holds at most one prepared statement for each schema and text. Main
statements: what was put in is found (`find?_insert_self`), what was taken out is
not (`find?_erase_self`), and other keys are not affected by either.
-/

namespace ExasolClient

/-- What a statement is prepared for: its text, in a schema. -/
structure StatementKey where
  schema : Option String
  sql : String
  deriving DecidableEq, Repr, Inhabited

/-- A prepared statement. -/
structure PreparedStatement where
  handle : Int64
  /-- The parameters, as the server reported them. -/
  columns : List Column
  deriving DecidableEq, Repr, Inhabited

namespace PreparedStatement

/-- The columns, the first of which have other types. -/
def retype : (columns : List Column) → (types : List DataType) → List Column
  | column :: columns, type :: types => { column with dataType := type } :: retype columns types
  | columns, _ => columns

/-- The parameters with the types that the caller gave; there must not be more of those. -/
def typedColumns (s : PreparedStatement) (types : Option (List DataType)) :
    Except ArgumentFault (List Column) :=
  match types with
  | none => .ok s.columns
  | some types =>
    if s.columns.length < types.length then .error (.typeCount types.length s.columns.length)
    else .ok (retype s.columns types)

@[simp]
theorem length_retype (columns : List Column) (types : List DataType) :
    (retype columns types).length = columns.length := by
  induction columns generalizing types with
  | nil => cases types <;> rfl
  | cons column columns ih => cases types <;> simp [retype, ih]

end PreparedStatement

/-- The prepared statements that stay open. -/
structure StatementCache where
  entries : List (StatementKey × PreparedStatement) := []
  deriving DecidableEq, Repr, Inhabited

namespace StatementCache

def empty : StatementCache := {}

/-- The number of statements. -/
def size (c : StatementCache) : Nat := c.entries.length

/-- The statement prepared for a key. -/
def find? (c : StatementCache) (key : StatementKey) : Option PreparedStatement :=
  c.entries.lookup key

/-- The cache without the statement for a key. -/
def erase (c : StatementCache) (key : StatementKey) : StatementCache :=
  ⟨c.entries.filter fun entry => entry.1 ≠ key⟩

/-- The cache with a statement for a key, in place of any other. -/
def insert (c : StatementCache) (key : StatementKey) (statement : PreparedStatement) :
    StatementCache :=
  ⟨(key, statement) :: (c.erase key).entries⟩

/--
The handles of all statements. The cache promises no order for them; here it is the ascending
one, and what is stated of their order is stated up to permutation.
-/
def handles (c : StatementCache) : List Int64 :=
  (c.entries.map (·.2.handle)).mergeSort (· ≤ ·)

theorem lookup_filter_ne (entries : List (StatementKey × PreparedStatement))
    {key other : StatementKey} (h : other ≠ key) :
    (entries.filter fun entry => entry.1 ≠ key).lookup other = entries.lookup other := by
  induction entries with
  | nil => rfl
  | cons entry entries ih =>
    obtain ⟨k, s⟩ := entry
    simp only [ne_eq, decide_not] at ih
    by_cases hk : k = key
    · simp [hk, ih, List.lookup_cons, beq_false_of_ne h]
    · simp [hk, ih, List.lookup_cons]

theorem find?_erase_self (c : StatementCache) (key : StatementKey) :
    (c.erase key).find? key = none := by
  obtain ⟨entries⟩ := c
  simp only [erase, find?]
  induction entries with
  | nil => rfl
  | cons entry entries ih =>
    obtain ⟨k, s⟩ := entry
    by_cases hk : k = key
    · simpa [hk] using ih
    · have : (key == k) = false := by simpa using Ne.symm hk
      simpa [hk, List.lookup_cons, this] using ih

theorem find?_erase_of_ne (c : StatementCache) {key other : StatementKey} (h : other ≠ key) :
    (c.erase key).find? other = c.find? other :=
  lookup_filter_ne c.entries h

theorem find?_insert_self (c : StatementCache) (key : StatementKey) (s : PreparedStatement) :
    (c.insert key s).find? key = some s := by
  simp [insert, find?]

theorem find?_insert_of_ne (c : StatementCache) {key other : StatementKey} (h : other ≠ key)
    (s : PreparedStatement) : (c.insert key s).find? other = c.find? other := by
  have hb : (other == key) = false := by simpa using h
  have := find?_erase_of_ne c h
  simp only [find?] at this
  simp [insert, find?, List.lookup_cons, hb, this]

end StatementCache
end ExasolClient
