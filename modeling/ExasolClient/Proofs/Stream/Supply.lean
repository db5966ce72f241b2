-- SUMMARY: The chunks that a producer accepts, and the rows that a result set supplies.
import ExasolClient.Proofs.Stream.Table

/-!
# What a result set supplies

A chunk is accepted if it has a row and if it is of the shape of its result set; its
rows are those of the transposed matrix. A result set supplies the rows of its accepted
chunks in the order in which these come. Main statements: every row that is supplied
has the columns of the result set (`row_of_mem_supplied`), and fetches follow only on
fetches that have brought an accepted chunk (`Fetched.pairwise`).
-/

namespace ExasolClient

/-! ## Chunks -/

/-- A chunk that is accepted: it has a row, and it is of the shape of the result set. -/
structure Chunk.Fits (columns : Columns) (chunk : Chunk) : Prop where
  nonempty : chunk.numRows ≠ 0
  width : chunk.data.length = columns.size
  rectangular : Rectangular chunk.numRows.toNat chunk.data

instance {w : Nat} {rows : List (List α)} : Decidable (Rectangular w rows) :=
  inferInstanceAs (Decidable (∀ row ∈ rows, row.length = w))

instance {columns : Columns} {chunk : Chunk} : Decidable (chunk.Fits columns) :=
  decidable_of_iff (chunk.numRows ≠ 0 ∧ chunk.data.length = columns.size ∧
      Rectangular chunk.numRows.toNat chunk.data)
    ⟨fun h => ⟨h.1, h.2.1, h.2.2⟩, fun h => ⟨h.nonempty, h.width, h.rectangular⟩⟩

/-- The rows of a chunk, if it is accepted. -/
def Chunk.rowsIn (columns : Columns) (chunk : Chunk) : List Row :=
  if chunk.Fits columns then Stream.rowsOf columns chunk.data else []

theorem Stream.firstOfOtherHeight?_eq_none_iff {rows : UInt64} {data : Cells} (index : Nat) :
    firstOfOtherHeight? rows index data = none ↔ Rectangular rows.toNat data := by
  refine ⟨fun h => ?_, fun h => Table.firstOfOtherHeight?_eq_none h index⟩
  induction data generalizing index with
  | nil => exact fun _ hcolumn => nomatch hcolumn
  | cons column columns ih =>
    unfold firstOfOtherHeight? at h
    split at h
    next hcolumn =>
      intro other hother
      rcases List.mem_cons.1 hother with rfl | hother
      · exact hcolumn
      · exact ih (index + 1) h other hother
    next => cases h

theorem Stream.checkShape_eq_ok_iff {columns : Columns} {data : Cells} {rows : UInt64} :
    checkShape columns data rows = .ok () ↔
      data.length = columns.size ∧ Rectangular rows.toNat data := by
  rw [← firstOfOtherHeight?_eq_none_iff 0]
  unfold checkShape
  by_cases hwidth : data.length = columns.size
  · cases hfirst : firstOfOtherHeight? rows 0 data <;> simp [hwidth]
  · simp [hwidth]

/-- A producer accepts a chunk that has a row and passes the check of its shape. -/
theorem Chunk.fits_iff {columns : Columns} {chunk : Chunk} : chunk.Fits columns ↔
    chunk.numRows ≠ 0 ∧ Stream.checkShape columns chunk.data chunk.numRows = .ok () := by
  rw [Stream.checkShape_eq_ok_iff]
  exact ⟨fun h => ⟨h.nonempty, h.width, h.rectangular⟩, fun h => ⟨h.1, h.2.1, h.2.2⟩⟩

namespace Chunk.Fits

variable {columns : Columns} {chunk : Chunk}

/-- Each row of an accepted chunk has a value for each of the columns. -/
theorem row (h : chunk.Fits columns) {row : Row} (hrow : row ∈ Stream.rowsOf columns chunk.data) :
    row.columns = columns ∧ row.values.length = columns.size := by
  obtain ⟨values, hvalues, rfl⟩ := List.mem_map.1 hrow
  refine ⟨rfl, ?_⟩
  have hne : chunk.data ≠ [] := by
    intro hnil
    rw [hnil] at hvalues
    cases hvalues
  rw [transpose, width_eq h.rectangular hne] at hvalues
  exact (rectangular_columnsOf h.rectangular values hvalues).trans h.width

/-- Where there is a column, a chunk has as many rows as it says. -/
theorem length_rowsOf (h : chunk.Fits columns) (hcolumn : 0 < columns.size) :
    (Stream.rowsOf columns chunk.data).length = chunk.numRows.toNat := by
  have hne : chunk.data ≠ [] := List.length_pos_iff.1 (h.width ▸ hcolumn)
  rw [Stream.rowsOf, List.length_map, transpose, width_eq h.rectangular hne, length_columnsOf]

end Chunk.Fits

/-! ## What a result set supplies -/

/-- A request for rows. -/
def Request.isFetch : Request → Bool
  | .fetch _ _ _ => true
  | _ => false

/-- The chunk that a fetch has brought. -/
def Attempt.chunk? (a : Attempt) : Option Chunk :=
  if a.request.isFetch then (a.payload Chunk).toOption else none

theorem Attempt.chunk?_eq_some_iff {a : Attempt} {chunk : Chunk} (h : a.request.isFetch = true) :
    a.chunk? = some chunk ↔ a.payload Chunk = .ok chunk := by
  rw [chunk?, if_pos h]
  cases a.payload Chunk <;> simp [Except.toOption]

/-- A fetch that has brought a chunk which is accepted. -/
def Attempt.IsAccepted (columns : Columns) (a : Attempt) : Prop :=
  ∃ chunk, a.chunk? = some chunk ∧ chunk.Fits columns

namespace ResultSet

variable (header : ResultSet)

/-- The columns that all rows share. -/
def rowColumns : Columns := ⟨header.columnNames⟩

/-- The rows that came with the reply. -/
def sentRows : List Row :=
  match header.openHandle? with
  | some _ => []
  | none => Chunk.rowsIn header.rowColumns ⟨header.numRows, header.data.getD []⟩

/-- The rows of all chunks that are accepted, in the order in which they came. -/
def supplied (talk : List Attempt) : List Row :=
  header.sentRows ++ (talk.filterMap Attempt.chunk?).flatMap (Chunk.rowsIn header.rowColumns)

/--
A talk in which rows were fetched, with all rows that were accepted. Every fetch asks
for the rows behind those, and goes on only as long as all chunks are accepted.
-/
inductive Fetched : List Attempt → List Row → (going : Bool) → Prop where
  | nil : Fetched [] header.sentRows true
  | page {talk : List Attempt} {rows : List Row} {a : Attempt} {chunk : Chunk} {handle : Int64}
      {position size : UInt64} :
      Fetched talk rows true → a.request = .fetch handle position size →
      (0 < header.rowColumns.size → position.toNat = rows.length) →
      a.chunk? = some chunk → chunk.Fits header.rowColumns →
      Fetched (talk ++ [a]) (rows ++ Stream.rowsOf header.rowColumns chunk.data) true
  | refused {talk : List Attempt} {rows : List Row} {a : Attempt} :
      Fetched talk rows true → ¬a.IsAccepted header.rowColumns → Fetched (talk ++ [a]) rows false
  | aside {talk : List Attempt} {rows : List Row} {going : Bool} {a : Attempt} :
      Fetched talk rows going → a.request.isFetch = false → Fetched (talk ++ [a]) rows false

end ResultSet

theorem ResultSet.size_rowColumns (header : ResultSet) :
    header.rowColumns.size = header.columns.length := by
  rw [rowColumns, Columns.size, columnNames, List.length_map]

theorem Chunk.Fits.rowsIn {columns : Columns} {chunk : Chunk} (h : chunk.Fits columns) :
    chunk.rowsIn columns = Stream.rowsOf columns chunk.data := if_pos h

theorem Chunk.rowsIn_eq_nil {columns : Columns} {chunk : Chunk} (h : ¬chunk.Fits columns) :
    chunk.rowsIn columns = [] := if_neg h

/-- Every row that is supplied has the columns of the result set and a value for each. -/
theorem Chunk.row_of_mem_rowsIn {columns : Columns} {chunk : Chunk} {row : Row}
    (h : row ∈ chunk.rowsIn columns) :
    row.columns = columns ∧ row.values.length = columns.size := by
  by_cases hfits : chunk.Fits columns
  · rw [hfits.rowsIn] at h
    exact hfits.row h
  · rw [rowsIn_eq_nil hfits] at h
    cases h

theorem ResultSet.row_of_mem_supplied {header : ResultSet} {talk : List Attempt} {row : Row}
    (h : row ∈ header.supplied talk) :
    row.columns = header.rowColumns ∧ row.values.length = header.rowColumns.size := by
  rcases List.mem_append.1 h with h | h
  · unfold sentRows at h
    split at h
    · cases h
    · exact Chunk.row_of_mem_rowsIn h
  · obtain ⟨chunk, -, h⟩ := List.mem_flatMap.1 h
    exact Chunk.row_of_mem_rowsIn h

/-- One more attempt supplies the rows of its chunk, if that is accepted. -/
theorem ResultSet.supplied_concat (header : ResultSet) (talk : List Attempt) (a : Attempt) :
    header.supplied (talk ++ [a]) =
      header.supplied talk ++ a.chunk?.toList.flatMap (Chunk.rowsIn header.rowColumns) := by
  rw [supplied, supplied, List.filterMap_append, List.flatMap_append, List.append_assoc]
  cases hchunk : a.chunk? <;> simp [hchunk]

namespace ResultSet.Fetched

variable {header : ResultSet} {talk : List Attempt} {rows : List Row} {going : Bool}

/-- At first there are the rows that came with the reply. -/
theorem start (h : header.sentRows = rows) : header.Fetched [] rows true := h ▸ .nil

theorem supplied_eq (h : header.Fetched talk rows going) : header.supplied talk = rows := by
  induction h with
  | nil => exact List.append_nil _
  | page _ _ _ hchunk hfits ih =>
    rw [supplied_concat, ih, hchunk, Option.toList_some, List.flatMap_singleton, hfits.rowsIn]
  | @refused talk rows a _ hrefused ih =>
    rw [supplied_concat, ih]
    cases hchunk : a.chunk? with
    | none => exact List.append_nil rows
    | some chunk =>
      have hfits : ¬chunk.Fits header.rowColumns := fun hfits => hrefused ⟨chunk, hchunk, hfits⟩
      rw [Option.toList_some, List.flatMap_singleton, Chunk.rowsIn_eq_nil hfits, List.append_nil]
  | @aside _ rows _ a _ hrequest ih =>
    have hnone : a.chunk? = none := by
      rw [Attempt.chunk?, hrequest]
      rfl
    rw [supplied_concat, ih, hnone]
    exact List.append_nil rows

theorem accepted (h : header.Fetched talk rows true) :
    ∀ a ∈ talk, a.IsAccepted header.rowColumns := by
  generalize hgoing : true = going at h
  induction h with
  | nil => exact fun _ ha => nomatch ha
  | @page talk rows a chunk _ _ _ _ _ _ hchunk hfits ih =>
    intro b hb
    rcases List.mem_append.1 hb with hb | hb
    · exact ih rfl b hb
    · rw [List.mem_singleton.1 hb]
      exact ⟨chunk, hchunk, hfits⟩
  | refused | aside => cases hgoing

/-- Whatever comes before a fetch is a fetch that has brought an accepted chunk. -/
theorem pairwise (h : header.Fetched talk rows going) :
    talk.Pairwise fun a b => b.request.isFetch = true → a.IsAccepted header.rowColumns := by
  induction h with
  | nil => exact .nil
  | page hbefore _ _ _ _ ih | refused hbefore _ ih =>
    refine List.pairwise_append.2 ⟨ih, List.pairwise_singleton _ _, fun a ha _ _ _ => ?_⟩
    exact hbefore.accepted a ha
  | aside _ hrequest ih =>
    refine List.pairwise_append.2 ⟨ih, List.pairwise_singleton _ _, fun a _ b hb hfetch => ?_⟩
    rw [List.mem_singleton.1 hb, hrequest] at hfetch
    cases hfetch

end ResultSet.Fetched

end ExasolClient
