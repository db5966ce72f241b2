-- SUMMARY: When a stream that is read to its end keeps to the number of rows that was declared.
import ExasolClient.Proofs.Statement.Messages
import ExasolClient.Proofs.Stream.Course

/-!
# Declared totals

A result set declares how many rows it has. A producer goes on as long as it has fetched
fewer rows than that; it does not look at what comes on top of them, and without columns
there are no rows that it could count. Main statement: where nobody cancels or leaves
the stream, the declared total is honoured if and only if the result set has a column
and supplies no more rows than it declares (`honours_iff`).
-/

namespace ExasolClient

/-- A stream that ends without a fault has as many rows as declared, and any other not more. -/
def Reader.Honours (r : Reader) (total : UInt64) : Prop :=
  match r.fault? with
  | none => r.rows.length = total.toNat
  | some _ => r.rows.length ≤ total.toNat

instance {r : Reader} {total : UInt64} : Decidable (r.Honours total) := by
  unfold Reader.Honours
  cases r.fault? <;> infer_instance

/-- In this turn nobody cancels the stream or leaves it, or has cancelled its connection. -/
def Turn.IsCalm : Turn σ → Prop
  | .produce c => c.isCancelled = false
  | .handOver | .receive => True
  | .cancel | .drop => False

instance : DecidablePred (Turn.IsCalm : Turn σ → Prop)
  | .produce c => inferInstanceAs (Decidable (c.isCancelled = false))
  | .handOver | .receive => .isTrue trivial
  | .cancel | .drop => .isFalse id

section Calm

variable [Transport σ] {r : Reader} {turn : Turn σ} {turns : List (Turn σ)}

theorem Turn.IsCalm.flags_after (h : turn.IsCalm) :
    (r.after turn).stream.isCancelled = r.stream.isCancelled ∧
      (r.after turn).stream.isDropped = r.stream.isDropped := by
  apply r.flags_after
  · rintro rfl
    exact h
  · rintro rfl
    exact h

/-- In calm turns a stream is not cut short. -/
theorem Turn.IsCalm.uncut (h : ∀ turn ∈ turns, turn.IsCalm) (hlive : r.stream.isCancelled = false)
    (told : Bool) : r.Throughout (fun r turn => ¬r.CutIn turn told) turns := by
  induction turns generalizing r with
  | nil => trivial
  | cons turn turns ih =>
    have hturn := h turn List.mem_cons_self
    refine ⟨?_, ih (fun turn hmem => h turn (List.mem_cons_of_mem _ hmem)) ?_⟩
    · rintro ⟨c, rfl, hcut⟩
      have hcancelled := hcut.cancelled
      rw [hlive, show c.isCancelled = false from hturn] at hcancelled
      cases hcancelled
    · rw [hturn.flags_after.1, hlive]

end Calm

/-- Without columns there are no rows. -/
theorem Chunk.rowsIn_of_no_columns {columns : Columns} (h : columns.size = 0) (chunk : Chunk) :
    chunk.rowsIn columns = [] := by
  unfold rowsIn
  split
  next hfits =>
    have hdata : chunk.data = [] := List.length_eq_zero_iff.1 (hfits.width.trans h)
    rw [hdata]
    rfl
  next => rfl

theorem ResultSet.supplied_of_no_columns {header : ResultSet} (h : header.rowColumns.size = 0)
    (talk : List Attempt) : header.supplied talk = [] := by
  have hsent : header.sentRows = [] := by
    unfold sentRows
    split
    · rfl
    · exact Chunk.rowsIn_of_no_columns h _
  rw [supplied, hsent, List.nil_append]
  exact List.flatMap_eq_nil_iff.2 fun chunk _ => Chunk.rowsIn_of_no_columns h chunk

/--
What becomes of the declared total, in every session in which the stream takes these turns.
Where there is a column, the server must not supply more rows than it has declared: the
producer does not look. Where there is none, a stream that should have rows ends without
any, and without a fault.
-/
theorem honours_iff [Transport σ] (header : ResultSet) (size : UInt64) (turns : List (Turn σ))
    (hcalm : ∀ turn ∈ turns, turn.IsCalm)
    (hend : ((header.opened size).run turns).stream.isFinished = true) :
    (((header.opened size).run turns).Honours header.numRows ↔
      if header.columns = [] then
        header.numRows = 0 ∨ ((header.opened size).run turns).fault?.isSome = true
      else
        (header.supplied ((header.opened size).said turns)).length ≤ header.numRows.toNat) ∧
    (header.opened size).Records turns ((header.opened size).said turns)
      ((header.opened size).run turns) := by
  refine ⟨?_, (header.opened size).records_run turns⟩
  obtain ⟨given, fate, seen, ends, hbooks, hcut⟩ := header.books_of_run size turns
  have hundropped : ((header.opened size).run turns).stream.isDropped = false :=
    (header.opened size).isDropped_run fun hdrop => hcalm .drop hdrop
  obtain ⟨hseen, hclosed⟩ := hbooks.settled hend hundropped
  have hnone (hcolumns : header.columns = []) (talk : List Attempt) :
      header.supplied talk = [] := by
    apply ResultSet.supplied_of_no_columns
    rw [header.size_rowColumns, hcolumns, List.length_nil]
  have hcolumn (hcolumns : header.columns ≠ []) : 0 < header.rowColumns.size := by
    rw [header.size_rowColumns]
    exact List.length_pos_iff.2 hcolumns
  rw [Reader.Honours, hbooks.rows_eq hseen, hbooks.fault?_eq hseen]
  cases hclosed with
  | whole hfetched hreaches =>
    obtain rfl := hfetched.supplied_eq
    simp only [Fate.news?]
    split
    next hcolumns =>
      rw [hnone hcolumns, List.length_nil]
      simp [← UInt64.toNat_inj, eq_comm]
    next hcolumns =>
      exact ⟨Nat.le_of_eq, fun h => Nat.le_antisymm h (hreaches (hcolumn hcolumns))⟩
  | failed hfetched =>
    obtain rfl := hfetched.supplied_eq
    simp only [Fate.news?]
    split
    next hcolumns =>
      rw [hnone hcolumns, List.length_nil]
      simp
    next => rfl
  | overflowed hfetched hfirst hoverflows =>
    -- With the position the stream loses the rows of a chunk, so that it is short of the total.
    obtain rfl := hfetched.supplied_eq
    simp only [Fate.news?]
    split
    next hcolumns =>
      have hgiven := hfirst.length_le
      rw [hnone hcolumns, List.length_nil, Nat.le_zero] at hgiven
      have hrows : header.numRows.toNat ≠ 0 := Nat.ne_of_gt hoverflows.pos
      rw [hgiven, eq_comm]
      simp [← UInt64.toNat_inj, hrows]
    next hcolumns =>
      have hshort := hoverflows.short (hcolumn hcolumns)
      have hsize := hoverflows.size_le (hcolumn hcolumns)
      have htotal := header.numRows.toNat_lt
      exact ⟨fun h => absurd h (Nat.ne_of_lt hshort),
        fun h => absurd (Nat.le_trans hsize h) (Nat.not_le_of_lt htotal)⟩
  | @cut _ _ told _ _ => exact absurd (Turn.IsCalm.uncut hcalm rfl told) (hcut told rfl)

/-! ## Three declared rows -/

section Declared

open Connection Rehearsal

/-- A result set that declares three rows, of which none comes with the reply. -/
def declaring (columns : List Column) (handle : Option Int64) : ResultSet where
  handle := handle
  numRows := 3
  columns := columns

/-- The one column of a result set. -/
def oneColumn : List Column := [⟨"C0", { name := "VARCHAR" }⟩]

/-- A producer that fetches pages of so many rows, and then a consumer who reads them all. -/
def readingPages (total size : Nat) : List (Turn Server) :=
  List.replicate 12 (.produce (rehearsed [("fetch", [⟨.page total size 1, false⟩])])) ++
    List.replicate 6 .receive

/-- Two pages with three rows in all honour a total of three. -/
theorem honours_of_pages :
    (∀ turn ∈ readingPages 3 2, turn.IsCalm) ∧
    (((declaring oneColumn (some 5)).opened 1024).run (readingPages 3 2)).stream.isFinished =
      true ∧
    (((declaring oneColumn (some 5)).opened 1024).run (readingPages 3 2)).Honours 3 := by
  have hcalm : ∀ turn ∈ readingPages 3 2, turn.IsCalm := by decide +kernel
  have hend : (((declaring oneColumn (some 5)).opened 1024).run
      (readingPages 3 2)).stream.isFinished = true := by decide +kernel
  refine ⟨hcalm, hend, (honours_iff _ 1024 (readingPages 3 2) hcalm hend).1.2 ?_⟩
  decide +kernel

/--
A page with five rows where three are declared is delivered as it is. Where three rows
are declared but no columns, the stream ends without any. There is no fault either way.
-/
theorem not_honoured :
    (let r := ((declaring oneColumn (some 5)).opened 1024).run (readingPages 5 5)
    r.stream.isFinished = true ∧ r.fault?.isNone = true ∧ r.rows.length = 5 ∧ ¬r.Honours 3) ∧
    (let r := ((declaring [] none).opened 1024).run (readingPages 0 0)
    r.stream.isFinished = true ∧ r.fault?.isNone = true ∧ r.rows.length = 0 ∧ ¬r.Honours 3) := by
  decide +kernel

end Declared

end ExasolClient
