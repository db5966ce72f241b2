-- SUMMARY: Swapping the rows and the columns of a matrix.

/-!
# Matrices

Values come row by row or column by column, and `transpose` turns one into the
other. The width of a matrix is that of its first row; a shorter row leaves out
its part of the later columns. Main statement: a rectangular matrix with a column
is its own transpose twice over (`transpose_transpose`).
-/

namespace ExasolClient

/-- The first `width` columns of a matrix given by its rows. -/
def columnsOf : (width : Nat) → List (List α) → List (List α)
  | 0, _ => []
  | width + 1, rows => rows.filterMap List.head? :: columnsOf width (rows.map List.tail)

/-- The length of the first row. -/
def width : List (List α) → Nat
  | [] => 0
  | row :: _ => row.length

/-- The matrix with rows and columns swapped. -/
def transpose (rows : List (List α)) : List (List α) :=
  columnsOf (width rows) rows

@[simp]
theorem length_columnsOf (w : Nat) (rows : List (List α)) : (columnsOf w rows).length = w := by
  induction w generalizing rows with
  | zero => rfl
  | succ w ih => simp [columnsOf, ih]

/-- All rows are of this length. -/
def Rectangular (w : Nat) (rows : List (List α)) : Prop := ∀ row ∈ rows, row.length = w

theorem rectangular_nil (w : Nat) : Rectangular w ([] : List (List α)) :=
  fun _ hrow => absurd hrow List.not_mem_nil

theorem filterMap_head?_getElem? {w : Nat} {rows : List (List α)} (h : Rectangular (w + 1) rows)
    (r : Nat) : (rows.filterMap List.head?)[r]? = rows[r]?.bind fun row => row[0]? := by
  induction rows generalizing r with
  | nil => simp
  | cons row rows ih =>
    have hrow := h row (by simp)
    cases row with
    | nil => simp at hrow
    | cons a row =>
      cases r with
      | zero => simp
      | succ r => simpa using ih (fun row hr => h row (by simp [hr])) r

theorem Rectangular.tail {w : Nat} {rows : List (List α)} (h : Rectangular (w + 1) rows) :
    Rectangular w (rows.map List.tail) := by
  intro row hrow
  simp only [List.mem_map] at hrow
  obtain ⟨row, hr, rfl⟩ := hrow
  simp [h row hr]

/-- The cell in column `c` and row `r` is the one in row `r` and column `c`. -/
theorem columnsOf_getElem? {w : Nat} {rows : List (List α)} (h : Rectangular w rows) (c r : Nat) :
    ((columnsOf w rows)[c]?.bind fun column => column[r]?) =
      rows[r]?.bind fun row => row[c]? := by
  induction w generalizing rows c with
  | zero =>
    cases hr : rows[r]? with
    | none => simp [columnsOf]
    | some row =>
      have := h row (List.mem_of_getElem? hr)
      simp [columnsOf, List.length_eq_zero_iff.1 this]
  | succ w ih =>
    cases c with
    | zero => simpa [columnsOf] using filterMap_head?_getElem? h r
    | succ c =>
      simp only [columnsOf, List.getElem?_cons_succ, ih h.tail c, List.getElem?_map]
      cases rows[r]? with
      | none => rfl
      | some row => cases row <;> simp

theorem rectangular_columnsOf {w : Nat} {rows : List (List α)} (h : Rectangular w rows) :
    Rectangular rows.length (columnsOf w rows) := by
  induction w generalizing rows with
  | zero => simp [columnsOf, Rectangular]
  | succ w ih =>
    intro column hc
    simp only [columnsOf, List.mem_cons] at hc
    rcases hc with rfl | hc
    · have heads : ∀ rows : List (List α), Rectangular (w + 1) rows →
          (rows.filterMap List.head?).length = rows.length := by
        intro rows h
        induction rows with
        | nil => rfl
        | cons row rows ihr =>
          have hrow := h row (by simp)
          cases row with
          | nil => simp at hrow
          | cons a row => simpa using ihr fun row hr => h row (by simp [hr])
      exact heads rows h
    · simpa using ih h.tail column hc

/-- Two matrices of one height that agree in every cell are the same. -/
theorem matrix_ext {a b : List (List α)} (hlen : a.length = b.length)
    (h : ∀ r c : Nat, (a[r]?.bind fun row => row[c]?) = b[r]?.bind fun row => row[c]?) :
    a = b := by
  apply List.ext_getElem hlen
  intro r hra hrb
  apply List.ext_getElem?
  intro c
  simpa [List.getElem?_eq_getElem hra, List.getElem?_eq_getElem hrb] using h r c

theorem width_eq {w : Nat} {rows : List (List α)} (h : Rectangular w rows) (hne : rows ≠ []) :
    width rows = w := by
  cases rows with
  | nil => exact absurd rfl hne
  | cons row rows => exact h row (by simp)

/-- A rectangular matrix with a row and a column is its own transpose twice over. -/
theorem transpose_transpose {w : Nat} {rows : List (List α)} (h : Rectangular (w + 1) rows)
    (hne : rows ≠ []) : transpose (transpose rows) = rows := by
  have hrect := rectangular_columnsOf h
  have hw : width (columnsOf (w + 1) rows) = rows.length :=
    width_eq hrect (by intro h0; simpa using congrArg List.length h0)
  rw [transpose, transpose, width_eq h hne, hw]
  apply matrix_ext (by simp)
  intro r c
  rw [columnsOf_getElem? hrect, columnsOf_getElem? h]

end ExasolClient
