-- SUMMARY: The column names of a result set, and the look-up of a column by its name.

/-!
# Columns

The columns of a result set are its names in order. Of a name that occurs more
than once the last occurrence counts. Main statement: `indexOf?_eq_some_iff`
says that the index found is the greatest one at which the name stands.
-/

namespace ExasolClient

/-- The column names of a result set, shared by its rows. -/
structure Columns where
  names : List String
  deriving DecidableEq, Repr, Inhabited

namespace Columns

/-- The number of columns. -/
def size (c : Columns) : Nat := c.names.length

def isEmpty (c : Columns) : Bool := c.names.isEmpty

/-- The greatest index at which a list holds `name`. -/
def lastIndex? (name : String) : List String → Option Nat
  | [] => none
  | n :: rest =>
    match lastIndex? name rest with
    | some i => some (i + 1)
    | none => if n = name then some 0 else none

/-- The index of the last column called `name`. -/
def indexOf? (c : Columns) (name : String) : Option Nat := lastIndex? name c.names

/-- The name of the column at an index. -/
def nameAt? (c : Columns) (index : Nat) : Option String := c.names[index]?

theorem lastIndex?_eq_none_iff {name : String} {names : List String} :
    lastIndex? name names = none ↔ name ∉ names := by
  induction names with
  | nil => simp [lastIndex?]
  | cons n rest ih =>
    cases h : lastIndex? name rest with
    | some i =>
      have : name ∈ rest := by
        apply Classical.byContradiction
        intro hn
        rw [ih.2 hn] at h
        cases h
      simp [lastIndex?, h, this]
    | none =>
      by_cases hn : n = name
      · simp [lastIndex?, h, hn]
      · simp [lastIndex?, h, hn, ih.1 h, Ne.symm hn]

theorem lastIndex?_eq_some_iff {name : String} {names : List String} {i : Nat} :
    lastIndex? name names = some i ↔
      names[i]? = some name ∧ ∀ j, i < j → names[j]? ≠ some name := by
  induction names generalizing i with
  | nil => simp [lastIndex?]
  | cons n rest ih =>
    cases h : lastIndex? name rest with
    | some k =>
      have hk := ih.1 h
      simp only [lastIndex?, h, Option.some.injEq]
      constructor
      · rintro rfl
        refine ⟨by simpa using hk.1, fun j hj => ?_⟩
        cases j with
        | zero => omega
        | succ j => simpa using hk.2 j (by omega)
      · rintro ⟨hi, hlast⟩
        cases i with
        | zero => exact absurd (by simpa using hk.1) (hlast (k + 1) (by omega))
        | succ i =>
          have : lastIndex? name rest = some i :=
            ih.2 ⟨by simpa using hi, fun j hj => by simpa using hlast (j + 1) (by omega)⟩
          simpa [h] using this
    | none =>
      have hmem := lastIndex?_eq_none_iff.1 h
      have hnone : ∀ j, rest[j]? ≠ some name := fun j hj => hmem (List.mem_of_getElem? hj)
      by_cases hn : n = name
      · simp only [lastIndex?, h, hn, if_true, Option.some.injEq]
        constructor
        · rintro rfl
          refine ⟨by simp, fun j hj => ?_⟩
          cases j with
          | zero => omega
          | succ j => simpa using hnone j
        · rintro ⟨hi, -⟩
          cases i with
          | zero => rfl
          | succ i => exact absurd (by simpa using hi) (hnone i)
      · simp only [lastIndex?, h, hn, if_false, reduceCtorEq, false_iff, not_and]
        intro hi
        cases i with
        | zero => simp [hn] at hi
        | succ i => exact absurd (by simpa using hi) (hnone i)

/-- The index found is the greatest one at which the name stands. -/
theorem indexOf?_eq_some_iff {c : Columns} {name : String} {i : Nat} :
    c.indexOf? name = some i ↔
      c.nameAt? i = some name ∧ ∀ j, i < j → c.nameAt? j ≠ some name :=
  lastIndex?_eq_some_iff

theorem indexOf?_eq_none_iff {c : Columns} {name : String} :
    c.indexOf? name = none ↔ name ∉ c.names :=
  lastIndex?_eq_none_iff

end Columns
end ExasolClient
