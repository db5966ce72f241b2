-- SUMMARY: Which values to bind are accepted, which are refused, and how they are arranged.
import ExasolClient.Proofs.Statement.Provenance

/-!
# Bindings

The lists of values that a statement comes with fall into three classes: without a value there
is nothing to bind, values in lists of several lengths are refused, and all others are a matrix,
which is arranged by columns. A refusal names the first list that is out of line
(`FirstOther`), and it comes before everything else, so that it leaves the connection as it
was. Main statement: the three classes are told apart in just this way, and nothing of a matrix
is lost (`bindings_normalised`).
-/

namespace ExasolClient

/-! ## Lists of several lengths -/

/-- Of the rows, the one at this index is the first that does not have the expected length. -/
structure FirstOther (expected : Nat) (rows : List (List α)) (index : Nat) (row : List α) :
    Prop where
  row_eq : rows[index]? = some row
  other : row.length ≠ expected
  earlier : Rectangular expected (rows.take index)

theorem FirstOther.cons {expected index : Nat} {rows : List (List α)} {first row : List α}
    (h : FirstOther expected rows index row) (hfirst : first.length = expected) :
    FirstOther expected (first :: rows) (index + 1) row := by
  refine ⟨h.row_eq, h.other, fun earlier hearlier => ?_⟩
  rcases List.mem_cons.1 hearlier with rfl | hearlier
  · exact hfirst
  · exact h.earlier earlier hearlier

theorem FirstOther.not_rectangular {expected index : Nat} {rows : List (List α)} {row : List α}
    (h : FirstOther expected rows index row) : ¬Rectangular expected rows :=
  fun hrect => h.other (hrect row (List.mem_of_getElem? h.row_eq))

/-- There is a value in the rows, and not all rows have one length. -/
def IsRagged (rows : List (List α)) : Prop :=
  (∃ row ∈ rows, row ≠ []) ∧ ¬∃ length, Rectangular length rows

/-- Rows of one length are as wide as the first of them. -/
theorem Rectangular.of_width {w : Nat} {rows : List (List α)} (h : Rectangular w rows) :
    Rectangular (width rows) rows := by
  cases rows with
  | nil => exact rectangular_nil _
  | cons row rows => rwa [width_eq h (List.cons_ne_nil row rows)]

namespace StatementOptions

/-- The search counts its index from where it starts. -/
theorem firstOther_of_firstOfOtherLength? {expected start index found : Nat}
    {rows : List (List α)} (h : firstOfOtherLength? expected start rows = some (index, found)) :
    ∃ i row, index = start + i ∧ found = row.length ∧ FirstOther expected rows i row := by
  induction rows generalizing start with
  | nil => cases h
  | cons first rows ih =>
    unfold firstOfOtherLength? at h
    split at h
    next hfirst =>
      obtain ⟨i, row, hindex, hfound, hrow⟩ := ih h
      exact ⟨i + 1, row, by omega, hfound, hrow.cons hfirst⟩
    next hfirst =>
      cases h
      exact ⟨0, first, rfl, rfl, rfl, hfirst, rectangular_nil expected⟩

/-! ## The three classes -/

/-- There is no value among the values to bind. -/
def BindsNothing (o : StatementOptions) : Prop :=
  ∀ binds, o.binds = some binds → ∀ values ∈ binds, values = []

theorem BindsNothing.not_filled {o : StatementOptions} {binds : Cells} (h : o.BindsNothing)
    (hbinds : o.binds = some binds) : ¬∃ values ∈ binds, values ≠ [] :=
  fun ⟨values, hvalues, hne⟩ => hne (h binds hbinds values hvalues)

/-- The values as they are sent, column by column. -/
structure Arranges (o : StatementOptions) (binds data : Cells) : Prop where
  ofColumns : o.orientation = .columns → data = binds
  ofRows : o.orientation = .rows →
    data.length = width binds ∧ Rectangular binds.length data ∧
    (∀ column row : Nat, (data[column]?.bind fun values => values[row]?) =
      binds[row]?.bind fun values => values[column]?) ∧
    transpose data = binds

/-- A matrix that is given by its rows is arranged by its transpose. -/
theorem arranges_of_rectangular {o : StatementOptions} {binds : Cells} {w : Nat}
    (h : Rectangular (w + 1) binds) (hne : binds ≠ []) :
    o.Arranges binds (match o.orientation with
      | .columns => binds
      | .rows => transpose binds) := by
  constructor
  · intro horientation
    rw [horientation]
  · intro horientation
    rw [horientation]
    dsimp only
    have hback := transpose_transpose h hne
    have hwidth := width_eq h hne
    rw [transpose.eq_1 binds, hwidth] at hback ⊢
    exact ⟨length_columnsOf _ _, rectangular_columnsOf h, columnsOf_getElem? h, hback⟩

/-- The three classes of values, each with what becomes of it. -/
inductive Normalises (o : StatementOptions) : Except ArgumentFault (Option Cells) → Prop where
  /-- Without a value there is nothing to bind. -/
  | nothing : o.BindsNothing → Normalises o (.ok none)
  /-- Lists of several lengths are refused. -/
  | ragged {binds : Cells} {index : Nat} {values : List Json} : o.binds = some binds →
      IsRagged binds → FirstOther (width binds) binds index values →
      Normalises o (.error (.raggedBinds o.orientation index values.length (width binds)))
  /-- Lists of one length are a matrix. -/
  | matrix {binds data : Cells} : o.binds = some binds → (∃ values ∈ binds, values ≠ []) →
      (∃ length, Rectangular length binds) → o.Arranges binds data →
      Normalises o (.ok (some data))

theorem bindings_of_filled {o : StatementOptions} {binds : Cells} (hbinds : o.binds = some binds)
    (hfilled : ¬binds.all (·.isEmpty) = true) :
    o.bindings = match firstOfOtherLength? (width binds) 0 binds with
      | some (index, found) => .error (.raggedBinds o.orientation index found (width binds))
      | none => .ok <| some <| match o.orientation with
        | .columns => binds
        | .rows => transpose binds := by
  rw [bindings, hbinds]
  exact if_neg hfilled

theorem bindings_normalises (o : StatementOptions) : o.Normalises o.bindings := by
  cases hbinds : o.binds with
  | none =>
    have hnone : o.bindings = .ok none := by rw [bindings, hbinds]
    rw [hnone]
    exact .nothing fun _ h => nomatch hbinds.symm.trans h
  | some binds =>
    by_cases hempty : binds.all (·.isEmpty) = true
    · have hnone : o.bindings = .ok none := by
        rw [bindings, hbinds]
        exact if_pos hempty
      rw [hnone]
      refine .nothing fun binds' h values hvalues => ?_
      cases hbinds.symm.trans h
      exact List.isEmpty_iff.1 (List.all_eq_true.1 hempty values hvalues)
    · have hfilled : ∃ values ∈ binds, values ≠ [] := by
        simpa [List.all_eq_true, List.isEmpty_iff] using hempty
      have hverdict := bindings_of_filled hbinds hempty
      cases hsearch : firstOfOtherLength? (width binds) 0 binds with
      | some other =>
        obtain ⟨found, length⟩ := other
        obtain ⟨index, row, hindex, rfl, hfirst⟩ := firstOther_of_firstOfOtherLength? hsearch
        rw [Nat.zero_add] at hindex
        subst hindex
        rw [hverdict, hsearch]
        exact .ragged hbinds ⟨hfilled, fun ⟨_, hrect⟩ => hfirst.not_rectangular hrect.of_width⟩
          hfirst
      | none =>
        rw [hsearch] at hverdict
        obtain ⟨binds', w, hbinds', hwide, hne, -⟩ := rectangular_of_bindings hverdict
        cases hbinds.symm.trans hbinds'
        rw [hverdict]
        exact .matrix hbinds hfilled ⟨_, hwide⟩ (arranges_of_rectangular hwide hne)

/-- A first list without values does not hide those of another one. -/
example : StatementOptions.bindings { binds := some [[], [.int 1]] } =
    .error (.raggedBinds .rows 1 1 0) := rfl

theorem bindings_eq_none_iff (o : StatementOptions) : o.bindings = .ok none ↔ o.BindsNothing := by
  have h := o.bindings_normalises
  generalize o.bindings = verdict at h
  cases h with
  | nothing hnothing => exact ⟨fun _ => hnothing, fun _ => rfl⟩
  | ragged hbinds hragged _ =>
    exact ⟨(nomatch ·), fun hnothing => absurd hragged.1 (hnothing.not_filled hbinds)⟩
  | matrix hbinds hfilled _ _ =>
    exact ⟨(nomatch ·), fun hnothing => absurd hfilled (hnothing.not_filled hbinds)⟩

/-- A refusal names the first list that is out of line. -/
theorem firstOther_of_bindings {o : StatementOptions} {cause : ArgumentFault}
    (h : o.bindings = .error cause) : ∃ binds index values, o.binds = some binds ∧
      IsRagged binds ∧ FirstOther (width binds) binds index values ∧
      cause = .raggedBinds o.orientation index values.length (width binds) := by
  have hnormalises := o.bindings_normalises
  rw [h] at hnormalises
  cases hnormalises with
  | ragged hbinds hragged hfirst => exact ⟨_, _, _, hbinds, hragged, hfirst, rfl⟩

theorem bindings_eq_error_iff (o : StatementOptions) : (∃ cause, o.bindings = .error cause) ↔
    ∃ binds, o.binds = some binds ∧ IsRagged binds := by
  constructor
  · rintro ⟨cause, hcause⟩
    obtain ⟨binds, _, _, hbinds, hragged, -⟩ := firstOther_of_bindings hcause
    exact ⟨binds, hbinds, hragged⟩
  · rintro ⟨binds, hbinds, hragged⟩
    have h := o.bindings_normalises
    generalize o.bindings = verdict at h ⊢
    cases h with
    | nothing hnothing => exact absurd hragged.1 (hnothing.not_filled hbinds)
    | ragged => exact ⟨_, rfl⟩
    | matrix hbinds' _ hrect _ =>
      cases hbinds.symm.trans hbinds'
      exact absurd hrect hragged.2

/-- Values in lists of one length are accepted. -/
theorem bindings_of_rectangular {o : StatementOptions} {binds : Cells}
    (hbinds : o.binds = some binds) (hfilled : ∃ values ∈ binds, values ≠ [])
    (hrect : ∃ length, Rectangular length binds) :
    ∃ data, o.bindings = .ok (some data) ∧ o.Arranges binds data := by
  have h := o.bindings_normalises
  generalize o.bindings = verdict at h ⊢
  cases h with
  | nothing hnothing => exact absurd hfilled (hnothing.not_filled hbinds)
  | ragged hbinds' hragged _ =>
    cases hbinds.symm.trans hbinds'
    exact absurd hrect hragged.2
  | matrix hbinds' _ _ harranges =>
    cases hbinds.symm.trans hbinds'
    exact ⟨_, rfl, harranges⟩

end StatementOptions

/-! ## Refused values -/

namespace Connection

variable [Transport σ]

/-- Values that are refused end a statement before it has begun. -/
theorem on_run_of_refused {o : StatementOptions} {cause : ArgumentFault}
    (h : o.bindings = .error cause) (sql : String) (c : Connection σ) :
    (run sql o).on c = (.error (.argument cause), c) := by
  unfold run
  refine Action.on_bind_error ?_
  rw [h]
  rfl

theorem on_execute_of_refused {o : StatementOptions} {cause : ArgumentFault}
    (h : o.bindings = .error cause) (sql : String) (c : Connection σ) :
    (execute sql o).on c = (.error (.context "Unable to execute" (.argument cause)), c) := by
  have hrun := on_run_of_refused h sql c
  unfold execute runForCount
  rw [Action.on_within, Action.on_bind_error (congrArg Prod.fst hrun), hrun]
  rfl

theorem on_query_of_refused {o : StatementOptions} {cause : ArgumentFault}
    (h : o.bindings = .error cause) (sql : String) (c : Connection σ) :
    (query sql o).on c = (.error (.context "Unable to query" (.argument cause)), c) := by
  have hrun := on_run_of_refused h sql c
  unfold query
  rw [Action.on_within, Action.on_bind_error (congrArg Prod.fst hrun), hrun]
  rfl

end Connection

open Connection in
/--
There is nothing to bind just if there is no value. Values are refused just if their lists are
not of one length, and the refusal names the first list that is not as long as the first of all.
Any others are a matrix: columns are taken as they are, and rows are transposed, which puts
every value into its place and can be undone. To transpose a matrix twice gives it back. With
values that are refused, execute and query fail and leave every connection as it was, be it
open, closed or cancelled.
-/
theorem bindings_normalised [Transport σ] (o : StatementOptions) :
    (o.bindings = .ok none ↔ o.BindsNothing) ∧
    ((∃ cause, o.bindings = .error cause) ↔
      ∃ binds, o.binds = some binds ∧ IsRagged binds) ∧
    (∀ cause, o.bindings = .error cause →
      ∃ binds index values, o.binds = some binds ∧
        FirstOther (width binds) binds index values ∧
        cause = .raggedBinds o.orientation index values.length (width binds)) ∧
    (∀ binds, o.binds = some binds → (∃ values ∈ binds, values ≠ []) →
      (∃ length, Rectangular length binds) →
        ∃ data, o.bindings = .ok (some data) ∧ o.Arranges binds data) ∧
    (∀ (α : Type) (matrix : List (List α)) (w : Nat), 0 < w → matrix ≠ [] →
      Rectangular w matrix → transpose (transpose matrix) = matrix) ∧
    ∀ cause, o.bindings = .error cause → ∀ (sql : String) (c : Connection σ),
      (execute sql o).on c = (.error (.context "Unable to execute" (.argument cause)), c) ∧
      (query sql o).on c = (.error (.context "Unable to query" (.argument cause)), c) := by
  have htwice (α : Type) (matrix : List (List α)) (w : Nat) (hw : 0 < w) (hne : matrix ≠ [])
      (hrect : Rectangular w matrix) : transpose (transpose matrix) = matrix := by
    obtain ⟨w, rfl⟩ := Nat.exists_eq_succ_of_ne_zero (Nat.ne_of_gt hw)
    exact transpose_transpose hrect hne
  have hrefused (cause : ArgumentFault) (h : o.bindings = .error cause) (sql : String)
      (c : Connection σ) := And.intro (on_execute_of_refused h sql c) (on_query_of_refused h sql c)
  refine ⟨o.bindings_eq_none_iff, o.bindings_eq_error_iff, fun cause hcause => ?_,
    fun _ => StatementOptions.bindings_of_rectangular, htwice, hrefused⟩
  obtain ⟨binds, index, values, hbinds, -, hfirst, hcause⟩ :=
    StatementOptions.firstOther_of_bindings hcause
  exact ⟨binds, index, values, hbinds, hfirst, hcause⟩

end ExasolClient
