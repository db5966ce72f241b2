-- SUMMARY: Cutting a text at a character, at a leading text, and finding a text inside another.

/-!
# Cutting texts

`cutFirst` and `cutLast` cut a text at the first and at the last occurrence of a
character, which belongs to neither part; `fields` cuts it at every occurrence.
`afterLead` removes a leading text. Main statements: a text is cut where it is
put together (`cutFirst_append`, `cutLast_append`, `fields_append`), and the parts of
a cut put together again are the text (`eq_of_cutFirst`, `eq_of_cutLast`).
-/

namespace ExasolClient.Text

-- ---------------------------------------------------------------------------
-- Cutting at the first occurrence
-- ---------------------------------------------------------------------------

/-- The text before and the text after the first `sep`, or `none` when there is no `sep`. -/
def cutFirst (sep : Char) : List Char → Option (List Char × List Char)
  | [] => none
  | c :: rest =>
    if c = sep then some ([], rest)
    else (cutFirst sep rest).map fun (before, after) => (c :: before, after)

theorem cutFirst_append {sep : Char} {before after : List Char} (h : sep ∉ before) :
    cutFirst sep (before ++ sep :: after) = some (before, after) := by
  induction before with
  | nil => simp [cutFirst]
  | cons c rest ih =>
    simp only [List.mem_cons, not_or] at h
    simp [cutFirst, Ne.symm h.1, ih h.2]

/-- Without a separator of its own the leading text belongs to what stands before the cut. -/
theorem cutFirst_append_of_not_mem {sep : Char} {before : List Char} (h : sep ∉ before)
    (cs : List Char) : cutFirst sep (before ++ cs) =
      (cutFirst sep cs).map fun cut => (before ++ cut.1, cut.2) := by
  induction before with
  | nil => cases h : cutFirst sep cs <;> simp [h]
  | cons c before ih =>
    simp only [List.mem_cons, not_or] at h
    simp [cutFirst, Ne.symm h.1, ih h.2, Function.comp_def]

theorem cutFirst_eq_none_iff {sep : Char} {cs : List Char} : cutFirst sep cs = none ↔ sep ∉ cs := by
  induction cs with
  | nil => simp [cutFirst]
  | cons c rest ih =>
    by_cases h : c = sep
    · simp [cutFirst, h]
    · simp [cutFirst, h, ih, Ne.symm h]

theorem eq_of_cutFirst {sep : Char} {cs before after : List Char}
    (h : cutFirst sep cs = some (before, after)) : cs = before ++ sep :: after ∧ sep ∉ before := by
  induction cs generalizing before with
  | nil => simp [cutFirst] at h
  | cons c rest ih =>
    by_cases hc : c = sep
    · simp only [cutFirst, hc, if_true, Option.some.injEq, Prod.mk.injEq] at h
      obtain ⟨rfl, rfl⟩ := h
      simp [hc]
    · simp only [cutFirst, hc, if_false, Option.map_eq_some_iff, Prod.mk.injEq, Prod.exists] at h
      obtain ⟨b, a, hba, rfl, rfl⟩ := h
      obtain ⟨rfl, hb⟩ := ih hba
      simp [Ne.symm hc, hb]

-- ---------------------------------------------------------------------------
-- Cutting at the last occurrence
-- ---------------------------------------------------------------------------

/-- The text before and the text after the last `sep`, or `none` when there is no `sep`. -/
def cutLast (sep : Char) (cs : List Char) : Option (List Char × List Char) :=
  (cutFirst sep cs.reverse).map fun (after, before) => (before.reverse, after.reverse)

theorem cutLast_append {sep : Char} {before after : List Char} (h : sep ∉ after) :
    cutLast sep (before ++ sep :: after) = some (before, after) := by
  have hr : sep ∉ after.reverse := by simpa using h
  have := @cutFirst_append sep after.reverse before.reverse hr
  simp [cutLast, this]

theorem cutLast_eq_none_iff {sep : Char} {cs : List Char} : cutLast sep cs = none ↔ sep ∉ cs := by
  simp [cutLast, cutFirst_eq_none_iff]

theorem eq_of_cutLast {sep : Char} {cs before after : List Char}
    (h : cutLast sep cs = some (before, after)) : cs = before ++ sep :: after ∧ sep ∉ after := by
  simp only [cutLast, Option.map_eq_some_iff, Prod.mk.injEq, Prod.exists] at h
  obtain ⟨a, b, hab, rfl, rfl⟩ := h
  obtain ⟨hcs, ha⟩ := eq_of_cutFirst hab
  have := congrArg List.reverse hcs
  simp only [List.reverse_reverse, List.reverse_append, List.reverse_cons] at this
  simp [this, ha]

-- ---------------------------------------------------------------------------
-- Cutting at every occurrence
-- ---------------------------------------------------------------------------

/-- The texts between the occurrences of `sep`: one more than there are occurrences. -/
def fields (sep : Char) : List Char → List (List Char)
  | [] => [[]]
  | c :: rest =>
    if c = sep then [] :: fields sep rest
    else match fields sep rest with
      | [] => [[c]]
      | first :: others => (c :: first) :: others

theorem fields_of_not_mem {sep : Char} {cs : List Char} (h : sep ∉ cs) : fields sep cs = [cs] := by
  induction cs with
  | nil => rfl
  | cons c cs ih =>
    simp only [List.mem_cons, not_or] at h
    simp [fields, Ne.symm h.1, ih h.2]

theorem fields_append {sep : Char} {before after : List Char} (h : sep ∉ before) :
    fields sep (before ++ sep :: after) = before :: fields sep after := by
  induction before with
  | nil => simp [fields]
  | cons c before ih =>
    simp only [List.mem_cons, not_or] at h
    simp [fields, Ne.symm h.1, ih h.2]

-- ---------------------------------------------------------------------------
-- Leading and inner texts
-- ---------------------------------------------------------------------------

/-- What follows the leading text `lead`, or `none` when the text starts otherwise. -/
def afterLead : (lead cs : List Char) → Option (List Char)
  | [], cs => some cs
  | _ :: _, [] => none
  | l :: lead, c :: cs => if l = c then afterLead lead cs else none

@[simp]
theorem afterLead_append (lead cs : List Char) : afterLead lead (lead ++ cs) = some cs := by
  induction lead with
  | nil => rfl
  | cons l lead ih => simp [afterLead, ih]

theorem afterLead_eq_some_iff {lead cs rest : List Char} :
    afterLead lead cs = some rest ↔ cs = lead ++ rest := by
  induction lead generalizing cs with
  | nil => simp [afterLead]
  | cons l lead ih =>
    cases cs with
    | nil => simp [afterLead]
    | cons c cs =>
      by_cases h : l = c
      · simp [afterLead, h, ih]
      · simp [afterLead, h, Ne.symm h]

/-- The text `inner` stands somewhere in the text. -/
def contains (inner : List Char) : List Char → Bool
  | [] => inner.isEmpty
  | c :: cs => (afterLead inner (c :: cs)).isSome || contains inner cs

theorem contains_iff {inner cs : List Char} :
    contains inner cs = true ↔ ∃ before after, cs = before ++ inner ++ after := by
  induction cs with
  | nil =>
    constructor
    · intro h
      cases inner with
      | nil => exact ⟨[], [], rfl⟩
      | cons => simp [contains] at h
    · rintro ⟨b, a, h⟩
      have : inner = [] := by
        have := congrArg List.length h
        simp only [List.length_nil, List.length_append] at this
        exact List.length_eq_zero_iff.1 (by omega)
      simp [contains, this]
  | cons c cs ih =>
    simp only [contains, Bool.or_eq_true, ih, Option.isSome_iff_exists, afterLead_eq_some_iff]
    constructor
    · rintro (⟨rest, h⟩ | ⟨b, a, h⟩)
      · exact ⟨[], rest, by simpa using h⟩
      · exact ⟨c :: b, a, by simp [h]⟩
    · rintro ⟨b, a, h⟩
      cases b with
      | nil => exact .inl ⟨a, by simpa using h⟩
      | cons d b =>
        simp only [List.cons_append, List.cons.injEq] at h
        exact .inr ⟨b, a, h.2⟩

/-- The text with every ASCII capital replaced by its small letter. -/
def toLower (cs : List Char) : List Char :=
  cs.map Char.toLower

end ExasolClient.Text
