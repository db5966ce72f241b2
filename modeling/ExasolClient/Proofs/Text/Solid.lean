-- SUMMARY: Texts without blanks, which trimming gives back whatever white space stands around them.
import ExasolClient.Text.Blank
import ExasolClient.Text.Numeral

/-!
# Solid texts

A text is solid when none of its characters is blank. Main statement: white space around a solid
text is trimmed off, and nothing else (`IsSolid.trim`).
-/

namespace ExasolClient.Text

/-- A text without any blank character. -/
def IsSolid (cs : List Char) : Prop := ∀ c ∈ cs, isBlank c = false

instance (cs : List Char) : Decidable (IsSolid cs) := List.decidableBAll _ cs

@[simp]
theorem isSolid_cons {c : Char} {cs : List Char} :
    IsSolid (c :: cs) ↔ isBlank c = false ∧ IsSolid cs :=
  List.forall_mem_cons

@[simp]
theorem isSolid_append {cs ds : List Char} : IsSolid (cs ++ ds) ↔ IsSolid cs ∧ IsSolid ds :=
  List.forall_mem_append

theorem IsSolid.of_subset {cs ds : List Char} (h : IsSolid ds) (hsub : cs ⊆ ds) : IsSolid cs :=
  fun c hc => h c (hsub hc)

theorem isSolid_zeros (n : Nat) : IsSolid (List.replicate n '0') := fun c hc => by
  rw [List.eq_of_mem_replicate hc]
  rfl

theorem IsSolid.trim {before cs after : List Char} (h : IsSolid cs)
    (hbefore : ∀ c ∈ before, isBlank c = true) (hafter : ∀ c ∈ after, isBlank c = true) :
    Text.trim (before ++ cs ++ after) = cs := by
  cases cs with
  | nil =>
    have hnothing : (after ++ []).dropWhile isBlank = [] := List.dropWhile_append_of_pos hafter
    rw [List.append_nil] at hnothing
    rw [List.append_nil, Text.trim, List.dropWhile_append_of_pos hbefore, hnothing]
    rfl
  | cons c cs =>
    exact trim_surrounded (h c List.mem_cons_self) (fun d hd => h d (List.mem_of_getLast? hd))
      hbefore hafter

theorem not_blank_digitChar {d : Nat} (h : d < 10) : isBlank (Nat.digitChar d) = false := by
  revert d
  decide

theorem isSolid_writeNat (n : Nat) : IsSolid (writeNat n) := by
  intro c hc
  obtain ⟨d, hd⟩ := Option.isSome_iff_exists.1 (digitValue?_of_mem_writeNat hc)
  obtain ⟨hlt, rfl⟩ := digitValue?_eq_some_iff.1 hd
  exact not_blank_digitChar hlt

theorem isSolid_writeInt (n : Int) : IsSolid (writeInt n) := by
  cases n with
  | ofNat n => exact isSolid_writeNat n
  | negSucc n => exact isSolid_cons.2 ⟨rfl, isSolid_writeNat (n + 1)⟩

end ExasolClient.Text
