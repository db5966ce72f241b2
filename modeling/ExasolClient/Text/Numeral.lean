-- SUMMARY: Integers as texts in base ten: writing them and reading them back.

/-!
# Numerals

An integer is written in base ten, with a minus sign when it is negative and no
leading zeros. Reading is wider: leading zeros and a plus sign are accepted, but
no white space, no separators and no empty text. Main statements: what was
written is read back (`readInt_writeInt`), and what is read as a natural number
is a numeral of it (`readNat_eq_some_iff`).
-/

namespace ExasolClient.Text

-- ---------------------------------------------------------------------------
-- Digits
-- ---------------------------------------------------------------------------

/-- The value of an ASCII digit. -/
def digitValue? (c : Char) : Option Nat :=
  if '0' ≤ c ∧ c ≤ '9' then some (c.toNat - '0'.toNat) else none

/-- The number whose digits, after those of `acc`, the text holds. -/
def digitsValue? (acc : Nat) : List Char → Option Nat
  | [] => some acc
  | c :: cs => (digitValue? c).bind fun d => digitsValue? (10 * acc + d) cs

/-- The number a text of one or more ASCII digits stands for. -/
def readDigits : List Char → Option Nat
  | [] => none
  | cs => digitsValue? 0 cs

/-- The digits of a number in base ten, without leading zeros. -/
def writeNat (n : Nat) : List Char :=
  if n < 10 then [Nat.digitChar n] else writeNat (n / 10) ++ [Nat.digitChar (n % 10)]

theorem writeNat_ne_nil (n : Nat) : writeNat n ≠ [] := by
  rw [writeNat]; split <;> simp

theorem digitValue?_digitChar {d : Nat} (h : d < 10) :
    digitValue? (Nat.digitChar d) = some d := by
  have : d = 0 ∨ d = 1 ∨ d = 2 ∨ d = 3 ∨ d = 4 ∨ d = 5 ∨ d = 6 ∨ d = 7 ∨ d = 8 ∨ d = 9 := by omega
  rcases this with rfl | rfl | rfl | rfl | rfl | rfl | rfl | rfl | rfl | rfl <;> rfl

theorem digitsValue?_append (acc : Nat) (cs ds : List Char) :
    digitsValue? acc (cs ++ ds) = (digitsValue? acc cs).bind fun n => digitsValue? n ds := by
  induction cs generalizing acc with
  | nil => rfl
  | cons c cs ih =>
    simp only [List.cons_append, digitsValue?]
    cases digitValue? c <;> simp [ih]

theorem digitsValue?_writeNat (n : Nat) : digitsValue? 0 (writeNat n) = some n := by
  induction n using Nat.strongRecOn with
  | ind n ih =>
    rw [writeNat]
    split
    · rename_i h
      simp [digitsValue?, digitValue?_digitChar h]
    · rename_i h
      rw [digitsValue?_append, ih (n / 10) (by omega)]
      simp only [Option.bind_some, digitsValue?, digitValue?_digitChar (Nat.mod_lt n (by omega))]
      congr 1
      omega

theorem digitValue?_of_mem_writeNat {c : Char} {n : Nat} (h : c ∈ writeNat n) :
    (digitValue? c).isSome = true := by
  induction n using Nat.strongRecOn with
  | ind n ih =>
    rw [writeNat] at h
    split at h
    next hn =>
      rw [List.mem_singleton.1 h, digitValue?_digitChar hn]
      rfl
    next hn =>
      rcases List.mem_append.1 h with h | h
      · exact ih (n / 10) (by omega) h
      · rw [List.mem_singleton.1 h, digitValue?_digitChar (Nat.mod_lt n (by omega))]
        rfl

theorem readDigits_writeNat (n : Nat) : readDigits (writeNat n) = some n := by
  cases h : writeNat n with
  | nil => exact absurd h (writeNat_ne_nil n)
  | cons c cs => rw [readDigits, ← h, digitsValue?_writeNat]; simp

/-- The digits are those from zero to nine. -/
theorem digitValue?_eq_some_iff {c : Char} {d : Nat} :
    digitValue? c = some d ↔ d < 10 ∧ c = Nat.digitChar d := by
  constructor
  · intro h
    unfold digitValue? at h
    split at h
    next hc =>
      obtain ⟨low, high⟩ := hc
      simp only [Char.le_def, UInt32.le_iff_toNat_le] at low high
      change 48 ≤ c.toNat at low
      change c.toNat ≤ 57 at high
      cases h
      change c.toNat - 48 < 10 ∧ c = Nat.digitChar (c.toNat - 48)
      have hlt : c.toNat - 48 < 10 := by omega
      refine ⟨hlt, Char.toNat_inj.1 ?_⟩
      rw [Nat.toNat_digitChar_of_lt_ten hlt]
      omega
    next => cases h
  · rintro ⟨hd, rfl⟩
    exact digitValue?_digitChar hd

/-- A digit behind a number that is not zero is the last one of the longer number. -/
theorem writeNat_snoc {n d : Nat} (hn : 0 < n) (hd : d < 10) :
    writeNat (10 * n + d) = writeNat n ++ [Nat.digitChar d] := by
  rw [writeNat, if_neg (by omega)]
  have hdiv : (10 * n + d) / 10 = n := by omega
  have hmod : (10 * n + d) % 10 = d := by omega
  rw [hdiv, hmod]

theorem writeNat_of_digitsValue? {acc n : Nat} {cs : List Char} (hacc : 0 < acc)
    (h : digitsValue? acc cs = some n) : writeNat n = writeNat acc ++ cs := by
  induction cs generalizing acc with
  | nil =>
    cases h
    simp
  | cons c cs ih =>
    obtain ⟨d, hd, hrest⟩ := Option.bind_eq_some_iff.1 h
    obtain ⟨hlt, rfl⟩ := digitValue?_eq_some_iff.1 hd
    rw [ih (by omega) hrest, writeNat_snoc hacc hlt, List.append_assoc]
    rfl

theorem digitsValue?_zeros (zeros : Nat) (cs : List Char) :
    digitsValue? 0 (List.replicate zeros '0' ++ cs) = digitsValue? 0 cs := by
  induction zeros with
  | zero => rfl
  | succ zeros ih => exact ih

theorem readDigits_of_ne_nil {cs : List Char} (h : cs ≠ []) :
    readDigits cs = digitsValue? 0 cs := by
  cases cs with
  | nil => exact absurd rfl h
  | cons c cs => rfl

/-- The texts of digits that stand for a number are its own digits, after any number of zeros. -/
theorem readDigits_eq_some_iff {cs : List Char} {n : Nat} :
    readDigits cs = some n ↔ ∃ zeros, cs = List.replicate zeros '0' ++ writeNat n := by
  constructor
  · intro h
    induction cs with
    | nil => cases h
    | cons c cs ih =>
      obtain ⟨d, hd, hrest⟩ := Option.bind_eq_some_iff.1 h
      obtain ⟨hlt, rfl⟩ := digitValue?_eq_some_iff.1 hd
      rw [Nat.mul_zero, Nat.zero_add] at hrest
      rcases Nat.eq_zero_or_pos d with rfl | hpos
      · cases cs with
        | nil =>
          cases hrest
          exact ⟨0, by rw [writeNat, if_pos hlt]; rfl⟩
        | cons c cs =>
          obtain ⟨zeros, hzeros⟩ := ih hrest
          exact ⟨zeros + 1, congrArg (List.cons '0') hzeros⟩
      · refine ⟨0, ?_⟩
        rw [writeNat_of_digitsValue? hpos hrest, writeNat, if_pos hlt]
        rfl
  · rintro ⟨zeros, rfl⟩
    rw [readDigits_of_ne_nil (by simp [writeNat_ne_nil]), digitsValue?_zeros,
      digitsValue?_writeNat]

-- ---------------------------------------------------------------------------
-- Signs
-- ---------------------------------------------------------------------------

/-- The text of an integer. -/
def writeInt : Int → List Char
  | .ofNat n => writeNat n
  | .negSucc n => '-' :: writeNat (n + 1)

/-- The natural number a text stands for: digits, after at most one plus sign. -/
def readNat : List Char → Option Nat
  | '+' :: cs => readDigits cs
  | cs => readDigits cs

/-- The integer a text stands for: digits, after at most one sign. -/
def readInt : List Char → Option Int
  | '-' :: cs => (readDigits cs).map fun n => -(n : Int)
  | cs => (readNat cs).map fun n => (n : Int)

/-- A numeral starts with a digit, so no sign is taken off it. -/
theorem writeNat_head (n : Nat) : ∀ c ∈ (writeNat n).head?, (digitValue? c).isSome = true :=
  fun _ hc => digitValue?_of_mem_writeNat (List.mem_of_mem_head? hc)

theorem readNat_writeNat (n : Nat) : readNat (writeNat n) = some n := by
  have head := writeNat_head n
  cases h : writeNat n with
  | nil => exact absurd h (writeNat_ne_nil n)
  | cons c cs =>
    have hc : c ≠ '+' := by
      rintro rfl
      exact absurd (head _ (by rw [h]; rfl)) (by decide)
    rw [readNat.eq_def]
    split
    · simp_all
    · rw [← h, readDigits_writeNat]

/-- A text of a number: its digits, after any number of zeros and at most one plus sign. -/
def IsNumeral (cs : List Char) (n : Nat) : Prop :=
  ∃ zeros, cs = List.replicate zeros '0' ++ writeNat n ∨
    cs = '+' :: (List.replicate zeros '0' ++ writeNat n)

theorem isNumeral_writeNat (n : Nat) : IsNumeral (writeNat n) n := ⟨0, .inl rfl⟩

/-- Just the numerals of a number are read as that number. -/
theorem readNat_eq_some_iff {cs : List Char} {n : Nat} : readNat cs = some n ↔ IsNumeral cs n := by
  unfold readNat
  split
  next cs =>
    -- No text of digits starts with the sign.
    have hsign : ¬∃ zeros, '+' :: cs = List.replicate zeros '0' ++ writeNat n :=
      fun h => nomatch readDigits_eq_some_iff.2 h
    rw [readDigits_eq_some_iff]
    constructor
    · rintro ⟨zeros, rfl⟩
      exact ⟨zeros, .inr rfl⟩
    · rintro ⟨zeros, h | h⟩
      · exact absurd ⟨zeros, h⟩ hsign
      · exact ⟨zeros, (List.cons.inj h).2⟩
  next hplain =>
    rw [readDigits_eq_some_iff]
    constructor
    · rintro ⟨zeros, h⟩
      exact ⟨zeros, .inl h⟩
    · rintro ⟨zeros, h | h⟩
      · exact ⟨zeros, h⟩
      · exact absurd h (hplain _)

/-- In a numeral there are digits and a sign only. -/
theorem IsNumeral.not_mem {cs : List Char} {n : Nat} (h : IsNumeral cs n) {c : Char}
    (hsign : c ≠ '+') (hdigit : digitValue? c = none) : c ∉ cs := by
  have hzero : c ≠ '0' := by
    rintro rfl
    cases hdigit
  have hdigits (zeros : Nat) : c ∉ List.replicate zeros '0' ++ writeNat n := by
    intro hmem
    rcases List.mem_append.1 hmem with hmem | hmem
    · exact hzero (List.eq_of_mem_replicate hmem)
    · have hsome := digitValue?_of_mem_writeNat hmem
      rw [hdigit] at hsome
      cases hsome
  intro hmem
  obtain ⟨zeros, rfl | rfl⟩ := h
  · exact hdigits zeros hmem
  · rcases List.mem_cons.1 hmem with h | h
    · exact hsign h
    · exact hdigits zeros h

/-- What was written is read back. -/
theorem readInt_writeInt (i : Int) : readInt (writeInt i) = some i := by
  cases i with
  | ofNat n =>
    have head := writeNat_head n
    cases h : writeNat n with
    | nil => exact absurd h (writeNat_ne_nil n)
    | cons c cs =>
      have hc : c ≠ '-' := by
        rintro rfl
        exact absurd (head _ (by rw [h]; rfl)) (by decide)
      rw [readInt.eq_def]
      simp only [writeInt, h]
      split
      · simp_all
      · rw [← h, readNat_writeNat]; rfl
  | negSucc n =>
    simp only [writeInt, readInt, readDigits_writeNat]
    rfl

end ExasolClient.Text
