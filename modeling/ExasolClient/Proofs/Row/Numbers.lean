-- SUMMARY: A number in a cell reads the same as its text in a cell, blanks around it or not.
import ExasolClient.Json.Writer
import ExasolClient.Proofs.Text.Solid
import ExasolClient.Row.Cell

/-!
# Numbers in cells

A number reaches a cell as a number or as a text, by its size, and the two take different ways
through a reader. They come to the same: the text of an integer is read as that integer, the text
of a float is the text of no integer, and neither has blanks in it that trimming could take for
those around it. Main statement: `numbers_read_as_texts`.
-/

namespace ExasolClient

/-! ## Texts of floats -/

namespace Binary64.Layout

open Text (IsSolid writeNat)

/-- A layout that puts no blank into a text. -/
structure HasNoBlank (l : Layout) : Prop where
  wholeTail : IsSolid l.wholeTail
  plusSign : IsSolid l.plusSign
  nan : IsSolid l.nan
  infinity : IsSolid l.infinity

variable {l : Layout}

/-- The text of zero, or digits that are set out in one of the two ways. -/
theorem magnitude_cases (l : Layout) (x : Binary64) :
    l.magnitude x = '0' :: l.wholeTail ∨
      ∃ n e, l.magnitude x = l.positional (writeNat n) e ∨
        l.magnitude x = l.scientific (writeNat n) e := by
  unfold Layout.magnitude
  split
  next => exact .inl rfl
  next =>
    dsimp only
    split
    next => exact .inr ⟨_, _, .inl rfl⟩
    next => exact .inr ⟨_, _, .inr rfl⟩

/-- The text of what is no number, or of a magnitude with or without a sign before it. -/
theorem write_cases (l : Layout) (x : Binary64) :
    l.write x = l.nan ∨
      ∃ sign, sign ⊆ ['-'] ∧
        (l.write x = sign ++ l.infinity ∨ l.write x = sign ++ l.magnitude x) := by
  unfold Layout.write
  split
  next => exact .inl rfl
  next =>
    refine .inr ⟨if x.isNegative then ['-'] else [], by split <;> simp, ?_⟩
    dsimp only
    split
    next => exact .inl rfl
    next => exact .inr rfl

theorem HasNoBlank.positional (h : l.HasNoBlank) {digits : List Char} (hdigits : IsSolid digits)
    (e : Int) : IsSolid (l.positional digits e) := by
  have hblank : Text.isBlank '.' = false ∧ Text.isBlank '0' = false := by decide
  have hleft (k : Nat) : IsSolid (digits.take k) := hdigits.of_subset (digits.take_subset k)
  have hright (k : Nat) : IsSolid (digits.drop k) := hdigits.of_subset (digits.drop_subset k)
  unfold Layout.positional
  dsimp only
  split
  next => simp [hdigits, Text.isSolid_zeros, h.wholeTail]
  next =>
    split
    next => simp [hleft, hright, hblank]
    next => simp [hdigits, Text.isSolid_zeros, hblank]

theorem HasNoBlank.scientific (h : l.HasNoBlank) {digits : List Char} (hdigits : IsSolid digits)
    (lead : Int) : IsSolid (l.scientific digits lead) := by
  have hblank : Text.isBlank '.' = false ∧ Text.isBlank 'e' = false := by decide
  have hleft : IsSolid (digits.take 1) := hdigits.of_subset (digits.take_subset 1)
  have hright : IsSolid (digits.drop 1) := hdigits.of_subset (digits.drop_subset 1)
  have hsign : IsSolid (if 0 ≤ lead then l.plusSign else []) := by
    split
    next => exact h.plusSign
    next => decide
  have hpoint : IsSolid (if digits.length ≤ 1 then digits
      else digits.take 1 ++ '.' :: digits.drop 1) := by
    split
    next => exact hdigits
    next => exact Text.isSolid_append.2 ⟨hleft, Text.isSolid_cons.2 ⟨hblank.1, hright⟩⟩
  unfold Layout.scientific
  dsimp only
  rw [Text.isSolid_append, Text.isSolid_append, Text.isSolid_cons]
  exact ⟨⟨hpoint, hblank.2, hsign⟩, Text.isSolid_writeInt lead⟩

theorem HasNoBlank.magnitude (h : l.HasNoBlank) (x : Binary64) : IsSolid (l.magnitude x) := by
  obtain heq | ⟨n, e, heq | heq⟩ := l.magnitude_cases x <;> rw [heq]
  · exact Text.isSolid_cons.2 ⟨rfl, h.wholeTail⟩
  · exact h.positional (Text.isSolid_writeNat n) e
  · exact h.scientific (Text.isSolid_writeNat n) e

theorem HasNoBlank.write (h : l.HasNoBlank) (x : Binary64) : IsSolid (l.write x) := by
  obtain heq | ⟨sign, hsub, hrest⟩ := l.write_cases x
  · exact heq ▸ h.nan
  · have hsign : IsSolid sign := IsSolid.of_subset (by decide) hsub
    obtain heq | heq := hrest
    · exact heq ▸ Text.isSolid_append.2 ⟨hsign, h.infinity⟩
    · exact heq ▸ Text.isSolid_append.2 ⟨hsign, h.magnitude x⟩

/-- A whole number has its point in the tail, every other one a point or an exponent. -/
theorem mark_mem_magnitude (h : '.' ∈ l.wholeTail) (x : Binary64) :
    '.' ∈ l.magnitude x ∨ 'e' ∈ l.magnitude x := by
  obtain heq | ⟨n, e, heq | heq⟩ := l.magnitude_cases x <;> rw [heq]
  · exact .inl (List.mem_cons_of_mem _ h)
  · left
    unfold Layout.positional
    dsimp only
    split
    next => simp [h]
    next => split <;> simp
  · exact .inr (by simp [Layout.scientific])

end Binary64.Layout

/-! ## Texts of integers -/

namespace Text

/-- In the text of an integer there are digits and signs only. -/
theorem not_mem_of_readInt {cs : List Char} {n : Int} (h : readInt cs = some n) {c : Char}
    (hsign : c ≠ '+' ∧ c ≠ '-') (hdigit : digitValue? c = none) : c ∉ cs := by
  rw [readInt.eq_def] at h
  split at h
  next cs =>
    obtain ⟨_, hread, -⟩ := Option.map_eq_some_iff.1 h
    obtain ⟨m, hm, -⟩ := Option.bind_eq_some_iff.1 hread
    obtain ⟨zeros, rfl⟩ := readDigits_eq_some_iff.1 hm
    have hnot : c ∉ List.replicate zeros '0' ++ writeNat m :=
      IsNumeral.not_mem ⟨zeros, .inl rfl⟩ hsign.1 hdigit
    simpa [hsign.2] using hnot
  next =>
    obtain ⟨_, hread, -⟩ := Option.map_eq_some_iff.1 h
    obtain ⟨m, hm, -⟩ := Option.bind_eq_some_iff.1 hread
    exact (readNat_eq_some_iff.1 hm).not_mem hsign.1 hdigit

/-- The text of a float is the text of no integer. -/
theorem readInt_write (x : Binary64) : readInt (Json.numberLayout.write x) = none := by
  rw [Option.eq_none_iff_forall_ne_some]
  intro n h
  have hpoint := not_mem_of_readInt h (c := '.') (by decide) (by decide)
  have hexponent := not_mem_of_readInt h (c := 'e') (by decide) (by decide)
  have hnull := not_mem_of_readInt h (c := 'u') (by decide) (by decide)
  obtain heq | ⟨sign, -, heq | heq⟩ := Json.numberLayout.write_cases x <;>
    rw [heq] at hpoint hexponent hnull
  · exact hnull (by decide)
  · exact hnull (List.mem_append_right _ (by decide))
  · have hmark := Binary64.Layout.mark_mem_magnitude (l := Json.numberLayout) (by decide) x
    obtain hmem | hmem := hmark
    · exact hpoint (List.mem_append_right _ hmem)
    · exact hexponent (List.mem_append_right _ hmem)

theorem readInt_of_readNat {cs : List Char} {n : Nat} (h : readNat cs = some n) :
    readInt cs = some (n : Int) := by
  rw [readInt.eq_def]
  split
  next cs =>
    have hsign : '-' ∉ '-' :: cs :=
      (readNat_eq_some_iff.1 h).not_mem (by decide) (by decide)
    exact absurd List.mem_cons_self hsign
  next => rw [h]; rfl

/-- A reader of texts that reads the integers from `low` on, and is right in whatever it reads. -/
structure ReadsFrom (low : Int) (readText : List Char → Option Int) : Prop where
  sound : ∀ {cs n}, readText cs = some n → readInt cs = some n
  complete : ∀ {n}, low ≤ n → readText (writeInt n) = some n

theorem readsFrom_readInt (low : Int) : ReadsFrom low readInt where
  sound h := h
  complete _ := readInt_writeInt _

theorem readsFrom_readNat : ReadsFrom 0 fun cs => (readNat cs).map Int.ofNat where
  sound h := by
    obtain ⟨m, hm, rfl⟩ := Option.map_eq_some_iff.1 h
    exact readInt_of_readNat hm
  complete {n} hn := by
    obtain ⟨m, rfl⟩ := Int.eq_ofNat_of_zero_le hn
    exact congrArg (Option.map Int.ofNat) (readNat_writeNat m)

theorem ReadsFrom.eq_of_writeInt {readText : List Char → Option Int} (h : ReadsFrom low readText)
    {n m : Int} (hm : readText (writeInt n) = some m) : n = m := by
  have heq := h.sound hm
  rw [readInt_writeInt] at heq
  exact Option.some.inj heq

theorem ReadsFrom.write {readText : List Char → Option Int} (h : ReadsFrom low readText)
    (x : Binary64) : readText (Json.numberLayout.write x) = none := by
  rw [Option.eq_none_iff_forall_ne_some]
  intro n hn
  have heq := h.sound hn
  rw [readInt_write] at heq
  cases heq

end Text

/-! ## Numbers as cells -/

namespace Json

/-- A number, whole or not. -/
def IsNumber : Json → Prop
  | .int _ | .float _ => True
  | _ => False

/-- The text of a number as a cell, with more text before and after it. -/
def padded (before after : List Char) (number : Json) : Json :=
  .str (String.ofList (before ++ number.write.toList ++ after))

theorem write_int (n : Int) : (Json.int n).write = intText n := String.empty_append

theorem write_float (x : Binary64) : (Json.float x).write = floatText x := String.empty_append

theorem hasNoBlank_numberLayout : numberLayout.HasNoBlank where
  wholeTail := by decide
  plusSign := by decide
  nan := by decide
  infinity := by decide

theorem IsNumber.isSolid_write {number : Json} (h : number.IsNumber) :
    Text.IsSolid number.write.toList := by
  cases number with
  | int n => simpa [write_int, intText] using Text.isSolid_writeInt n
  | float x => simpa [write_float, floatText] using hasNoBlank_numberLayout.write x
  | null | bool | str | arr | obj => cases h

end Json

namespace CellReader

/-- A reader of the integers from `low` up to but not including `high`, as numbers or as texts. -/
structure ReadsNumbers (reader : CellReader α) (value : α → Int) (low high : Int) : Prop where
  range : ∀ n, (∃ a, value a = n) ↔ low ≤ n ∧ n < high
  /-- An integer is read as itself, or there is no such value. -/
  int : ∀ n a, reader.read (.int n) = .ok a ↔ value a = n
  float : ∀ x a, reader.read (.float x) ≠ .ok a
  null : ∀ a, reader.read .null ≠ .ok a
  /-- The text of a number is read just as the number is, and no blanks around it matter. -/
  text : ∀ number, number.IsNumber → ∀ before after,
    (∀ c ∈ before, Text.isBlank c = true) → (∀ c ∈ after, Text.isBlank c = true) →
      ∀ a, reader.read (number.padded before after) = .ok a ↔ reader.read number = .ok a

theorem read_ofPartial {full short : String} {value? : Json → Option α} {cell : Json} {a : α} :
    (ofPartial full short value?).read cell = .ok a ↔ value? cell = some a := by
  unfold ofPartial
  dsimp only
  cases value? cell <;> simp

variable {low high : Int} {readText : List Char → Option Int}

theorem integerWithin?_int {n m : Int} :
    integerWithin? low high readText (.int n) = some m ↔ n = m ∧ low ≤ m ∧ m < high := by
  simp [integerWithin?, Option.filter_eq_some_iff]

theorem integerWithin?_padded {number : Json} (hnumber : number.IsNumber)
    {before after : List Char} (hbefore : ∀ c ∈ before, Text.isBlank c = true)
    (hafter : ∀ c ∈ after, Text.isBlank c = true) {m : Int} :
    integerWithin? low high readText (number.padded before after) = some m ↔
      readText number.write.toList = some m ∧ low ≤ m ∧ m < high := by
  have htrim := hnumber.isSolid_write.trim hbefore hafter
  unfold integerWithin? Json.padded
  dsimp only
  rw [String.toList_ofList, htrim]
  simp [Option.filter_eq_some_iff]

/-- In a text of a number the same integer is found as in the number. -/
theorem integerWithin?_padded_iff (h : Text.ReadsFrom low readText) {number : Json}
    (hnumber : number.IsNumber) {before after : List Char}
    (hbefore : ∀ c ∈ before, Text.isBlank c = true)
    (hafter : ∀ c ∈ after, Text.isBlank c = true) {m : Int} :
    integerWithin? low high readText (number.padded before after) = some m ↔
      integerWithin? low high readText number = some m := by
  rw [integerWithin?_padded hnumber hbefore hafter]
  cases number with
  | int n =>
    rw [integerWithin?_int, Json.write_int, Json.intText, String.toList_ofList]
    constructor
    · rintro ⟨hm, hrange⟩
      exact ⟨h.eq_of_writeInt hm, hrange⟩
    · rintro ⟨rfl, hrange⟩
      exact ⟨h.complete hrange.1, hrange⟩
  | float x =>
    rw [Json.write_float, Json.floatText, String.toList_ofList, h.write]
    constructor
    · rintro ⟨hm, -⟩
      cases hm
    · intro hm
      cases hm
  | null | bool | str | arr | obj => cases hnumber

/-- Any type of integers whose values are made of the integers in its range and no others. -/
theorem readsNumbers_ofPartial {full short : String} {value : α → Int} {make : Int → α}
    (htext : Text.ReadsFrom low readText)
    (hmake : ∀ n, low ≤ n → n < high → value (make n) = n)
    (hvalue : ∀ a, (low ≤ value a ∧ value a < high) ∧ make (value a) = a) :
    (ofPartial full short fun cell =>
      (integerWithin? low high readText cell).map make).ReadsNumbers value low high where
  range n := by
    constructor
    · rintro ⟨a, rfl⟩
      exact (hvalue a).1
    · rintro ⟨hlow, hhigh⟩
      exact ⟨make n, hmake n hlow hhigh⟩
  int n a := by
    rw [read_ofPartial, Option.map_eq_some_iff]
    constructor
    · rintro ⟨m, hm, rfl⟩
      obtain ⟨rfl, hlow, hhigh⟩ := integerWithin?_int.1 hm
      exact hmake n hlow hhigh
    · rintro rfl
      obtain ⟨hrange, hself⟩ := hvalue a
      exact ⟨value a, integerWithin?_int.2 ⟨rfl, hrange⟩, hself⟩
  float x a h := by cases read_ofPartial.1 h
  null a h := by cases read_ofPartial.1 h
  text number hnumber before after hbefore hafter a := by
    rw [read_ofPartial, read_ofPartial, Option.map_eq_some_iff, Option.map_eq_some_iff]
    simp only [integerWithin?_padded_iff htext hnumber hbefore hafter]

theorem readsNumbers_int64 :
    int64.ReadsNumbers Int64.toInt (-0x8000000000000000) 0x8000000000000000 :=
  readsNumbers_ofPartial (Text.readsFrom_readInt _) (fun _ => Int64.toInt_ofInt_of_le)
    fun a => ⟨⟨a.le_toInt, a.toInt_lt⟩, Int64.ofInt_toInt a⟩

theorem readsNumbers_int32 : int32.ReadsNumbers Int32.toInt (-0x80000000) 0x80000000 :=
  readsNumbers_ofPartial (Text.readsFrom_readInt _) (fun _ => Int32.toInt_ofInt_of_le)
    fun a => ⟨⟨a.le_toInt, a.toInt_lt⟩, Int32.ofInt_toInt a⟩

theorem readsNumbers_uint64 : uint64.ReadsNumbers (fun a => a.toNat) 0 0x10000000000000000 := by
  refine readsNumbers_ofPartial Text.readsFrom_readNat (fun n hlow hhigh => ?_) fun a => ?_
  · obtain ⟨n, rfl⟩ := Int.eq_ofNat_of_zero_le hlow
    have hlt : n < UInt64.size := Int.ofNat_lt.1 hhigh
    exact congrArg Int.ofNat (UInt64.toNat_ofNat_of_lt hlt)
  · exact ⟨⟨Int.natCast_nonneg _, Int.ofNat_lt.2 a.toNat_lt⟩, UInt64.ofNat_toNat⟩

theorem read_text {number : Json} (h : number.IsNumber) :
    text.read number = .ok number.write := by
  cases number with
  | int n => rw [Json.write_int, text, read_ofPartial]; rfl
  | float x => rw [Json.write_float, text, read_ofPartial]; rfl
  | null | bool | str | arr | obj => cases h

theorem read_optional (reader : CellReader α) (cell : Json) :
    reader.optional.read cell =
      if cell = .null then .ok none else (reader.read cell).map some := by
  cases cell <;> rfl

end CellReader

/--
Each type of integers is read from numbers as from texts of numbers: an integer just if it lies in
the range of the type and then as itself, a float never. As a text a number is its own text, and as
an optional value of any type a cell is what it is as that type, save that `NULL` is none.
-/
theorem numbers_read_as_texts :
    CellReader.int64.ReadsNumbers Int64.toInt (-0x8000000000000000) 0x8000000000000000 ∧
    CellReader.int32.ReadsNumbers Int32.toInt (-0x80000000) 0x80000000 ∧
    CellReader.uint64.ReadsNumbers (fun a => a.toNat) 0 0x10000000000000000 ∧
    (∀ number : Json, number.IsNumber → CellReader.text.read number = .ok number.write) ∧
    ∀ (α : Type) (reader : CellReader α) (cell : Json), reader.optional.read cell =
      if cell = .null then .ok none else (reader.read cell).map some :=
  ⟨CellReader.readsNumbers_int64, CellReader.readsNumbers_int32, CellReader.readsNumbers_uint64,
    fun _ => CellReader.read_text, fun _ => CellReader.read_optional⟩

end ExasolClient
