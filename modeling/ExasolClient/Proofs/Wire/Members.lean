-- SUMMARY: JSON objects as finite maps, and records that are read from them member by member.
import ExasolClient.Json.Record

/-!
# Members

An object says of every name what value there is, if any; the order of its members is of no
account. A record is written as the object of those of its fields that have a value, and read
field by field: a field that has a codec is read as `a` just if the object holds what `a` is
written as (`record?_optional_bind`, `record?_required_bind`). So a whole record is read as `a`
just if the members of `a` are what is found under their names, from which both round trips of
a record follow.
-/

namespace ExasolClient.Json

/-! ## The members of an object -/

/-- A value in which there is no `null`, however deep. -/
inductive NullFree : Json → Prop
  | bool (b : Bool) : NullFree (.bool b)
  | int (n : Int) : NullFree (.int n)
  | float (x : Binary64) : NullFree (.float x)
  | str (s : String) : NullFree (.str s)
  | arr {items : List Json} : (∀ item ∈ items, NullFree item) → NullFree (.arr items)
  | obj {members : List (String × Json)} : (∀ m ∈ members, NullFree m.2) → NullFree (.obj members)

/-- An object that has no two members of one name. -/
def HasDistinctNames (j : Json) : Prop :=
  ∃ members, j = .obj members ∧ (members.map Prod.fst).Nodup

/-- The value of the member called `name`; `null` is no value. -/
def value? (name : String) (j : Json) : Option Json := (j.get? name).filter fun v => !v.isNull

/-- The object that holds of `fields` those that have a value, and nothing else. -/
structure Holds (j : Json) (fields : List (String × Option Json)) : Prop where
  distinct : j.HasDistinctNames
  field : ∀ field ∈ fields, j.get? field.1 = field.2
  other : ∀ name ∉ fields.map Prod.fst, j.get? name = none

/-- Without a `null`, the object shows of `fields` those that have a value, and nothing else. -/
structure Shows (j : Json) (fields : List (String × Option Json)) : Prop extends
    j.Holds fields where
  nullFree : j.NullFree

/-- The object of the members of another one that are known by name and not `null`. -/
structure IsRestriction (part : Json) (names : List String) (whole : Json) : Prop where
  distinct : part.HasDistinctNames
  get? : ∀ name, part.get? name = if name ∈ names then whole.value? name else none

section OfMembers

variable {fields : List (String × Option Json)} {name : String}

/-- The first field of a name decides, unless it has no value. -/
theorem get?_ofMembers_cons (field : String × Option Json) :
    (ofMembers (field :: fields)).get? name =
      if name = field.1 then field.2.or ((ofMembers fields).get? name)
      else (ofMembers fields).get? name := by
  obtain ⟨key, value⟩ := field
  cases value with
  | none => simp [ofMembers]
  | some j =>
    by_cases h : name = key
    · simp [ofMembers, Json.get?, h]
    · simp [ofMembers, Json.get?, List.lookup_cons, beq_false_of_ne h, h]

theorem get?_ofMembers_of_not_mem (h : name ∉ fields.map Prod.fst) :
    (ofMembers fields).get? name = none := by
  induction fields with
  | nil => rfl
  | cons field fields ih =>
    rw [List.map_cons, List.mem_cons, not_or] at h
    rw [get?_ofMembers_cons, if_neg h.1, ih h.2]

theorem get?_ofMembers_of_mem (hdistinct : (fields.map Prod.fst).Nodup)
    {field : String × Option Json} (h : field ∈ fields) :
    (ofMembers fields).get? field.1 = field.2 := by
  induction fields with
  | nil => cases h
  | cons first fields ih =>
    rw [List.map_cons, List.nodup_cons] at hdistinct
    rw [get?_ofMembers_cons]
    rcases List.mem_cons.1 h with rfl | h
    · rw [if_pos rfl, get?_ofMembers_of_not_mem hdistinct.1, Option.or_none]
    · have hne : field.1 ≠ first.1 := fun heq => hdistinct.1 (heq ▸ List.mem_map_of_mem h)
      rw [if_neg hne, ih hdistinct.2 h]

/-- The fields that have a value stand in the order of all fields. -/
theorem sublist_present (fields : List (String × Option Json)) :
    ((fields.filterMap fun (name, value) => value.map fun v => (name, v)).map Prod.fst).Sublist
      (fields.map Prod.fst) := by
  induction fields with
  | nil => exact .slnil
  | cons field fields ih =>
    obtain ⟨name, value⟩ := field
    cases value with
    | none => exact ih.cons name
    | some j => exact ih.cons_cons name

/-- Fields of different names are what the object of them holds. -/
theorem holds_ofMembers (hdistinct : (fields.map Prod.fst).Nodup) :
    (ofMembers fields).Holds fields where
  distinct := ⟨_, rfl, hdistinct.sublist (sublist_present fields)⟩
  field _ := get?_ofMembers_of_mem hdistinct
  other _ := get?_ofMembers_of_not_mem

/-- Fields of different names, of which none is `null`, are shown by the object of them. -/
theorem shows_ofMembers (hdistinct : (fields.map Prod.fst).Nodup)
    (hnull : ∀ field ∈ fields, ∀ j, field.2 = some j → j.NullFree) :
    (ofMembers fields).Shows fields where
  toHolds := holds_ofMembers hdistinct
  nullFree := by
    refine .obj fun member hmember => ?_
    obtain ⟨field, hfield, hvalue⟩ := List.mem_filterMap.1 hmember
    obtain ⟨j, hj, rfl⟩ := Option.map_eq_some_iff.1 hvalue
    exact hnull field hfield j hj

end OfMembers

/-! ## Values that are read back -/

/--
A value is written as `encode a` and read back by `decode`, which reads nothing else; no value is
written as `null`.
-/
structure IsCodec (encode : α → Json) (decode : Json → Option α) : Prop where
  decode_eq_some_iff : ∀ {j a}, decode j = some a ↔ encode a = j
  decode_null : decode .null = none

theorem isCodec_bool : IsCodec .bool bool? where
  decode_eq_some_iff {j a} := by cases j <;> simp [bool?, eq_comm]
  decode_null := rfl

theorem isCodec_str : IsCodec .str str? where
  decode_eq_some_iff {j a} := by cases j <;> simp [str?, eq_comm]
  decode_null := rfl

theorem intWithin?_eq_some_iff {low high n : Int} {j : Json} :
    j.intWithin? low high = some n ↔ j = .int n ∧ low ≤ n ∧ n < high := by
  rw [intWithin?, Option.filter_eq_some_iff]
  cases j <;> simp [int?]

/-- The integers of a word, which are those of its range. -/
theorem isCodec_word {low high : Int} {write : α → Int} {make : Int → α}
    (hmake : ∀ n, low ≤ n → n < high → write (make n) = n)
    (hwrite : ∀ a, (intWithin? low high (.int (write a))).map make = some a) :
    IsCodec (fun a => .int (write a)) fun j => (j.intWithin? low high).map make where
  decode_eq_some_iff {j a} := by
    constructor
    · intro h
      obtain ⟨n, hn, rfl⟩ := Option.map_eq_some_iff.1 h
      obtain ⟨rfl, hlow, hhigh⟩ := intWithin?_eq_some_iff.1 hn
      rw [hmake n hlow hhigh]
    · rintro rfl
      exact hwrite a
  decode_null := rfl

theorem isCodec_uint32 : IsCodec ofUInt32 uint32? := by
  refine isCodec_word (fun n hlow hhigh => ?_) uint32?_ofUInt32
  rw [UInt32.toNat_ofNat_of_lt' (by omega), Int.toNat_of_nonneg hlow]

theorem isCodec_uint64 : IsCodec ofUInt64 uint64? := by
  refine isCodec_word (fun n hlow hhigh => ?_) uint64?_ofUInt64
  rw [UInt64.toNat_ofNat_of_lt' (by omega), Int.toNat_of_nonneg hlow]

/-! ## Reading a record -/

theorem NullFree.isNull {j : Json} (h : j.NullFree) : j.isNull = false := by
  cases h <;> rfl

/-- Where there is no `null`, every member has a value. -/
theorem NullFree.value? {j : Json} (h : j.NullFree) (name : String) :
    j.value? name = j.get? name := by
  cases h with
  | @obj members hmembers =>
    rw [Json.value?]
    cases hv : (Json.obj members).get? name with
    | none => rfl
    | some v =>
      obtain ⟨before, after, rfl, -⟩ := List.lookup_eq_some_iff.1 hv
      simp [(hmembers (name, v) (by simp)).isNull]
  | bool | int | float | str | arr => rfl

section Record

variable {encode : α → Json} {decode : Json → Option α} {members : List (String × Json)}
  {name : String} {b : β}

theorem IsCodec.isNull_encode (h : IsCodec encode decode) (a : α) : (encode a).isNull = false := by
  cases hnull : encode a with
  | null =>
    have hread := h.decode_eq_some_iff.2 hnull
    rw [h.decode_null] at hread
    cases hread
  | bool | int | float | str | arr | obj => rfl

/-- A field that is read from an object leaves the object to the other fields. -/
theorem record?_bind {field : Fields α} {a? : Option α} {rest : α → Fields β}
    (h : field (.named members) = a?.map fun a => (a, .named members)) :
    record? (field >>= rest) (.obj members) = some b ↔
      ∃ a, a? = some a ∧ record? (rest a) (.obj members) = some b := by
  have hbind : (field >>= rest) (.named members) =
      a?.bind fun a => rest a (.named members) := by
    change (field (.named members)).bind _ = _
    rw [h]
    cases a? <;> rfl
  rw [record?, hbind]
  cases a? with
  | none => simp
  | some a => simp [record?]

theorem IsCodec.bind_decode_eq_some_iff (h : IsCodec encode decode) {found : Option Json} {a : α} :
    found.bind decode = some a ↔ found.filter (fun v => !v.isNull) = some (encode a) := by
  rw [Option.bind_eq_some_iff, Option.filter_eq_some_iff]
  constructor
  · rintro ⟨j, hj, hread⟩
    obtain rfl := h.decode_eq_some_iff.1 hread
    exact ⟨hj, by rw [h.isNull_encode]; rfl⟩
  · rintro ⟨hj, -⟩
    exact ⟨encode a, hj, h.decode_eq_some_iff.2 rfl⟩

theorem required_named (decode : Json → Option α) :
    Fields.required name decode (.named members) =
      ((members.lookup name).bind decode).map fun a => (a, .named members) := by
  cases hlookup : members.lookup name with
  | none =>
    simp [Fields.required, Fields.next, hlookup, bind, StateT.bind, failure, StateT.failure]
  | some j =>
    simp only [Fields.required, Fields.next, hlookup, bind, StateT.bind, StateT.lift,
      Option.bind_some]
    cases decode j <;> rfl

/-- A field that must be there is read as what it would be written as. -/
theorem record?_required_bind (h : IsCodec encode decode) (rest : α → Fields β) :
    record? (Fields.required name decode >>= rest) (.obj members) = some b ↔
      ∃ a, value? name (.obj members) = some (encode a) ∧
        record? (rest a) (.obj members) = some b := by
  simp only [record?_bind (required_named decode), h.bind_decode_eq_some_iff]
  rfl

/-- Without a value an optional field is absent. -/
theorem optional_named_of_none (decode : Json → Option α)
    (h : value? name (.obj members) = none) :
    Fields.optional name decode (.named members) =
      (some none).map fun a => (a, .named members) := by
  have hnext : Fields.next name (.named members) =
      some ((Json.obj members).get? name, .named members) := rfl
  cases hget : (Json.obj members).get? name with
  | none =>
    simp only [Fields.optional, hnext, hget, bind, StateT.bind, Option.bind_some]
    rfl
  | some j =>
    have hnull : j.isNull = true := by simpa [value?, hget] using h
    cases j with
    | null =>
      simp only [Fields.optional, hnext, hget, bind, StateT.bind, Option.bind_some]
      rfl
    | bool | int | float | str | arr | obj => cases hnull

theorem optional_named_of_some {j : Json} (decode : Json → Option α)
    (h : value? name (.obj members) = some j) :
    Fields.optional name decode (.named members) =
      ((decode j).map some).map fun a => (a, .named members) := by
  have hnext : Fields.next name (.named members) =
      some ((Json.obj members).get? name, .named members) := rfl
  obtain ⟨hget, hnull⟩ := Option.filter_eq_some_iff.1 h
  cases j with
  | null => cases hnull
  | bool | int | float | str | arr | obj =>
    simp only [Fields.optional, hnext, hget, bind, StateT.bind, StateT.lift, Option.bind_some]
    cases decode _ <;> rfl

/-- An optional field is read as what it would be written as, or as absent. -/
theorem record?_optional_bind (h : IsCodec encode decode) (rest : Option α → Fields β) :
    record? (Fields.optional name decode >>= rest) (.obj members) = some b ↔
      ∃ field, value? name (.obj members) = field.map encode ∧
        record? (rest field) (.obj members) = some b := by
  cases hvalue : value? name (.obj members) with
  | none =>
    rw [record?_bind (optional_named_of_none decode hvalue)]
    simp [eq_comm]
  | some j =>
    rw [record?_bind (optional_named_of_some decode hvalue)]
    constructor
    · rintro ⟨field, hread, hrest⟩
      obtain ⟨a, ha, rfl⟩ := Option.map_eq_some_iff.1 hread
      exact ⟨some a, congrArg some (h.decode_eq_some_iff.1 ha).symm, hrest⟩
    · rintro ⟨field, hfield, hrest⟩
      obtain ⟨a, rfl, rfl⟩ := Option.map_eq_some_iff.1 hfield.symm
      exact ⟨some a, congrArg _ (h.decode_eq_some_iff.2 rfl), hrest⟩

theorem record?_pure (a : β) : record? (pure a) (.obj members) = some b ↔ a = b := by
  change some a = some b ↔ a = b
  exact Option.some_inj

end Record

/-! ## Records that travel both ways -/

/--
A record is written as the object of its fields, which have different names, and an object is read
as the record whose fields hold what is found under their names.
-/
structure IsRecord (fields : α → List (String × Option Json)) (names : List String)
    (decode : Json → Option α) : Prop where
  map_fst : ∀ a, (fields a).map Prod.fst = names
  distinct : names.Nodup
  nullFree : ∀ a, ∀ field ∈ fields a, ∀ j, field.2 = some j → j.NullFree
  decode_obj_iff : ∀ {members a}, decode (.obj members) = some a ↔
    ∀ field ∈ fields a, value? field.1 (.obj members) = field.2

namespace IsRecord

variable {fields : α → List (String × Option Json)} {names : List String} {decode : Json → Option α}

theorem shows (h : IsRecord fields names decode) (a : α) :
    (ofMembers (fields a)).Shows (fields a) :=
  shows_ofMembers (h.map_fst a ▸ h.distinct) (h.nullFree a)

/-- What is written is read back. -/
theorem decode_ofMembers (h : IsRecord fields names decode) (a : α) :
    decode (ofMembers (fields a)) = some a := by
  refine h.decode_obj_iff.2 fun field hfield => ?_
  have hshows := h.shows a
  exact (hshows.nullFree.value? field.1).trans (hshows.field field hfield)

/-- Records are the same if the objects of their fields are. -/
theorem ext (h : IsRecord fields names decode) {a b : α}
    (hget : ∀ name, (ofMembers (fields a)).get? name = (ofMembers (fields b)).get? name) :
    a = b := by
  have hread : decode (ofMembers (fields a)) = some b := by
    refine h.decode_obj_iff.2 fun field hfield => ?_
    rw [← (h.shows b).field field hfield, ← hget]
    exact (h.shows a).nullFree.value? field.1
  rw [h.decode_ofMembers] at hread
  exact Option.some_inj.1 hread

/-- An object is read as the record that is written as what is known of it. -/
theorem decode_obj_iff_isRestriction (h : IsRecord fields names decode)
    {members : List (String × Json)} {a : α} :
    decode (.obj members) = some a ↔
      (ofMembers (fields a)).IsRestriction names (.obj members) := by
  have hshows := h.shows a
  rw [h.decode_obj_iff]
  constructor
  · refine fun hfound => ⟨hshows.distinct, fun name => ?_⟩
    split
    next hname =>
      rw [← h.map_fst a] at hname
      obtain ⟨field, hfield, rfl⟩ := List.mem_map.1 hname
      rw [hshows.field field hfield, hfound field hfield]
    next hname => exact hshows.other name (h.map_fst a ▸ hname)
  · intro hpart field hfield
    have hname : field.1 ∈ names := h.map_fst a ▸ List.mem_map_of_mem hfield
    rw [← hshows.field field hfield, hpart.get? field.1, if_pos hname]

end IsRecord
end ExasolClient.Json
