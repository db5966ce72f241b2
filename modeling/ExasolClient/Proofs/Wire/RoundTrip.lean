-- SUMMARY: Session attributes, data types and columns are read back as they were written.
import ExasolClient.Proofs.Wire.Members
import ExasolClient.Wire.Attributes
import ExasolClient.Wire.DataType

/-!
# Round trips

Session attributes, data types and columns travel both ways. The names of their fields stand in
two places, one for writing and one for reading, which must not drift apart: an object is read as
session attributes or as a type just if each of its fields holds what is found in the object under
its name (`Attributes.decode_obj_iff`, `DataType.decode_obj_iff`). Main statement: what is written
is read back, and what is read is written again as it was, unknown members and nulls aside
(`wire_round_trip`).
-/

namespace ExasolClient

/-! ## Session attributes -/

namespace Attributes

/-- The names of the session attributes. -/
def names : List String := [
  "autocommit", "compressionEnabled", "currentSchema", "dateFormat", "dateLanguage",
  "datetimeFormat", "defaultLikeEscapeCharacter", "feedbackInterval", "numericCharacters",
  "openTransaction", "queryTimeout", "snapshotTransactionsEnabled", "timestampUtcEnabled",
  "timezone", "timezoneBehavior"]

theorem decode_obj_iff {members : List (String × Json)} {a : Attributes} :
    decode (.obj members) = some a ↔
      ∀ field ∈ a.members, Json.value? field.1 (.obj members) = field.2 := by
  simp only [decode, fields, Json.record?_optional_bind Json.isCodec_bool,
    Json.record?_optional_bind Json.isCodec_str, Json.record?_optional_bind Json.isCodec_uint32,
    Json.record?_optional_bind Json.isCodec_uint64, Json.record?_pure, Attributes.members,
    List.forall_mem_cons]
  constructor
  · rintro ⟨_, h₁, _, h₂, _, h₃, _, h₄, _, h₅, _, h₆, _, h₇, _, h₈, _, h₉, _, h₁₀, _, h₁₁, _, h₁₂,
      _, h₁₃, _, h₁₄, _, h₁₅, rfl⟩
    exact ⟨h₁, h₂, h₃, h₄, h₅, h₆, h₇, h₈, h₉, h₁₀, h₁₁, h₁₂, h₁₃, h₁₄, h₁₅, nofun⟩
  · rintro ⟨h₁, h₂, h₃, h₄, h₅, h₆, h₇, h₈, h₉, h₁₀, h₁₁, h₁₂, h₁₃, h₁₄, h₁₅, -⟩
    exact ⟨_, h₁, _, h₂, _, h₃, _, h₄, _, h₅, _, h₆, _, h₇, _, h₈, _, h₉, _, h₁₀, _, h₁₁, _, h₁₂,
      _, h₁₃, _, h₁₄, _, h₁₅, rfl⟩

theorem isRecord : Json.IsRecord Attributes.members names decode where
  map_fst _ := rfl
  distinct := by decide
  nullFree a := by
    simp only [Attributes.members, List.forall_mem_cons, Option.map_eq_some_iff]
    -- The value of every field is a simple one.
    and_intros
    all_goals (rintro _ ⟨_, -, rfl⟩ <;> constructor)
  decode_obj_iff := decode_obj_iff

end Attributes

/-! ## Data types -/

namespace DataType

/-- The names of the parts of a type. -/
def names : List String := [
  "type", "precision", "scale", "size", "characterSet", "withLocalTimeZone", "fraction", "srid",
  "intervalRange"]

theorem decode_obj_iff {members : List (String × Json)} {t : DataType} :
    decode (.obj members) = some t ↔
      ∀ field ∈ t.members, Json.value? field.1 (.obj members) = field.2 := by
  simp only [decode, fields, Json.record?_required_bind Json.isCodec_str,
    Json.record?_optional_bind Json.isCodec_bool, Json.record?_optional_bind Json.isCodec_str,
    Json.record?_optional_bind Json.isCodec_uint32, Json.record?_optional_bind Json.isCodec_uint64,
    Json.record?_pure, DataType.members, List.forall_mem_cons]
  constructor
  · rintro ⟨_, h₁, _, h₂, _, h₃, _, h₄, _, h₅, _, h₆, _, h₇, _, h₈, _, h₉, rfl⟩
    exact ⟨h₁, h₂, h₃, h₄, h₅, h₆, h₇, h₈, h₉, nofun⟩
  · rintro ⟨h₁, h₂, h₃, h₄, h₅, h₆, h₇, h₈, h₉, -⟩
    exact ⟨_, h₁, _, h₂, _, h₃, _, h₄, _, h₅, _, h₆, _, h₇, _, h₈, _, h₉, rfl⟩

theorem isRecord : Json.IsRecord DataType.members names decode where
  map_fst _ := rfl
  distinct := by decide
  nullFree t := by
    simp only [DataType.members, List.forall_mem_cons, Option.map_eq_some_iff, Option.some.injEq,
      forall_eq']
    and_intros
    · exact .str t.name
    all_goals (rintro _ ⟨_, -, rfl⟩ <;> constructor)
  decode_obj_iff := decode_obj_iff

end DataType

/-! ## Columns -/

namespace Column

/-- The parts of a column by their names on the wire. -/
def members (c : Column) : List (String × Option Json) := [
  ("name", some (.str c.name)),
  ("dataType", some c.dataType.encode)]

theorem decode_encode (c : Column) : decode c.encode = some c := by
  have hread : DataType.decode c.dataType.encode = some c.dataType :=
    DataType.isRecord.decode_ofMembers c.dataType
  refine (Json.record?_bind rfl).2 ⟨c.name, rfl, ?_⟩
  exact (Json.record?_bind (Json.required_named DataType.decode)).2 ⟨_, hread, rfl⟩

theorem shows_encode (c : Column) : c.encode.Shows c.members := by
  have hdistinct : (c.members.map Prod.fst).Nodup := by
    change ["name", "dataType"].Nodup
    decide
  refine Json.shows_ofMembers hdistinct ?_
  have htype : c.dataType.encode.NullFree := (DataType.isRecord.shows c.dataType).nullFree
  simpa [members] using ⟨.str c.name, htype⟩

end Column

/-! ## Both ways -/

/-- What is written is read back, and shows its fields and nothing else. -/
structure Json.RoundTrips (encode : α → Json) (decode : Json → Option α)
    (fields : α → List (String × Option Json)) : Prop where
  decode_encode : ∀ a, decode (encode a) = some a
  shows : ∀ a, (encode a).Shows (fields a)

/--
Session attributes, data types and columns are read back as they were written, with neither a
`null` nor a member for a field without a value. An object is read as just the session attributes,
or as just the type, that are written as what it holds under known names, nulls aside.
-/
theorem wire_round_trip :
    Json.RoundTrips Attributes.encode Attributes.decode Attributes.members ∧
    Json.RoundTrips DataType.encode DataType.decode DataType.members ∧
    Json.RoundTrips Column.encode Column.decode Column.members ∧
    (∀ members a, Attributes.decode (.obj members) = some a ↔
      a.encode.IsRestriction Attributes.names (.obj members)) ∧
    ∀ members t, DataType.decode (.obj members) = some t ↔
      t.encode.IsRestriction DataType.names (.obj members) :=
  ⟨⟨Attributes.isRecord.decode_ofMembers, Attributes.isRecord.shows⟩,
    ⟨DataType.isRecord.decode_ofMembers, DataType.isRecord.shows⟩,
    ⟨Column.decode_encode, Column.shows_encode⟩,
    fun _ _ => Attributes.isRecord.decode_obj_iff_isRestriction,
    fun _ _ => DataType.isRecord.decode_obj_iff_isRestriction⟩

end ExasolClient
