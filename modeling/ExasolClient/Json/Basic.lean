-- SUMMARY: JSON values: integers apart from floats, objects as lists of members, decidable equality.
import ExasolClient.Binary64.Basic

/-!
# JSON values

A number is an integer or a binary64 float, and the two are never confused: `1`
and `1.0` are different values. An object is the list of its members; `get?`
finds a member by its name, and `insert` keeps one member per name, so of a name
given twice the last value stays.
-/

namespace ExasolClient

/-- A JSON value. -/
inductive Json where
  | null
  | bool (b : Bool)
  | int (n : Int)
  | float (x : Binary64)
  | str (s : String)
  | arr (items : List Json)
  | obj (members : List (String × Json))
  deriving Repr, Inhabited

namespace Json

-- ---------------------------------------------------------------------------
-- Equality
-- ---------------------------------------------------------------------------

mutual

/-- Whether two values are the same value. -/
def same : Json → Json → Bool
  | .null, .null => true
  | .bool a, .bool b => a == b
  | .int a, .int b => a == b
  | .float a, .float b => decide (a = b)
  | .str a, .str b => a == b
  | .arr as, .arr bs => sameItems as bs
  | .obj as, .obj bs => sameMembers as bs
  | _, _ => false

/-- Whether two lists hold the same values. -/
def sameItems : List Json → List Json → Bool
  | [], [] => true
  | a :: as, b :: bs => same a b && sameItems as bs
  | _, _ => false

/-- Whether two lists hold the same members in the same order. -/
def sameMembers : List (String × Json) → List (String × Json) → Bool
  | [], [] => true
  | (k, a) :: as, (l, b) :: bs => k == l && same a b && sameMembers as bs
  | _, _ => false

end

mutual

theorem same_iff : (a b : Json) → (same a b = true ↔ a = b)
  | .null, b => by cases b <;> simp [same]
  | .bool _, b => by cases b <;> simp [same]
  | .int _, b => by cases b <;> simp [same]
  | .float _, b => by cases b <;> simp [same]
  | .str _, b => by cases b <;> simp [same]
  | .arr as, b => by cases b <;> simp [same, sameItems_iff as]
  | .obj as, b => by cases b <;> simp [same, sameMembers_iff as]

theorem sameItems_iff : (as bs : List Json) → (sameItems as bs = true ↔ as = bs)
  | [], bs => by cases bs <;> simp [sameItems]
  | a :: as, bs => by
    cases bs with
    | nil => simp [sameItems]
    | cons b bs => simp [sameItems, same_iff a b, sameItems_iff as bs]

theorem sameMembers_iff : (as bs : List (String × Json)) → (sameMembers as bs = true ↔ as = bs)
  | [], bs => by cases bs <;> simp [sameMembers]
  | (k, a) :: as, bs => by
    cases bs with
    | nil => simp [sameMembers]
    | cons b bs =>
      obtain ⟨l, b⟩ := b
      simp [sameMembers, same_iff a b, sameMembers_iff as bs, and_assoc]

end

instance : DecidableEq Json := fun a b => decidable_of_iff _ (same_iff a b)

-- ---------------------------------------------------------------------------
-- Members
-- ---------------------------------------------------------------------------

/-- The members with the one called `name` replaced, or added at the end. -/
def insert (name : String) (value : Json) : List (String × Json) → List (String × Json)
  | [] => [(name, value)]
  | (k, v) :: rest => if k = name then (name, value) :: rest else (k, v) :: insert name value rest

/-- The value of the member called `name` of an object. -/
def get? (name : String) : Json → Option Json
  | .obj members => members.lookup name
  | _ => none

theorem lookup_insert_self (name : String) (value : Json) (members : List (String × Json)) :
    (insert name value members).lookup name = some value := by
  induction members with
  | nil => simp [insert]
  | cons m rest ih =>
    obtain ⟨k, v⟩ := m
    by_cases h : k = name
    · simp [insert, h]
    · simp [insert, h, List.lookup_cons, beq_false_of_ne (Ne.symm h), ih]

theorem lookup_insert_of_ne {name other : String} (h : other ≠ name) (value : Json)
    (members : List (String × Json)) :
    (insert name value members).lookup other = members.lookup other := by
  induction members with
  | nil => simp [insert, List.lookup_cons, beq_false_of_ne h]
  | cons m rest ih =>
    obtain ⟨k, v⟩ := m
    by_cases hk : k = name
    · simp [insert, hk, List.lookup_cons, beq_false_of_ne h]
    · simp [insert, hk, List.lookup_cons, ih]

/-- An object of the members that have a value. -/
def ofMembers (members : List (String × Option Json)) : Json :=
  .obj (members.filterMap fun (name, value) => value.map fun v => (name, v))

-- ---------------------------------------------------------------------------
-- Simple values
-- ---------------------------------------------------------------------------

def isNull : Json → Bool
  | .null => true
  | _ => false

/-- The value as a Boolean. -/
def bool? : Json → Option Bool
  | .bool b => some b
  | _ => none

/-- The value as a text. -/
def str? : Json → Option String
  | .str s => some s
  | _ => none

/-- The value as an integer; a float is none, however whole it is. -/
def int? : Json → Option Int
  | .int n => some n
  | _ => none

/-- The value as an integer from `low` up to but not including `high`. -/
def intWithin? (low high : Int) (j : Json) : Option Int :=
  j.int?.filter fun n => low ≤ n && n < high

/-- The value as a list, every item of which `item` accepts. -/
def list? (item : Json → Option α) : Json → Option (List α)
  | .arr items => items.mapM item
  | _ => none

/-- The value as an integer of 32 bits without a sign. -/
def uint32? (j : Json) : Option UInt32 :=
  (j.intWithin? 0 UInt32.size).map fun n => UInt32.ofNat n.toNat

/-- The value as an integer of 64 bits without a sign. -/
def uint64? (j : Json) : Option UInt64 :=
  (j.intWithin? 0 UInt64.size).map fun n => UInt64.ofNat n.toNat

/-- The value as an integer of 64 bits with a sign. -/
def int64? (j : Json) : Option Int64 :=
  (j.intWithin? Int64.minValue.toInt (Int64.maxValue.toInt + 1)).map Int64.ofInt

/-- An unsigned integer of 32 bits as a value. -/
def ofUInt32 (n : UInt32) : Json := .int n.toNat

/-- An unsigned integer of 64 bits as a value. -/
def ofUInt64 (n : UInt64) : Json := .int n.toNat

/-- A signed integer of 64 bits as a value. -/
def ofInt64 (n : Int64) : Json := .int n.toInt

@[simp]
theorem uint32?_ofUInt32 (n : UInt32) : (ofUInt32 n).uint32? = some n := by
  have := n.toNat_lt
  simp [uint32?, ofUInt32, intWithin?, int?, Option.filter]
  omega

@[simp]
theorem uint64?_ofUInt64 (n : UInt64) : (ofUInt64 n).uint64? = some n := by
  have := n.toNat_lt
  simp [uint64?, ofUInt64, intWithin?, int?, Option.filter]
  omega

@[simp]
theorem int64?_ofInt64 (n : Int64) : (ofInt64 n).int64? = some n := by
  have := n.le_toInt
  have := n.toInt_le
  simp [int64?, ofInt64, intWithin?, int?, Option.filter]
  omega

end Json
end ExasolClient
