-- SUMMARY: Merged session attributes are written as the union of what they are merged from.
import ExasolClient.Proofs.Wire.RoundTrip

/-!
# Merged attributes

Session attributes are merged field by field, and written member by member. The two agree: the
object of merged attributes is the union of the two objects, in which the later one decides
(`Attributes.encode_merge`). As attributes with the same object are the same, all laws of merging
follow from those of the union. Main statement: `merge_union`.
-/

namespace ExasolClient

/-! ## Unions -/

namespace Json

/-- An object with the members of two others; of two members of one name that of `b` counts. -/
structure IsUnion (union a b : Json) : Prop where
  distinct : union.HasDistinctNames
  get? : ∀ name, union.get? name = (b.get? name).or (a.get? name)

/-- Fields of the same names, each taken from the second list where it has a value there. -/
theorem get?_ofMembers_zipWith {as bs : List (String × Option Json)}
    (hnames : as.map Prod.fst = bs.map Prod.fst) (hdistinct : (as.map Prod.fst).Nodup)
    (name : String) :
    (ofMembers (List.zipWith (fun a b => (a.1, b.2.or a.2)) as bs)).get? name =
      ((ofMembers bs).get? name).or ((ofMembers as).get? name) := by
  induction as generalizing bs with
  | nil =>
    obtain rfl := List.map_eq_nil_iff.1 hnames.symm
    rfl
  | cons a as ih =>
    cases bs with
    | nil => cases hnames
    | cons b bs =>
      obtain ⟨hfirst, hrest⟩ := List.cons.inj hnames
      obtain ⟨hnew, hdistinct⟩ := List.nodup_cons.1 hdistinct
      have hunion := ih hrest hdistinct
      rw [List.zipWith_cons_cons, get?_ofMembers_cons, get?_ofMembers_cons, get?_ofMembers_cons,
        hunion, ← hfirst]
      split
      next hname =>
        subst hname
        rw [get?_ofMembers_of_not_mem hnew, get?_ofMembers_of_not_mem (hrest ▸ hnew)]
        simp
      next => rfl

end Json

/-! ## Merging -/

namespace Attributes

theorem members_merge (a b : Attributes) :
    (a.merge b).members =
      List.zipWith (fun a b => (a.1, b.2.or a.2)) a.members b.members := by
  simp [members, merge, Option.map_or]

/-- Merging agrees with what is written: the later attributes override the earlier ones. -/
theorem encode_merge (a b : Attributes) : (a.merge b).encode.IsUnion a.encode b.encode where
  distinct := (isRecord.shows (a.merge b)).distinct
  get? name := by
    have hdistinct : (a.members.map Prod.fst).Nodup := isRecord.distinct
    have hnames : a.members.map Prod.fst = b.members.map Prod.fst := rfl
    rw [encode, members_merge]
    exact Json.get?_ofMembers_zipWith hnames hdistinct name

theorem merge_self (a : Attributes) : a.merge a = a :=
  isRecord.ext fun name => by
    rw [← encode, (encode_merge a a).get? name, Option.or_self]
    rfl

theorem isEmpty_iff {a : Attributes} : a.isEmpty = true ↔ a.encode = .obj [] := by
  rw [isEmpty, decide_eq_true_iff]
  constructor
  · rintro rfl
    rfl
  · intro h
    exact isRecord.ext fun name => congrArg (Json.get? name) h

/-- Of a list of sets the last one that has a value decides, and before them the first set. -/
theorem get?_foldl_merge (sets : List Attributes) (a : Attributes) (name : String) :
    (sets.foldl merge a).encode.get? name =
      ((sets.filterMap fun set => set.encode.get? name).getLast?).or (a.encode.get? name) := by
  induction sets generalizing a with
  | nil => rfl
  | cons set sets ih =>
    rw [List.foldl_cons, ih, (encode_merge a set).get? name, List.filterMap_cons]
    cases hset : set.encode.get? name with
    | none => rfl
    | some j => simp [List.getLast?_cons]

end Attributes

/--
The object of merged attributes is the union of their objects, in which the later attributes
override the earlier ones. So merging is associative and idempotent, and the empty set changes
nothing; a set is empty just if its object is; and of many sets that are merged in order the last
one with a value decides for each name.
-/
theorem merge_union (a b c : Attributes) (sets : List Attributes) :
    (a.merge b).encode.IsUnion a.encode b.encode ∧
    (a.merge b).merge c = a.merge (b.merge c) ∧ a.merge a = a ∧
    Attributes.empty.merge a = a ∧ a.merge .empty = a ∧
    (a.isEmpty = true ↔ a.encode = .obj []) ∧
    ∀ name, (sets.foldl Attributes.merge .empty).encode.get? name =
      (sets.filterMap fun set => set.encode.get? name).getLast? := by
  refine ⟨a.encode_merge b, a.merge_assoc b c, a.merge_self, a.empty_merge, a.merge_empty,
    Attributes.isEmpty_iff, fun name => ?_⟩
  rw [Attributes.get?_foldl_merge, show Attributes.empty.encode.get? name = none from rfl,
    Option.or_none]

end ExasolClient
