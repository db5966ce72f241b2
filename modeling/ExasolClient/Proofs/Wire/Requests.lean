-- SUMMARY: What is found in the message of a request, and that a message tells its request.
import ExasolClient.Proofs.Wire.RoundTrip
import ExasolClient.Wire.Request

/-!
# Requests on the wire

A request is written as the object of its fields, which have different names: under each name
there is the value of just that field, and nothing if the request leaves it open
(`Request.holds_encode`). Two requests of one command have the same fields, and all that a
request says is in one of them. Main statement: no two requests are written alike
(`Request.encode_injective`).
-/

namespace ExasolClient

/-! ## Values that are written alike -/

namespace Json

@[simp]
theorem ofUInt32_inj {m n : UInt32} : ofUInt32 m = ofUInt32 n ↔ m = n :=
  ⟨fun h => Option.some_inj.1 (uint32?_ofUInt32 m ▸ uint32?_ofUInt32 n ▸ congrArg uint32? h),
    congrArg ofUInt32⟩

@[simp]
theorem ofUInt64_inj {m n : UInt64} : ofUInt64 m = ofUInt64 n ↔ m = n :=
  ⟨fun h => Option.some_inj.1 (uint64?_ofUInt64 m ▸ uint64?_ofUInt64 n ▸ congrArg uint64? h),
    congrArg ofUInt64⟩

@[simp]
theorem ofInt64_inj {m n : Int64} : ofInt64 m = ofInt64 n ↔ m = n :=
  ⟨fun h => Option.some_inj.1 (int64?_ofInt64 m ▸ int64?_ofInt64 n ▸ congrArg int64? h),
    congrArg ofInt64⟩

/-- A list is read back when each of its items is. -/
theorem list?_map {encode : α → Json} {decode : Json → Option α}
    (h : ∀ a, decode (encode a) = some a) (as : List α) :
    list? decode (.arr (as.map encode)) = some as := by
  change (as.map encode).mapM decode = some as
  induction as with
  | nil => rfl
  | cons a as ih => simp [List.mapM_cons, h, ih]

/-- Fields of the same names, which are different, that make the same object are the same. -/
theorem ofMembers_inj {as bs : List (String × Option Json)}
    (hnames : as.map Prod.fst = bs.map Prod.fst) (hdistinct : (as.map Prod.fst).Nodup) :
    ofMembers as = ofMembers bs ↔ as = bs := by
  refine ⟨fun h => ?_, congrArg ofMembers⟩
  have hlength : as.length = bs.length := by simpa using congrArg List.length hnames
  refine List.ext_getElem hlength fun i hi hi' => ?_
  have hname : as[i].1 = bs[i].1 := by
    have hith := congrArg (·[i]?) hnames
    simpa [hi, hi'] using hith
  have hvalue : (ofMembers as).get? as[i].1 = (ofMembers bs).get? bs[i].1 := by rw [h, hname]
  rw [get?_ofMembers_of_mem hdistinct (List.getElem_mem hi),
    get?_ofMembers_of_mem (hnames ▸ hdistinct) (List.getElem_mem hi')] at hvalue
  exact Prod.ext hname hvalue

end Json

@[simp]
theorem Attributes.encode_inj {a b : Attributes} : a.encode = b.encode ↔ a = b :=
  ⟨fun h => isRecord.ext fun name => congrArg (Json.get? name) h, congrArg encode⟩

@[simp]
theorem Column.encode_inj {c d : Column} : c.encode = d.encode ↔ c = d :=
  ⟨fun h => Option.some_inj.1 (c.decode_encode ▸ d.decode_encode ▸ congrArg decode h),
    congrArg encode⟩

namespace Request

/-! ## What a message holds -/

/-- All fields of a request: its command, unless it is the second one of the handshake, and more. -/
def fields : Request → List (String × Option Json)
  | .authenticate credentials => members (.authenticate credentials)
  | r => ("command", some (.str r.command)) :: r.members

theorem encode_eq (r : Request) : r.encode = .ofMembers r.fields := by
  cases r <;> rfl

theorem distinct_fields (r : Request) : (r.fields.map Prod.fst).Nodup := by
  cases r <;> simp [fields, members]

/-- Under each name there is what the request says under this name, and nothing else. -/
theorem holds_encode (r : Request) : r.encode.Holds r.fields :=
  r.encode_eq ▸ Json.holds_ofMembers r.distinct_fields

/-- The second request of the handshake is the one without a command. -/
theorem get?_command (r : Request) : r.encode.get? "command" =
    if r.command = "auth" then none else some (.str r.command) := by
  cases r <;> rfl

/-! ## The request of a message -/

section Alike

variable {r s : Request}

theorem command_eq (h : r.encode = s.encode) : r.command = s.command := by
  have hr := r.get?_command
  rw [h, s.get?_command] at hr
  split at hr <;> split at hr <;> simp_all

theorem names_eq (h : r.command = s.command) : r.fields.map Prod.fst = s.fields.map Prod.fst := by
  cases r <;> cases s <;> simp_all [command, fields, members]

/-- What is written alike says the same under each name. -/
theorem fields_eq (h : r.encode = s.encode) : r.fields = s.fields := by
  have hnames := names_eq (command_eq h)
  rw [encode_eq, encode_eq] at h
  exact (Json.ofMembers_inj hnames r.distinct_fields).1 h

end Alike

/-- No two requests are written alike. -/
theorem encode_injective : Function.Injective encode := by
  intro r s h
  have hcommand := command_eq h
  have hfields := fields_eq h
  -- Of two requests only those of one command are left, and these have the same fields.
  cases r <;> cases s <;> try (simp [command] at hcommand; done)
  case getAttributes.getAttributes | disconnect.disconnect => rfl
  case authenticate.authenticate first second =>
    cases first
    cases second
    simpa [fields, members] using hfields
  all_goals simpa [fields, members, encodeCells, command, List.map_inj_right,
      Option.map_inj_right] using hfields

end Request
end ExasolClient
