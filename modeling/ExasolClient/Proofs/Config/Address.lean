-- SUMMARY: The addresses of a server, and what is read as one without being one.
import ExasolClient.Config.Dsn

/-!
# Addresses

An address is a host, or a host and a port; a host may stand in brackets (`IsAddress`). Whatever
is an address is read as its host and its port. The reader accepts one thing more: behind a
bracketed host it takes any text that does not start with a colon, and drops it
(`IgnoresTail`), so that a port without its colon is not noticed. Main statement: nothing else
is accepted (`address_grammar`).
-/

namespace ExasolClient.Config

/-! ## Ports -/

/-- Just the numerals of a port are read as that port. -/
theorem readPort_eq_ok_iff {cs : List Char} {port : UInt16} :
    readPort cs = .ok port ↔ Text.IsNumeral cs port.toNat := by
  rw [← Text.readNat_eq_some_iff]
  unfold readPort
  cases hread : Text.readNat cs with
  | none => exact ⟨(nomatch ·), (nomatch ·)⟩
  | some n =>
    dsimp only
    constructor
    · intro h
      split at h
      next hn =>
        cases h
        rw [UInt16.toNat_ofNat_of_lt' hn]
      next => cases h
    · intro h
      cases h
      rw [if_pos port.toNat_lt, UInt16.ofNat_toNat]

/-! ## The grammar -/

/-- A text is an address, with this host and this port. -/
inductive IsAddress : List Char → List Char → UInt16 → Prop where
  /-- A host alone. -/
  | host {host : List Char} : ':' ∉ host → host.head? ≠ some '[' →
      IsAddress host host defaultPort
  /-- A host and a port. -/
  | hostPort {host text : List Char} {port : UInt16} : host.head? ≠ some '[' →
      Text.IsNumeral text port.toNat → IsAddress (host ++ ':' :: text) host port
  /-- A host in brackets. -/
  | bracketed {host : List Char} : ']' ∉ host →
      IsAddress ('[' :: host ++ [']']) host defaultPort
  /-- A host in brackets and a port. -/
  | bracketedPort {host text : List Char} {port : UInt16} : ']' ∉ host →
      Text.IsNumeral text port.toNat → IsAddress ('[' :: host ++ ']' :: ':' :: text) host port

/-- Behind a host in brackets stands something that does not begin like a port. -/
def IgnoresTail (cs host : List Char) : Prop :=
  ∃ c tail, c ≠ ':' ∧ ']' ∉ host ∧ cs = '[' :: host ++ ']' :: c :: tail

/-- What is accepted as an address, be it one or not. -/
def Accepts (cs host : List Char) (port : UInt16) : Prop :=
  IsAddress cs host port ∨ IgnoresTail cs host ∧ port = defaultPort

/-! ## The reader -/

theorem readAddress_of_unbracketed {cs : List Char} (h : cs.head? ≠ some '[') :
    readAddress cs = match Text.cutLast ':' cs with
      | some (host, port) => return (host, ← readPort port)
      | none => return (cs, defaultPort) := by
  unfold readAddress
  split
  · exact absurd rfl h
  · rfl

/-- What stands behind the bracket decides about the port. -/
theorem readAddress_of_bracketed {host : List Char} (h : ']' ∉ host) (tail : List Char) :
    readAddress ('[' :: host ++ ']' :: tail) = match tail with
      | ':' :: text => return (host, ← readPort text)
      | _ => return (host, defaultPort) := by
  rw [List.cons_append, readAddress, Text.cutFirst_append h]
  split
  next heq => cases heq
  next heq =>
    cases heq
    rfl
  next hplain heq =>
    cases heq
    split
    next text => exact (hplain text rfl).elim
    next => rfl

theorem readAddress_of_unterminated {rest : List Char} (h : ']' ∉ rest) :
    readAddress ('[' :: rest) = .error (.unterminatedHost (String.ofList ('[' :: rest))) := by
  rw [readAddress, Text.cutFirst_eq_none_iff.2 h]

/-- A host with its port is read just if the port is. -/
theorem hostPort_eq_ok_iff {host host' text : List Char} {port : UInt16} :
    (do return (host, ← readPort text) : Except ConfigFault (List Char × UInt16)) =
      .ok (host', port) ↔ host' = host ∧ Text.IsNumeral text port.toNat := by
  rw [← readPort_eq_ok_iff]
  cases hport : readPort text with
  | error fault => exact ⟨(nomatch ·), (nomatch ·.2)⟩
  | ok found =>
    constructor
    · intro h
      cases h
      exact ⟨rfl, rfl⟩
    · rintro ⟨rfl, h⟩
      cases h
      rfl

theorem readAddress_of_accepts {cs host : List Char} {port : UInt16} (h : Accepts cs host port) :
    readAddress cs = .ok (host, port) := by
  rcases h with h | ⟨⟨c, tail, hc, hclosing, rfl⟩, rfl⟩
  · cases h with
    | host hcolon hopening =>
      rw [readAddress_of_unbracketed hopening, Text.cutLast_eq_none_iff.2 hcolon]
      rfl
    | hostPort hopening hport =>
      have hcolon := hport.not_mem (c := ':') (by decide) rfl
      rw [readAddress_of_unbracketed, Text.cutLast_append hcolon]
      · exact hostPort_eq_ok_iff.2 ⟨rfl, hport⟩
      · cases host with
        | nil => simp
        | cons c host => exact hopening
    | bracketed hclosing => exact readAddress_of_bracketed hclosing []
    | bracketedPort hclosing hport =>
      rw [readAddress_of_bracketed hclosing]
      exact hostPort_eq_ok_iff.2 ⟨rfl, hport⟩
  · rw [readAddress_of_bracketed hclosing]
    split
    next heq => exact absurd (List.cons.inj heq).1 hc
    next => rfl

theorem accepts_of_readAddress {cs host : List Char} {port : UInt16}
    (h : readAddress cs = .ok (host, port)) : Accepts cs host port := by
  by_cases hopening : cs.head? = some '['
  · obtain ⟨rest, rfl⟩ := List.head?_eq_some_iff.1 hopening
    cases hcut : Text.cutFirst ']' rest with
    | none =>
      rw [readAddress_of_unterminated (Text.cutFirst_eq_none_iff.1 hcut)] at h
      cases h
    | some cut =>
      obtain ⟨inner, tail⟩ := cut
      obtain ⟨rfl, hclosing⟩ := Text.eq_of_cutFirst hcut
      rw [← List.cons_append, readAddress_of_bracketed hclosing] at h
      split at h
      next text =>
        obtain ⟨rfl, hport⟩ := hostPort_eq_ok_iff.1 h
        exact .inl (.bracketedPort hclosing hport)
      next hplain =>
        cases h
        cases tail with
        | nil => exact .inl (.bracketed hclosing)
        | cons c tail =>
          refine .inr ⟨⟨c, tail, ?_, hclosing, rfl⟩, rfl⟩
          rintro rfl
          exact hplain tail rfl
  · rw [readAddress_of_unbracketed hopening] at h
    cases hcut : Text.cutLast ':' cs with
    | none =>
      rw [hcut] at h
      cases h
      exact .inl (.host (Text.cutLast_eq_none_iff.1 hcut) hopening)
    | some cut =>
      obtain ⟨before, text⟩ := cut
      rw [hcut] at h
      obtain ⟨rfl, hport⟩ := hostPort_eq_ok_iff.1 h
      obtain ⟨rfl, -⟩ := Text.eq_of_cutLast hcut
      refine .inl (.hostPort (fun hhead => hopening ?_) hport)
      obtain ⟨host, rfl⟩ := List.head?_eq_some_iff.1 hhead
      rfl

theorem readAddress_eq_ok_iff {cs host : List Char} {port : UInt16} :
    readAddress cs = .ok (host, port) ↔ Accepts cs host port :=
  ⟨accepts_of_readAddress, readAddress_of_accepts⟩

/--
Just the addresses are read as what they say, but for a text that starts with a host in brackets
and goes on with something else than a port: what it goes on with is dropped, and the port is
the usual one. Every other text is a fault of the configuration.
-/
theorem address_grammar (cs : List Char) :
    (∀ host port, readAddress cs = .ok (host, port) ↔
      IsAddress cs host port ∨ IgnoresTail cs host ∧ port = defaultPort) ∧
    ((∃ fault, readAddress cs = .error fault) ↔
      ∀ host, ¬IgnoresTail cs host ∧ ∀ port, ¬IsAddress cs host port) := by
  refine ⟨fun _ _ => readAddress_eq_ok_iff, ?_⟩
  constructor
  · rintro ⟨fault, hfault⟩ host
    have hnone (port : UInt16) : ¬Accepts cs host port :=
      fun h => nomatch hfault.symm.trans (readAddress_of_accepts h)
    exact ⟨fun h => hnone defaultPort (.inr ⟨h, rfl⟩), fun port h => hnone port (.inl h)⟩
  · intro h
    cases hread : readAddress cs with
    | error fault => exact ⟨fault, rfl⟩
    | ok found =>
      obtain ⟨hignores, haddress⟩ := h found.1
      rcases accepts_of_readAddress hread with hfound | ⟨hfound, -⟩
      · exact absurd hfound (haddress found.2)
      · exact absurd hfound hignores

/-- A port without its colon is dropped, and the usual one is taken in its place. -/
theorem address_tail_dropped :
    readAddress "[::1]9000".toList = .ok ("::1".toList, 8563) ∧
    ∀ text : List Char, "[::1]9000".toList ≠ "::1".toList ∧
      "[::1]9000".toList ≠ "::1".toList ++ ':' :: text ∧
      "[::1]9000".toList ≠ '[' :: "::1".toList ++ [']'] ∧
      "[::1]9000".toList ≠ '[' :: "::1".toList ++ ']' :: ':' :: text := by
  refine ⟨rfl, fun text => ⟨?_, ?_, ?_, ?_⟩⟩ <;> simp

end ExasolClient.Config
