-- SUMMARY: The end of a connection is always reached, and nothing happens to it after that.
import ExasolClient.Proofs.Client.Correlation
import ExasolClient.Proofs.Statement.Ledger
import ExasolClient.Proofs.Stream.Delivery
import ExasolClient.Proofs.Stream.Stranded

/-!
# Disconnected connections

The end of a connection is reached whatever fails on the way: the cached statements are closed
one by one, then the session is ended, and then the transport is closed (`Connection.Ends`).
After that no move calls the transport again, and none changes what the client knows and holds
(`Connection.StaysClosed`). A stream that is still open delivers what it has, and if that is not
all its consumer is told. Main statement: this is so for every open connection of a session
(`disconnect_final`).
-/

namespace ExasolClient

open Connection

/-! ## The end of a connection -/

/--
The cached statements were closed and then the session was ended, as far as that was possible,
and then the transport was closed.
-/
structure Connection.Ends [Transport σ] (c d : Connection σ) : Prop where
  parting : ∃ talk line closes, Talk c.line talk line ∧
    talk.map Attempt.request = closes ++ [.disconnect] ∧
    closes.Perm (c.statements.entries.map fun entry => .closeStatement entry.2.handle) ∧
    d.calls = c.calls ++ (talk.flatMap Attempt.events ++ [.closed])
  isClosed : d.isOpen = false
  statements : d.statements = .empty

theorem Connection.disconnect_ends [Transport σ] {c : Connection σ} (hopen : c.isOpen = true) :
    c.Ends (Quiet.on disconnect c).2 := by
  obtain ⟨talk, d, hleads, hrequests, hclose⟩ := disconnect_leads hopen
  have hdopen : d.isOpen = true := hleads.isOpen.trans hopen
  have hcalls := calls_close hdopen
  rw [hleads.calls, List.append_assoc] at hcalls
  have hcloses := c.statements.handles_perm.map Request.closeStatement
  rw [List.map_map] at hcloses
  rw [on_close hdopen] at hclose hcalls
  rw [hclose]
  exact ⟨⟨talk, d.line, _, hleads.line, hrequests, hcloses, hcalls⟩, rfl, hleads.statements⟩

/-! ## After the end -/

/-- Why an operation cannot be performed with its values, whatever statement they are for. -/
def Operation.misshapen? : Operation → Option ArgumentFault
  | .execute _ options | .query _ options | .queryAll _ options =>
    match options.bindings with
    | .error cause => some cause
    | .ok _ => none
  | _ => none

/-- Without a statement in the cache nothing but their shape is known to be wrong with values. -/
theorem Operation.misfit?_empty (op : Operation) : op.misfit? .empty = op.misshapen? := by
  have hoptions (options : StatementOptions) (key : StatementKey) :
      options.misfit? .empty key = match options.bindings with
        | .error cause => some cause
        | .ok _ => none := by
    unfold StatementOptions.misfit?
    rcases options.bindings with cause | _ | data <;> rfl
  cases op with
  | execute sql options | query sql options | queryAll sql options => exact hoptions options _
  | _ => rfl

/-- A connection that was closed has been left alone. -/
structure Connection.StaysClosed [Transport σ] (c d : Connection σ) : Prop where
  isClosed : d.isOpen = false
  statements : d.statements = .empty
  attributes : d.attributes = c.attributes
  calls : d.calls = c.calls
  disconnect : (Quiet.on disconnect d).2 = d
  refuses : ∀ op : Operation, op ≠ .disconnect → op ≠ .cancel →
    ∃ fault, (Quiet.on op.ending d).1 = some fault ∧
      fault.root = complaint op.misshapen? (if d.isCancelled then .cancelled else .closed)

theorem Connection.Rests.staysClosed [Transport σ] {c d : Connection σ} (h : c.Rests d)
    (hclosed : c.isOpen = false) (hstatements : c.statements = .empty) : c.StaysClosed d := by
  obtain ⟨hstays, hkept, hcalls⟩ := h.of_closed hclosed
  rw [hstatements] at hkept
  refine ⟨hstays, hkept, h.attributes, hcalls, disconnect_of_closed hstays, ?_⟩
  intro op hend hcancel
  obtain ⟨fault, hfault, hroot, -⟩ := op.refused (.inr hstays : d.line.IsSilent) hend hcancel
  rw [hkept, op.misfit?_empty] at hroot
  exact ⟨fault, hfault, hroot⟩

/-! ## The streams of a session -/

section Streams

variable [Transport σ] {x : Client σ} {i : Nat} {r : Reader}

/-- Only a query opens a stream. -/
theorem Operation.opens {op : Operation} {c : Connection σ} {s : Stream}
    (h : (Quiet.on op.perform c).1 = some s) : ∃ rows size, s = .ofResultSet rows size := by
  by_cases hend : op = .disconnect
  · subst hend
    cases h
  · by_cases hcancel : op = .cancel
    · subst hcancel
      cases h
    · obtain ⟨talk, cache, -, hspoken⟩ := op.perform_spoken c hend hcancel
      rw [h] at hspoken
      generalize hopened : some s = opened at hspoken
      cases hspoken with
      | attributes | counted | collected => cases hopened
      | queried hqueried =>
        cases hqueried with
        | failed => cases hopened
        | opened =>
          cases hopened
          exact ⟨_, _, rfl⟩

theorem ResultSet.hasBooks_opened (header : ResultSet) (size : UInt64) :
    (header.opened size).HasBooks := by
  obtain ⟨fate, hbooks, -⟩ := header.books_opened size
  exact ⟨_, _, _, _, _, _, hbooks⟩

theorem Reader.HasBooks.run (h : r.HasBooks) (turns : List (Turn σ)) : (r.run turns).HasBooks := by
  induction turns generalizing r with
  | nil => exact h
  | cons turn turns ih => exact ih (h.after turn)

/-- Only an operation brings a client another stream. -/
theorem Client.length_readers_step (x : Client σ) {move : Move} (h : ∀ op, move ≠ .call op) :
    (x.step move).readers.length = x.readers.length := by
  cases move with
  | call op => exact absurd rfl (h op)
  | produce j =>
    cases hr : x.readers[j]? with
    | none => rw [x.step_produce_none hr]
    | some r =>
      rw [x.step_produce_some hr]
      exact List.length_set
  | receive j | cancelStream j | dropStream j => exact List.length_modify ..

/-- The books of all streams are kept. -/
def Client.KeepsBooks (x : Client σ) : Prop :=
  ∀ (i : Nat) (r : Reader), x.readers[i]? = some r → r.HasBooks

theorem Client.KeepsBooks.step (h : x.KeepsBooks) (move : Move) : (x.step move).KeepsBooks := by
  intro i r hr
  cases hold : x.readers[i]? with
  | some old =>
    cases (readers_step hold move).symm.trans hr
    exact (h i old hold).run _
  | none =>
    by_cases hcall : ∃ op, move = .call op
    · obtain ⟨op, rfl⟩ := hcall
      simp only [Client.step] at hr
      rw [List.getElem?_append_right (List.getElem?_eq_none_iff.1 hold)] at hr
      obtain ⟨s, hs, rfl⟩ := List.mem_map.1 (List.mem_of_getElem? hr)
      obtain ⟨rows, size, rfl⟩ := op.opens (Option.mem_toList.1 hs)
      exact rows.hasBooks_opened size
    · have hlength := x.length_readers_step fun op hop => hcall ⟨op, hop⟩
      have hnone := List.getElem?_eq_none_iff.1 hold
      rw [← hlength] at hnone
      cases (List.getElem?_eq_none_iff.2 hnone).symm.trans hr

theorem Client.keepsBooks_session (host : ClientHost) (config : Config) (peer : σ)
    (cancelled : Bool) (moves : List Move) :
    (session host config peer cancelled moves).KeepsBooks :=
  session_induction (P := Client.KeepsBooks) (fun _ _ hr => nomatch hr)
    (fun _ move h => h.step move) moves

end Streams

/-! ## The end of a session -/

/--
Whatever the transport does, the end of an open connection attempts to close every cached
statement and to end the session, and then it closes the transport; the connection is closed
and its cache empty. Whatever moves come after that, of callers or of producers, nothing is
called, the connection stays closed and its cache empty, it knows the same attributes, and to
end it once more does nothing. All operations fail because the connection is closed, or because
it is cancelled, unless their values are no matrix. A stream that is neither cancelled nor read
to its end delivers what is queued and what is left of it, and if it needs another fetch then
these are rows and last the fault of the fetch, which is refused.
-/
theorem disconnect_final [Transport σ] (host : ClientHost) (config : Config) (peer : σ)
    (cancelled : Bool) (before : List Move)
    (hopen : (session host config peer cancelled before).connection.isOpen = true) :
    let x := session host config peer cancelled before
    let y := x.step (.call .disconnect)
    x.connection.Ends y.connection ∧
    ∀ after : List Move, let z := y.run after
      y.connection.StaysClosed z.connection ∧
      ∀ i r, z.readers[i]? = some r →
        z.connection.isCancelled = false → r.stream.isCancelled = false →
        (r.stream.isFinished = false → ∀ moves : Nat → Move, (∀ n, (moves n).Tolerates i) →
          z.Collects moves i r (r.stream.queue ++ r.stream.leftover)) ∧
        (r.stream.needsFetch = true → r.stream.isFinished = false ∧ ∃ rows : List Row,
          r.stream.queue ++ r.stream.leftover = rows.map .ok ++ [.error fetchRefused]) := by
  intro x y
  have hends : x.connection.Ends y.connection := disconnect_ends hopen
  refine ⟨hends, ?_⟩
  intro after z
  have hrests : y.connection.Rests z.connection := y.run_rests (.inr hends.isClosed) after
  have hstays := hrests.staysClosed hends.isClosed hends.statements
  refine ⟨hstays, ?_⟩
  intro i r hr hlive huncancelled
  have hbooks : z.KeepsBooks :=
    Client.run_induction (fun _ move h => h.step move)
      ((Client.keepsBooks_session host config peer cancelled before).step _) after
  have hkept := hbooks i r hr
  constructor
  · intro hunfinished moves hmoves
    have hstrands : z.Strands i r.whole r := ⟨hr, hstays.isClosed, hlive, huncancelled, hkept, rfl⟩
    exact hstrands.collects hunfinished hmoves
  · intro hneeds
    have hdropped := hkept.undropped huncancelled
    obtain ⟨_, _, _, _, _, _, hr⟩ := hkept
    exact hr.needs_fetch hdropped hneeds

/-! ## A stream that is left open -/

section LeftOpen

open Rehearsal Mailbox

/-- A server of a prepared statement and of two rows, which are fetched one by one. -/
def twoRows : Server where
  script := [
    ("createPreparedStatement", [⟨.reply (preparedReply 7), false⟩]),
    ("executePreparedStatement", [⟨.echoRows, false⟩]),
    ("execute", [⟨.reply (outcome "resultSet" (.obj [
      ("resultSetHandle", .int 9), ("numColumns", .int 1), ("numRows", .int 2),
      ("numRowsInMessage", .int 0), ("columns", headers 1)])), false⟩]),
    ("fetch", [⟨.page 2 1 1, false⟩])]
  modulus := "e3b0c44298fc1c149afbf5"
  exponent := "3"

/-- A session with a statement in its cache and a stream whose first row is queued. -/
def reading : List Move :=
  [.call (.execute "INSERT" oneBind), .call (.query "SELECT" {}), .produce 0, .produce 0]

/-- When the connection is closed, the consumer receives the row and then the fault of a fetch. -/
theorem disconnect_of_open_stream :
    let x := session onesHost { cacheStatements := true } twoRows false reading
    let y := x.step (.call .disconnect)
    x.connection.isOpen = true ∧ x.connection.statements.handles = [7] ∧
      y.connection.isOpen = false ∧ y.connection.statements = .empty ∧
      ∃ row m, ∀ n, m ≤ n → ∃ r ends, (y.after turns n).readers[0]? = some r ∧
        r.received = some (.ok row) :: some (.error fetchRefused) :: List.replicate ends none := by
  intro x y
  have hstate : x.connection.isOpen = true ∧ x.connection.statements.handles = [7] ∧
      y.connection.isCancelled = false ∧
      (y.readers[0]?.map fun r => (r.stream.isCancelled, r.stream.needsFetch, r.received.length,
        (r.stream.queue ++ r.stream.leftover).length)) = some (false, true, 0, 2) := by
    decide +kernel
  simp only [Prod.mk.injEq, Option.map_eq_some_iff, List.length_eq_zero_iff] at hstate
  obtain ⟨hopen, hhandles, hlive, r, hr, huncancelled, hneeds, hreceived, hlength⟩ := hstate
  obtain ⟨hends, hafter⟩ :=
    disconnect_final onesHost { cacheStatements := true } twoRows false reading hopen
  obtain ⟨hcollects, hneeded⟩ := (hafter []).2 0 r hr hlive huncancelled
  obtain ⟨hunfinished, rows, hrows⟩ := hneeded hneeds
  have hmoves (n : Nat) : (turns n).Tolerates 0 :=
    ⟨(turns_spares n).cancel, (turns_spares n).cancelStream, (turns_spares n).dropStream⟩
  obtain ⟨m, hm⟩ := (hcollects hunfinished turns hmoves).eventually turns_fair
  have hone : rows.length = 1 := by
    rw [hrows] at hlength
    simpa using hlength
  obtain ⟨row, rfl⟩ := List.length_eq_one_iff.1 hone
  refine ⟨hopen, hhandles, hends.isClosed, hends.statements, row, m, ?_⟩
  intro n hmn
  obtain ⟨r', ends, hr', hreceived'⟩ := hm n hmn
  refine ⟨r', ends, hr', ?_⟩
  rw [hreceived', hreceived, hrows]
  rfl

end LeftOpen

end ExasolClient
