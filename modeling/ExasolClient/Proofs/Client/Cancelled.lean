-- SUMMARY: Nothing is sent once a connection is cancelled, whenever that happens.
import ExasolClient.Proofs.Client.Correlation
import ExasolClient.Proofs.Client.Standstill
import ExasolClient.Proofs.Statement.Messages

/-!
# Cancelled connections

A connection may be cancelled at any time, also while a message is written or read. The message
that answers a request which was taken is read all the same, but no other request is sent after
it (`Traffic.heeds`), not by the operation in which this happens and not by any later move.
Main statement: what a cancelled connection knows and holds stays as it is until it is closed,
and operations fail because of the cancellation, unless their values are complained of first
(`cancellation_final`).
-/

namespace ExasolClient

/-! ## The moment of a cancellation -/

namespace Sending

variable [Transport σ]

/-- The transport to which the request was handed. -/
def written (s : Sending σ) : Outcome σ Unit := Transport.write s.attempt.request.encode s.peer

/-- The connection is cancelled while the request is written, or while its answer is read. -/
def cancels (s : Sending σ) : Bool :=
  s.attempt.isSent &&
    (s.written.cancels || (s.attempt.isTaken && (Transport.read s.written.next).cancels))

/-- The answer to a request that was taken is what is read next, whoever cancels meanwhile. -/
def IsHeard (s : Sending σ) : Prop :=
  s.attempt.isSent = true → match s.written.result with
    | .error fault => s.attempt.answer = .unwritten fault
    | .ok () => match (Transport.read s.written.next).result with
      | .error fault => s.attempt.answer = .unread fault
      | .ok json => s.attempt.answer = .message json

end Sending

/-- All requests that were taken are answered, and nothing is sent after a cancellation. -/
structure Heeds [Transport σ] (traffic : List (Sending σ)) : Prop where
  heard : ∀ s ∈ traffic, s.IsHeard
  silent : ∀ before s after, traffic = before ++ s :: after → s.cancels = true →
    ∀ t ∈ after, t.attempt.isSent = false

section Heeds

variable [Transport σ] {l m : Line σ} {traffic : List (Sending σ)}

/-- What is sent over a line is answered as the transport says, which may cancel the line. -/
theorem Line.sent (l : Line σ) (r : Request) :
    let s : Sending σ := ⟨l.peer, l.attempt r⟩
    s.IsHeard ∧ (s.cancels = true → (l.after r).isCancelled = true) := by
  intro s
  have hunsent (hsilent : l.IsSilent) :
      s.IsHeard ∧ (s.cancels = true → (l.after r).isCancelled = true) := by
    have hsent : s.attempt.isSent = false := (hsilent.attempt r).1.1
    unfold Sending.IsHeard Sending.cancels
    rw [hsent]
    exact ⟨nofun, nofun⟩
  cases hlive : l.isCancelled with
  | true => exact hunsent (.inl hlive)
  | false =>
    cases hopen : l.isOpen with
    | false => exact hunsent (.inr hopen)
    | true =>
      have hwritten : s.written = Transport.write r.encode l.peer := rfl
      unfold Sending.IsHeard Sending.cancels Line.after
      rw [hwritten]
      cases hwrite : (Transport.write r.encode l.peer).result with
      | error fault =>
        have hanswer := l.answer_of_untaken r hlive hopen hwrite
        have hs : s.attempt = ⟨r, .unwritten fault⟩ :=
          congrArg (fun answered : Answer × Line σ => Attempt.mk r answered.1) hanswer
        rw [hs, hanswer]
        refine ⟨fun _ => rfl, fun hcancels => ?_⟩
        simpa [Attempt.isSent, Attempt.isTaken, Line.offered, hlive] using hcancels
      | ok _ =>
        have hanswer := l.answer_of_taken r hlive hopen hwrite
        have hs : s.attempt = ⟨r, (l.offered r).listen.1⟩ :=
          congrArg (fun answered : Answer × Line σ => Attempt.mk r answered.1) hanswer
        rw [hs, hanswer]
        unfold Line.listen
        cases hread : (Transport.read (l.offered r).peer).result <;>
          simp_all [Attempt.isSent, Attempt.isTaken, Line.offered]

theorem Traffic.isCancelled (h : Traffic l traffic m) (hcancelled : l.isCancelled = true) :
    m.isCancelled = true := by
  induction h with
  | done => exact hcancelled
  | @attempt l _ r _ _ ih =>
    refine ih ?_
    rwa [Line.after, l.answer_of_cancelled r hcancelled]
  | compress _ _ ih | close _ ih => exact ih hcancelled
  | cancel _ ih => exact ih rfl

/-- After a cancellation the line is cancelled, and nothing more is sent over it. -/
theorem Traffic.heeds (h : Traffic l traffic m) :
    Heeds traffic ∧ ((∃ s ∈ traffic, s.cancels = true) → m.isCancelled = true) := by
  have hcut {before after : List (Sending σ)} {s : Sending σ}
      (hs : traffic = before ++ s :: after) :
      s.IsHeard ∧ (s.cancels = true →
        (∀ t ∈ after, t.attempt.isSent = false) ∧ m.isCancelled = true) := by
    subst hs
    obtain ⟨line, r, -, rfl, hafter⟩ := h.split
    obtain ⟨hheard, hcancelled⟩ := line.sent r
    refine ⟨hheard, fun hcancels => ?_⟩
    have hline := hcancelled hcancels
    exact ⟨(hafter.of_silent (.inl hline)).2, hafter.isCancelled hline⟩
  refine ⟨⟨fun s hs => ?_, fun before s after hs hcancels => ((hcut hs).2 hcancels).1⟩, ?_⟩
  · obtain ⟨before, after, hs⟩ := List.append_of_mem hs
    exact (hcut hs).1
  · rintro ⟨s, hs, hcancels⟩
    obtain ⟨before, after, hs⟩ := List.append_of_mem hs
    exact ((hcut hs).2 hcancels).2

end Heeds

/-! ## What is left after a cancellation -/

section Session

open Connection

variable [Transport σ]

/--
While a connection is in use, the answer to a request that was taken is read even if the
connection is cancelled meanwhile, and no request is sent after that, not even by the same
operation. From then on the connection stays cancelled, and it rests: whatever moves are
made, nothing is sent, it knows the same attributes, and it holds the same statements until
it is closed, once. Every operation fails with the cancellation as its root, unless its values
are complained of: because they are no matrix, or because the statement is in the cache and
they do not fit it. It leaves nothing behind but notices. The end of the connection closes
the transport if it was open, without another word, and empties the cache.
-/
theorem cancellation_final (host : ClientHost) (config : Config) (peer : σ) (cancelled : Bool)
    (before after : List Move) :
    let c := (session host config peer cancelled before).connection
    let d := ((session host config peer cancelled before).run after).connection
    (∃ traffic, Passes c traffic d ∧ Heeds traffic ∧
      ((∃ s ∈ traffic, s.cancels = true) → d.isCancelled = true)) ∧
    (c.isCancelled = true →
      d.isCancelled = true ∧ c.Rests d ∧
      (∀ op : Operation, op ≠ .disconnect → op ≠ .cancel →
        ∃ fault, (Quiet.on op.ending d).1 = some fault ∧
          fault.root = complaint (op.misfit? d.statements) .cancelled ∧
          d.Undisturbed (Quiet.on op.ending d).2) ∧
      let e := (Quiet.on disconnect d).2
      e.isOpen = false ∧ e.statements = .empty ∧ e.attributes = d.attributes ∧
        e.calls = d.calls ++ if d.isOpen then [.closed] else []) := by
  intro c d
  constructor
  · obtain ⟨traffic, hpasses⟩ := (session host config peer cancelled before).run_passes after
    exact ⟨traffic, hpasses, hpasses.line.heeds⟩
  · intro hcancelled
    have hrests : c.Rests d := Client.run_rests _ (.inl hcancelled) after
    have hstays : d.isCancelled = true := hrests.isCancelled hcancelled
    have hsilent : d.line.IsSilent := .inl hstays
    refine ⟨hstays, hrests, fun op hend hcancel => ?_, ?_⟩
    · have hrefused := op.refused hsilent hend hcancel
      rwa [Line.refusal_of_cancelled hstays] at hrefused
    · intro e
      cases hopen : d.isOpen with
      | true =>
        obtain ⟨hclosed, hstatements, hattributes, -, hcalls⟩ :=
          disconnect_in_silence hsilent hopen
        exact ⟨hclosed, hstatements, hattributes, hcalls⟩
      | false =>
        have htidy : d.Tidy :=
          Client.run_induction (P := fun x => x.connection.Tidy)
            (fun x move h => x.tidy_step h move)
            (tidy_session host config peer cancelled before) after
        have he : e = d := disconnect_of_closed hopen
        rw [he]
        exact ⟨hopen, htidy hopen, rfl, (List.append_nil _).symm⟩

end Session

/-! ## A statement in the cache -/

section Cached

open Connection Rehearsal Mailbox

/-- A server that prepares a statement with one parameter, under the handle 7. -/
def preparing : Server where
  script := [("createPreparedStatement", [⟨.reply (preparedReply 7), false⟩]),
    ("executePreparedStatement", [⟨.echoRows, false⟩])]
  modulus := "e3b0c44298fc1c149afbf5"
  exponent := "3"

/-- A session whose statement is in the cache when the connection is cancelled. -/
def cachedThenCancelled : Client Server :=
  session onesHost { cacheStatements := true } preparing false
    [.call (.execute "INSERT" oneBind), .call .cancel]

/-- Nothing is left to do with the cached statement but to forget it. -/
theorem cancellation_of_cached :
    let d := cachedThenCancelled.connection
    d.isCancelled = true ∧ d.statements.handles = [7] ∧
    (∃ fault, (Quiet.on Operation.commit.ending d).1 = some fault ∧ fault.root = .cancelled) ∧
    (Quiet.on disconnect d).2.statements = .empty ∧
    (Quiet.on disconnect d).2.calls = d.calls ++ [.closed] := by
  intro d
  have hstate : d.isCancelled = true ∧ d.statements.handles = [7] ∧ d.isOpen = true := by
    decide +kernel
  obtain ⟨hcancelled, hhandles, hopen⟩ := hstate
  obtain ⟨-, hfinal⟩ := cancellation_final onesHost { cacheStatements := true } preparing false
    [.call (.execute "INSERT" oneBind), .call .cancel] []
  obtain ⟨-, -, hfails, -, hstatements, -, hcalls⟩ := hfinal hcancelled
  obtain ⟨fault, hfault, hroot, -⟩ := hfails .commit nofun nofun
  refine ⟨hcancelled, hhandles, ⟨fault, hfault, hroot⟩, hstatements, hcalls.trans ?_⟩
  exact congrArg (d.calls ++ ·) (if_pos hopen)

/-- The same values, and types for two parameters. -/
def twoTypes : StatementOptions :=
  { oneBind with columnTypes := some [.double, .double] }

/--
On a cancelled connection the values are well shaped, and yet the statement does not fail
because of the cancellation.
-/
theorem cancelled_yet_misfit :
    cachedThenCancelled.connection.isCancelled = true ∧
    (∃ data, twoTypes.bindings = .ok (some data)) ∧
    ∃ fault, (Quiet.on (Operation.execute "INSERT" twoTypes).ending
        cachedThenCancelled.connection).1 = some fault ∧
      fault.root = .argument (.typeCount 2 1) := by
  have hcancelled : cachedThenCancelled.connection.isCancelled = true := by
    decide +kernel
  have hmisfit : (Operation.execute "INSERT" twoTypes).misfit?
      cachedThenCancelled.connection.statements = some (.typeCount 2 1) := by
    decide +kernel
  have hsilent : cachedThenCancelled.connection.line.IsSilent := .inl hcancelled
  obtain ⟨fault, hfault, hroot, -⟩ :=
    (Operation.execute "INSERT" twoTypes).refused hsilent nofun nofun
  rw [hmisfit] at hroot
  exact ⟨hcancelled, ⟨[[.int 5]], rfl⟩, fault, hfault, hroot⟩

end Cached

end ExasolClient
