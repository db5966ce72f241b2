-- SUMMARY: A transport that puts every call of it on tape, message by message.
import ExasolClient.Proofs.Exchange.Handshake
import ExasolClient.Proofs.Wire.Requests

/-!
# Tapes

The journal of a connection tells of requests; what a transport is given are messages. A taped
transport answers as the one behind it does (`Talk.untaped`), and puts every call on tape, with the
message as it was given. What is on the tape was not said by the connection about itself, so it is
against the tape that the journal can be checked: whatever is done with a connection, the calls
that are added to the tape are those that are added to the journal, with each request in its form
on the wire (`Journaled`). Main statements: an operation and a handshake are journaled
(`Journaled.leads`, `journaled_connect`).
-/

namespace ExasolClient

/-! ## Calls -/

/-- A call of a transport, and what came of it. -/
inductive Call where
  | connect (endpoint : String) (mode : TlsMode) (timeout : Duration) (fault : Option Fault)
  | write (message : Json) (fault : Option Fault)
  | read (reply : Except Fault Json)
  | setCompression (enabled : Bool)
  | close

namespace Call

/-- The message that a call is given. -/
def message? : Call → Option Json
  | .write message _ => some message
  | .connect _ _ _ _ | .read _ | .setCompression _ | .close => none

/-- The messages that a transport was given. -/
def messages (calls : List Call) : List Json := calls.filterMap message?

end Call

/-- The call that an entry of a journal tells of. -/
def Event.call? : Event → Option Call
  | .connected endpoint mode timeout fault => some (.connect endpoint mode timeout fault)
  | .wrote r fault => some (.write r.encode fault)
  | .read reply => some (.read reply)
  | .compression enabled => some (.setCompression enabled)
  | .closed => some .close
  | .logged _ => none

/-- The calls that an attempt is made of. -/
def Attempt.taped (a : Attempt) : List Call := a.events.filterMap Event.call?

/-- Notices tell of no call. -/
theorem Event.filterMap_calls (events : List Event) :
    (calls events).filterMap call? = events.filterMap call? := by
  rw [calls, List.filterMap_filter]
  congr 1
  funext event
  cases event <;> rfl

theorem Attempt.filterMap_events (talk : List Attempt) :
    (talk.flatMap events).filterMap Event.call? = talk.flatMap taped := by
  rw [List.filterMap_flatMap]
  rfl

/-- What is not sent leaves nothing on the tape. -/
theorem Attempt.taped_sent (talk : List Attempt) :
    (talk.filter isSent).flatMap taped = talk.flatMap taped := by
  induction talk with
  | nil => rfl
  | cons a talk ih =>
    obtain ⟨request, answer⟩ := a
    cases answer <;> simp [List.filter_cons, isSent, taped, events, ih]

/-! ## Taped transports -/

/-- A transport, and the tape on which its calls stand, the oldest first. -/
structure Taped (σ : Type) where
  peer : σ
  tape : List Call

namespace Taped

/-- A transport on whose tape there is nothing yet. -/
def blank (peer : σ) : Taped σ := ⟨peer, []⟩

/-- What came of a call, which is put on tape. -/
def record (t : Taped σ) (outcome : Outcome σ α) (call : Except Fault α → Call) :
    Outcome (Taped σ) α where
  result := outcome.result
  next := ⟨outcome.next, t.tape ++ [call outcome.result]⟩
  cancels := outcome.cancels

open Connection in
instance [Transport σ] : Transport (Taped σ) where
  connect endpoint mode timeout t :=
    t.record (Transport.connect endpoint mode timeout t.peer) fun result =>
      .connect endpoint mode timeout (fault? result)
  setCompression enabled t :=
    ⟨Transport.setCompression enabled t.peer, t.tape ++ [.setCompression enabled]⟩
  write message t :=
    t.record (Transport.write message t.peer) fun result => .write message (fault? result)
  read t := t.record (Transport.read t.peer) .read
  close t := ⟨Transport.close t.peer, t.tape ++ [.close]⟩

variable [Transport σ]

theorem tape_write (message : Json) (t : Taped σ) : (Transport.write message t).next.tape =
    t.tape ++ [.write message (Connection.fault? (Transport.write message t).result)] := rfl

theorem tape_read (t : Taped σ) :
    (Transport.read t).next.tape = t.tape ++ [.read (Transport.read t).result] := rfl

end Taped

/-! ## Attempts on tape -/

/-- The line behind a taped one. -/
def Line.untaped (l : Line (Taped σ)) : Line σ := ⟨l.peer.peer, l.isOpen, l.isCancelled⟩

section Attempts

variable [Transport σ] {l m : Line (Taped σ)} {talk : List Attempt}

/-- Waiting for the answer to a request that was taken is one call. -/
theorem Line.tape_listen (l : Line (Taped σ)) (r : Request) :
    l.listen.2.peer.tape = l.peer.tape ++ [.read l.listen.1.message?] ∧
      (⟨r, l.listen.1⟩ : Attempt).taped = [.write r.encode none, .read l.listen.1.message?] := by
  have htape := Taped.tape_read l.peer
  unfold listen
  dsimp only
  split
  next json hread =>
    rw [hread] at htape
    exact ⟨htape, rfl⟩
  next fault hread =>
    rw [hread] at htape
    exact ⟨htape, rfl⟩

/-- What comes of a request is found on the tape. -/
theorem Line.tape_after (l : Line (Taped σ)) (r : Request) :
    (l.after r).peer.tape = l.peer.tape ++ (l.attempt r).taped := by
  unfold after attempt
  cases hcancelled : l.isCancelled with
  | true => simp [l.answer_of_cancelled r hcancelled, Attempt.taped, Attempt.events]
  | false =>
    cases hopen : l.isOpen with
    | false => simp [l.answer_of_closed r hcancelled hopen, Attempt.taped, Attempt.events]
    | true =>
      have htape := Taped.tape_write r.encode l.peer
      cases hwrite : (Transport.write r.encode l.peer).result with
      | error fault =>
        rw [hwrite] at htape
        rw [l.answer_of_untaken r hcancelled hopen hwrite]
        exact htape
      | ok _ =>
        rw [hwrite] at htape
        obtain ⟨hlisten, htaped⟩ := (l.offered r).tape_listen r
        have hoffered : (l.offered r).peer.tape = l.peer.tape ++ [.write r.encode none] := htape
        rw [l.answer_of_taken r hcancelled hopen hwrite, hlisten, htaped, hoffered,
          List.append_assoc]
        rfl

theorem Talk.tape (h : Talk l talk m) :
    m.peer.tape = l.peer.tape ++ talk.flatMap Attempt.taped := by
  induction h with
  | nil => simp
  | @cons l m r rest _ ih => rw [ih, l.tape_after, List.flatMap_cons, List.append_assoc]

theorem Line.listen_untaped (l : Line (Taped σ)) :
    l.untaped.listen = (l.listen.1, l.listen.2.untaped) := by
  have hresult : (Transport.read l.peer).result = (Transport.read l.peer.peer).result := rfl
  unfold listen untaped
  dsimp only
  rw [hresult]
  cases (Transport.read l.peer.peer).result <;> rfl

/-- A taped line answers as the line behind it does. -/
theorem Line.answer_untaped (l : Line (Taped σ)) (r : Request) :
    l.untaped.answer r = ((l.answer r).1, (l.answer r).2.untaped) := by
  cases hlive : l.isCancelled with
  | true => rw [l.untaped.answer_of_cancelled r hlive, l.answer_of_cancelled r hlive]
  | false =>
    cases hopen : l.isOpen with
    | false => rw [l.untaped.answer_of_closed r hlive hopen, l.answer_of_closed r hlive hopen]
    | true =>
      cases hwrite : (Transport.write r.encode l.peer).result with
      | error fault =>
        rw [l.untaped.answer_of_untaken r hlive hopen hwrite,
          l.answer_of_untaken r hlive hopen hwrite]
        rfl
      | ok _ =>
        rw [l.untaped.answer_of_taken r hlive hopen hwrite, l.answer_of_taken r hlive hopen hwrite]
        exact (l.offered r).listen_untaped

/-- What is said over a taped line is said over the line behind it. -/
theorem Talk.untaped (h : Talk l talk m) : Talk l.untaped talk m.untaped := by
  induction h with
  | nil l => exact .nil l.untaped
  | @cons l m r rest _ ih =>
    have hanswer := l.answer_untaped r
    have hattempt : l.attempt r = l.untaped.attempt r := by
      rw [Line.attempt, Line.attempt, hanswer]
    have hafter : (l.after r).untaped = l.untaped.after r := by
      rw [Line.after, Line.after, hanswer]
    rw [hattempt]
    exact .cons (hafter ▸ ih)

end Attempts

/-! ## The journal and the tape -/

/-- From connection `c` to `d` the journal and the tape have grown by the same calls. -/
def Journaled (c d : Connection (Taped σ)) : Prop :=
  ∃ events, d.journal.toList = c.journal.toList ++ events ∧
    d.peer.tape = c.peer.tape ++ events.filterMap Event.call?

namespace Journaled

variable {c d e : Connection (Taped σ)}

theorem refl (c : Connection (Taped σ)) : Journaled c c := ⟨[], by simp, by simp⟩

theorem trans (h : Journaled c d) (h' : Journaled d e) : Journaled c e := by
  obtain ⟨first, hd, htape⟩ := h
  obtain ⟨rest, he, htape'⟩ := h'
  refine ⟨first ++ rest, ?_, ?_⟩
  · rw [he, hd, List.append_assoc]
  · rw [htape', htape, List.filterMap_append, List.append_assoc]

variable [Transport σ] {talk : List Attempt} {cache : StatementCache}

theorem leads (h : Leads c talk cache d) : Journaled c d := by
  obtain ⟨events, hjournal, hcalls⟩ := h.journal
  refine ⟨events, hjournal, ?_⟩
  have htape : d.peer.tape = c.peer.tape ++ talk.flatMap Attempt.taped := h.line.tape
  rw [htape, ← Event.filterMap_calls, hcalls, Attempt.filterMap_events]

theorem close (hopen : c.isOpen = true) : Journaled c (Quiet.on Connection.close c).2 := by
  rw [Connection.on_close hopen]
  exact ⟨[.closed], Array.toList_push, rfl⟩

theorem enter (c : Connection (Taped σ)) (info : SessionInfo) : Journaled c (c.entered info) :=
  ⟨[.compression false, .logged (.sessionEstablished info.sessionId info.databaseName
    info.releaseVersion)], by simp [Connection.entered], rfl⟩

end Journaled

/-! ## Handshakes on tape -/

section Handshakes

variable [Transport σ] (host : ClientHost) {config : Config} (peer : Taped σ) (cancelled : Bool)

open Connection

theorem journaled_reached :
    Journaled (begun config peer cancelled) (reached config peer cancelled) :=
  ⟨[.logged (.connecting config.endpoint config.user),
    reachedEvent config (fault? (reaching config peer).result)], rfl, rfl⟩

/-- A handshake is journaled from the first call on, however it ends. -/
theorem journaled_connect :
    Journaled (begun config peer cancelled) (connect host config peer cancelled).2 := by
  have hreached : Journaled (begun config peer cancelled) (connected config peer cancelled) :=
    journaled_reached peer cancelled
  apply connect_cases host peer cancelled (motive := fun outcome =>
    Journaled (begun config peer cancelled) outcome.2)
  · exact fun _ _ => .refl _
  · exact fun _ _ _ _ => hreached
  · exact fun _ _ d _ hleads _ => (hreached.trans (.leads hleads)).trans (.close hleads.isOpen)
  · exact fun _ _ d info hleads _ => (hreached.trans (.leads hleads)).trans (.enter d info)

end Handshakes
end ExasolClient
