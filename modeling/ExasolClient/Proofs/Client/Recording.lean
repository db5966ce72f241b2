-- SUMMARY: The calls that a client makes of its transport, taken down by the transport itself.
import ExasolClient.Proofs.Client.Session
import ExasolClient.Proofs.Exchange.Tape

/-!
# Recordings

A client over a taped transport makes its moves as any other client does, and what stands on the
tape afterwards is all that the transport was given. Main statements: the calls in the journal of
a session are those on its tape (`tape_of_session`), so whatever is known of the one is known of
the other; and every message on the tape is that of one of the exchanges of a move, behind the
messages of the exchanges before it (`Client.exchange_of_recorded`).
-/

namespace ExasolClient

/-! ## Moves on tape -/

/-- From a blank tape on the calls in the journal are those on the tape. -/
theorem Journaled.tape_eq {config : Config} {peer : σ} {cancelled : Bool}
    {d : Connection (Taped σ)}
    (h : Journaled (Connection.begun config (Taped.blank peer) cancelled) d) :
    d.peer.tape = d.calls.filterMap Event.call? := by
  obtain ⟨events, hjournal, htape⟩ := h
  have hevents : d.journal.toList = events := hjournal
  rw [htape, Connection.calls, Event.filterMap_calls, hevents]
  rfl

section Moves

variable [Transport σ]

theorem Connection.journaled_disconnect (c : Connection (Taped σ)) :
    Journaled c (Quiet.on disconnect c).2 := by
  cases hopen : c.isOpen with
  | false =>
    rw [disconnect_of_closed hopen]
    exact .refl c
  | true =>
    obtain ⟨talk, d, hleads, -, hclose⟩ := disconnect_leads hopen
    rw [hclose]
    exact (Journaled.leads hleads).trans (.close (hleads.isOpen.trans hopen))

theorem Client.journaled_step (x : Client (Taped σ)) (move : Move) :
    Journaled x.connection (x.step move).connection := by
  by_cases hend : move = .call .disconnect
  · subst hend
    exact x.connection.journaled_disconnect
  · by_cases hcancel : move = .call .cancel
    · subst hcancel
      exact ⟨[], (List.append_nil _).symm, (List.append_nil _).symm⟩
    · obtain ⟨talk, cache, hleads⟩ := x.step_leads hend hcancel
      exact .leads hleads

/-- The calls in the journal of a session are those that its transport was given. -/
theorem tape_of_session (host : ClientHost) (config : Config) (peer : σ) (cancelled : Bool)
    (moves : List Move) :
    let d := (session host config (Taped.blank peer) cancelled moves).connection
    d.peer.tape = d.calls.filterMap Event.call? := by
  intro d
  have hjournaled : Journaled (Connection.begun config (Taped.blank peer) cancelled) d :=
    session_induction (P := fun x => Journaled _ x.connection)
      (journaled_connect host _ cancelled) (fun x move h => h.trans (x.journaled_step move)) moves
  exact hjournaled.tape_eq

end Moves

/-! ## Exchanges on tape -/

section Exchanges

variable {a : Attempt} {talk : List Attempt} {last before after : List Call} {json : Json}
  {fault : Option Fault}

/-- An attempt begins with its one write. -/
theorem Attempt.write_of_taped (h : a.taped = before ++ .write json fault :: after) :
    before = [] ∧ a.request.encode = json := by
  obtain ⟨request, answer⟩ := a
  cases before with
  | nil => cases answer <;> cases h <;> exact ⟨rfl, rfl⟩
  | cons call before =>
    have hmem : Call.write json fault ∈ (⟨request, answer⟩ : Attempt).taped.tail := by
      rw [h]
      simp
    cases answer <;> simp [taped, events, Event.call?] at hmem

/-- What is written among the calls of a talk is the request of one of its attempts. -/
theorem Attempt.split_taped (hlast : ∀ call ∈ last, call.message? = none)
    (h : talk.flatMap taped ++ last = before ++ .write json fault :: after) :
    ∃ t a t', talk = t ++ a :: t' ∧ t.flatMap taped = before ∧ a.request.encode = json := by
  induction talk generalizing before with
  | nil =>
    have hmem : Call.write json fault ∈ last := by
      rw [List.flatMap_nil, List.nil_append] at h
      simp [h]
    cases hlast _ hmem
  | cons a talk ih =>
    rw [List.flatMap_cons, List.append_assoc] at h
    obtain ⟨rest, rfl, hrest⟩ | ⟨_ | ⟨call, rest⟩, htaped, hrest⟩ := List.append_eq_append_iff.1 h
    · obtain ⟨t, b, t', rfl, rfl, hjson⟩ := ih hrest
      exact ⟨a :: t, b, t', rfl, rfl, hjson⟩
    · rw [List.append_nil] at htaped
      obtain ⟨t, b, t', rfl, hnone, hjson⟩ := @ih [] hrest.symm
      exact ⟨a :: t, b, t', rfl, by rw [List.flatMap_cons, hnone, htaped, List.append_nil], hjson⟩
    · obtain ⟨rfl, -⟩ := List.cons.inj hrest
      obtain ⟨rfl, hjson⟩ := write_of_taped htaped
      exact ⟨[], a, talk, rfl, rfl, hjson⟩

end Exchanges

section Steps

variable [Transport σ]

/-- A move is put on tape as its exchanges, and a close may follow. -/
theorem Client.tape_step (x : Client (Taped σ)) (move : Move) : ∃ last,
    (x.step move).connection.peer.tape =
      x.connection.peer.tape ++ ((x.talk move).flatMap Attempt.taped ++ last) ∧
    ∀ call ∈ last, call.message? = none := by
  have hquiet : ∀ call ∈ ([] : List Call), call.message? = none := fun _ hcall => nomatch hcall
  by_cases hend : move = .call .disconnect
  · subst hend
    cases hopen : x.connection.isOpen with
    | false =>
      obtain ⟨hsame, hnone⟩ := x.disconnect_closed hopen
      rw [hsame, hnone]
      exact ⟨[], (List.append_nil _).symm, hquiet⟩
    | true =>
      obtain ⟨talk, d, hleads, -, hon, hexchanges⟩ := Connection.disconnect_sends hopen
      have htalk : x.talk (.call .disconnect) = talk.filter Attempt.isSent := hexchanges
      have htape : (x.step (.call .disconnect)).connection.peer.tape = d.peer.tape ++ [.close] :=
        congrArg (·.peer.tape) hon
      have hlead : d.peer.tape = x.connection.peer.tape ++ talk.flatMap Attempt.taped :=
        hleads.line.tape
      refine ⟨[.close], ?_, fun call hcall => List.mem_singleton.1 hcall ▸ rfl⟩
      rw [htape, hlead, htalk, Attempt.taped_sent, List.append_assoc]
  · by_cases hcancel : move = .call .cancel
    · subst hcancel
      have hnone : x.talk (.call .cancel) = [] := (Leads.refl x.connection).exchanges
      rw [hnone]
      exact ⟨[], (List.append_nil _).symm, hquiet⟩
    · obtain ⟨talk, cache, hleads⟩ := x.step_leads hend hcancel
      have htalk : x.talk move = talk.filter Attempt.isSent := hleads.exchanges
      refine ⟨[], ?_, hquiet⟩
      rw [htalk, Attempt.taped_sent, List.append_nil]
      exact hleads.line.tape

/-- The exchanges of a run are found on the tape. -/
theorem Client.tape_run (x : Client (Taped σ)) (moves : List Move) : ∃ calls,
    (x.run moves).connection.peer.tape = x.connection.peer.tape ++ calls ∧
      ∀ a ∈ (x.talks moves).flatten, a.taped <:+: calls := by
  induction moves generalizing x with
  | nil => exact ⟨[], (List.append_nil _).symm, fun _ ha => nomatch ha⟩
  | cons move moves ih =>
    obtain ⟨last, hstep, -⟩ := x.tape_step move
    obtain ⟨calls, hrest, hcalls⟩ := ih (x.step move)
    refine ⟨(x.talk move).flatMap Attempt.taped ++ last ++ calls, ?_, fun a ha => ?_⟩
    · rw [← List.append_assoc, ← hstep]
      exact hrest
    · rcases List.mem_append.1 (List.flatten_cons ▸ ha) with ha | ha
      · refine (List.infix_of_mem_flatten (List.mem_map_of_mem ha)).trans ?_
        exact ((List.prefix_append _ _).trans (List.prefix_append _ _)).isInfix
      · exact (hcalls a ha).trans (List.suffix_append _ _).isInfix

end Steps

/-! ## Recordings -/

/-- The connection over a tape that is still blank. -/
def Connection.onTape (c : Connection σ) : Connection (Taped σ) :=
  { c with peer := .blank c.peer }

/-- The client over a tape that is still blank. -/
def Client.onTape (x : Client σ) : Client (Taped σ) where
  connection := x.connection.onTape
  readers := x.readers

/-- The calls that a client makes of its transport in a list of moves, the oldest first. -/
def Client.recorded [Transport σ] (x : Client σ) (moves : List Move) : List Call :=
  (x.onTape.run moves).connection.peer.tape

section Recordings

variable [Transport σ] (x : Client σ) (moves : List Move) (move : Move)

/-- A further move adds the calls that it makes. -/
theorem Client.recorded_snoc : ∃ calls last,
    x.recorded (moves ++ [move]) = x.recorded moves ++ calls ∧
      calls = ((x.onTape.run moves).talk move).flatMap Attempt.taped ++ last ∧
      ∀ call ∈ last, call.message? = none := by
  obtain ⟨last, hstep, hlast⟩ := (x.onTape.run moves).tape_step move
  have hmoves : x.onTape.run (moves ++ [move]) = (x.onTape.run moves).step move :=
    List.foldl_append
  refine ⟨_, last, ?_, rfl, hlast⟩
  rw [recorded, hmoves, hstep]
  rfl

/-- A message that comes with a further move is written in it. -/
theorem Client.written_of_messages {message : Json} {more : List Json}
    (h : Call.messages (x.recorded (moves ++ [move])) =
      Call.messages (x.recorded moves) ++ message :: more) :
    ∃ before fault after, x.recorded (moves ++ [move]) =
      x.recorded moves ++ (before ++ .write message fault :: after) := by
  obtain ⟨calls, last, hsnoc, -⟩ := x.recorded_snoc moves move
  rw [hsnoc, Call.messages, List.filterMap_append] at h
  obtain ⟨before, call, after, rfl, -, hcall, -⟩ :=
    List.filterMap_eq_cons_iff.1 (List.append_cancel_left h)
  cases call with
  | write written fault =>
    cases hcall
    exact ⟨before, fault, after, hsnoc⟩
  | connect | read | setCompression | close => cases hcall

variable {moves move}

/-- Every message on tape is that of an exchange of a move, behind the exchanges before it. -/
theorem Client.exchange_of_recorded {before after : List Call} {json : Json}
    {fault : Option Fault}
    (h : x.recorded (moves ++ [move]) =
      x.recorded moves ++ (before ++ .write json fault :: after)) :
    ∃ t a t', (x.onTape.run moves).talk move = t ++ a :: t' ∧ a.request.encode = json ∧
      ∀ b ∈ (x.onTape.talks moves).flatten ++ t, b.taped <:+: x.recorded moves ++ before := by
  obtain ⟨_, last, hsnoc, rfl, hlast⟩ := x.recorded_snoc moves move
  obtain ⟨calls, hrun, hcalls⟩ := x.onTape.tape_run moves
  rw [hsnoc] at h
  obtain ⟨t, a, t', htalk, rfl, hjson⟩ := Attempt.split_taped hlast (List.append_cancel_left h)
  refine ⟨t, a, t', htalk, hjson, fun b hb => ?_⟩
  rcases List.mem_append.1 hb with hb | hb
  · have hblank : x.recorded moves = calls := hrun
    exact hblank ▸ (hcalls b hb).trans (List.prefix_append _ _).isInfix
  · exact (List.infix_of_mem_flatten (List.mem_map_of_mem hb)).trans
      (List.suffix_append _ _).isInfix

end Recordings
end ExasolClient
