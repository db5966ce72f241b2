-- SUMMARY: What can still become of a client that has nothing more to say.
import ExasolClient.Proofs.Client.Refusal

/-!
# Standstill

Once the connection of a client is cancelled or closed, no move sends anything: operations
fail, producers are refused their fetches, and the one thing that can still happen to the
connection is its close (`Connection.Rests`). A closed connection holds no statements
(`Connection.Tidy`), so nothing is left of it then. Main statement: whatever moves a client
makes from there, its connection rests (`Client.run_rests`).
-/

namespace ExasolClient

/-! ## Connections at rest -/

/--
From connection `c` to connection `d` nothing was sent, and nothing was changed unless the
connection was closed meanwhile.
-/
structure Connection.Rests (c d : Connection σ) : Prop where
  attributes : d.attributes = c.attributes
  isCancelled : c.isCancelled = true → d.isCancelled = true
  course : d.isOpen = c.isOpen ∧ d.statements = c.statements ∧ d.calls = c.calls ∨
    c.isOpen = true ∧ d.isOpen = false ∧ d.statements = .empty ∧ d.calls = c.calls ++ [.closed]

namespace Connection

variable {c d e : Connection σ}

namespace Rests

theorem refl (c : Connection σ) : Rests c c := ⟨rfl, id, .inl ⟨rfl, rfl, rfl⟩⟩

/-- A closed connection is not closed again. -/
theorem trans (h : Rests c d) (h' : Rests d e) : Rests c e := by
  refine ⟨h'.attributes.trans h.attributes, fun hc => h'.isCancelled (h.isCancelled hc), ?_⟩
  obtain ⟨hopen, hstatements, hcalls⟩ | ⟨hopen, hclosed, hstatements, hcalls⟩ := h.course
  · rw [← hopen, ← hstatements, ← hcalls]
    exact h'.course
  · obtain ⟨hsame, hkept, hquiet⟩ | ⟨hopen', -⟩ := h'.course
    · exact .inr ⟨hopen, hsame.trans hclosed, hkept.trans hstatements, hquiet.trans hcalls⟩
    · cases hclosed.symm.trans hopen'

/-- A connection that rests stays silent. -/
theorem isSilent (h : Rests c d) (hsilent : c.line.IsSilent) : d.line.IsSilent := by
  rcases hsilent with hcancelled | hclosed
  · exact .inl (h.isCancelled hcancelled)
  · obtain ⟨hopen, -⟩ | ⟨-, hclosed', -⟩ := h.course
    · exact .inr (hopen.trans hclosed)
    · exact .inr hclosed'

/-- A closed connection stays as it is. -/
theorem of_closed (h : Rests c d) (hclosed : c.isOpen = false) :
    d.isOpen = false ∧ d.statements = c.statements ∧ d.calls = c.calls := by
  obtain ⟨hopen, hsame⟩ | ⟨hopen, -⟩ := h.course
  · exact ⟨hopen.trans hclosed, hsame⟩
  · cases hclosed.symm.trans hopen

end Rests

/-- Where only notices were added, the connection rests. -/
theorem Undisturbed.rests (h : Undisturbed c d) : Rests c d := by
  have hcalls := h.calls
  rw [h.same] at hcalls ⊢
  exact ⟨rfl, id, .inl ⟨rfl, rfl, hcalls⟩⟩

variable [Transport σ]

/-- An open connection over which nothing is sent any more is closed all the same. -/
theorem disconnect_in_silence (hsilent : c.line.IsSilent) (hopen : c.isOpen = true) :
    let d := (Quiet.on disconnect c).2
    d.isOpen = false ∧ d.statements = .empty ∧ d.attributes = c.attributes ∧
      d.isCancelled = c.isCancelled ∧ d.calls = c.calls ++ [.closed] := by
  intro d
  obtain ⟨talk, e, hleads, -, hclose⟩ := disconnect_leads hopen
  obtain ⟨⟨hsame, hquiet⟩, -⟩ := hleads.of_silent hsilent
  have heopen : e.isOpen = true := hleads.isOpen.trans hopen
  have hattributes : e.attributes = c.attributes := by
    rw [hsame]
  have hcancelled : e.isCancelled = c.isCancelled := by
    rw [hsame]
  have hd : d = (Quiet.on close e).2 := hclose
  have hcalls := calls_close heopen
  rw [on_close heopen] at hd hcalls
  rw [hd]
  exact ⟨rfl, hleads.statements, hattributes, hcancelled,
    hcalls.trans (congrArg (· ++ [.closed]) hquiet)⟩

theorem disconnect_rests (hsilent : c.line.IsSilent) : Rests c (Quiet.on disconnect c).2 := by
  cases hopen : c.isOpen with
  | false =>
    rw [disconnect_of_closed hopen]
    exact .refl c
  | true =>
    obtain ⟨hclosed, hstatements, hattributes, hcancelled, hcalls⟩ :=
      disconnect_in_silence hsilent hopen
    exact ⟨hattributes, hcancelled.trans, .inr ⟨hopen, hclosed, hstatements, hcalls⟩⟩

end Connection

/-! ## Clients -/

namespace Client

variable [Transport σ]

/-- A move leaves a silent connection undisturbed, unless it cancels or closes it. -/
theorem step_undisturbed (x : Client σ) (hsilent : x.connection.line.IsSilent) {move : Move}
    (hcancel : move ≠ .call .cancel)
    (hend : move = .call .disconnect → x.connection.isOpen = false) :
    x.connection.Undisturbed (x.step move).connection := by
  cases move with
  | call op =>
    by_cases hop : op = .disconnect
    · subst hop
      have hsame : (x.step (.call .disconnect)).connection = x.connection :=
        Connection.disconnect_of_closed (hend rfl)
      rw [hsame]
      exact .refl x.connection
    · have hother : op ≠ .cancel := fun h => hcancel (congrArg Move.call h)
      obtain ⟨-, -, -, hundisturbed⟩ := op.refused hsilent hop hother
      rwa [op.on_ending] at hundisturbed
  | produce i =>
    cases hr : x.readers[i]? with
    | none =>
      rw [x.step_produce_none hr]
      exact .refl x.connection
    | some r =>
      rw [x.step_produce_some hr]
      have hleads := (r.stream.advance_yields x.connection).leads
      exact (hleads.of_silent hsilent).1
  | receive i | cancelStream i | dropStream i => exact .refl x.connection

/-- A move from a silent connection leaves it at rest. -/
theorem step_rests (x : Client σ) (hsilent : x.connection.line.IsSilent) (move : Move) :
    x.connection.Rests (x.step move).connection := by
  by_cases hend : move = .call .disconnect
  · subst hend
    exact Connection.disconnect_rests hsilent
  · by_cases hcancel : move = .call .cancel
    · subst hcancel
      exact ⟨rfl, fun _ => rfl, .inl ⟨rfl, rfl, rfl⟩⟩
    · exact (x.step_undisturbed hsilent hcancel fun h => absurd h hend).rests

/-- Whatever moves a client makes once nothing is sent any more, its connection rests. -/
theorem run_rests (x : Client σ) (hsilent : x.connection.line.IsSilent) (moves : List Move) :
    x.connection.Rests (x.run moves).connection := by
  induction moves generalizing x with
  | nil => exact .refl x.connection
  | cons move moves ih =>
    have hstep := x.step_rests hsilent move
    exact hstep.trans (ih (x.step move) (hstep.isSilent hsilent))

end Client

/-! ## Closed connections -/

/-- A connection that is closed holds no statements. -/
def Connection.Tidy (c : Connection σ) : Prop := c.isOpen = false → c.statements = .empty

section Tidy

variable [Transport σ]

open Connection

theorem Connection.tidy_connect (host : ClientHost) (config : Config) (peer : σ)
    (cancelled : Bool) : (connect host config peer cancelled).2.Tidy := by
  apply connect_cases host peer cancelled (motive := fun outcome => outcome.2.Tidy)
  · exact fun _ _ _ => rfl
  · exact fun _ _ _ _ _ => rfl
  · intro _ _ d cause hleads _ _
    rw [on_close hleads.isOpen]
    exact hleads.statements
  · exact fun _ _ d info hleads _ _ => hleads.statements

theorem Client.tidy_step (x : Client σ) (h : x.connection.Tidy) (move : Move) :
    (x.step move).connection.Tidy := by
  intro hclosed
  cases hopen : x.connection.isOpen with
  | false =>
    obtain ⟨-, hstatements, -⟩ := (x.step_rests (.inr hopen) move).of_closed hopen
    exact hstatements.trans (h hopen)
  | true =>
    -- Of all moves only the end of the connection closes it.
    by_cases hend : move = .call .disconnect
    · subst hend
      obtain ⟨talk, d, hleads, -, hclose⟩ := disconnect_leads hopen
      have hd : (x.step (.call .disconnect)).connection = (Quiet.on close d).2 := hclose
      rw [hd, on_close (hleads.isOpen.trans hopen)]
      exact hleads.statements
    · have hstays : (x.step move).connection.isOpen = x.connection.isOpen := by
        by_cases hcancel : move = .call .cancel
        · subst hcancel
          rfl
        · obtain ⟨talk, cache, hleads⟩ := x.step_leads hend hcancel
          exact hleads.isOpen
      cases hclosed.symm.trans (hstays.trans hopen)

theorem tidy_session (host : ClientHost) (config : Config) (peer : σ) (cancelled : Bool)
    (moves : List Move) : (session host config peer cancelled moves).connection.Tidy :=
  session_induction (P := fun x => x.connection.Tidy)
    (tidy_connect host config peer cancelled) (fun x move h => x.tidy_step h move) moves

end Tidy

end ExasolClient
