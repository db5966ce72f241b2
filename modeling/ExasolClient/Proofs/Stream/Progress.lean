-- SUMMARY: How a stream of a client comes to its end in a fair schedule.
import ExasolClient.Proofs.Client.Schedule
import ExasolClient.Proofs.Stream.Course

/-!
# Progress of a stream

Producer and consumer of a stream may have to wait for each other, but never both at a time.
So if no move of a schedule adds to the effort that a stream still takes, and the two have
their turn again and again, then the consumer finds the end at last. Main statement:
`Client.Progresses.eventually_finished`.
-/

namespace ExasolClient

/-! ## Moves -/

/-- A move brings the end of a stream nearer, unless its producer or its consumer has to wait. -/
structure Move.Nears (move : Move) (i : Nat) (s s' : Stream) : Prop where
  steady : s' = s ∨ s'.effort < s.effort
  produce : move = .produce i → s.task.isEnded = false → s.hasRoom = true → s'.effort < s.effort
  receive : move = .receive i → s.isFinished = false → s.queue ≠ [] ∨ s.task.isEnded = true →
    s'.effort < s.effort

/-- When the producer has to wait, there is something for the consumer to find. -/
theorem Stream.found_of_waiting (s : Stream)
    (h : ¬(s.task.isEnded = false ∧ s.hasRoom = true)) : s.queue ≠ [] ∨ s.task.isEnded = true := by
  by_cases hended : s.task.isEnded = true
  · exact .inr hended
  · left
    intro hqueue
    apply h
    refine ⟨Bool.eq_false_iff.2 hended, ?_⟩
    unfold hasRoom
    rw [hqueue]
    rfl

namespace Move.Nears

variable {move : Move} {i : Nat} {s : Stream} {r : Reader}

/-- A move of others leaves the stream as it is. -/
theorem of_other (hproduce : move ≠ .produce i) (hreceive : move ≠ .receive i) :
    move.Nears i s s where
  steady := .inl rfl
  produce h := absurd h hproduce
  receive h := absurd h hreceive

/-- A step of the producer, which waits or takes from the effort. -/
theorem of_produce {s' : Stream}
    (h : (s' = s ∧ (s.task.isEnded = true ∨ s.hasRoom = false)) ∨ s'.effort < s.effort) :
    (Move.produce i).Nears i s s' where
  steady := h.imp And.left id
  produce _ hended hroom := by
    obtain ⟨-, hwaits | hwaits⟩ | hless := h
    · rw [hended] at hwaits
      cases hwaits
    · rw [hroom] at hwaits
      cases hwaits
    · exact hless
  receive := nofun

/-- The consumer waits, or takes from the effort. -/
theorem of_receive (r : Reader) : (Move.receive i).Nears i r.stream r.receive.stream where
  steady := r.effort_receive.imp And.left id
  produce := nofun
  receive _ hfinished hready := by
    obtain ⟨-, hwaits | ⟨hqueue, hended⟩⟩ | hless := r.effort_receive
    · rw [hfinished] at hwaits
      cases hwaits
    · rw [hended] at hready
      exact absurd hqueue (hready.resolve_right Bool.false_ne_true)
    · exact hless

end Move.Nears

/-! ## Schedules -/

/-- The stream of a client, if it has one. -/
def Client.stream? (x : Client σ) (i : Nat) : Option Stream := x.readers[i]?.map Reader.stream

/-- How much there is left to do for a stream, if it is there. -/
def effort? (s : Option Stream) : Nat := s.elim 0 Stream.effort

/-- The consumer of a stream has found the end. -/
def IsFinished (s : Option Stream) : Prop := s.any Stream.isFinished = true

theorem Client.stream?_of_reader {x : Client σ} {i : Nat} {r : Reader}
    (h : x.readers[i]? = some r) : x.stream? i = some r.stream := by
  unfold stream?
  rw [h]
  rfl

section Finished

variable [Transport σ] {r : Reader}

/-- A consumer that has found the end stays there. -/
theorem Reader.isFinished_after (h : r.stream.isFinished = true) (turn : Turn σ) :
    (r.after turn).stream.isFinished = true := by
  cases turn with
  | produce c =>
    obtain ⟨task, more, hnext⟩ := r.stream.next_eq_handing c.line
    rw [after_produce, hnext]
    exact h
  | handOver =>
    obtain ⟨task, more, hnext⟩ := r.stream.handOver_eq_handing
    simp only [after, hnext]
    exact h
  | receive =>
    simp only [after, receive_of_finished h]
    exact h
  | cancel | drop => exact h

theorem Reader.isFinished_run (h : r.stream.isFinished = true) (turns : List (Turn σ)) :
    (r.run turns).stream.isFinished = true := by
  induction turns generalizing r with
  | nil => exact h
  | cons turn turns ih => exact ih (isFinished_after h turn)

theorem Client.isFinished_step {x : Client σ} {i : Nat} (h : IsFinished (x.stream? i))
    (move : Move) : IsFinished ((x.step move).stream? i) := by
  unfold stream? at h
  cases hr : x.readers[i]? with
  | none =>
    rw [hr] at h
    cases h
  | some r =>
    rw [hr] at h
    rw [stream?_of_reader (readers_step hr move)]
    exact Reader.isFinished_run h _

end Finished

/-- In a schedule every move brings the end of a stream nearer or waits. -/
def Client.Progresses [Transport σ] (x : Client σ) (moves : Nat → Move) (i : Nat) : Prop :=
  ∀ n, ∃ s s', (x.after moves n).stream? i = some s ∧
    (x.after moves (n + 1)).stream? i = some s' ∧ (moves n).Nears i s s'

namespace Client.Progresses

variable [Transport σ] {x : Client σ} {moves : Nat → Move} {i : Nat}

theorem nears (h : x.Progresses moves i) {n : Nat} {s : Stream}
    (hs : (x.after moves n).stream? i = some s) :
    ∃ s', (x.after moves (n + 1)).stream? i = some s' ∧ (moves n).Nears i s s' := by
  obtain ⟨s, s', hs₁, hs', hnears⟩ := h n
  cases hs₁.symm.trans hs
  exact ⟨s', hs', hnears⟩

theorem steady (h : x.Progresses moves i) (n : Nat) :
    (x.after moves (n + 1)).stream? i = (x.after moves n).stream? i ∨
      effort? ((x.after moves (n + 1)).stream? i) < effort? ((x.after moves n).stream? i) := by
  obtain ⟨s, s', hs, hs', hnears⟩ := h n
  rw [hs', hs]
  exact hnears.steady.imp (congrArg some) id

/-- In a fair schedule the turn comes for whichever of the two need not wait for the other. -/
theorem turn (h : x.Progresses moves i) (hfair : Fair moves i) (n : Nat)
    (hunfinished : ¬IsFinished ((x.after moves n).stream? i)) :
    ∃ m, n ≤ m ∧ ((x.after moves m).stream? i = (x.after moves n).stream? i →
      effort? ((x.after moves (m + 1)).stream? i) < effort? ((x.after moves n).stream? i)) := by
  obtain ⟨s, -, hs, -, -⟩ := h n
  rw [hs] at hunfinished ⊢
  -- The producer comes first: it has to wait only if there is something to receive.
  by_cases hready : s.task.isEnded = false ∧ s.hasRoom = true
  · obtain ⟨m, hm, hmove⟩ := hfair.produce n
    refine ⟨m, hm, ?_⟩
    intro hsame
    obtain ⟨s', hs', hnears⟩ := h.nears hsame
    rw [hs']
    exact hnears.produce hmove hready.1 hready.2
  · obtain ⟨m, hm, hmove⟩ := hfair.receive n
    refine ⟨m, hm, ?_⟩
    intro hsame
    obtain ⟨s', hs', hnears⟩ := h.nears hsame
    rw [hs']
    exact hnears.receive hmove (Bool.eq_false_iff.2 hunfinished) (s.found_of_waiting hready)

/-- In a fair schedule the consumer finds the end at last, and stays there. -/
theorem eventually_finished (h : x.Progresses moves i) (hfair : Fair moves i) :
    ∃ m, ∀ n, m ≤ n → IsFinished ((x.after moves n).stream? i) := by
  obtain ⟨m, -, hfinished⟩ := eventually_of_effort effort? (· < ·) Nat.lt_wfRel.wf Nat.lt_trans
    IsFinished h.steady (h.turn hfair) 0
  refine ⟨m, ?_⟩
  intro n hmn
  induction hmn with
  | refl => exact hfinished
  | step _ ih => exact Client.isFinished_step ih _

end Client.Progresses
end ExasolClient
