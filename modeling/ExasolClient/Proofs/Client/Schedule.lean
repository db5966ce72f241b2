-- SUMMARY: Schedules without an end, and what they do to one of the streams of a client.
import ExasolClient.Proofs.Client.Moves

/-!
# Schedules

A client that is never at rest makes one move after the other without an end. Of a
stream only the moves of its own producer and of its own consumer are of interest:
all others leave it alone (`readers_of_other`). What a fair schedule brings about
follows from an effort that no move adds to (`eventually_of_effort`).
-/

namespace ExasolClient

/-! ## Effort -/

section Effort

variable {s : Nat → α} (effort : α → β) (less : β → β → Prop)

theorem same_or_less (htrans : ∀ {a b c}, less a b → less b c → less a c)
    (hstep : ∀ n, s (n + 1) = s n ∨ less (effort (s (n + 1))) (effort (s n))) {n m : Nat}
    (h : n ≤ m) : s m = s n ∨ less (effort (s m)) (effort (s n)) := by
  induction h with
  | refl => exact .inl rfl
  | @step m _ ih =>
    rcases hstep m with hsame | hless
    · rwa [hsame]
    · rcases ih with hsame' | hless'
      · exact .inr (hsame' ▸ hless)
      · exact .inr (htrans hless hless')

/--
No move adds to the effort, and as long as there is something to do, some later move
takes from it unless another one has done so before. Then everything is done at last, if
nobody can take from an effort without an end.
-/
theorem eventually_of_effort (hwf : WellFounded less)
    (htrans : ∀ {a b c}, less a b → less b c → less a c) (done : α → Prop)
    (hstep : ∀ n, s (n + 1) = s n ∨ less (effort (s (n + 1))) (effort (s n)))
    (hturn : ∀ n, ¬done (s n) → ∃ m, n ≤ m ∧ (s m = s n → less (effort (s (m + 1))) (effort (s n))))
    (n : Nat) : ∃ m, n ≤ m ∧ done (s m) := by
  induction heffort : effort (s n) using hwf.induction generalizing n with
  | _ e ih =>
    subst heffort
    by_cases hdone : done (s n)
    · exact ⟨n, Nat.le_refl n, hdone⟩
    · obtain ⟨m, hm, hturns⟩ := hturn n hdone
      have hless : ∃ k, n ≤ k ∧ less (effort (s k)) (effort (s n)) := by
        rcases same_or_less effort less htrans hstep hm with hsame | hless
        · exact ⟨m + 1, Nat.le_succ_of_le hm, hturns hsame⟩
        · exact ⟨m, hm, hless⟩
      obtain ⟨k, hk, hless⟩ := hless
      obtain ⟨m', hm', hdone'⟩ := ih _ hless k rfl
      exact ⟨m', Nat.le_trans hk hm', hdone'⟩

end Effort

/-! ## Schedules -/

/-- Nobody ends or cancels the connection, or cancels or leaves a stream. -/
structure Move.Spares (move : Move) (i : Nat) : Prop where
  disconnect : move ≠ .call .disconnect
  cancel : move ≠ .call .cancel
  cancelStream : move ≠ .cancelStream i
  dropStream : move ≠ .dropStream i

/-- Nobody cancels the connection, or cancels or leaves a stream. -/
structure Move.Tolerates (move : Move) (i : Nat) : Prop where
  cancel : move ≠ .call .cancel
  cancelStream : move ≠ .cancelStream i
  dropStream : move ≠ .dropStream i

/-- The producer and the consumer of a stream have their turn again and again. -/
structure Fair (moves : Nat → Move) (i : Nat) : Prop where
  produce : ∀ n, ∃ m, n ≤ m ∧ moves m = .produce i
  receive : ∀ n, ∃ m, n ≤ m ∧ moves m = .receive i

namespace Client

variable [Transport σ]

/-- The client after so many moves of a schedule. -/
def after (x : Client σ) (moves : Nat → Move) : Nat → Client σ
  | 0 => x
  | n + 1 => (x.after moves n).step (moves n)

/-- What the producer of a stream says in a move. -/
def saidBy (x : Client σ) (i : Nat) : Move → List Attempt
  | .produce j => if j = i then x.talk (.produce j) else []
  | _ => []

/-- What the producer of a stream has said after so many moves of a schedule. -/
def said (x : Client σ) (moves : Nat → Move) (i : Nat) : Nat → List Attempt
  | 0 => []
  | n + 1 => x.said moves i n ++ (x.after moves n).saidBy i (moves n)

variable {x : Client σ} {i : Nat} {r : Reader}

theorem readers_produce (h : x.readers[i]? = some r) :
    (x.step (.produce i)).readers[i]? =
      some { r with stream := r.stream.next x.connection.line } := by
  have hlt : i < x.readers.length := (List.getElem?_eq_some_iff.1 h).1
  rw [x.step_produce_some h, List.getElem?_set_self hlt,
    (r.stream.advance_yields x.connection).returns]

theorem saidBy_produce (h : x.readers[i]? = some r) (hopen : x.connection.isOpen = true)
    (hlive : (x.step (.produce i)).connection.isCancelled = false) :
    x.saidBy i (.produce i) = r.stream.said x.connection.line := by
  have hleads := (r.stream.advance_yields x.connection).leads
  have hstep := congrArg Client.connection (x.step_produce_some h)
  rw [hstep] at hlive
  have hsaid : x.saidBy i (.produce i) = x.talk (.produce i) := if_pos rfl
  rw [hsaid, talk, hstep]
  exact hleads.exchanges_of_open hopen hlive

theorem readers_receive (h : x.readers[i]? = some r) :
    (x.step (.receive i)).readers[i]? = some r.receive := by
  simp [step, h]

/-- The moves of others leave a stream alone. -/
theorem readers_of_other {move : Move} (h : x.readers[i]? = some r)
    (hcancel : move ≠ .cancelStream i) (hdrop : move ≠ .dropStream i)
    (hproduce : move ≠ .produce i) (hreceive : move ≠ .receive i) :
    (x.step move).readers[i]? = some r := by
  have hlt : i < x.readers.length := (List.getElem?_eq_some_iff.1 h).1
  cases move with
  | call op =>
    simp only [step]
    rw [List.getElem?_append_left hlt, h]
  | produce j =>
    have hij : j ≠ i := fun hij => hproduce (congrArg Move.produce hij)
    cases hr : x.readers[j]? with
    | none => rw [x.step_produce_none hr, h]
    | some r' => rw [x.step_produce_some hr, List.getElem?_set_ne hij, h]
  | receive j =>
    have hij : j ≠ i := fun hij => hreceive (congrArg Move.receive hij)
    simp only [step]
    rw [List.getElem?_modify_ne _ _ hij, h]
  | cancelStream j =>
    have hij : j ≠ i := fun hij => hcancel (congrArg Move.cancelStream hij)
    simp only [step]
    rw [List.getElem?_modify_ne _ _ hij, h]
  | dropStream j =>
    have hij : j ≠ i := fun hij => hdrop (congrArg Move.dropStream hij)
    simp only [step]
    rw [List.getElem?_modify_ne _ _ hij, h]

theorem saidBy_of_other {move : Move} (hproduce : move ≠ .produce i) : x.saidBy i move = [] := by
  cases move with
  | produce j => exact if_neg fun hij => hproduce (congrArg Move.produce hij)
  | call _ | receive _ | cancelStream _ | dropStream _ => rfl

end Client
end ExasolClient
