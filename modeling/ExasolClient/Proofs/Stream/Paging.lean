-- SUMMARY: When a producer comes to the end of its pages.
import ExasolClient.Proofs.Client.Schedule
import ExasolClient.Proofs.Stream.Positions
import ExasolClient.Proofs.Stream.Release

/-!
# Paging

What is left to do for a producer is ranked first by the positions that are still ahead, and
then by the steps until the next fetch (`Task.rank`). Every step that it need not wait for takes
from that, since a chunk leads to a position ahead, or breaks the producer down. Main
statements: there are at most as many fetches as rows are declared, the producer comes to its
end, and it breaks down if and only if a sum is out of bounds (`paging_of_turns`); without
columns three rows and two fetches are enough for that (`paging_overflows`).
-/

namespace ExasolClient

/-! ## Ranks -/

/--
How much a task takes at the most: first the positions that are still ahead, among which any
chunk may be fetched, and then the steps until the next fetch.
-/
def Task.rank (total : UInt64) : Task → Nat × Nat
  | .unpack _ => (1, 0)
  | .page _ position => (total.toNat - position.toNat, 2)
  | .deliver rows (some (_, position)) => (total.toNat - position.toNat, rows.length + 3)
  | .deliver rows none => (0, rows.length + 1)
  | .report _ _ => (0, 2)
  | .release _ => (0, 1)
  | .ended | .overflowed _ => (0, 0)

/-- The order of ranks: a fetch may bring any number of steps, but leaves fewer positions. -/
abbrev RankLess : Nat × Nat → Nat × Nat → Prop := Prod.Lex (· < ·) (· < ·)

theorem rankLess_trans {a b c : Nat × Nat} (h : RankLess a b) (h' : RankLess b c) :
    RankLess a c := by
  rw [RankLess, Prod.lex_def] at *
  omega

theorem rankLess_wf : WellFounded RankLess := (Prod.lex Nat.lt_wfRel Nat.lt_wfRel).wf

section Steps

variable {header : ResultSet} {s : Stream}

theorem Task.rank_releasing_less {task : Task} {item : Item} (h : task.item? = some item)
    (total : UInt64) (handle? : Option Int64) :
    RankLess ((releasing handle?).rank total) (task.rank total) := by
  have hless (first second : Nat) (hsecond : 1 < second) :
      RankLess ((releasing handle?).rank total) (first, second) := by
    rw [RankLess, Prod.lex_def]
    cases handle? <;> simp only [releasing, rank] <;> omega
  cases task with
  | deliver rows next =>
    cases rows with
    | nil => cases h
    | cons row rows => cases next <;> exact hless _ _ (by rw [List.length_cons]; omega)
  | report fault handle => exact hless _ _ (Nat.lt_succ_self 1)
  | unpack | page | release | ended | overflowed => cases h

theorem Task.rank_afterItem_less {task : Task} {item : Item} (h : task.item? = some item)
    (total : UInt64) : RankLess (task.afterItem.rank total) (task.rank total) := by
  cases task with
  | deliver rows next =>
    cases rows with
    | nil => cases h
    | cons row rows => cases next <;> exact .right _ (by rw [List.length_cons]; omega)
  | report fault handle => exact rank_releasing_less h total handle
  | unpack | page | release | ended | overflowed => cases h

variable [Transport σ] {l : Line σ}

omit [Transport σ] in
/-- A fetch leaves fewer positions, or a fault to report, or nothing to do at all. -/
theorem Stream.rank_fetched (hs : s.IsFor header) (handle : Int64) {position : UInt64}
    {a : Attempt} (hstart : a.request.start? = some position) (hlt : position < header.numRows) :
    RankLess ((s.fetched handle position (a.payload Chunk)).rank header.numRows)
      ((Task.page handle position).rank header.numRows) := by
  rw [UInt64.lt_iff_toNat_lt] at hlt
  rcases Stream.fetched_cases hs.columns handle position hstart with
    ⟨rows, behind, count, hbrings, hsum, hfetched⟩ | ⟨-, hfetched⟩ | ⟨-, fault, handle?, hfetched⟩
  · have hahead := hbrings.ahead hsum
    rw [UInt64.lt_iff_toNat_lt] at hahead
    rw [hfetched]
    exact .left _ _ (Nat.sub_lt_sub_left hlt hahead)
  · rw [hfetched]
    exact .left _ _ (Nat.sub_pos_of_lt hlt)
  · rw [hfetched]
    exact .left _ _ (Nat.sub_pos_of_lt hlt)

/-- A producer that is not idle comes nearer to its end. -/
theorem Stream.rank_next (hs : s.IsFor header) :
    ((s.next l).task = s.task ∧ s.isIdle l.isCancelled = true) ∨
      RankLess ((s.next l).task.rank header.numRows) (s.task.rank header.numRows) := by
  cases hitem : s.task.item? with
  | some item =>
    rw [Stream.next_of_item hitem, Stream.task_delivered]
    cases hdelivery : s.delivery l.isCancelled with
    | done => exact .inr (Task.rank_afterItem_less hitem _)
    | waiting =>
      refine .inl ⟨rfl, ?_⟩
      rw [isIdle, hitem, hdelivery]
      exact Bool.or_true _
    | cancelled => exact .inr (Task.rank_releasing_less hitem _ _)
  | none =>
    unfold Stream.next
    generalize htask : s.task = task at hitem
    cases task with
    | ended | overflowed =>
      refine .inl ⟨htask, ?_⟩
      rw [isIdle, htask]
      rfl
    | unpack data =>
      right
      dsimp only
      unfold Stream.unpacked
      split <;> exact .left _ _ Nat.zero_lt_one
    | page handle position =>
      right
      dsimp only
      split
      next hlt =>
        rw [hs.totalRows] at hlt
        exact rank_fetched hs handle rfl hlt
      next hle =>
        rw [hs.totalRows, UInt64.not_lt, UInt64.le_iff_toNat_le] at hle
        rw [Task.rank, Task.rank, Nat.sub_eq_zero_of_le hle]
        exact .right _ (Nat.lt_succ_self 1)
    | deliver rows next =>
      right
      cases rows with
      | nil => cases next <;> exact .right _ (Nat.lt_succ_self _)
      | cons row rows => cases hitem
    | report fault handle => cases hitem
    | release handle => exact .inr (.right _ Nat.zero_lt_one)

end Steps

/-! ## Turns without an end -/

/-- The first turns of a sequence of turns without an end. -/
def firstTurns (turns : Nat → Turn σ) (n : Nat) : List (Turn σ) := (List.range n).map turns

theorem firstTurns_succ (turns : Nat → Turn σ) (n : Nat) :
    firstTurns turns (n + 1) = firstTurns turns n ++ [turns n] := by
  rw [firstTurns, firstTurns, List.range_succ, List.map_append, List.map_singleton]

section Turns

variable [Transport σ] {header : ResultSet} {r : Reader}

/-- No turn leads away from the end. -/
theorem Reader.rank_after (hr : r.stream.IsFor header) (turn : Turn σ) :
    (r.after turn).stream.task = r.stream.task ∨
      RankLess ((r.after turn).stream.task.rank header.numRows)
        (r.stream.task.rank header.numRows) := by
  cases turn with
  | produce c =>
    rw [after_produce]
    exact (Stream.rank_next hr).imp_left And.left
  | handOver =>
    simp only [after]
    rcases r.stream.task_handOver with htask | ⟨item, hitem, htask⟩
    · exact .inl htask
    · rw [htask]
      exact .inr (Task.rank_afterItem_less hitem _)
  | receive => exact .inl r.task_receive
  | cancel | drop => exact .inl rfl

/-- Again and again the producer is gone, or has a turn in which it need not wait. -/
def Reader.Proceeds (r : Reader) (turns : Nat → Turn σ) : Prop :=
  ∀ n, ∃ m, n ≤ m ∧ ((r.run (firstTurns turns m)).stream.task.isEnded = true ∨
    ∃ c, turns m = .produce c ∧
      (r.run (firstTurns turns m)).stream.isIdle c.isCancelled = false)

theorem Stream.IsFor.run (hr : r.stream.IsFor header) (turns : List (Turn σ)) :
    (r.run turns).stream.IsFor header := by
  induction turns generalizing r with
  | nil => exact hr
  | cons turn turns ih => exact ih (hr.after turn)

theorem Reader.run_firstTurns_succ (r : Reader) (turns : Nat → Turn σ) (n : Nat) :
    r.run (firstTurns turns (n + 1)) = (r.run (firstTurns turns n)).after (turns n) := by
  rw [firstTurns_succ, run_append]
  rfl

/-- A producer that is gone stays gone. -/
theorem Reader.run_firstTurns_of_ended {turns : Nat → Turn σ} {n m : Nat} (hnm : n ≤ m)
    (hended : (r.run (firstTurns turns n)).stream.task.isEnded = true) :
    (r.run (firstTurns turns m)).stream.task = (r.run (firstTurns turns n)).stream.task := by
  obtain ⟨k, rfl⟩ := Nat.exists_eq_add_of_le hnm
  have hturns : firstTurns turns (n + k) =
      firstTurns turns n ++ ((List.range k).map (n + ·)).map turns := by
    rw [firstTurns, firstTurns, List.range_add, List.map_append]
  rw [hturns, run_append]
  exact run_of_ended hended _

/-- A producer that proceeds comes to its end. -/
theorem Reader.eventually_ended {turns : Nat → Turn σ} (hr : r.stream.IsFor header)
    (hproceeds : r.Proceeds turns) :
    ∃ n, ∀ m, n ≤ m → (r.run (firstTurns turns m)).stream.task.isEnded = true := by
  have hended : ∃ n, 0 ≤ n ∧ (r.run (firstTurns turns n)).stream.task.isEnded = true := by
    apply eventually_of_effort (Task.rank header.numRows) RankLess rankLess_wf rankLess_trans
      (·.isEnded = true)
    · intro n
      rw [run_firstTurns_succ]
      exact rank_after (hr.run _) (turns n)
    · intro n hunended
      obtain ⟨m, hm, hended | ⟨c, hturn, hbusy⟩⟩ := hproceeds n
      · exact ⟨m, hm, fun hsame => absurd (hsame ▸ hended) hunended⟩
      · -- In this turn the producer takes a step, so that its task is not the same any more.
        refine ⟨m, hm, fun hsame => ?_⟩
        rw [← hsame, run_firstTurns_succ, hturn, after_produce]
        refine (Stream.rank_next (hr.run _)).resolve_left fun hidle => ?_
        rw [show c.line.isCancelled = c.isCancelled from rfl, hbusy] at hidle
        cases hidle.2
  obtain ⟨n, -, hended⟩ := hended
  refine ⟨n, fun m hnm => ?_⟩
  rw [run_firstTurns_of_ended hnm hended]
  exact hended

end Turns

/--
The fetches of a producer, whatever they bring, and in whatever turns. Every fetch starts before
the declared total, behind the accepted chunk of the one before it and ahead of that one, so that
there are not more fetches than rows. The producer breaks down if and only if it has taken a sum
that is out of bounds, and then says nothing more; where there is a column, this takes as many
rows as there are positions. Either way it comes to its end as soon as it need not wait any more.
-/
theorem paging_of_turns [Transport σ] (header : ResultSet) (size : UInt64)
    (turns : Nat → Turn σ) :
    let r := header.opened size
    (∀ n, let talk := r.said (firstTurns turns n)
      let r' := r.run (firstTurns turns n)
      (∀ position ∈ starts talk, position < header.numRows) ∧
      talk.IsChain (Attempt.GoesOn header.rowColumns) ∧
      (starts talk).Pairwise (· < ·) ∧
      (starts talk).length ≤ header.numRows.toNat ∧
      (r'.stream.task.isBroken = true ↔ ∃ a ∈ talk, a.Overflows header.rowColumns) ∧
      (∀ a ∈ talk, a.Overflows header.rowColumns → talk.getLast? = some a ∧
        (header.columns ≠ [] → UInt64.size ≤ (header.supplied talk).length)) ∧
      r.Records (firstTurns turns n) talk r') ∧
    (r.Proceeds turns →
      ∃ n, ∀ m, n ≤ m → (r.run (firstTurns turns m)).stream.task.isEnded = true) := by
  intro r
  have hisFor : r.stream.IsFor header := ⟨rfl, rfl, nofun⟩
  refine ⟨fun n => ?_, Reader.eventually_ended hisFor⟩
  intro talk r'
  have hpaged := (header.paged_opened size).run hisFor (firstTurns turns n)
  have hbreaks := (header.breaksDown_opened size).run hisFor (firstTurns turns n)
  rw [List.nil_append] at hpaged hbreaks
  refine ⟨hpaged.starts_lt, hpaged.isChain.1, hpaged.increases.1, hpaged.length_starts_le.1,
    hbreaks.broken, fun a ha hoverflows => ⟨hbreaks.last a ha hoverflows, fun hcolumn => ?_⟩,
    r.records_run _⟩
  obtain ⟨given, fate, seen, ends, hbooks, -⟩ := header.books_of_run size (firstTurns turns n)
  obtain ⟨rows, going, hfetched, -⟩ := hbooks.stage.fetched
  rw [hfetched.supplied_eq]
  refine hfetched.size_le ?_ a ha hoverflows
  rw [header.size_rowColumns]
  exact List.length_pos_iff.2 hcolumn

/-! ## Pages with and without columns -/

section Pages

open Connection Rehearsal

/-- Three rows that come one by one are fetched in three steps forward. -/
theorem paging_of_pages :
    let r := (declaring oneColumn (some 5)).opened 1024
    let turns (_ : Nat) : Turn Server := .produce pageByPage
    starts (r.said (firstTurns turns 12)) = [0, 1, 2] ∧
      (∀ n, (starts (r.said (firstTurns turns n))).length ≤ 3) ∧
      ∃ n, ∀ m, n ≤ m → (r.run (firstTurns turns m)).stream.task.isEnded = true := by
  intro r turns
  obtain ⟨hall, heventually⟩ := paging_of_turns (declaring oneColumn (some 5)) 1024 turns
  have hended : (r.run (firstTurns turns 12)).stream.task.isEnded = true := by decide +kernel
  refine ⟨by decide +kernel, fun n => (hall n).2.2.2.1, heventually fun n => ?_⟩
  refine ⟨n + 12, Nat.le_add_right n 12, .inl ?_⟩
  rw [Reader.run_firstTurns_of_ended (Nat.le_add_left 12 n) hended]
  exact hended

/-- A server whose chunks have so many rows, but no columns. -/
def withoutColumns (rows : Nat) : Connection Server :=
  rehearsed [("fetch", [⟨.reply (success [("numRows", .int rows), ("data", .arr [])]), false⟩])]

/-- A producer fetches a chunk of one row, and then one with as many rows as there are positions. -/
def runningOver : List (Turn Server) :=
  [.produce (withoutColumns 1), .produce (withoutColumns 1),
    .produce (withoutColumns 0xffffffffffffffff), .receive]

/--
The second sum is out of bounds, and breaks the producer down: the consumer finds the end without
a fault, and the result set is not given up.
-/
theorem paging_overflows :
    let header := declaring [] (some 5)
    let talk := (header.opened 1024).said runningOver
    let r := (header.opened 1024).run runningOver
    header.numRows = 3 ∧ talk.map Attempt.request = [.fetch 5 0 1024, .fetch 5 1 1024] ∧
      (∃ a ∈ talk, a.Overflows header.rowColumns) ∧ r.stream.task.isBroken = true ∧
      r.received.map Option.isSome = [false] := by
  decide +kernel

end Pages

end ExasolClient
