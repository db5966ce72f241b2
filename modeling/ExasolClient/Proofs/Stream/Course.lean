-- SUMMARY: The course of a stream, whatever its fetches bring and whenever it is cancelled.
import ExasolClient.Proofs.Client.Schedule
import ExasolClient.Proofs.Stream.Stages

/-!
# The course of a stream

A stream is run by turns: its producer takes a step, its consumer asks for an item, and
somebody cancels it or leaves it. The connection is in any state whenever the producer
takes a step, so that a fetch may bring anything and a cancellation may come at any
time. What has been handed over and seen so far is kept in books (`Reader.Books`),
which every turn carries on. Main statements: whatever a client does, its streams are
run by turns (`readers_run`), and what they say is found in its journal
(`Reader.records_run`); a consumer receives the first rows that the result set supplies,
and then at most one fault (`stream_course`).
-/

namespace ExasolClient

/-! ## Turns -/

/-- What can happen next to a stream. -/
inductive Turn (σ : Type) where
  /-- The producer takes a step over a connection, whatever has become of that meanwhile. -/
  | produce (c : Connection σ)
  /-- The producer delivers its item without another look for a cancellation. -/
  | handOver
  /-- The consumer asks for an item. -/
  | receive
  | cancel
  | drop

namespace Reader

variable [Transport σ]

/-- The stream and its consumer after a turn. -/
def after (r : Reader) : Turn σ → Reader
  | .produce c => { r with stream := (Quiet.on r.stream.advance c).1 }
  | .handOver => { r with stream := r.stream.handOver }
  | .receive => r.receive
  | .cancel => { r with stream := r.stream.cancel }
  | .drop => { r with stream := r.stream.drop }

/-- What the producer says in a turn. -/
def saidIn (r : Reader) : Turn σ → List Attempt
  | .produce c => r.stream.said c.line
  | .handOver | .receive | .cancel | .drop => []

/-- The stream and its consumer after a list of turns. -/
def run (r : Reader) (turns : List (Turn σ)) : Reader := turns.foldl after r

/-- What the producer says in a list of turns. -/
def said (r : Reader) : List (Turn σ) → List Attempt
  | [] => []
  | turn :: turns => r.saidIn turn ++ (r.after turn).said turns

/-- The exchanges that a turn leaves in the journal of its connection. -/
def exchangedIn (r : Reader) : Turn σ → List Attempt
  | .produce c =>
    Event.exchanges ((Quiet.on r.stream.advance c).2.journal.toList.drop c.journal.size)
  | .handOver | .receive | .cancel | .drop => []

/-- The exchanges that a list of turns leaves in the journals of their connections. -/
def exchanged (r : Reader) : List (Turn σ) → List Attempt
  | [] => []
  | turn :: turns => r.exchangedIn turn ++ (r.after turn).exchanged turns

/-- In every turn of a list the stream is as it should be. -/
def Throughout (P : Reader → Turn σ → Prop) (r : Reader) : List (Turn σ) → Prop
  | [] => True
  | turn :: turns => P r turn ∧ (r.after turn).Throughout P turns

instance Throughout.decidable {P : Reader → Turn σ → Prop} [∀ r turn, Decidable (P r turn)]
    (r : Reader) : (turns : List (Turn σ)) → Decidable (r.Throughout P turns)
  | [] => .isTrue trivial
  | turn :: turns =>
    have := Throughout.decidable (P := P) (r.after turn) turns
    inferInstanceAs (Decidable (_ ∧ _))

theorem after_produce (r : Reader) (c : Connection σ) :
    r.after (.produce c) = { r with stream := r.stream.next c.line } := by
  change { r with stream := (Quiet.on r.stream.advance c).1 } = _
  rw [(r.stream.advance_yields c).returns]

theorem run_cons (r : Reader) (turn : Turn σ) (turns : List (Turn σ)) :
    r.run (turn :: turns) = (r.after turn).run turns := rfl

theorem run_append (r : Reader) (turns more : List (Turn σ)) :
    r.run (turns ++ more) = (r.run turns).run more :=
  List.foldl_append

/-- What a producer says in a turn is found in the journal if it was sent. -/
theorem exchangedIn_eq (r : Reader) (turn : Turn σ) :
    r.exchangedIn turn = (r.saidIn turn).filter Attempt.isSent := by
  cases turn with
  | produce c => exact (r.stream.advance_yields c).leads.exchanges
  | handOver | receive | cancel | drop => rfl

theorem exchanged_eq (r : Reader) (turns : List (Turn σ)) :
    r.exchanged turns = (r.said turns).filter Attempt.isSent := by
  induction turns generalizing r with
  | nil => rfl
  | cons turn turns ih => rw [exchanged, said, List.filter_append, exchangedIn_eq, ih]

theorem said_append (r : Reader) (turns more : List (Turn σ)) :
    r.said (turns ++ more) = r.said turns ++ (r.run turns).said more := by
  induction turns generalizing r with
  | nil => rfl
  | cons turn turns ih =>
    rw [List.cons_append, said, said, ih, List.append_assoc]
    rfl

theorem exchanged_append (r : Reader) (turns more : List (Turn σ)) :
    r.exchanged (turns ++ more) = r.exchanged turns ++ (r.run turns).exchanged more := by
  simp only [exchanged_eq, said_append, List.filter_append]

/-- A stream goes on with its own result set in every turn. -/
theorem keeps_after (r : Reader) (turn : Turn σ) : r.stream.Keeps (r.after turn).stream := by
  cases turn with
  | produce c =>
    rw [after_produce]
    exact r.stream.keeps_next c.line
  | handOver => exact r.stream.keeps_handOver
  | receive =>
    have hkeeps := r.stream.keeps_take
    rwa [← r.stream_receive] at hkeeps
  | cancel | drop => exact r.stream.keeps_refl

/-- In a run of turns a producer talks about its own result set only. -/
theorem says_said (r : Reader) (turns : List (Turn σ)) : r.stream.Says (r.said turns) := by
  induction turns generalizing r with
  | nil => exact fun _ ha => nomatch ha
  | cons turn turns ih =>
    refine .append ?_ (.of_keeps (r.keeps_after turn) (ih (r.after turn)))
    cases turn with
    | produce c => exact r.stream.says_said c.line
    | handOver | receive | cancel | drop => exact fun _ ha => nomatch ha

end Reader

/-! ## The moves of a client -/

namespace Client

variable [Transport σ] {x : Client σ} {i : Nat} {r : Reader}

/-- The turns that a move brings for the stream that was opened as the `i`th one. -/
def turnsIn (x : Client σ) (i : Nat) : Move → List (Turn σ)
  | .produce j => if j = i then [.produce x.connection] else []
  | .receive j => if j = i then [.receive] else []
  | .cancelStream j => if j = i then [.cancel] else []
  | .dropStream j => if j = i then [.drop] else []
  | .call _ => []

/-- The turns that a list of moves brings for a stream. -/
def turns (x : Client σ) (i : Nat) : List Move → List (Turn σ)
  | [] => []
  | move :: moves => x.turnsIn i move ++ (x.step move).turns i moves

theorem getElem?_modify_of_mem (h : x.readers[i]? = some r) (j : Nat) (f : Reader → Reader)
    (turn : Turn σ) (hf : f r = r.after turn) :
    (x.readers.modify j f)[i]? = some (r.run (if j = i then [turn] else [])) := by
  by_cases hij : j = i
  · subst hij
    rw [List.getElem?_modify_eq, h, if_pos rfl]
    exact congrArg some hf
  · rw [List.getElem?_modify_ne _ _ hij, h, if_neg hij]
    rfl

theorem readers_step (h : x.readers[i]? = some r) (move : Move) :
    (x.step move).readers[i]? = some (r.run (x.turnsIn i move)) := by
  have hlt : i < x.readers.length := (List.getElem?_eq_some_iff.1 h).1
  cases move with
  | call op =>
    simp only [step]
    rw [List.getElem?_append_left hlt, h]
    rfl
  | produce j =>
    simp only [turnsIn]
    by_cases hij : j = i
    · subst hij
      rw [x.step_produce_some h, List.getElem?_set_self hlt, if_pos rfl]
      rfl
    · rw [if_neg hij]
      cases hr : x.readers[j]? with
      | none =>
        rw [x.step_produce_none hr, h]
        rfl
      | some r' =>
        rw [x.step_produce_some hr, List.getElem?_set_ne hij, h]
        rfl
  | receive j => exact getElem?_modify_of_mem h j _ .receive rfl
  | cancelStream j => exact getElem?_modify_of_mem h j _ .cancel rfl
  | dropStream j => exact getElem?_modify_of_mem h j _ .drop rfl

/-- What the producer of a stream leaves in the journal of its client in a list of moves. -/
def exchanged (x : Client σ) (i : Nat) : List Move → List Attempt
  | [] => []
  | move :: moves => x.saidBy i move ++ (x.step move).exchanged i moves

/-- Whatever a client does, a stream of it takes a course of turns. -/
theorem readers_run (h : x.readers[i]? = some r) (moves : List Move) :
    (x.run moves).readers[i]? = some (r.run (x.turns i moves)) := by
  induction moves generalizing x r with
  | nil => exact h
  | cons move moves ih =>
    have hrest := ih (readers_step h move)
    rwa [Reader.run, Reader.run, ← List.foldl_append] at hrest

theorem saidBy_eq (h : x.readers[i]? = some r) (move : Move) :
    x.saidBy i move = r.exchanged (x.turnsIn i move) := by
  cases move with
  | produce j =>
    simp only [saidBy, turnsIn]
    by_cases hij : j = i
    · subst hij
      rw [if_pos rfl, if_pos rfl, talk, x.step_produce_some h]
      exact (List.append_nil _).symm
    · rw [if_neg hij, if_neg hij]
      rfl
  | receive j | cancelStream j | dropStream j =>
    simp only [saidBy, turnsIn]
    split <;> rfl
  | call op => rfl

/-- What the producer leaves in the journal is what it exchanges in the turns of its stream. -/
theorem exchanged_run (h : x.readers[i]? = some r) (moves : List Move) :
    x.exchanged i moves = r.exchanged (x.turns i moves) := by
  induction moves generalizing x r with
  | nil => rfl
  | cons move moves ih =>
    rw [exchanged, turns, Reader.exchanged_append, saidBy_eq h, ih (readers_step h move)]

end Client

/--
What a producer says in the turns of its stream is found in the journals of the connections,
as far as it was sent; and in every session in which the stream takes these turns, it becomes
the same, and its producer leaves the same in the journal of the session.
-/
structure Reader.Records [Transport σ] (r : Reader) (turns : List (Turn σ)) (talk : List Attempt)
    (r' : Reader) : Prop where
  journals : r.exchanged turns = talk.filter Attempt.isSent
  sessions : ∀ (x : Client σ) (i : Nat) (moves : List Move), x.readers[i]? = some r →
    x.turns i moves = turns →
      (x.run moves).readers[i]? = some r' ∧ x.exchanged i moves = talk.filter Attempt.isSent

theorem Reader.records_run [Transport σ] (r : Reader) (turns : List (Turn σ)) :
    r.Records turns (r.said turns) (r.run turns) where
  journals := r.exchanged_eq turns
  sessions := by
    rintro x i moves h rfl
    refine ⟨Client.readers_run h moves, ?_⟩
    rw [Client.exchanged_run h, exchanged_eq]

/-! ## The books of a stream -/

/--
What a producer has said and handed over, and what the consumer has seen of that; after
it the consumer has found the end so many times. What is lost is lost to a consumer who
left.
-/
structure Reader.Books (header : ResultSet) (talk : List Attempt) (r : Reader) (given : List Row)
    (fate : Fate) (seen : List Item) (ends : Nat) : Prop where
  isFor : r.stream.IsFor header
  stage : header.Stage r.stream.task talk given fate
  received : r.received = seen.map some ++ List.replicate ends none
  queued : seen ++ r.stream.queue <+: handed given fate
  kept : r.stream.isDropped = false → seen ++ r.stream.queue = handed given fate
  finished : r.stream.isFinished = true ↔ 0 < ends ∨ ∃ fault, .error fault ∈ seen
  exhausted : 0 < ends →
    (∃ fault, .error fault ∈ seen) ∨ r.stream.queue = [] ∧ r.stream.task.isEnded = true

/-- What is seen of all that is handed over: the first rows, or all of them and the fault. -/
theorem prefix_handed {given : List Row} {fate : Fate} {seen : List Item}
    (h : seen <+: handed given fate) :
    (∃ rows, rows <+: given ∧ seen = rows.map .ok) ∨
      ∃ fault, fate.news? = some fault ∧ seen = given.map .ok ++ [.error fault] := by
  unfold handed at h
  cases hnews : fate.news? with
  | none =>
    rw [hnews, Option.toList_none, List.map_nil, List.append_nil] at h
    exact .inl ((List.prefix_map_iff ..).1 h)
  | some fault =>
    rw [hnews, Option.toList_some, List.map_singleton] at h
    rcases List.prefix_concat_iff.1 h with h | h
    · exact .inr ⟨fault, rfl, h⟩
    · exact .inl ((List.prefix_map_iff ..).1 h)

theorem not_error_mem_rows {rows : List Row} {fault : Fault} :
    (.error fault : Item) ∉ rows.map (Except.ok : Row → Item) := by
  simp

section Books

variable {header : ResultSet} {talk said : List Attempt} {r : Reader} {given : List Row}
  {fate : Fate} {seen : List Item} {ends : Nat} {s : Stream} {cuts : Bool → Prop}

/-- A turn of the producer carries the books on. -/
theorem Reader.Books.continues (h : r.Books header talk given fate seen ends)
    (hs : header.Continues (talk ++ said) given fate r.stream s cuts)
    (hended : r.stream.task.isEnded = true → s = r.stream) :
    ∃ given' fate', { r with stream := s }.Books header (talk ++ said) given' fate' seen ends ∧
      ∀ told, fate' = .cut told → fate = .cut told ∨ cuts told := by
  obtain ⟨task, given', fate', more, rfl, hstage, hhanded, hleft, hcut⟩ := hs
  have hkept (hdropped : r.stream.isDropped = false) :
      seen ++ (r.stream.queue ++ more) = handed given' fate' := by
    rw [hhanded, ← h.kept hdropped, List.append_assoc]
  refine ⟨given', fate', ⟨⟨h.isFor.columns, h.isFor.totalRows, h.isFor.cancelled⟩, hstage,
    h.received, ?_, hkept, h.finished, fun hends => ?_⟩, hcut⟩
  · cases hdropped : r.stream.isDropped with
    | false => exact hkept hdropped ▸ List.prefix_refl _
    | true =>
      rw [hhanded]
      simpa [Stream.handing, hleft hdropped] using h.queued
  · refine (h.exhausted hends).imp_right fun hempty => ?_
    rw [hended hempty.2]
    exact hempty

/-- Until the end is found, a consumer has seen no fault. -/
theorem Reader.Books.unfinished (h : r.Books header talk given fate seen ends)
    (hfinished : r.stream.isFinished = false) :
    ends = 0 ∧ ∀ fault, .error fault ∉ seen := by
  have hopen : ¬(0 < ends ∨ ∃ fault, .error fault ∈ seen) := by
    rw [← h.finished, hfinished]
    exact Bool.false_ne_true
  exact ⟨Nat.eq_zero_of_not_pos fun hends => hopen (.inl hends),
    fun fault hfault => hopen (.inr ⟨fault, hfault⟩)⟩

/-- After the end the consumer finds the end again. -/
theorem Reader.Books.receive_again (h : r.Books header talk given fate seen ends)
    (hfinished : r.stream.isFinished = true) :
    r.receive.Books header talk given fate seen (ends + 1) := by
  rw [receive_of_finished hfinished]
  refine ⟨h.isFor, h.stage, ?_, h.queued, h.kept, ?_, fun _ => ?_⟩
  · rw [h.received, List.append_assoc, List.replicate_succ']
  · exact ⟨fun _ => .inl (Nat.succ_pos ends), fun _ => hfinished⟩
  · exact (h.finished.1 hfinished).elim h.exhausted .inl

theorem Reader.Books.receive_item {item : Item} {rest : List Item}
    (h : r.Books header talk given fate seen 0) (hfinished : r.stream.isFinished = false)
    (hqueue : r.stream.queue = item :: rest) :
    r.receive.Books header talk given fate (seen ++ [item]) 0 := by
  obtain ⟨-, hnone⟩ := h.unfinished hfinished
  have hqueued := h.queued
  have hkept := h.kept
  rw [hqueue, List.append_cons] at hqueued hkept
  rw [receive_of_item hfinished hqueue]
  refine ⟨⟨h.isFor.columns, h.isFor.totalRows, h.isFor.cancelled⟩, h.stage, ?_, hqueued, hkept,
    ?_, (nomatch ·)⟩
  · rw [h.received, List.map_append]
    simp
  · constructor
    · intro hfault
      cases item with
      | ok row => cases hfault
      | error fault => exact .inr ⟨fault, List.mem_append_right seen List.mem_cons_self⟩
    · rintro (hends | ⟨fault, hfault⟩)
      · cases hends
      · have hlast := (List.mem_append.1 hfault).resolve_left (hnone fault)
        rw [← List.mem_singleton.1 hlast]
        rfl

theorem Reader.Books.receive_end (h : r.Books header talk given fate seen 0)
    (hfinished : r.stream.isFinished = false) (hqueue : r.stream.queue = [])
    (htask : r.stream.task.isEnded = true) :
    r.receive.Books header talk given fate seen 1 := by
  rw [receive_of_ended hfinished hqueue htask]
  refine ⟨⟨h.isFor.columns, h.isFor.totalRows, h.isFor.cancelled⟩, h.stage, ?_, h.queued, h.kept,
    ?_, fun _ => .inr ⟨hqueue, htask⟩⟩
  · rw [h.received, List.append_assoc]
    rfl
  · exact ⟨fun _ => .inl Nat.zero_lt_one, fun _ => rfl⟩

/-- Receiving carries the books on. -/
theorem Reader.Books.receive (h : r.Books header talk given fate seen ends) :
    ∃ seen' ends', r.receive.Books header talk given fate seen' ends' := by
  cases hfinished : r.stream.isFinished with
  | true => exact ⟨seen, ends + 1, h.receive_again hfinished⟩
  | false =>
    obtain ⟨rfl, -⟩ := h.unfinished hfinished
    cases hqueue : r.stream.queue with
    | cons item rest => exact ⟨seen ++ [item], 0, h.receive_item hfinished hqueue⟩
    | nil =>
      cases hended : r.stream.task.isEnded with
      | true => exact ⟨seen, 1, h.receive_end hfinished hqueue hended⟩
      | false =>
        rw [receive_of_waiting hfinished hqueue hended]
        exact ⟨seen, 0, h⟩

/-- In a turn of the producer the stream is given up because it is cancelled. -/
def Reader.CutIn (r : Reader) (turn : Turn σ) (told : Bool) : Prop :=
  ∃ c, turn = .produce c ∧ r.stream.IsCut c.isCancelled told

variable [Transport σ]

/-- Every turn carries the books on. -/
theorem Reader.Books.after (h : r.Books header talk given fate seen ends) (turn : Turn σ) :
    ∃ given' fate' seen' ends',
      (r.after turn).Books header (talk ++ r.saidIn turn) given' fate' seen' ends' ∧
      ∀ told, fate' = .cut told → fate = .cut told ∨ r.CutIn turn told := by
  cases turn with
  | produce c =>
    rw [after_produce]
    obtain ⟨given', fate', hbooks, hcut⟩ :=
      h.continues (h.stage.next (l := c.line) h.isFor) next_of_ended
    exact ⟨given', fate', seen, ends, hbooks,
      fun told hfate => (hcut told hfate).imp_right fun hcut => ⟨c, rfl, hcut⟩⟩
  | handOver =>
    have hstage := h.stage
    rw [← List.append_nil talk] at hstage
    obtain ⟨given', fate', hbooks, hcut⟩ := h.continues hstage.handOver
      Stream.handOver_of_ended
    exact ⟨given', fate', seen, ends, hbooks,
      fun told hfate => .inl <| (hcut told hfate).resolve_right id⟩
  | receive =>
    obtain ⟨seen', ends', hbooks⟩ := h.receive
    exact ⟨given, fate, seen', ends', (List.append_nil talk).symm ▸ hbooks, fun _ => .inl⟩
  | cancel =>
    refine ⟨given, fate, seen, ends, ?_, fun _ => .inl⟩
    exact (List.append_nil talk).symm ▸ ⟨⟨h.isFor.columns, h.isFor.totalRows, fun _ => rfl⟩,
      h.stage, h.received, h.queued, h.kept, h.finished, h.exhausted⟩
  | drop =>
    refine ⟨given, fate, seen, ends, ?_, fun _ => .inl⟩
    refine (List.append_nil talk).symm ▸ ⟨⟨h.isFor.columns, h.isFor.totalRows, fun _ => rfl⟩,
      h.stage, h.received, ?_, nofun, h.finished, fun hends => ?_⟩
    · exact (List.append_nil seen).symm ▸ (List.prefix_append seen _).trans h.queued
    · exact (h.exhausted hends).imp_right fun hend => ⟨rfl, hend.2⟩

/-- The books of a whole run: only a cancellation in one of its turns cuts it short. -/
theorem Reader.Books.run (h : r.Books header talk given fate seen ends)
    (turns : List (Turn σ)) :
    ∃ given' fate' seen' ends',
      (r.run turns).Books header (talk ++ r.said turns) given' fate' seen' ends' ∧
      ∀ told, fate' = .cut told → fate = .cut told ∨
        ¬r.Throughout (fun r turn => ¬r.CutIn turn told) turns := by
  induction turns generalizing r talk given fate seen ends with
  | nil => exact ⟨given, fate, seen, ends, (List.append_nil talk).symm ▸ h, fun _ => .inl⟩
  | cons turn turns ih =>
    obtain ⟨given₁, fate₁, seen₁, ends₁, hbooks₁, hcut₁⟩ := h.after turn
    obtain ⟨given₂, fate₂, seen₂, ends₂, hbooks₂, hcut₂⟩ := ih hbooks₁
    rw [List.append_assoc] at hbooks₂
    refine ⟨given₂, fate₂, seen₂, ends₂, hbooks₂, fun told hfate => ?_⟩
    rcases hcut₂ told hfate with hfate | hcut
    · refine (hcut₁ told hfate).imp_right fun hcut huncut => ?_
      exact huncut.1 hcut
    · exact .inr fun huncut => hcut huncut.2

end Books

/-! ## The end of a stream -/

namespace Reader

/-- The rows that a consumer has received. -/
def rows (r : Reader) : List Row := r.received.filterMap fun item? => item?.bind Except.toOption

/-- The fault that a consumer has received. -/
def fault? (r : Reader) : Option Fault :=
  r.received.findSome? fun
    | some (.error fault) => some fault
    | _ => none

end Reader

section Settled

variable {header : ResultSet} {task : Task} {talk : List Attempt} {r : Reader} {given : List Row}
  {fate : Fate} {seen : List Item} {ends : Nat}

/-- A producer whose fate is decided has nothing more to hand over. -/
theorem ResultSet.Stage.closed (h : header.Stage task talk given fate) (hfate : fate ≠ .going) :
    header.Closed talk given fate := by
  cases h with
  | unpack | page | deliver | report => exact absurd rfl hfate
  | release hclosed | ended hclosed | overflowed hclosed => exact hclosed

/-- A producer that is gone has nothing more to hand over. -/
theorem ResultSet.Stage.closed_of_ended (h : header.Stage task talk given fate)
    (hended : task.isEnded = true) : header.Closed talk given fate := by
  cases h with
  | unpack | page | deliver | report | release => cases hended
  | ended hclosed | overflowed hclosed => exact hclosed

/-- A consumer who has seen the end of a stream has seen all that was handed over. -/
theorem Reader.Books.settled (h : r.Books header talk given fate seen ends)
    (hend : r.stream.isFinished = true) (hdropped : r.stream.isDropped = false) :
    seen = handed given fate ∧ header.Closed talk given fate := by
  have hkept := h.kept hdropped
  rcases (h.finished.1 hend).elim h.exhausted .inl with ⟨fault, hfault⟩ | ⟨hqueue, htask⟩
  · have hseen : seen <+: handed given fate := (List.prefix_append _ _).trans h.queued
    rcases prefix_handed hseen with ⟨rows, -, rfl⟩ | ⟨fault, hnews, rfl⟩
    · exact absurd hfault not_error_mem_rows
    · refine ⟨by simp [handed, hnews], h.stage.closed ?_⟩
      rintro rfl
      cases hnews
  · rw [hqueue, List.append_nil] at hkept
    exact ⟨hkept, h.stage.closed_of_ended htask⟩

theorem Reader.Books.rows_eq (h : r.Books header talk given fate seen ends)
    (hseen : seen = handed given fate) : r.rows = given := by
  rw [Reader.rows, h.received, hseen, handed]
  simp [List.filterMap_map, Function.comp_def, Except.toOption]

theorem Reader.Books.fault?_eq (h : r.Books header talk given fate seen ends)
    (hseen : seen = handed given fate) : r.fault? = fate.news? := by
  have hnone : given.findSome? (fun _ => (none : Option Fault)) = none := by
    simp [List.findSome?_eq_none_iff]
  rw [Reader.fault?, h.received, hseen, handed]
  cases fate.news? <;> simp [List.findSome?_append, List.findSome?_map, Function.comp_def, hnone]

end Settled

/-- What is offered does not change a stream beyond its queue and its task. -/
theorem Stream.delivered_offered (s : Stream) (item : Item) (cancelled : Bool)
    (done abandoned : Task) :
    ∃ task more, delivered (s.offered item cancelled) done abandoned = s.handing task more := by
  have hpush (item : Item) (task : Task) :
      ∃ more, { s.push item with task := task } = s.handing task more := by
    unfold push
    split
    · exact ⟨[item], rfl⟩
    · exact ⟨[], (s.handing_nil task).symm⟩
  unfold offered
  cases s.delivery cancelled with
  | done => exact ⟨done, hpush item done⟩
  | waiting => exact ⟨s.task, [], (s.handing_nil s.task).symm⟩
  | cancelled => exact ⟨abandoned, hpush (.error .cancelled) abandoned⟩

section Flags

variable [Transport σ]

/-- A producer does nothing but hand items over and go on with something else. -/
theorem Stream.next_eq_handing (s : Stream) (l : Line σ) :
    ∃ task more, s.next l = s.handing task more := by
  have hturn (task : Task) : ∃ task' more, { s with task := task } = s.handing task' more :=
    ⟨task, [], (s.handing_nil task).symm⟩
  unfold next
  cases s.task with
  | ended | overflowed => exact ⟨s.task, [], (s.handing_nil s.task).symm⟩
  | unpack | release => exact hturn _
  | page =>
    dsimp only
    split <;> exact hturn _
  | deliver rows next =>
    cases rows with
    | nil => cases next <;> exact hturn _
    | cons row rows => exact s.delivered_offered ..
  | report fault handle => exact s.delivered_offered ..

omit [Transport σ] in
theorem Stream.handOver_eq_handing (s : Stream) :
    ∃ task more, s.handOver = s.handing task more := by
  have hself : s = s.handing s.task [] := (s.handing_nil s.task).symm
  unfold handOver
  split
  · split
    · exact ⟨_, _, rfl⟩
    · exact ⟨_, _, hself⟩
  · exact ⟨_, _, hself⟩

namespace Reader

/-- Only who cancels a stream or leaves it says so. -/
theorem flags_after (r : Reader) {turn : Turn σ} (hcancel : turn ≠ .cancel) (hdrop : turn ≠ .drop) :
    (r.after turn).stream.isCancelled = r.stream.isCancelled ∧
      (r.after turn).stream.isDropped = r.stream.isDropped := by
  cases turn with
  | produce c =>
    obtain ⟨task, more, hnext⟩ := r.stream.next_eq_handing c.line
    rw [after_produce, hnext]
    exact ⟨rfl, rfl⟩
  | handOver =>
    obtain ⟨task, more, hnext⟩ := r.stream.handOver_eq_handing
    simp only [after, hnext]
    exact ⟨rfl, rfl⟩
  | receive =>
    obtain ⟨queue, isFinished, htake⟩ := r.stream.take_eq
    have hreceive : (r.after (.receive : Turn σ)).stream = r.stream.take.2 := r.stream_receive
    rw [hreceive, htake]
    exact ⟨rfl, rfl⟩
  | cancel => exact absurd rfl hcancel
  | drop => exact absurd rfl hdrop

theorem isDropped_after (r : Reader) {turn : Turn σ} (h : turn ≠ .drop) :
    (r.after turn).stream.isDropped = r.stream.isDropped := by
  by_cases hcancel : turn = .cancel
  · rw [hcancel]
    rfl
  · exact (r.flags_after hcancel h).2

theorem isDropped_run (r : Reader) {turns : List (Turn σ)} (h : .drop ∉ turns) :
    (r.run turns).stream.isDropped = r.stream.isDropped := by
  induction turns generalizing r with
  | nil => rfl
  | cons turn turns ih =>
    have hturn : turn ≠ .drop := fun hturn => h (hturn ▸ List.mem_cons_self)
    exact (ih (r.after turn) fun hmem => h (List.mem_cons_of_mem turn hmem)).trans
      (r.isDropped_after hturn)

end Reader

end Flags

/-! ## From the beginning -/

/-- A consumer who has seen nothing yet of a result set. -/
def ResultSet.opened (header : ResultSet) (size : UInt64) : Reader :=
  { stream := .ofResultSet header size }

theorem ResultSet.books_opened (header : ResultSet) (size : UInt64) :
    ∃ fate, (header.opened size).Books header [] [] fate [] 0 ∧ ∀ told, fate ≠ .cut told := by
  have hbooks {fate : Fate} (hstage : header.Stage (Stream.ofResultSet header size).task [] [] fate)
      (hnews : fate.news? = none) : (header.opened size).Books header [] [] fate [] 0 := by
    have hnone : handed [] fate = [] := by
      simp [handed, hnews]
    refine ⟨⟨rfl, rfl, ?_⟩, hstage, rfl, List.nil_prefix, fun _ => hnone.symm, ?_, ?_⟩
    · intro hcancelled
      cases hcancelled
    · constructor
      · intro hfinished
        cases hfinished
      · rintro (hends | ⟨_, hfault⟩)
        · exact absurd hends (Nat.lt_irrefl 0)
        · cases hfault
    · exact fun hends => absurd hends (Nat.lt_irrefl 0)
  by_cases hrows : header.numRows = 0
  · have hsent : header.sentRows = [] := by
      unfold sentRows
      split
      · rfl
      · exact Chunk.rowsIn_eq_nil fun hfits => hfits.nonempty hrows
    refine ⟨.whole, hbooks ?_ rfl, fun _ => Fate.noConfusion⟩
    rw [Stream.ofResultSet, if_pos hrows]
    refine .ended (.whole (.start hsent) fun _ => ?_)
    rw [hrows]
    exact UInt64.le_refl _
  · refine ⟨.going, hbooks ?_ rfl, fun _ => Fate.noConfusion⟩
    rw [Stream.ofResultSet, if_neg hrows]
    cases hopen : header.openHandle? with
    | none => exact .unpack hopen hrows
    | some handle =>
      have hsent : header.sentRows = [] := by
        rw [sentRows, hopen]
      exact .page (.start hsent) fun _ => rfl

variable [Transport σ]

/-- The books of a stream after any turns. -/
theorem ResultSet.books_of_run (header : ResultSet) (size : UInt64) (turns : List (Turn σ)) :
    ∃ given fate seen ends, ((header.opened size).run turns).Books header
        ((header.opened size).said turns) given fate seen ends ∧
      ∀ told, fate = .cut told →
        ¬(header.opened size).Throughout (fun r turn => ¬r.CutIn turn told) turns := by
  obtain ⟨fate, hbooks, huncut⟩ := header.books_opened size
  obtain ⟨given, fate', seen, ends, hbooks', hcut⟩ := hbooks.run turns
  rw [List.nil_append] at hbooks'
  exact ⟨given, fate', seen, ends, hbooks',
    fun told hfate => (hcut told hfate).resolve_left (huncut told)⟩

/-- All that a stream has handed over was supplied, and only the last fetch may have failed. -/
theorem ResultSet.Stage.fetched {header : ResultSet} {task : Task} {talk : List Attempt}
    {given : List Row} {fate : Fate} (h : header.Stage task talk given fate) :
    ∃ rows going, header.Fetched talk rows going ∧ given <+: rows := by
  have hclosed (h : header.Closed talk given fate) :
      ∃ rows going, header.Fetched talk rows going ∧ given <+: rows := by
    cases h with
    | whole hfetched _ | failed hfetched => exact ⟨_, _, hfetched, List.prefix_refl _⟩
    | cut hfetched hfirst | overflowed hfetched hfirst _ => exact ⟨_, _, hfetched, hfirst⟩
  cases h with
  | unpack => exact ⟨_, _, .nil, List.nil_prefix⟩
  | page hfetched _ | report hfetched => exact ⟨_, _, hfetched, List.prefix_refl _⟩
  | deliver hfetched _ => exact ⟨_, _, hfetched, List.prefix_append _ _⟩
  | release h | ended h | overflowed h => exact hclosed h

/--
The course of every stream, whatever its fetches bring, and in whatever turns. The
consumer receives the first of the rows that the result set supplies, as they are,
then at most one fault, and then nothing but the end. A fetch follows only on fetches
whose chunks were all accepted. All this is so in every session in which the stream takes
these turns, and the journal of that shows what was sent.
-/
theorem stream_course (header : ResultSet) (size : UInt64) (turns : List (Turn σ)) :
    let r := (header.opened size).run turns
    let talk := (header.opened size).said turns
    (∃ (rows : List Row) (fault? : Option Fault) (ends : Nat),
      r.received = rows.map (some <| .ok ·) ++ fault?.toList.map (some <| .error ·) ++
        List.replicate ends none ∧
      rows <+: header.supplied talk ∧
      (∀ row ∈ rows, row.columns = header.rowColumns ∧
        row.values.length = header.columns.length) ∧
      (fault?.isSome = true ∨ 0 < ends → r.receive.received = r.received ++ [none])) ∧
    (talk.Pairwise fun a b => b.request.isFetch = true → a.IsAccepted header.rowColumns) ∧
    (header.opened size).Records turns talk r := by
  intro r talk
  obtain ⟨given, fate, seen, ends, hbooks, -⟩ := header.books_of_run size turns
  obtain ⟨supplied, going, hfetched, hgiven⟩ := hbooks.stage.fetched
  refine ⟨?_, hfetched.pairwise, (header.opened size).records_run turns⟩
  have hrows {rows : List Row} (h : rows <+: given) : rows <+: header.supplied talk ∧
      ∀ row ∈ rows, row.columns = header.rowColumns ∧
        row.values.length = header.columns.length := by
    have hfirst : rows <+: header.supplied talk := hfetched.supplied_eq ▸ h.trans hgiven
    refine ⟨hfirst, fun row hrow => ?_⟩
    have hrow := ResultSet.row_of_mem_supplied (hfirst.mem hrow)
    rwa [header.size_rowColumns] at hrow
  have hend (h : 0 < ends ∨ ∃ fault, .error fault ∈ seen) :
      r.receive.received = r.received ++ [none] := by
    rw [Reader.receive_of_finished (hbooks.finished.2 h)]
  have hseen : seen <+: handed given fate := (List.prefix_append _ _).trans hbooks.queued
  rcases prefix_handed hseen with ⟨rows, hfirst, rfl⟩ | ⟨fault, -, rfl⟩
  · obtain ⟨hsupplied, hshape⟩ := hrows hfirst
    refine ⟨rows, none, ends, ?_, hsupplied, hshape, fun h => hend <| .inl <| h.resolve_left nofun⟩
    rw [hbooks.received]
    simp
  · obtain ⟨hsupplied, hshape⟩ := hrows (List.prefix_refl given)
    refine ⟨given, some fault, ends, ?_, hsupplied, hshape, fun _ => hend (.inr ⟨fault, by simp⟩)⟩
    rw [hbooks.received]
    simp

end ExasolClient