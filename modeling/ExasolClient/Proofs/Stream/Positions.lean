-- SUMMARY: Where the fetches of a producer start.
import Mathlib.Data.List.Chain
import ExasolClient.Proofs.Stream.Course

/-!
# Positions

A producer fetches the rows from a position on as long as that is less than the declared total,
and goes on behind the chunk that it has accepted. In every column a chunk has as many values as
it has rows, so that a column keeps the sum of the two in bounds; but without columns a chunk may
have any number of rows, and a sum that is out of bounds breaks the producer down. Main
statements: the talk of a producer consists of fetches that go on behind each other
(`ResultSet.Paged.run`); they start ahead of each other (`ResultSet.Paged.increases`), and there
are not more of them than rows are declared (`ResultSet.Paged.length_starts_le`); and a producer
has broken down if and only if a sum was out of bounds (`ResultSet.BreaksDown.run`).
-/

namespace ExasolClient

/-! ## Fetches -/

/-- The position from which a request fetches rows. -/
def Request.start? : Request → Option UInt64
  | .fetch _ position _ => some position
  | _ => none

/-- The positions from which rows are fetched in a talk. -/
def starts (talk : List Attempt) : List UInt64 := talk.filterMap fun a => a.request.start?

/-- A fetch that has brought an accepted chunk of so many rows from a position on. -/
def Attempt.Brings (columns : Columns) (a : Attempt) (position count : UInt64) : Prop :=
  a.request.start? = some position ∧
    ∃ chunk : Chunk, a.chunk? = some chunk ∧ chunk.Fits columns ∧ chunk.numRows = count

/-- A fetch has brought an accepted chunk that does not end at a position any more. -/
def Attempt.Overflows (columns : Columns) (a : Attempt) : Prop :=
  ∃ position ∈ a.request.start?, ∃ chunk ∈ a.chunk?, chunk.Fits columns ∧
    UInt64.size ≤ position.toNat + chunk.numRows.toNat

instance {columns : Columns} : DecidablePred (Attempt.Overflows columns) := fun a =>
  inferInstanceAs (Decidable (∃ position ∈ a.request.start?, ∃ chunk ∈ a.chunk?,
    chunk.Fits columns ∧ UInt64.size ≤ position.toNat + chunk.numRows.toNat))

/-- A fetch goes on behind the chunk that the attempt before it has brought. -/
def Attempt.GoesOn (columns : Columns) (a b : Attempt) : Prop :=
  ∀ next, b.request.start? = some next → ∃ position count, a.Brings columns position count ∧
    next.toNat = position.toNat + count.toNat

section Fetch

variable {columns : Columns} {talk : List Attempt} {a : Attempt} {position count : UInt64}

theorem Request.isFetch_of_start? {r : Request} (h : r.start? = some position) :
    r.isFetch = true := by
  cases r with
  | fetch => rfl
  | _ => cases h

theorem Request.start?_eq_none {r : Request} (h : r.isFetch = false) : r.start? = none := by
  cases r with
  | fetch => cases h
  | _ => rfl

theorem starts_concat (talk : List Attempt) (a : Attempt) :
    starts (talk ++ [a]) = starts talk ++ a.request.start?.toList := by
  rw [starts, starts, List.filterMap_append]
  cases hstart : a.request.start? <;> simp [hstart]

theorem starts_concat_some (h : a.request.start? = some position) :
    starts (talk ++ [a]) = starts talk ++ [position] := by
  rw [starts_concat, h]
  rfl

theorem starts_concat_none (h : a.request.start? = none) : starts (talk ++ [a]) = starts talk := by
  rw [starts_concat, h]
  exact List.append_nil _

namespace Attempt.Brings

theorem nonempty (h : a.Brings columns position count) : count ≠ 0 := by
  obtain ⟨-, chunk, -, hfits, rfl⟩ := h
  exact hfits.nonempty

theorem overflows_iff (h : a.Brings columns position count) :
    a.Overflows columns ↔ UInt64.size ≤ position.toNat + count.toNat := by
  obtain ⟨hstart, chunk, hchunk, hfits, rfl⟩ := h
  constructor
  · rintro ⟨position', hstart', chunk', hchunk', -, hsize⟩
    cases hstart.symm.trans hstart'
    cases hchunk.symm.trans hchunk'
    exact hsize
  · exact fun hsize => ⟨position, hstart, chunk, hchunk, hfits, hsize⟩

/-- The position behind a chunk is ahead of its start. -/
theorem ahead {next : UInt64} (h : a.Brings columns position count)
    (hnext : next.toNat = position.toNat + count.toNat) : position < next := by
  have hcount : 0 < count.toNat :=
    Nat.pos_of_ne_zero fun hzero => h.nonempty (UInt64.toNat_inj.1 hzero)
  rw [UInt64.lt_iff_toNat_lt, hnext]
  exact Nat.lt_add_of_pos_right hcount

/-- Where there is a position behind a chunk, the sum is in bounds. -/
theorem not_overflows {next : UInt64} (h : a.Brings columns position count)
    (hnext : next.toNat = position.toNat + count.toNat) : ¬a.Overflows columns := by
  rw [h.overflows_iff, ← hnext, Nat.not_le]
  exact next.toNat_lt_size

end Attempt.Brings

/-- What is not a fetch takes no sum. -/
theorem Attempt.not_overflows_of_not_fetch (h : a.request.start? = none) :
    ¬a.Overflows columns := by
  rintro ⟨position, hstart, -⟩
  rw [h] at hstart
  cases hstart

theorem Attempt.isAccepted_of_overflows (h : a.Overflows columns) : a.IsAccepted columns := by
  obtain ⟨-, -, chunk, hchunk, hfits, -⟩ := h
  exact ⟨chunk, hchunk, hfits⟩

/-- What is not a fetch goes on with whatever has been said before. -/
theorem Attempt.goesOn_of_not_fetch {b : Attempt} (h : b.request.start? = none) :
    a.GoesOn columns b := by
  intro next hnext
  rw [h] at hnext
  cases hnext

end Fetch

/-! ## Talks of a producer -/

/--
A talk in which rows are fetched one chunk after the other, with the position of the next
fetch, if there may be one: there is none behind a fetch that has brought no accepted chunk.
-/
inductive ResultSet.Paged (header : ResultSet) : List Attempt → Option UInt64 → Prop where
  | nil : Paged header [] (some 0)
  | fetch {talk : List Attempt} {a : Attempt} {position : UInt64} {next? : Option UInt64} :
      Paged header talk (some position) → position < header.numRows →
      a.request.start? = some position →
      (∀ next, next? = some next → ∃ count,
        a.Brings header.rowColumns position count ∧ next.toNat = position.toNat + count.toNat) →
      Paged header (talk ++ [a]) next?
  | leave {talk : List Attempt} {next? : Option UInt64} :
      Paged header talk next? → Paged header talk none
  | aside {talk : List Attempt} {a : Attempt} {next? : Option UInt64} :
      Paged header talk next? → a.request.start? = none → Paged header (talk ++ [a]) none

namespace ResultSet.Paged

variable {header : ResultSet} {talk : List Attempt} {next? : Option UInt64}

/-- Every fetch starts before the declared total. -/
theorem starts_lt (h : header.Paged talk next?) :
    ∀ position ∈ starts talk, position < header.numRows := by
  induction h with
  | nil => exact fun _ hposition => nomatch hposition
  | fetch _ hlt hstart _ ih =>
    rw [starts_concat_some hstart]
    intro position hposition
    rcases List.mem_append.1 hposition with hposition | hposition
    · exact ih position hposition
    · exact List.mem_singleton.1 hposition ▸ hlt
  | leave _ ih => exact ih
  | aside _ hstart ih => rwa [starts_concat_none hstart]

/-- The next fetch goes on behind the last one, and so did every fetch before. -/
theorem isChain (h : header.Paged talk next?) :
    talk.IsChain (Attempt.GoesOn header.rowColumns) ∧
    ∀ next, next? = some next → ∀ a ∈ talk.getLast?, ∃ position count,
      a.Brings header.rowColumns position count ∧ next.toNat = position.toNat + count.toNat := by
  induction h with
  | nil => exact ⟨.nil, fun _ _ _ ha => nomatch ha⟩
  | @fetch talk a position next? _ _ hstart hnext ih =>
    refine ⟨ih.1.append (.singleton a) ?_, ?_⟩
    · intro last hlast b hb next' hnext'
      cases hb
      cases hstart.symm.trans hnext'
      exact ih.2 position rfl last hlast
    · intro next hsome last hlast
      rw [List.getLast?_concat] at hlast
      cases hlast
      obtain ⟨count, hbrings, hsum⟩ := hnext next hsome
      exact ⟨position, count, hbrings, hsum⟩
  | leave _ ih => exact ⟨ih.1, nofun⟩
  | aside _ hstart ih =>
    refine ⟨ih.1.append (.singleton _) ?_, nofun⟩
    intro last _ b hb
    cases hb
    exact Attempt.goesOn_of_not_fetch hstart

/-- Every fetch starts ahead of those before. -/
theorem increases (h : header.Paged talk next?) :
    (starts talk).Pairwise (· < ·) ∧
    ∀ next, next? = some next → ∀ position ∈ starts talk, position < next := by
  induction h with
  | nil => exact ⟨.nil, fun _ _ _ hposition => nomatch hposition⟩
  | @fetch talk a position next? _ _ hstart hnext ih =>
    obtain ⟨hstarts, hbelow⟩ := ih
    rw [starts_concat_some hstart]
    refine ⟨List.pairwise_append.2 ⟨hstarts, List.pairwise_singleton _ _, ?_⟩, ?_⟩
    · intro before hbefore last hlast
      rw [List.mem_singleton.1 hlast]
      exact hbelow position rfl before hbefore
    · intro next hsome before hbefore
      obtain ⟨count, hbrings, hsum⟩ := hnext next hsome
      have hahead := hbrings.ahead hsum
      rcases List.mem_append.1 hbefore with hbefore | hbefore
      · exact UInt64.lt_trans (hbelow position rfl before hbefore) hahead
      · exact List.mem_singleton.1 hbefore ▸ hahead
  | leave _ ih => exact ⟨ih.1, nofun⟩
  | aside _ hstart ih =>
    rw [starts_concat_none hstart]
    exact ⟨ih.1, nofun⟩

/-- There are not more fetches than rows are declared. -/
theorem length_starts_le (h : header.Paged talk next?) :
    (starts talk).length ≤ header.numRows.toNat ∧
    ∀ next, next? = some next → (starts talk).length ≤ next.toNat := by
  induction h with
  | nil => exact ⟨Nat.zero_le _, fun _ _ => Nat.zero_le _⟩
  | @fetch talk a position next? _ hlt hstart hnext ih =>
    have hle : (starts talk).length ≤ position.toNat := ih.2 position rfl
    rw [starts_concat_some hstart, List.length_append, List.length_singleton]
    refine ⟨Nat.lt_of_le_of_lt hle (UInt64.lt_iff_toNat_lt.1 hlt), fun next hsome => ?_⟩
    obtain ⟨count, hbrings, hsum⟩ := hnext next hsome
    exact Nat.lt_of_le_of_lt hle (UInt64.lt_iff_toNat_lt.1 (hbrings.ahead hsum))
  | leave _ ih => exact ⟨ih.1, nofun⟩
  | aside _ hstart ih =>
    rw [starts_concat_none hstart]
    exact ⟨ih.1, nofun⟩

end ResultSet.Paged

/-- Where there is a column, a sum out of bounds takes as many rows as there are positions. -/
theorem ResultSet.Fetched.size_le {header : ResultSet} {talk : List Attempt} {rows : List Row}
    {going : Bool} (h : header.Fetched talk rows going) (hcolumn : 0 < header.rowColumns.size) :
    ∀ a ∈ talk, a.Overflows header.rowColumns → UInt64.size ≤ rows.length := by
  induction h with
  | nil => exact fun _ ha => nomatch ha
  | @page talk rows a chunk handle position size _ hrequest hposition hchunk hfits ih =>
    intro b hb hoverflows
    rw [List.length_append]
    rcases List.mem_append.1 hb with hb | hb
    · exact Nat.le_add_right_of_le (ih b hb hoverflows)
    · obtain rfl := List.mem_singleton.1 hb
      have hbrings : b.Brings header.rowColumns position chunk.numRows :=
        ⟨by rw [hrequest]; rfl, chunk, hchunk, hfits, rfl⟩
      rw [hfits.length_rowsOf hcolumn, ← hposition hcolumn]
      exact hbrings.overflows_iff.1 hoverflows
  | refused _ hrefused ih =>
    intro b hb hoverflows
    rcases List.mem_append.1 hb with hb | hb
    · exact ih b hb hoverflows
    · obtain rfl := List.mem_singleton.1 hb
      exact absurd (Attempt.isAccepted_of_overflows hoverflows) hrefused
  | @aside _ _ _ a _ hrequest ih =>
    intro b hb hoverflows
    rcases List.mem_append.1 hb with hb | hb
    · exact ih b hb hoverflows
    · obtain rfl := List.mem_singleton.1 hb
      exact absurd hoverflows
        (Attempt.not_overflows_of_not_fetch (Request.start?_eq_none hrequest))

/-! ## Steps of a producer -/

/-- The position from which a task goes on to fetch rows. -/
def Task.position? : Task → Option UInt64
  | .page _ position | .deliver _ (some (_, position)) => some position
  | .unpack _ | .deliver _ none | .report _ _ | .release _ | .ended | .overflowed _ => none

section Steps

variable {header : ResultSet} {s : Stream} {talk : List Attempt}

theorem Task.position?_releasing (handle? : Option Int64) :
    (releasing handle?).position? = none := by
  cases handle? <;> rfl

theorem Task.position?_afterItem (task : Task) : task.afterItem.position? = task.position? := by
  cases task with
  | deliver rows next => cases rows <;> cases next <;> rfl
  | report fault handle => exact position?_releasing handle
  | unpack | page | release | ended | overflowed => rfl

variable [Transport σ] {l : Line σ}

omit [Transport σ] in
/-- What a fetch brings is handed over next, or is out of bounds, or is not accepted. -/
theorem Stream.fetched_cases (hs : s.columns = header.rowColumns) (handle : Int64)
    (position : UInt64) {a : Attempt} (hfetch : a.request.start? = some position) :
    (∃ rows behind count, a.Brings header.rowColumns position count ∧
      behind.toNat = position.toNat + count.toNat ∧
      s.fetched handle position (a.payload Chunk) = .deliver rows (some (handle, behind))) ∨
    (a.Overflows header.rowColumns ∧
      s.fetched handle position (a.payload Chunk) = .overflowed handle) ∨
    (¬a.IsAccepted header.rowColumns ∧
      ∃ fault handle?, s.fetched handle position (a.payload Chunk) = .report fault handle?) := by
  have hisFetch := Request.isFetch_of_start? hfetch
  have hrefused (h : ∀ chunk, a.payload Chunk = .ok chunk → ¬chunk.Fits header.rowColumns) :
      ¬a.IsAccepted header.rowColumns := by
    rintro ⟨chunk, hchunk, hfits⟩
    exact h chunk ((Attempt.chunk?_eq_some_iff hisFetch).1 hchunk) hfits
  unfold fetched
  cases hpayload : a.payload Chunk with
  | error fault =>
    exact .inr (.inr ⟨hrefused fun _ h => (nomatch hpayload.symm.trans h), _, _, rfl⟩)
  | ok chunk =>
    have hother {P : Chunk → Prop} (h : P chunk) :
        ∀ other, a.payload Chunk = .ok other → P other := by
      intro other hpayload'
      cases hpayload.symm.trans hpayload'
      exact h
    dsimp only
    split
    next hzero =>
      exact .inr (.inr ⟨hrefused (hother fun hfits => hfits.nonempty hzero), _, _, rfl⟩)
    next hrows =>
      rw [hs]
      cases hshape : checkShape header.rowColumns chunk.data chunk.numRows with
      | error fault =>
        refine .inr (.inr ⟨hrefused (hother fun hfits => ?_), _, _, rfl⟩)
        cases (Chunk.fits_iff.1 hfits).2.symm.trans hshape
      | ok _ =>
        have hchunk : a.chunk? = some chunk := (Attempt.chunk?_eq_some_iff hisFetch).2 hpayload
        have hfits : chunk.Fits header.rowColumns := Chunk.fits_iff.2 ⟨hrows, hshape⟩
        have hbrings : a.Brings header.rowColumns position chunk.numRows :=
          ⟨hfetch, chunk, hchunk, hfits, rfl⟩
        dsimp only [accepted]
        cases hbehind : positionBehind? position chunk.numRows with
        | some behind =>
          exact .inl ⟨_, behind, _, hbrings, positionBehind?_eq_some_iff.1 hbehind, rfl⟩
        | none =>
          exact .inr (.inl ⟨hbrings.overflows_iff.2 (positionBehind?_eq_none_iff.1 hbehind), rfl⟩)

omit [Transport σ] in
theorem Stream.task_delivered (s : Stream) (item : Item) (cancelled : Bool)
    (done abandoned : Task) : (delivered (s.offered item cancelled) done abandoned).task =
      match s.delivery cancelled with
      | .done => done
      | .waiting => s.task
      | .cancelled => abandoned := by
  unfold offered delivered
  cases s.delivery cancelled <;> rfl

/-- A step of the producer carries the talk on. -/
theorem ResultSet.Paged.next (h : header.Paged talk s.task.position?) (hs : s.IsFor header) :
    header.Paged (talk ++ s.said l) (s.next l).task.position? := by
  cases hitem : s.task.item? with
  | some item =>
    rw [s.said_of_item hitem, List.append_nil, Stream.next_of_item hitem, Stream.task_delivered]
    cases s.delivery l.isCancelled with
    | done =>
      dsimp only
      rwa [Task.position?_afterItem]
    | waiting => exact h
    | cancelled =>
      dsimp only
      rw [Task.position?_releasing]
      exact .leave h
  | none =>
    unfold Stream.next Stream.said
    generalize htask : s.task = task at h hitem
    cases task with
    | ended | overflowed =>
      rw [List.append_nil]
      dsimp only
      rwa [htask]
    | unpack data =>
      rw [List.append_nil]
      dsimp only
      unfold Stream.unpacked
      split <;> exact h
    | page handle position =>
      dsimp only
      split
      next hlt =>
        rw [hs.totalRows] at hlt
        have hstart : (l.attempt (.fetch handle position s.fetchSize)).request.start? =
          some position := rfl
        refine .fetch h hlt hstart ?_
        rcases Stream.fetched_cases hs.columns handle position hstart with
          ⟨rows, behind, count, hbrings, hsum, hfetched⟩ | ⟨-, hfetched⟩ | ⟨-, _, _, hfetched⟩
        · rw [hfetched]
          rintro _ ⟨⟩
          exact ⟨count, hbrings, hsum⟩
        · rw [hfetched]
          exact nofun
        · rw [hfetched]
          exact nofun
      next =>
        rw [List.append_nil]
        exact .leave h
    | deliver rows next =>
      cases rows with
      | nil => cases next <;> exact (List.append_nil talk).symm ▸ h
      | cons row rows => cases hitem
    | report fault handle => cases hitem
    | release handle => exact .aside h rfl

end Steps

/-! ## Producers that break down -/

/-- The producer has broken down. -/
def Task.isBroken : Task → Bool
  | .overflowed _ => true
  | _ => false

/--
A producer has broken down if and only if it has taken a sum that is out of bounds; after that
it has said nothing more.
-/
structure ResultSet.BreaksDown (header : ResultSet) (talk : List Attempt) (task : Task) : Prop where
  broken : task.isBroken = true ↔ ∃ a ∈ talk, a.Overflows header.rowColumns
  last : ∀ a ∈ talk, a.Overflows header.rowColumns → talk.getLast? = some a

section Broken

variable {header : ResultSet} {s : Stream} {talk : List Attempt} {task task' : Task}

theorem Task.isBroken_releasing (handle? : Option Int64) :
    (releasing handle?).isBroken = false := by
  cases handle? <;> rfl

theorem Task.isBroken_afterItem (task : Task) : task.afterItem.isBroken = task.isBroken := by
  cases task with
  | deliver rows next => cases rows <;> rfl
  | report fault handle => exact isBroken_releasing handle
  | unpack | page | release | ended | overflowed => rfl

theorem Task.isBroken_of_item {item : Item} (h : task.item? = some item) :
    task.isBroken = false := by
  cases task with
  | overflowed => cases h
  | unpack | page | deliver | report | release | ended => rfl

theorem Stream.isBroken_unpacked (s : Stream) (data : Cells) :
    (s.unpacked data).isBroken = false := by
  unfold unpacked
  split <;> rfl

namespace ResultSet.BreaksDown

/-- With nothing said a producer is in order. -/
theorem start (h : task.isBroken = false) : header.BreaksDown [] task where
  broken := by simp [h]
  last := by simp

/-- Nothing more is said. -/
theorem silent (h : header.BreaksDown talk task) (htask : task'.isBroken = task.isBroken) :
    header.BreaksDown (talk ++ []) task' := by
  rw [List.append_nil]
  exact ⟨htask ▸ h.broken, h.last⟩

/-- One more attempt decides whether the producer breaks down. -/
theorem concat {a : Attempt} (h : header.BreaksDown talk task) (hwhole : task.isBroken = false)
    (ha : task'.isBroken = true ↔ a.Overflows header.rowColumns) :
    header.BreaksDown (talk ++ [a]) task' := by
  have hnone : ∀ b ∈ talk, ¬b.Overflows header.rowColumns := by
    intro b hb hoverflows
    rw [h.broken.2 ⟨b, hb, hoverflows⟩] at hwhole
    cases hwhole
  refine ⟨ha.trans ⟨fun hoverflows => ⟨a, by simp, hoverflows⟩, ?_⟩, ?_⟩
  · rintro ⟨b, hb, hoverflows⟩
    rcases List.mem_append.1 hb with hb | hb
    · exact absurd hoverflows (hnone b hb)
    · exact List.mem_singleton.1 hb ▸ hoverflows
  · intro b hb hoverflows
    rcases List.mem_append.1 hb with hb | hb
    · exact absurd hoverflows (hnone b hb)
    · rw [List.mem_singleton.1 hb, List.getLast?_concat]

/-- A step of the producer leaves it at that. -/
theorem next [Transport σ] {l : Line σ} (h : header.BreaksDown talk s.task) (hs : s.IsFor header) :
    header.BreaksDown (talk ++ s.said l) (s.next l).task := by
  cases hitem : s.task.item? with
  | some item =>
    have hwhole := Task.isBroken_of_item hitem
    rw [s.said_of_item hitem, Stream.next_of_item hitem, Stream.task_delivered]
    refine h.silent ?_
    cases s.delivery l.isCancelled with
    | done => exact s.task.isBroken_afterItem
    | waiting => rfl
    | cancelled => rw [hwhole, Task.isBroken_releasing]
  | none =>
    unfold Stream.next Stream.said
    generalize htask : s.task = task at h hitem
    cases task with
    | ended | overflowed => exact h.silent (congrArg Task.isBroken htask)
    | unpack data => exact h.silent (s.isBroken_unpacked data)
    | page handle position =>
      dsimp only
      split
      next =>
        refine h.concat rfl ?_
        rcases Stream.fetched_cases hs.columns handle position
            (a := l.attempt (.fetch handle position s.fetchSize)) rfl with
          ⟨rows, behind, count, hbrings, hsum, hfetched⟩ | ⟨hoverflows, hfetched⟩ |
            ⟨hrefused, _, _, hfetched⟩
        · rw [hfetched]
          exact ⟨nofun, fun hoverflows => absurd hoverflows (hbrings.not_overflows hsum)⟩
        · rw [hfetched]
          exact ⟨fun _ => hoverflows, fun _ => rfl⟩
        · rw [hfetched]
          exact ⟨nofun, fun h => absurd (Attempt.isAccepted_of_overflows h) hrefused⟩
      next => exact h.silent rfl
    | deliver rows next =>
      cases rows with
      | nil => cases next <;> exact h.silent rfl
      | cons row rows => cases hitem
    | report fault handle => cases hitem
    | release handle =>
      exact h.concat rfl ⟨nofun, fun h => absurd h (Attempt.not_overflows_of_not_fetch rfl)⟩

end ResultSet.BreaksDown

end Broken

/-! ## Turns -/

section Turns

variable [Transport σ] {header : ResultSet} {r : Reader} {talk : List Attempt}

/-- A stream stays that of its result set. -/
theorem Stream.IsFor.after (h : r.stream.IsFor header) (turn : Turn σ) :
    (r.after turn).stream.IsFor header := by
  cases turn with
  | produce c =>
    obtain ⟨task, more, hnext⟩ := r.stream.next_eq_handing c.line
    rw [Reader.after_produce, hnext]
    exact ⟨h.columns, h.totalRows, h.cancelled⟩
  | handOver =>
    obtain ⟨task, more, hnext⟩ := r.stream.handOver_eq_handing
    simp only [Reader.after, hnext]
    exact ⟨h.columns, h.totalRows, h.cancelled⟩
  | receive =>
    obtain ⟨queue, isFinished, htake⟩ := r.stream.take_eq
    simp only [Reader.after, Reader.stream_receive, htake]
    exact ⟨h.columns, h.totalRows, h.cancelled⟩
  | cancel | drop => exact ⟨h.columns, h.totalRows, fun _ => rfl⟩

omit [Transport σ] in
/-- Handing over is done with the item in hand, or waits. -/
theorem Stream.task_handOver (s : Stream) : s.handOver.task = s.task ∨
    ∃ item, s.task.item? = some item ∧ s.handOver.task = s.task.afterItem := by
  unfold handOver
  split
  next item hitem =>
    split
    · exact .inr ⟨item, hitem, rfl⟩
    · exact .inl rfl
  next => exact .inl rfl

/-- Every turn carries the talk on. -/
theorem ResultSet.Paged.after (h : header.Paged talk r.stream.task.position?)
    (hr : r.stream.IsFor header) (turn : Turn σ) :
    header.Paged (talk ++ r.saidIn turn) (r.after turn).stream.task.position? := by
  cases turn with
  | produce c =>
    rw [Reader.after_produce]
    exact h.next hr
  | handOver =>
    refine (List.append_nil talk).symm ▸ ?_
    simp only [Reader.after]
    rcases r.stream.task_handOver with htask | ⟨item, -, htask⟩
    · rwa [htask]
    · rwa [htask, Task.position?_afterItem]
  | receive =>
    refine (List.append_nil talk).symm ▸ ?_
    simp only [Reader.after]
    rwa [Reader.task_receive]
  | cancel | drop => exact (List.append_nil talk).symm ▸ h

theorem ResultSet.Paged.run (h : header.Paged talk r.stream.task.position?)
    (hr : r.stream.IsFor header) (turns : List (Turn σ)) :
    header.Paged (talk ++ r.said turns) (r.run turns).stream.task.position? := by
  induction turns generalizing r talk with
  | nil => exact (List.append_nil talk).symm ▸ h
  | cons turn turns ih =>
    have hrest := ih (h.after hr turn) (hr.after turn)
    rwa [List.append_assoc] at hrest

theorem ResultSet.BreaksDown.after (h : header.BreaksDown talk r.stream.task)
    (hr : r.stream.IsFor header) (turn : Turn σ) :
    header.BreaksDown (talk ++ r.saidIn turn) (r.after turn).stream.task := by
  cases turn with
  | produce c =>
    rw [Reader.after_produce]
    exact h.next hr
  | handOver =>
    refine h.silent ?_
    simp only [Reader.after]
    rcases r.stream.task_handOver with htask | ⟨item, -, htask⟩
    · rw [htask]
    · rw [htask, Task.isBroken_afterItem]
  | receive =>
    refine h.silent ?_
    simp only [Reader.after]
    rw [Reader.task_receive]
  | cancel | drop => exact h.silent rfl

theorem ResultSet.BreaksDown.run (h : header.BreaksDown talk r.stream.task)
    (hr : r.stream.IsFor header) (turns : List (Turn σ)) :
    header.BreaksDown (talk ++ r.said turns) (r.run turns).stream.task := by
  induction turns generalizing r talk with
  | nil => exact (List.append_nil talk).symm ▸ h
  | cons turn turns ih =>
    have hrest := ih (h.after hr turn) (hr.after turn)
    rwa [List.append_assoc] at hrest

end Turns

/-- The task that a stream begins with goes on from the first position, if from any. -/
theorem ResultSet.paged_opened (header : ResultSet) (size : UInt64) :
    header.Paged [] (header.opened size).stream.task.position? := by
  simp only [opened, Stream.ofResultSet]
  split
  · exact .leave .nil
  · split
    · exact .nil
    · exact .leave .nil

/-- A stream does not begin with a producer that has broken down. -/
theorem ResultSet.breaksDown_opened (header : ResultSet) (size : UInt64) :
    header.BreaksDown [] (header.opened size).stream.task := by
  refine .start ?_
  simp only [opened, Stream.ofResultSet]
  split
  · rfl
  · split <;> rfl

end ExasolClient
