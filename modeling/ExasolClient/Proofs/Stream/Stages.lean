-- SUMMARY: The stages of a producer, and what every step of it hands over.
import ExasolClient.Proofs.Stream.Supply

/-!
# Stages of a producer

What a producer has handed over, together with what it does next, is what its result
set has supplied so far; or the producer has come to an end, because all was handed
over, because something failed, or because it was cancelled (`Fate`). Main statement:
a step of the producer carries one stage on to the next, whatever the connection has
become (`Stage.next`).
-/

namespace ExasolClient

/-! ## The stages of a producer -/

/-- How it stands with what a producer hands over. -/
inductive Fate where
  | going
  /-- All rows were handed over. -/
  | whole
  /-- A fault was handed over. -/
  | failed (fault : Fault)
  /-- There was no position behind a chunk, and its rows were not handed over. -/
  | overflowed
  /-- The stream was cancelled; the consumer is told if the queue had room for the news. -/
  | cut (told : Bool)

/-- The fault that is handed over after the rows. -/
def Fate.news? : Fate → Option Fault
  | .going | .whole | .overflowed | .cut false => none
  | .failed fault => some fault
  | .cut true => some .cancelled

/-- All that a producer has handed over. -/
def handed (given : List Row) (fate : Fate) : List Item :=
  given.map .ok ++ fate.news?.toList.map .error

namespace ResultSet

/-- So many rows are all that there are before the next fetch, or at all if there is none. -/
def Reaches (header : ResultSet) (next : Option (Int64 × UInt64)) (count : Nat) : Prop :=
  0 < header.rowColumns.size → match next with
    | some (_, position) => position.toNat = count
    | none => header.numRows.toNat ≤ count

/--
So many rows were handed over before the chunk behind which there is no position. Where there
is a column, the chunk brings more rows than there are positions.
-/
structure Overflows (header : ResultSet) (count supplied : Nat) : Prop where
  pos : 0 < header.numRows.toNat
  short : 0 < header.rowColumns.size → count < header.numRows.toNat
  size_le : 0 < header.rowColumns.size → UInt64.size ≤ supplied

/-- A producer with nothing more to hand over, after what it said and the rows that it gave. -/
inductive Closed (header : ResultSet) : List Attempt → List Row → Fate → Prop where
  | whole {talk : List Attempt} {given : List Row} {going : Bool} :
      header.Fetched talk given going → header.Reaches none given.length →
      Closed header talk given .whole
  | failed {talk : List Attempt} {given : List Row} {going : Bool} {fault : Fault} :
      header.Fetched talk given going → Closed header talk given (.failed fault)
  | overflowed {talk : List Attempt} {given rows : List Row} {going : Bool} :
      header.Fetched talk rows going → given <+: rows →
      header.Overflows given.length rows.length → Closed header talk given .overflowed
  | cut {talk : List Attempt} {given rows : List Row} {going told : Bool} :
      header.Fetched talk rows going → given <+: rows → Closed header talk given (.cut told)

/-- What a producer does next, after what it said and the rows that it gave. -/
inductive Stage (header : ResultSet) : Task → List Attempt → List Row → Fate → Prop where
  | unpack : header.openHandle? = none → header.numRows ≠ 0 →
      Stage header (.unpack (header.data.getD [])) [] [] .going
  | page {handle : Int64} {position : UInt64} {talk : List Attempt} {given : List Row} :
      header.Fetched talk given true → header.Reaches (some (handle, position)) given.length →
      Stage header (.page handle position) talk given .going
  | deliver {talk : List Attempt} {given rows : List Row} {next : Option (Int64 × UInt64)} :
      header.Fetched talk (given ++ rows) true → header.Reaches next (given ++ rows).length →
      Stage header (.deliver rows next) talk given .going
  | report {talk : List Attempt} {given : List Row} {going : Bool} {fault : Fault}
      {handle? : Option Int64} :
      header.Fetched talk given going → Stage header (.report fault handle?) talk given .going
  | release {handle : Int64} {talk : List Attempt} {given : List Row} {fate : Fate} :
      header.Closed talk given fate → Stage header (.release handle) talk given fate
  | ended {talk : List Attempt} {given : List Row} {fate : Fate} :
      header.Closed talk given fate → Stage header .ended talk given fate
  | overflowed {handle : Int64} {talk : List Attempt} {given : List Row} :
      header.Closed talk given .overflowed →
      Stage header (.overflowed handle) talk given .overflowed

end ResultSet

/-! ## A step of the producer -/

/--
The producer puts its item into the queue after it has looked for a cancellation,
which may have come since.
-/
def Stream.handOver (s : Stream) : Stream :=
  match s.task.item? with
  | some item => if s.hasRoom && !s.isDropped then s.handing s.task.afterItem [item] else s
  | none => s

/-- A producer that is gone hands nothing over. -/
theorem Stream.handOver_of_ended {s : Stream} (h : s.task.isEnded = true) : s.handOver = s := by
  have hnone : s.task.item? = none := by
    cases htask : s.task with
    | ended | overflowed => rfl
    | unpack | page | deliver | report | release =>
      rw [htask] at h
      cases h
  rw [handOver, hnone]

theorem Stream.keeps_handOver (s : Stream) : s.Keeps s.handOver := by
  intro handle h
  unfold handOver at h
  split at h
  · split at h
    · exact (Stream.handle?_afterItem s.task).symm.trans h
    · exact h
  · exact h

/-- A stream of the rows of a result set; whoever leaves it cancels it. -/
structure Stream.IsFor (s : Stream) (header : ResultSet) : Prop where
  columns : s.columns = header.rowColumns
  totalRows : s.totalRows = header.numRows
  cancelled : s.isDropped = true → s.isCancelled = true

section Offer

variable {s : Stream}

/-- A cancelled stream takes the news if it has room, and takes nothing from a consumer who left. -/
theorem Stream.delivered_of_cancelled {cancelled : Bool} (item : Item) (done abandoned : Task)
    (h : (cancelled || s.isCancelled) = true) :
    ∃ told, delivered (s.offered item cancelled) done abandoned =
        s.handing abandoned (if told then [.error .cancelled] else []) ∧
      told = (s.hasRoom && !s.isDropped) := by
  refine ⟨_, ?_, rfl⟩
  simp only [offered, delivery, h, if_true, delivered, push, handing]
  split <;> simp

end Offer

namespace ResultSet.Stage

variable {header : ResultSet} {task : Task} {talk : List Attempt} {given : List Row} {fate : Fate}
  {item : Item}

/-- With an item in hand the end is still open. -/
theorem going_of_item (h : header.Stage task talk given fate) (hitem : task.item? = some item) :
    fate = .going := by
  cases h with
  | deliver | report => rfl
  | unpack | page | release | ended | overflowed => cases hitem

theorem releasing {handle? : Option Int64} (h : header.Closed talk given fate) :
    header.Stage (.releasing handle?) talk given fate := by
  cases handle? with
  | none => exact .ended h
  | some handle => exact .release h

/-- The item in hand is handed over. -/
theorem give (h : header.Stage task talk given fate) (hitem : task.item? = some item) :
    ∃ given' fate', header.Stage task.afterItem talk given' fate' ∧
      handed given' fate' = handed given fate ++ [item] ∧ ∀ told, fate' ≠ .cut told := by
  cases h with
  | @deliver _ _ rows next hfetched hreaches =>
    cases rows with
    | nil => cases hitem
    | cons row rows =>
      cases hitem
      rw [List.append_cons] at hfetched hreaches
      refine ⟨given ++ [row], .going, .deliver hfetched hreaches, ?_, fun _ => nofun⟩
      simp [handed, Fate.news?]
  | @report _ _ _ fault handle? hfetched =>
    cases hitem
    refine ⟨given, .failed fault, releasing (.failed hfetched), ?_, fun _ => nofun⟩
    simp [handed, Fate.news?]
  | unpack | page | release | ended | overflowed => cases hitem

/-- The item in hand is given up. -/
theorem abandon (h : header.Stage task talk given fate) (hitem : task.item? = some item)
    (told : Bool) :
    header.Stage (.releasing task.handle?) talk given (.cut told) ∧
      handed given (.cut told) =
        handed given fate ++ if told then [.error .cancelled] else [] := by
  have hgoing := h.going_of_item hitem
  subst hgoing
  refine ⟨?_, by cases told <;> simp [handed, Fate.news?]⟩
  cases h with
  | @deliver _ _ rows next hfetched _ => exact releasing (.cut hfetched (List.prefix_append _ _))
  | report hfetched => exact releasing (.cut hfetched (List.prefix_refl _))
  | unpack | page | release | ended => cases hitem

end ResultSet.Stage

/-- A producer with an item in hand finds that it is cancelled, and tells the consumer if it can. -/
structure Stream.IsCut (s : Stream) (cancelled told : Bool) : Prop where
  item : s.task.item?.isSome = true
  cancelled : (cancelled || s.isCancelled) = true
  told : told = (s.hasRoom && !s.isDropped)

/-- A stream goes on to another stage, in which it has handed over some more items. -/
def ResultSet.Continues (header : ResultSet) (talk : List Attempt) (given : List Row) (fate : Fate)
    (s s' : Stream) (cuts : Bool → Prop) : Prop :=
  ∃ task given' fate' more, s' = s.handing task more ∧ header.Stage task talk given' fate' ∧
    handed given' fate' = handed given fate ++ more ∧ (s.isDropped = true → more = []) ∧
    ∀ told, fate' = .cut told → fate = .cut told ∨ cuts told

section Continues

variable {header : ResultSet} {talk : List Attempt} {given : List Row} {fate : Fate} {s : Stream}
  {cuts : Bool → Prop}

/-- Nothing is handed over, but the producer goes on with something else. -/
theorem ResultSet.Stage.continues {task : Task} (h : header.Stage task talk given fate) :
    header.Continues talk given fate s { s with task := task } cuts :=
  ⟨task, given, fate, [], (s.handing_nil task).symm, h, (List.append_nil _).symm, fun _ => rfl,
    fun _ hcut => .inl hcut⟩

/-- Nothing more will be handed over, and the consumer is not told why. -/
theorem ResultSet.Stage.completes {task : Task} (h : header.Stage task talk given fate)
    (hfate : fate = .whole ∨ fate = .overflowed) :
    header.Continues talk given .going s { s with task := task } cuts := by
  refine ⟨task, given, fate, [], (s.handing_nil task).symm, h, ?_, fun _ => rfl,
    fun told hcut => ?_⟩
  · rw [List.append_nil]
    rcases hfate with rfl | rfl <;> rfl
  · rcases hfate with rfl | rfl <;> cases hcut

theorem ResultSet.Stage.handOver (h : header.Stage s.task talk given fate) :
    header.Continues talk given fate s s.handOver fun _ => False := by
  unfold Stream.handOver
  split
  next item hitem =>
    split
    next hroom =>
      obtain ⟨given', fate', hstage, hhanded, huncut⟩ := h.give hitem
      refine ⟨_, given', fate', [item], rfl, hstage, hhanded, ?_, fun told hcut => ?_⟩
      · intro hdropped
        simp [hdropped] at hroom
      · exact absurd hcut (huncut told)
    next => exact h.continues
  next => exact h.continues

variable [Transport σ] {l : Line σ}

/-- With an item in hand a step delivers it, or waits, or gives it up. -/
theorem ResultSet.Stage.next_of_item {item : Item} (h : header.Stage s.task talk given fate)
    (hs : s.IsFor header) (hitem : s.task.item? = some item) :
    header.Continues (talk ++ s.said l) given fate s (s.next l) (s.IsCut l.isCancelled) := by
  rw [s.said_of_item hitem, List.append_nil, Stream.next_of_item hitem]
  cases hcancelled : l.isCancelled || s.isCancelled with
  | true =>
    obtain ⟨told, hdelivered, htold⟩ := Stream.delivered_of_cancelled item
      s.task.afterItem (.releasing s.task.handle?) hcancelled
    obtain ⟨hstage, hhanded⟩ := h.abandon hitem told
    refine ⟨_, given, .cut told, _, hdelivered, hstage, hhanded, fun hdropped => ?_, ?_⟩
    · simp [htold, hdropped]
    · rintro _ ⟨⟩
      exact .inr ⟨Option.isSome_of_eq_some hitem, hcancelled, htold⟩
  | false =>
    have hdropped : s.isDropped = false := by
      cases hdropped : s.isDropped with
      | false => rfl
      | true =>
        rw [hs.cancelled hdropped, Bool.or_true] at hcancelled
        cases hcancelled
    rw [Stream.delivered_of_live hcancelled hdropped]
    split
    · obtain ⟨given', fate', hstage, hhanded, huncut⟩ := h.give hitem
      refine ⟨_, given', fate', [item], rfl, hstage, hhanded, fun h => ?_, fun told hcut => ?_⟩
      · rw [hdropped] at h
        cases h
      · exact absurd hcut (huncut told)
    · exact h.continues

/-- The rows of an accepted chunk are handed over next, if there is a position behind them. -/
theorem ResultSet.Fetched.accepted_stage {handle : Int64} {position : UInt64} {chunk : Chunk}
    (h : header.Fetched talk (given ++ Stream.rowsOf header.rowColumns chunk.data) true)
    (hreaches : header.Reaches (some (handle, position)) given.length) (hs : s.IsFor header)
    (hlt : position < s.totalRows) (hfits : chunk.Fits header.rowColumns) :
    ∃ fate, header.Stage (s.accepted handle position chunk) talk given fate ∧
      (fate = .going ∨ fate = .overflowed) := by
  unfold Stream.accepted
  rw [hs.totalRows, UInt64.lt_iff_toNat_lt] at hlt
  cases hbehind : Stream.positionBehind? position chunk.numRows with
  | some behind =>
    rw [hs.columns]
    refine ⟨.going, .deliver h fun hcolumn => ?_, .inl rfl⟩
    dsimp only
    rw [List.length_append, hfits.length_rowsOf hcolumn, ← hreaches hcolumn]
    exact Stream.positionBehind?_eq_some_iff.1 hbehind
  | none =>
    refine ⟨.overflowed, .overflowed (.overflowed h (List.prefix_append _ _) ⟨?_, ?_, ?_⟩),
      .inr rfl⟩
    · exact Nat.zero_lt_of_lt hlt
    · intro hcolumn
      rw [← hreaches hcolumn]
      exact hlt
    · intro hcolumn
      rw [List.length_append, hfits.length_rowsOf hcolumn, ← hreaches hcolumn]
      exact Stream.positionBehind?_eq_none_iff.1 hbehind

/-- What became of a fetch decides whether the producer goes on. -/
theorem ResultSet.Fetched.fetched {handle : Int64} {position : UInt64} {a : Attempt}
    (h : header.Fetched talk given true)
    (hreaches : header.Reaches (some (handle, position)) given.length) (hs : s.IsFor header)
    (hlt : position < s.totalRows) (hrequest : a.request = .fetch handle position s.fetchSize) :
    ∃ fate, header.Stage (s.fetched handle position (a.payload Chunk)) (talk ++ [a]) given fate ∧
      (fate = .going ∨ fate = .overflowed) := by
  have hfetch : a.request.isFetch = true := by
    rw [hrequest]
    rfl
  have hrefused {fault : Fault} {handle? : Option Int64}
      (hnot : ∀ chunk, a.payload Chunk = .ok chunk → ¬chunk.Fits header.rowColumns) :
      ∃ fate, header.Stage (.report fault handle?) (talk ++ [a]) given fate ∧
        (fate = .going ∨ fate = .overflowed) := by
    refine ⟨.going, .report (.refused h ?_), .inl rfl⟩
    rintro ⟨chunk, hchunk, hfits⟩
    exact hnot chunk ((Attempt.chunk?_eq_some_iff hfetch).1 hchunk) hfits
  unfold Stream.fetched
  cases hpayload : a.payload Chunk with
  | error fault =>
    refine hrefused fun chunk hchunk => ?_
    rw [hpayload] at hchunk
    cases hchunk
  | ok chunk =>
    have hsame {other : Chunk} (hother : a.payload Chunk = .ok other) : other = chunk := by
      rw [hpayload] at hother
      cases hother
      rfl
    dsimp only
    split
    next hzero =>
      refine hrefused fun other hother hfits => ?_
      rw [hsame hother] at hfits
      exact hfits.nonempty hzero
    next hrows =>
      split
      next fault hshape =>
        refine hrefused fun other hother hfits => ?_
        rw [hsame hother] at hfits
        rw [hs.columns, (Chunk.fits_iff.1 hfits).2] at hshape
        cases hshape
      next hshape =>
        rw [hs.columns] at hshape
        have hfits : chunk.Fits header.rowColumns := Chunk.fits_iff.2 ⟨hrows, hshape⟩
        have hchunk : a.chunk? = some chunk := (Attempt.chunk?_eq_some_iff hfetch).2 hpayload
        exact (Fetched.page h hrequest hreaches hchunk hfits).accepted_stage hreaches hs hlt hfits

/-- The cells that came with the reply are those of an accepted chunk, or they are reported. -/
theorem ResultSet.unpacked_stage (hopen : header.openHandle? = none) (hrows : header.numRows ≠ 0)
    (hs : s.IsFor header) :
    header.Stage (s.unpacked (header.data.getD [])) [] [] .going := by
  unfold Stream.unpacked
  rw [hs.columns, hs.totalRows]
  have hsent : header.sentRows =
      Chunk.rowsIn header.rowColumns ⟨header.numRows, header.data.getD []⟩ := by
    unfold sentRows
    rw [hopen]
  cases hshape : Stream.checkShape header.rowColumns (header.data.getD []) header.numRows with
  | ok _ =>
    have hfits : Chunk.Fits header.rowColumns ⟨header.numRows, header.data.getD []⟩ :=
      Chunk.fits_iff.2 ⟨hrows, hshape⟩
    refine .deliver (.start (hsent.trans hfits.rowsIn)) fun hcolumn => ?_
    dsimp only
    exact Nat.le_of_eq (by rw [List.nil_append, hfits.length_rowsOf hcolumn])
  | error fault =>
    have hnil : header.sentRows = [] := by
      rw [hsent]
      refine Chunk.rowsIn_eq_nil fun hfits => ?_
      rw [(Chunk.fits_iff.1 hfits).2] at hshape
      cases hshape
    exact .report (.start hnil)

/-- After the last row the producer does nothing but release the result set. -/
theorem ResultSet.Closed.aside {a : Attempt} (h : header.Closed talk given fate)
    (ha : a.request.isFetch = false) : header.Closed (talk ++ [a]) given fate := by
  cases h with
  | whole hfetched hreaches => exact .whole (.aside hfetched ha) hreaches
  | failed hfetched => exact .failed (.aside hfetched ha)
  | overflowed hfetched hfirst hoverflows =>
    exact .overflowed (.aside hfetched ha) hfirst hoverflows
  | cut hfetched hfirst => exact .cut (.aside hfetched ha) hfirst

/-- A step of the producer carries a stage on to the next one. -/
theorem ResultSet.Stage.next (h : header.Stage s.task talk given fate) (hs : s.IsFor header) :
    header.Continues (talk ++ s.said l) given fate s (s.next l) (s.IsCut l.isCancelled) := by
  cases hitem : s.task.item? with
  | some item => exact h.next_of_item hs hitem
  | none =>
    unfold Stream.next Stream.said
    generalize htask : s.task = task at h hitem
    cases h with
    | unpack hopen hrows => exact (unpacked_stage hopen hrows hs).continues
    | @page handle position _ _ hfetched hreaches =>
      dsimp only
      split
      next hlt =>
        obtain ⟨fate, hstage, rfl | rfl⟩ := hfetched.fetched
          (a := l.attempt (.fetch handle position s.fetchSize)) hreaches hs hlt rfl
        · exact hstage.continues
        · exact hstage.completes (.inr rfl)
      next hend =>
        rw [List.append_nil]
        refine Stage.completes (.release (.whole hfetched fun hcolumn => ?_)) (.inl rfl)
        rw [hs.totalRows, UInt64.not_lt, UInt64.le_iff_toNat_le] at hend
        exact hreaches hcolumn ▸ hend
    | @deliver _ _ rows next hfetched hreaches =>
      cases rows with
      | cons row rows => cases hitem
      | nil =>
        rw [List.append_nil] at hfetched hreaches
        cases next with
        | none =>
          rw [List.append_nil]
          exact Stage.completes (.ended (.whole hfetched hreaches)) (.inl rfl)
        | some next =>
          rw [List.append_nil]
          exact Stage.continues (.page hfetched hreaches)
    | report _ => cases hitem
    | release hclosed => exact Stage.continues (.ended (hclosed.aside rfl))
    | ended hclosed =>
      rw [List.append_nil]
      have hsame : header.Continues talk given fate s { s with task := .ended }
          (s.IsCut l.isCancelled) := Stage.continues (.ended hclosed)
      rwa [← htask] at hsame
    | @overflowed handle _ _ hclosed =>
      rw [List.append_nil]
      have hsame : header.Continues talk given .overflowed s { s with task := .overflowed handle }
          (s.IsCut l.isCancelled) := Stage.continues (.overflowed hclosed)
      rwa [← htask] at hsame

end Continues

end ExasolClient
