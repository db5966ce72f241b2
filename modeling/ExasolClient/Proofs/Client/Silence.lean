-- SUMMARY: A line over which nothing is sent any more, and operations that meet with it.
import ExasolClient.Proofs.Client.Session

/-!
# Silence

Over a line that is cancelled or closed nothing is sent. An attempt to send a request over it
is refused, for one of two reasons, and leaves the line as it is (`Line.IsSilent.after`). So an
operation that meets with silence can change no more of a connection than its statements and
its notices (`Leads.of_silent`), and silence lasts: over a closed line nothing is sent again,
and over a cancelled one there is nothing left to happen but the close.
-/

namespace ExasolClient

/-! ## Refusals -/

/-- A request was not sent, for this reason. -/
def Attempt.IsRefused (a : Attempt) (fault : Fault) : Prop :=
  a.isSent = false ∧ a.answer.message? = .error fault

namespace Attempt.IsRefused

variable {a : Attempt} {fault : Fault}

theorem reply (h : a.IsRefused fault) (α : Type) [Payload α] : a.reply α = .error fault := by
  unfold Attempt.reply
  rw [h.2]
  rfl

theorem payload (h : a.IsRefused fault) (α : Type) [Payload α] : a.payload α = .error fault := by
  unfold Attempt.payload
  rw [h.reply α]
  rfl

theorem attributes (h : a.IsRefused fault) : a.attributes = .empty := by
  obtain ⟨request, answer⟩ := a
  cases answer with
  | cancelled | closed => rfl
  | unwritten _ | unread _ | message _ => cases h.1

end Attempt.IsRefused

/-- Attempts that were refused bring no attributes. -/
theorem Attempt.foldl_refused {talk : List Attempt} {fault : Fault}
    (h : ∀ a ∈ talk, a.IsRefused fault) (known : Attributes) :
    talk.foldl (fun known a => known.merge a.attributes) known = known := by
  induction talk with
  | nil => rfl
  | cons a talk ih =>
    rw [List.foldl_cons, (h a List.mem_cons_self).attributes, Attributes.merge_empty]
    exact ih fun b hb => h b (List.mem_cons_of_mem a hb)

/-! ## Silent lines -/

namespace Line

/-- Nothing can be sent over the line any more. -/
def IsSilent (l : Line σ) : Prop := l.isCancelled = true ∨ l.isOpen = false

/-- Why nothing can be sent over a silent line; that it is cancelled comes first. -/
def refusal (l : Line σ) : Fault := if l.isCancelled then .cancelled else .closed

theorem refusal_of_cancelled {l : Line σ} (h : l.isCancelled = true) : l.refusal = .cancelled :=
  if_pos h

/-- A refusal is no answer of the server, so it is not about a statement either. -/
theorem withSql_refusal (l : Line σ) (sql : String) : l.refusal.withSql sql = l.refusal := by
  unfold refusal
  split <;> rfl

theorem root_refusal (l : Line σ) : l.refusal.root = l.refusal := by
  unfold refusal
  split <;> rfl

theorem not_isStale_refusal (l : Line σ) : l.refusal.isStaleHandle = false := by
  unfold refusal
  split <;> rfl

variable [Transport σ] {l : Line σ}

/-- An attempt on a silent line is refused, and leaves the line as it is. -/
theorem IsSilent.attempt (h : l.IsSilent) (r : Request) :
    (l.attempt r).IsRefused l.refusal ∧ l.after r = l := by
  unfold Line.attempt after refusal
  cases hlive : l.isCancelled with
  | true =>
    rw [answer_of_cancelled r hlive]
    exact ⟨⟨rfl, rfl⟩, rfl⟩
  | false =>
    have hclosed : l.isOpen = false := by
      refine h.resolve_left fun hcancelled => ?_
      rw [hlive] at hcancelled
      cases hcancelled
    rw [answer_of_closed r hlive hclosed]
    exact ⟨⟨rfl, rfl⟩, rfl⟩

end Line

section Silent

variable [Transport σ] {l m : Line σ} {talk : List Attempt} {traffic : List (Sending σ)}

/-- Over a silent line a talk is refused from the first attempt to the last. -/
theorem Talk.of_silent (h : Talk l talk m) (hsilent : l.IsSilent) :
    m = l ∧ ∀ a ∈ talk, a.IsRefused l.refusal := by
  induction h with
  | nil => exact ⟨rfl, fun _ ha => nomatch ha⟩
  | @cons l m r rest _ ih =>
    obtain ⟨hrefused, hafter⟩ := hsilent.attempt r
    rw [hafter] at ih
    obtain ⟨hline, hrest⟩ := ih hsilent
    refine ⟨hline, fun a ha => ?_⟩
    rcases List.mem_cons.1 ha with rfl | ha
    · exact hrefused
    · exact hrest a ha

/-- Silence lasts, and with it nothing is sent. -/
theorem Traffic.of_silent (h : Traffic l traffic m) (hsilent : l.IsSilent) :
    m.IsSilent ∧ ∀ s ∈ traffic, s.attempt.isSent = false := by
  induction h with
  | done => exact ⟨hsilent, fun _ hs => nomatch hs⟩
  | @attempt l m r rest _ ih =>
    obtain ⟨hrefused, hafter⟩ := hsilent.attempt r
    rw [hafter] at ih
    obtain ⟨hm, hrest⟩ := ih hsilent
    refine ⟨hm, fun s hs => ?_⟩
    rcases List.mem_cons.1 hs with rfl | hs
    · exact hrefused.1
    · exact hrest s hs
  | compress _ _ ih => exact ih hsilent
  | cancel _ ih => exact ih (.inl rfl)
  | close _ ih => exact ih (.inr rfl)

end Silent

/-! ## Connections -/

/-- Two connections differ in their notices at most. -/
structure Connection.Undisturbed (c d : Connection σ) : Prop where
  same : d = { c with journal := d.journal }
  calls : d.calls = c.calls

namespace Connection.Undisturbed

variable {c d e : Connection σ}

theorem refl (c : Connection σ) : Undisturbed c c := ⟨rfl, rfl⟩

theorem trans (h : Undisturbed c d) (h' : Undisturbed d e) : Undisturbed c e := by
  refine ⟨?_, h'.calls.trans h.calls⟩
  rw [h'.same, h.same]

theorem line (h : Undisturbed c d) : d.line = c.line := by
  rw [h.same]
  rfl

end Connection.Undisturbed

variable [Transport σ] {c d : Connection σ} {talk : List Attempt} {cache : StatementCache}

/-- Where a talk meets with silence, nothing is left of it but statements and notices. -/
theorem Leads.of_silent (h : Leads c talk cache d) (hsilent : c.line.IsSilent) :
    Connection.Undisturbed { c with statements := cache } d ∧
      ∀ a ∈ talk, a.IsRefused c.line.refusal := by
  obtain ⟨hline, hrefused⟩ := h.line.of_silent hsilent
  have hattributes : d.attributes = c.attributes :=
    h.attributes.trans (Attempt.foldl_refused hrefused c.attributes)
  have hcalls : d.calls = c.calls := by
    have hnone : talk.flatMap Attempt.events = [] :=
      List.flatMap_eq_nil_iff.2 fun a ha => Attempt.events_of_not_isSent (hrefused a ha).1
    rw [h.calls, hnone, List.append_nil]
  refine ⟨⟨?_, hcalls⟩, hrefused⟩
  have hconfig := h.config
  have hsession := h.session
  have hstatements := h.statements
  obtain ⟨config, session, peer, isOpen, isCancelled, attributes, statements, journal⟩ := d
  cases hline
  cases hconfig
  cases hsession
  cases hstatements
  cases hattributes
  rfl

end ExasolClient
