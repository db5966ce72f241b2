-- SUMMARY: All that passes over a line as long as its connection lasts, and the calls that this makes.
import ExasolClient.Proofs.Exchange.Talk

/-!
# Traffic

Over the line of a connection pass the attempts of one operation after the other. In
between the line may be cancelled, it may be told whether to compress messages, and it is
closed in the end. Main statement: the calls that this makes of the transport are those of
the attempts and at most one close, with nothing behind it (`Passes.trans`).
-/

namespace ExasolClient

/-- An attempt, with the state of the transport in which it is made. -/
structure Sending (σ : Type) where
  peer : σ
  attempt : Attempt

/-- The attempts that pass over a line lead from one state of it to another. -/
inductive Traffic [Transport σ] : Line σ → List (Sending σ) → Line σ → Prop where
  | done (l : Line σ) : Traffic l [] l
  | attempt {l m : Line σ} {r : Request} {rest : List (Sending σ)} :
      Traffic (l.after r) rest m → Traffic l (⟨l.peer, l.attempt r⟩ :: rest) m
  | compress {l m : Line σ} {rest : List (Sending σ)} (enabled : Bool) :
      Traffic { l with peer := Transport.setCompression enabled l.peer } rest m → Traffic l rest m
  | cancel {l m : Line σ} {rest : List (Sending σ)} :
      Traffic { l with isCancelled := true } rest m → Traffic l rest m
  | close {l m : Line σ} {rest : List (Sending σ)} :
      Traffic { l with peer := Transport.close l.peer, isOpen := false } rest m → Traffic l rest m

namespace Traffic

variable [Transport σ] {l m n : Line σ} {traffic more after : List (Sending σ)} {s : Sending σ}

theorem append (h : Traffic l traffic m) (h' : Traffic m more n) :
    Traffic l (traffic ++ more) n := by
  induction h with
  | done => exact h'
  | attempt _ ih => exact .attempt (ih h')
  | compress enabled _ ih => exact .compress enabled (ih h')
  | cancel _ ih => exact .cancel (ih h')
  | close _ ih => exact .close (ih h')

theorem of_talk {talk : List Attempt} (h : Talk l talk m) :
    ∃ traffic, Traffic l traffic m ∧ traffic.map Sending.attempt = talk := by
  induction h with
  | nil l => exact ⟨[], .done l, rfl⟩
  | @cons l m r rest _ ih =>
    obtain ⟨traffic, htraffic, hrest⟩ := ih
    exact ⟨⟨l.peer, l.attempt r⟩ :: traffic, .attempt htraffic, congrArg (l.attempt r :: ·) hrest⟩

/-- A closed line stays closed. -/
theorem isOpen (h : Traffic l traffic m) (hopen : m.isOpen = true) : l.isOpen = true := by
  induction h with
  | done => exact hopen
  | @attempt l _ r _ _ ih => exact (l.isOpen_after r).symm.trans (ih hopen)
  | compress _ _ ih | cancel _ ih => exact ih hopen
  | close _ ih => cases ih hopen

/-- Over a closed line nothing is sent. -/
theorem not_isSent (h : Traffic l traffic m) (hclosed : l.isOpen = false) :
    ∀ s ∈ traffic, s.attempt.isSent = false := by
  induction h with
  | done => exact fun _ hs => nomatch hs
  | @attempt l _ r _ _ ih =>
    have hrest := ih ((l.isOpen_after r).trans hclosed)
    have hfirst := l.not_isSent_attempt r hclosed
    intro s hs
    rcases List.mem_cons.1 hs with rfl | hs
    · exact hfirst
    · exact hrest s hs
  | compress _ _ ih | cancel _ ih => exact ih hclosed
  | close _ ih => exact ih rfl

/-- The line over which an attempt passes. -/
theorem split (h : Traffic l (traffic ++ s :: after) n) : ∃ m r,
    Traffic l traffic m ∧ s = ⟨m.peer, m.attempt r⟩ ∧ Traffic (m.after r) after n := by
  generalize hall : traffic ++ s :: after = all at h
  induction h generalizing traffic with
  | done => cases List.append_eq_nil_iff.1 hall |>.2
  | @attempt l n r rest hrest ih =>
    cases traffic with
    | nil =>
      cases hall
      exact ⟨l, r, .done l, rfl, hrest⟩
    | cons first traffic =>
      cases hall
      obtain ⟨m, r', hbefore, hs, hafter⟩ := ih rfl
      exact ⟨m, r', .attempt hbefore, hs, hafter⟩
  | compress enabled _ ih =>
    obtain ⟨m, r, hbefore, hs, hafter⟩ := ih hall
    exact ⟨m, r, .compress enabled hbefore, hs, hafter⟩
  | cancel _ ih =>
    obtain ⟨m, r, hbefore, hs, hafter⟩ := ih hall
    exact ⟨m, r, .cancel hbefore, hs, hafter⟩
  | close _ ih =>
    obtain ⟨m, r, hbefore, hs, hafter⟩ := ih hall
    exact ⟨m, r, .close hbefore, hs, hafter⟩

end Traffic

/-! ## The calls of a connection -/

theorem Attempt.events_of_not_isSent {a : Attempt} (h : a.isSent = false) : a.events = [] := by
  obtain ⟨request, answer⟩ := a
  cases answer <;> first | rfl | cases h

/--
From connection `c` to connection `d` the transport is called for this traffic, and is
closed if it was open before and is not any more.
-/
structure Passes [Transport σ] (c : Connection σ) (traffic : List (Sending σ))
    (d : Connection σ) : Prop where
  line : Traffic c.line traffic d.line
  calls : Event.calls d.journal.toList = Event.calls c.journal.toList ++
    (traffic.flatMap (·.attempt.events) ++ if c.isOpen && !d.isOpen then [.closed] else [])

namespace Passes

variable [Transport σ] {c d e : Connection σ} {traffic more : List (Sending σ)}

theorem refl (c : Connection σ) : Passes c [] c where
  line := .done _
  calls := by simp

theorem isOpen (h : Passes c traffic d) (hopen : d.isOpen = true) : c.isOpen = true :=
  h.line.isOpen hopen

theorem no_calls_of_closed (h : Passes c traffic d) (hclosed : c.isOpen = false) :
    traffic.flatMap (·.attempt.events) = [] :=
  List.flatMap_eq_nil_iff.2 fun s hs =>
    Attempt.events_of_not_isSent (h.line.not_isSent hclosed s hs)

theorem trans (h : Passes c traffic d) (h' : Passes d more e) : Passes c (traffic ++ more) e where
  line := h.line.append h'.line
  calls := by
    rw [h'.calls, h.calls, List.flatMap_append]
    cases hd : d.isOpen with
    | true =>
      rw [h.isOpen hd]
      simp
    | false =>
      have he : e.isOpen = false := by
        refine Bool.eq_false_iff.2 fun he => ?_
        rw [h'.isOpen he] at hd
        cases hd
      rw [h'.no_calls_of_closed hd, he]
      simp

/-- A talk passes over an open line or a closed one, and leaves it as it is. -/
theorem of_leads {talk : List Attempt} {cache : StatementCache} (h : Leads c talk cache d) :
    ∃ traffic, Passes c traffic d ∧ traffic.map Sending.attempt = talk := by
  obtain ⟨traffic, htraffic, htalk⟩ := Traffic.of_talk h.line
  obtain ⟨events, hjournal, hcalls⟩ := h.journal
  have hflat : traffic.flatMap (·.attempt.events) = talk.flatMap Attempt.events := by
    rw [← htalk, List.flatMap_map]
  refine ⟨traffic, ⟨htraffic, ?_⟩, htalk⟩
  rw [hjournal, Event.calls_append, hcalls, hflat, h.isOpen]
  cases c.isOpen <;> simp

theorem cancel (c : Connection σ) : Passes c [] { c with isCancelled := true } where
  line := .cancel (.done _)
  calls := by simp

theorem close (hopen : c.isOpen = true) : Passes c [] (Quiet.on Connection.close c).2 := by
  rw [Connection.on_close hopen]
  refine ⟨.close (.done _), ?_⟩
  rw [Array.toList_push, Event.calls_append, hopen]
  rfl

end Passes
end ExasolClient
