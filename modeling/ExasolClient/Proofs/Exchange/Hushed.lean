-- SUMMARY: What two connections have in common of which only one logs the errors of the server.
import ExasolClient.Proofs.Statement.Servers

/-!
# Hushed connections

A connection may be configured not to log the errors that the server reports. Beside it stands one
that logs them and is the same in all else: its journal has one more notice behind each exchange in
which the server reports an error, and no more than that (`Event.Hushed`). An operation is
indifferent to the difference if it returns the same on both and leaves them the same in all else
again. Main statement: a request is indifferent (`send_indifferent`), and what is put together from
indifferent operations is indifferent too.
-/

namespace ExasolClient

/-! ## Reports of errors -/

namespace Attempt

/-- The error that the server reports in answer to an attempt. -/
def error? (a : Attempt) : Option Exception :=
  match a.request with
  | .login _ => a.serverError? Crypto.OfferedKey
  | .authenticate _ => a.serverError? SessionInfo
  | .execute _ _ | .executePrepared _ _ _ _ _ => a.serverError? ExecuteResult
  | .prepare _ _ => a.serverError? PrepareResult
  | .fetch _ _ _ => a.serverError? Chunk
  | .getAttributes | .setAttributes _ | .closeStatement _ | .closeResultSets _ | .disconnect =>
    a.serverError? Unit

/-- What is logged about the answer to an attempt, unless errors are suppressed. -/
def errorNotices (a : Attempt) : List Event := a.request.errorNotices a.error?

variable {a : Attempt}

/-- An attempt that was answered with a message. -/
theorem eq_of_message {json : Json} (h : a.answer.message? = .ok json) :
    a = ⟨a.request, .message json⟩ := by
  obtain ⟨request, answer⟩ := a
  cases answer with
  | message => cases h; rfl
  | cancelled | closed | unwritten | unread => cases h

/-- Where no message came there is nothing to report. -/
theorem errorNotices_of_unanswered {fault : Fault} (h : a.answer.message? = .error fault) :
    a.errorNotices = [] := by
  obtain ⟨request, answer⟩ := a
  cases answer with
  | cancelled | closed | unwritten | unread => cases request <;> rfl
  | message => cases h

theorem errorNotices_of_not_isSent (h : a.isSent = false) : a.errorNotices = [] := by
  obtain ⟨request, answer⟩ := a
  cases answer with
  | cancelled | closed => exact errorNotices_of_unanswered rfl
  | unwritten | unread | message => cases h

end Attempt

/-- An error in answer to the request is reported with a payload of type `α`. -/
def Request.ReportsAs (r : Request) (α : Type) [Payload α] : Prop :=
  ∀ answer, (⟨r, answer⟩ : Attempt).error? = (⟨r, answer⟩ : Attempt).serverError? α

/-! ## Journals -/

namespace Event

/-- A notice of an error. -/
def isError : Event → Bool
  | .logged notice => notice.level == .error
  | _ => false

/-- An entry that is neither a part of an exchange nor a notice of an error. -/
def isAside : Event → Bool
  | .wrote _ _ | .read _ => false
  | .logged notice => notice.level != .error
  | .connected _ _ _ _ | .compression _ | .closed => true

/--
The second journal is the first one with a notice behind each exchange in which the server
reports an error. There is no other notice of an error in it, and none in the first one.
-/
inductive Hushed : List Event → List Event → Prop where
  | nil : Hushed [] []
  | aside {e : Event} {quiet loud : List Event} : e.isAside = true → Hushed quiet loud →
      Hushed (e :: quiet) (e :: loud)
  | exchange (a : Attempt) {quiet loud : List Event} : Hushed quiet loud →
      Hushed (a.events ++ quiet) (a.events ++ (a.errorNotices ++ loud))

theorem isError_of_isAside {e : Event} (h : e.isAside = true) : e.isError = false := by
  cases e with
  | logged notice => simpa [isAside, isError] using h
  | connected | wrote | read | compression | closed => rfl

theorem not_isError_of_mem_events {a : Attempt} {e : Event} (h : e ∈ a.events) :
    e.isError = false := by
  obtain ⟨request, answer⟩ := a
  cases answer <;> simp [Attempt.events] at h
  all_goals rcases h with rfl | rfl <;> rfl

theorem isError_of_mem_errorNotices {r : Request} {report? : Option Exception} {e : Event}
    (h : e ∈ r.errorNotices report?) : e.isError = true := by
  obtain ⟨report, -, rfl⟩ := List.mem_map.1 h
  rfl

/-- Where notices of errors stand is of no account for the exchanges. -/
theorem calls_errorNotices (r : Request) (report? : Option Exception) :
    calls (r.errorNotices report?) = [] := by
  refine List.filter_eq_nil_iff.2 fun e he => ?_
  obtain ⟨report, -, rfl⟩ := List.mem_map.1 he
  simp [isNotice]

/-- What stands beside the exchanges is none. -/
theorem exchanges_aside {e : Event} (h : e.isAside = true) (events : List Event) :
    exchanges (e :: events) = exchanges events := by
  cases e with
  | wrote | read => cases h
  | logged => rfl
  | connected | compression | closed => rfl

theorem exchanges_exchange (a : Attempt) (events : List Event) :
    exchanges (a.events ++ (a.errorNotices ++ events)) =
      [a].filter Attempt.isSent ++ exchanges events := by
  have hpaired := paired_flatMap_events [a] (calls events)
  simp only [List.flatMap_cons, List.flatMap_nil, List.append_nil] at hpaired
  rw [exchanges, calls_append, calls_append, Attempt.calls_events, Attempt.errorNotices,
    calls_errorNotices]
  exact hpaired

namespace Hushed

variable {quiet loud quiet' loud' : List Event}

theorem append (h : Hushed quiet loud) (h' : Hushed quiet' loud') :
    Hushed (quiet ++ quiet') (loud ++ loud') := by
  induction h with
  | nil => exact h'
  | aside he _ ih => exact .aside he ih
  | exchange a _ ih =>
    simp only [List.append_assoc]
    exact .exchange a ih

/-- The same entry beside the exchanges is added to both. -/
theorem push {quiet loud : Array Event} (h : Hushed quiet.toList loud.toList) {e : Event}
    (he : e.isAside = true) : Hushed (quiet.push e).toList (loud.push e).toList := by
  rw [Array.toList_push, Array.toList_push]
  exact h.append (.aside he .nil)

/-- The one journal is what is left of the other without its notices of errors. -/
theorem eq_filter (h : Hushed quiet loud) : quiet = loud.filter (!·.isError) := by
  induction h with
  | nil => rfl
  | aside he _ ih => simp [isError_of_isAside he, ← ih]
  | exchange a _ ih =>
    have hevents : a.events.filter (!·.isError) = a.events :=
      List.filter_eq_self.2 fun e he => by simp [not_isError_of_mem_events he]
    have hnotices : a.errorNotices.filter (!·.isError) = [] :=
      List.filter_eq_nil_iff.2 fun e he => by simp [isError_of_mem_errorNotices he]
    rw [List.filter_append, List.filter_append, hevents, hnotices, ← ih, List.nil_append]

/-- The notices of errors are those of the exchanges in which the server reports an error. -/
theorem errors (h : Hushed quiet loud) :
    loud.filter isError = (exchanges loud).flatMap Attempt.errorNotices := by
  induction h with
  | nil => rfl
  | aside he _ ih => simp [isError_of_isAside he, exchanges_aside he, ih]
  | exchange a _ ih =>
    have hevents : a.events.filter isError = [] :=
      List.filter_eq_nil_iff.2 fun e he => by simp [not_isError_of_mem_events he]
    have hnotices : a.errorNotices.filter isError = a.errorNotices :=
      List.filter_eq_self.2 fun e he => isError_of_mem_errorNotices he
    rw [List.filter_append, List.filter_append, hevents, hnotices, ih, exchanges_exchange,
      List.flatMap_append, List.nil_append]
    congr 1
    cases hsent : a.isSent with
    | false => simp [hsent, Attempt.errorNotices_of_not_isSent hsent]
    | true => simp [hsent]

/-- Of the transport both tell the same. -/
theorem calls_eq (h : Hushed quiet loud) : calls quiet = calls loud := by
  induction h with
  | nil => rfl
  | aside _ _ ih =>
    simp only [calls, List.filter_cons] at ih ⊢
    rw [ih]
  | exchange a _ ih =>
    rw [calls_append, calls_append, calls_append, Attempt.errorNotices, calls_errorNotices, ih,
      List.nil_append]

end Hushed
end Event

/-! ## Connections -/

/-- The connection with another journal, and configured to log the errors of the server. -/
def Connection.voicing (c : Connection σ) (journal : Array Event) : Connection σ :=
  { c with config := { c.config with suppressErrors := false }, journal := journal }

/-- The second connection is the first one, but for the notices of errors that it logs. -/
inductive Connection.Hushed (c : Connection σ) : Connection σ → Prop where
  | voicing {journal : Array Event} : c.config.suppressErrors = true →
      Event.Hushed c.journal.toList journal.toList → Hushed c (c.voicing journal)

namespace Connection.Hushed

variable {c d : Connection σ}

theorem eq (h : c.Hushed d) : d = c.voicing d.journal := by
  cases h
  rfl

theorem journal (h : c.Hushed d) : Event.Hushed c.journal.toList d.journal.toList := by
  cases h with
  | voicing _ hjournal => exact hjournal

end Connection.Hushed

/-! ## Indifferent operations -/

/-- The operation returns the same on two such connections, and leaves two such connections. -/
def Quiet.IsIndifferent (x : Quiet σ α) : Prop :=
  ∀ ⦃c d : Connection σ⦄, c.Hushed d →
    (Quiet.on x c).1 = (Quiet.on x d).1 ∧ (Quiet.on x c).2.Hushed (Quiet.on x d).2

/-- The operation ends in the same way on two such connections, and leaves two such connections. -/
def Action.IsIndifferent (x : Action σ α) : Prop := Quiet.IsIndifferent x.attempt

namespace Quiet.IsIndifferent

theorem pure (a : α) : Quiet.IsIndifferent (Pure.pure a : Quiet σ α) := fun _ _ h => ⟨rfl, h⟩

theorem bind {x : Quiet σ α} {f : α → Quiet σ β} (hx : Quiet.IsIndifferent x)
    (hf : ∀ a, Quiet.IsIndifferent (f a)) : Quiet.IsIndifferent (x >>= f) := by
  intro c d h
  obtain ⟨hresult, hafter⟩ := hx h
  rw [Quiet.on_bind, Quiet.on_bind, ← hresult]
  exact hf _ hafter

/-- The journal is not looked at, and neither is whether errors are suppressed. -/
theorem get {f : Connection σ → Quiet σ α} (hsame : ∀ c journal, f (c.voicing journal) = f c)
    (hf : ∀ c, Quiet.IsIndifferent (f c)) : Quiet.IsIndifferent (MonadState.get >>= f) := by
  rintro c _ ⟨hmuted, hjournal⟩
  rw [Quiet.on_bind, Quiet.on_bind, Quiet.on_get, Quiet.on_get, hsame]
  exact hf c (.voicing hmuted hjournal)

/-- Something is changed beside the journal. -/
theorem modify {g : Connection σ → Connection σ}
    (hsame : ∀ c journal, g (c.voicing journal) = (g c).voicing journal)
    (hconfig : ∀ c, (g c).config = c.config) (hjournal : ∀ c, (g c).journal = c.journal) :
    Quiet.IsIndifferent (modify g) := by
  rintro c _ ⟨hmuted, hhushed⟩
  refine ⟨rfl, ?_⟩
  rw [Quiet.on_modify, Quiet.on_modify, hsame]
  exact .voicing (hconfig c ▸ hmuted) (hjournal c ▸ hhushed)

/-- A notice is logged that is none of an error. -/
theorem log {notice : Notice} (h : notice.level ≠ .error) :
    Quiet.IsIndifferent (Connection.log notice : Quiet σ Unit) := by
  rintro c _ ⟨hmuted, hjournal⟩
  exact ⟨rfl, .voicing hmuted (hjournal.push (by simp [Event.isAside, h]))⟩

theorem attempt {x : Action σ α} (h : x.IsIndifferent) : Quiet.IsIndifferent x.attempt := h

theorem ite {p : Prop} [Decidable p] {x y : Quiet σ α} (hx : Quiet.IsIndifferent x)
    (hy : Quiet.IsIndifferent y) : Quiet.IsIndifferent (if p then x else y) := by
  split
  · exact hx
  · exact hy

theorem forM {f : β → Quiet σ Unit} (h : ∀ b, Quiet.IsIndifferent (f b)) (bs : List β) :
    Quiet.IsIndifferent (bs.forM f) := by
  induction bs with
  | nil => exact .pure ()
  | cons b bs ih => exact .bind (h b) fun _ => ih

end Quiet.IsIndifferent

namespace Action.IsIndifferent

theorem pure (a : α) : (Pure.pure a : Action σ α).IsIndifferent := fun _ _ h => ⟨rfl, h⟩

theorem throw (fault : Fault) : (MonadExcept.throw fault : Action σ α).IsIndifferent :=
  fun _ _ h => ⟨rfl, h⟩

theorem ofExcept (result : Except Fault α) : (Action.ofExcept result : Action σ α).IsIndifferent :=
  fun _ _ h => ⟨rfl, h⟩

theorem bind {x : Action σ α} {f : α → Action σ β} (hx : x.IsIndifferent)
    (hf : ∀ a, (f a).IsIndifferent) : (x >>= f).IsIndifferent := by
  change Quiet.IsIndifferent (x.attempt >>= ExceptT.bindCont f)
  refine .bind hx fun result => ?_
  cases result with
  | ok a => exact hf a
  | error fault => exact .pure _

theorem get {f : Connection σ → Action σ α} (hsame : ∀ c journal, f (c.voicing journal) = f c)
    (hf : ∀ c, (f c).IsIndifferent) : (MonadState.get >>= f).IsIndifferent := by
  change Quiet.IsIndifferent (MonadState.get >>= fun c => (f c).attempt)
  exact .get (fun c journal => congrArg attempt (hsame c journal)) hf

theorem ofQuiet {x : Quiet σ α} (h : Quiet.IsIndifferent x) : (Action.ofQuiet x).IsIndifferent :=
  Quiet.IsIndifferent.bind h fun _ => .pure _

theorem modify {g : Connection σ → Connection σ}
    (hsame : ∀ c journal, g (c.voicing journal) = (g c).voicing journal)
    (hconfig : ∀ c, (g c).config = c.config) (hjournal : ∀ c, (g c).journal = c.journal) :
    (modify g : Action σ Unit).IsIndifferent :=
  ofQuiet (.modify hsame hconfig hjournal)

theorem note {notice : Notice} (h : notice.level ≠ .error) :
    (Connection.note notice : Action σ Unit).IsIndifferent :=
  ofQuiet (.log h)

/-- What is made of a fault has no part in it. -/
theorem mapFault {x : Action σ α} (h : x.IsIndifferent) (f : Fault → Fault) :
    (x.mapFault f).IsIndifferent :=
  Quiet.IsIndifferent.bind h fun _ => .pure _

theorem ite {p : Prop} [Decidable p] {x y : Action σ α} (hx : x.IsIndifferent)
    (hy : y.IsIndifferent) : (if p then x else y).IsIndifferent := by
  split
  · exact hx
  · exact hy

end Action.IsIndifferent

/-! ## Requests -/

namespace Connection

variable [Transport σ]

/-- The journals after an attempt, when an error has been reported in the second one. -/
theorem hushed_answered {c : Connection σ} {journal : Array Event}
    (h : Event.Hushed c.journal.toList journal.toList) (r : Request) :
    Event.Hushed (c.answered r).journal.toList
      (((c.voicing journal).answered r).journal.toList ++ (c.line.attempt r).errorNotices) := by
  have hannounced : Event.Hushed (c.announcement r) (c.announcement r) := by
    unfold announcement
    split
    · exact .nil
    · exact .aside rfl .nil
  have hexchange : Event.Hushed (c.line.attempt r).events
      ((c.line.attempt r).events ++ (c.line.attempt r).errorNotices) := by
    simpa using Event.Hushed.exchange (c.line.attempt r) .nil
  have hloud : ((c.voicing journal).answered r).journal =
      journal ++ (c.announcement r ++ (c.line.attempt r).events).toArray := rfl
  rw [hloud]
  simpa [answered] using h.append (hannounced.append hexchange)

/-- A request is answered and accepted in the same way whether its error is reported or not. -/
theorem send_indifferent (α : Type) [Payload α] (r : Request) (h : r.ReportsAs α) :
    (send α r : Action σ (Reply α)).IsIndifferent := by
  intro c d hcd
  obtain @⟨journal, hmuted, hjournal⟩ := hcd
  -- The notice stands behind both calls, so the journals fit again only after the message
  -- has been accepted, and not after each call.
  have hhushed := hushed_answered hjournal r
  have hattempt : (c.voicing journal).line.attempt r = c.line.attempt r := rfl
  change ((send α r).on c).1 = ((send α r).on (c.voicing journal)).1 ∧
    ((send α r).on c).2.Hushed ((send α r).on (c.voicing journal)).2
  rw [on_send, on_send, hattempt]
  cases hanswer : (c.line.attempt r).answer.message? with
  | error fault =>
    rw [Attempt.errorNotices_of_unanswered hanswer, List.append_nil] at hhushed
    exact ⟨rfl, .voicing hmuted hhushed⟩
  | ok json =>
    have hmessage : c.line.attempt r = ⟨r, .message json⟩ := Attempt.eq_of_message hanswer
    have hnotices : (c.line.attempt r).errorNotices =
        r.errorNotices ((⟨r, .message json⟩ : Attempt).serverError? α) := by
      rw [hmessage, ← h, Attempt.errorNotices]
    have hquiet : (c.answered r).config.suppressErrors = true := hmuted
    have hloud : ((c.voicing journal).answered r).config.suppressErrors = false := rfl
    rw [hnotices] at hhushed
    dsimp only
    rw [on_accept_eq, on_accept_eq, hquiet, hloud]
    refine ⟨rfl, .voicing hmuted ?_⟩
    rw [if_pos rfl, if_neg (by simp), Array.toList_append]
    exact hhushed

theorem ask_indifferent (α : Type) [Payload α] (r : Request) (h : r.ReportsAs α) :
    (ask α r : Action σ α).IsIndifferent :=
  .bind (send_indifferent α r h) fun _ => .ofExcept _

theorem tell_indifferent (r : Request) (h : r.ReportsAs Unit) :
    (tell r : Action σ Unit).IsIndifferent :=
  .bind (send_indifferent Unit r h) fun _ => .pure ()

/-! ## Other calls of the transport -/

theorem openTransport_indifferent : (openTransport : Action σ Unit).IsIndifferent := by
  rintro c _ ⟨hmuted, hjournal⟩
  exact ⟨rfl, .voicing hmuted (hjournal.push rfl)⟩

theorem setCompression_indifferent (enabled : Bool) :
    (setCompression enabled : Action σ Unit).IsIndifferent := by
  rintro c _ ⟨hmuted, hjournal⟩
  exact ⟨rfl, .voicing hmuted (hjournal.push rfl)⟩

theorem on_close_of_closed {c : Connection σ} (hclosed : c.isOpen = false) :
    Quiet.on close c = ((), c) := by
  simp [close, Quiet.on_modify, hclosed]

theorem close_indifferent : Quiet.IsIndifferent (close : Quiet σ Unit) := by
  intro c d hcd
  obtain @⟨journal, hmuted, hjournal⟩ := hcd
  cases hopen : c.isOpen with
  | false =>
    have hclosed : (c.voicing journal).isOpen = false := hopen
    rw [on_close_of_closed hopen, on_close_of_closed hclosed]
    exact ⟨rfl, .voicing hmuted hjournal⟩
  | true =>
    have hopen' : (c.voicing journal).isOpen = true := hopen
    rw [on_close hopen, on_close hopen']
    exact ⟨rfl, .voicing hmuted (hjournal.push rfl)⟩

end Connection
end ExasolClient
