-- SUMMARY: The session attributes that a connection holds are what the server reported so far.
import ExasolClient.Proofs.Client.Session
import ExasolClient.Proofs.Wire.Merging

/-!
# Session attributes

A reply may report session attributes, whether or not it reports an error. What the
connection holds of them is a cache, and the journal is enough to rebuild it: pair the reads
with the writes before them, read each message as the reply to its request, and take for each
name the last value that these replies report (`Connection.reports`, `Attributes.Collects`).
Main statement: no request, however it ends, and no other step breaks this
(`Connection.Informed`), so it holds in every session (`attributes_of_session`).
-/

namespace ExasolClient

/-! ## Reports -/

/-- The attributes that a message reports, if it is a reply with a payload of type `α`. -/
def reportIn (α : Type) [Payload α] (json : Json) : Option Attributes :=
  (Reply.decode (Payload.decode : Json → Option α) json).bind Reply.attributes

theorem reportedAs_eq (α : Type) [Payload α] (json : Json) :
    reportedAs α json = (reportIn α json).getD .empty := by
  unfold reportedAs reportIn
  cases Reply.decode (Payload.decode : Json → Option α) json <;> rfl

/-- The attributes that a message reports, if it is a reply to the request. -/
def Request.report? : Request → Json → Option Attributes
  | .login _ => reportIn Crypto.OfferedKey
  | .authenticate _ => reportIn SessionInfo
  | .execute _ _ | .executePrepared _ _ _ _ _ => reportIn ExecuteResult
  | .prepare _ _ => reportIn PrepareResult
  | .fetch _ _ _ => reportIn Chunk
  | .getAttributes | .setAttributes _ | .closeStatement _ | .closeResultSets _ | .disconnect =>
    reportIn Unit

theorem Request.reported_eq (r : Request) (json : Json) :
    r.reported json = (r.report? json).getD .empty := by
  cases r <;> exact reportedAs_eq _ json

namespace Attempt

/-- The attributes that the reply reports, if there is a reply that does. -/
def report? (a : Attempt) : Option Attributes :=
  match a.answer with
  | .message json => a.request.report? json
  | .cancelled | .closed | .unwritten _ | .unread _ => none

theorem attributes_eq (a : Attempt) : a.attributes = a.report?.getD .empty := by
  obtain ⟨request, answer⟩ := a
  cases answer with
  | message json => exact request.reported_eq json
  | cancelled | closed | unwritten _ | unread _ => rfl

theorem report?_of_not_isSent {a : Attempt} (h : a.isSent = false) : a.report? = none := by
  obtain ⟨request, answer⟩ := a
  cases answer with
  | cancelled | closed => rfl
  | unwritten _ | unread _ | message _ => cases h

/-- What was not sent reports nothing. -/
theorem reports_sent (talk : List Attempt) :
    (talk.filter isSent).filterMap report? = talk.filterMap report? :=
  filterMap_filter_isSent (fun _ => report?_of_not_isSent) talk

/-- The attributes that come with a talk are those of its reports. -/
theorem foldl_attributes (talk : List Attempt) (known : Attributes) :
    talk.foldl (fun known a => known.merge a.attributes) known =
      (talk.filterMap report?).foldl Attributes.merge known := by
  induction talk generalizing known with
  | nil => rfl
  | cons a talk ih =>
    rw [List.foldl_cons, ih, a.attributes_eq]
    cases h : a.report? with
    | none => simp [h]
    | some report => simp [h]

end Attempt

/-- Under each name, as it is on the wire, there is the last value that was reported. -/
def Attributes.Collects (a : Attributes) (reports : List Attributes) : Prop :=
  ∀ name, a.encode.get? name = (reports.filterMap fun report => report.encode.get? name).getLast?

/-- Where nothing was reported nothing is known. -/
theorem Attributes.collects_nil : Attributes.empty.Collects [] := fun _ => rfl

/-- Further reports are merged into what is known, the oldest first. -/
theorem Attributes.Collects.append {a : Attributes} {reports : List Attributes}
    (h : a.Collects reports) (more : List Attributes) :
    (more.foldl merge a).Collects (reports ++ more) := by
  intro name
  rw [get?_foldl_merge, h name, List.filterMap_append, List.getLast?_append]

/-! ## Exchanges of a whole journal -/

namespace Event

/--
Where every request that was taken is followed by its read, whatever comes next neither
splits nor joins an exchange.
-/
theorem Alternates.append {first : List Event} (h : Alternates first) (rest : List Event) :
    paired (first ++ rest) = paired first ++ paired rest ∧
      (Alternates rest → Alternates (first ++ rest)) := by
  induction first using Alternates.induct with
  | case1 r reply first ih =>
    cases reply with
    | error fault | ok json => exact (ih h).imp_left (congrArg (_ :: ·))
  | case2 | case3 => simp_all [Alternates]
  | case4 event first hno hno' hno'' ih =>
    have hfirst : Alternates first := by simp_all [Alternates]
    cases event with
    | wrote r fault =>
      cases fault with
      | none => exact absurd rfl (hno' r)
      | some fault => exact (ih hfirst).imp_left (congrArg (_ :: ·))
    | read reply => exact absurd rfl (hno'' reply)
    | connected _ _ _ _ | compression _ | closed | logged _ => exact ih hfirst
  | case5 => exact ⟨rfl, id⟩

/-- The calls of a talk are found again as those of its attempts that were sent. -/
theorem paired_events (talk : List Attempt) :
    paired (talk.flatMap Attempt.events) = talk.filter Attempt.isSent := by
  have hpaired := paired_flatMap_events talk []
  rw [List.append_nil] at hpaired
  exact hpaired.trans (List.append_nil _)

theorem alternates_flatMap_events (talk : List Attempt) :
    Alternates (talk.flatMap Attempt.events) := by
  induction talk with
  | nil => trivial
  | cons a talk ih =>
    obtain ⟨request, answer⟩ := a
    cases answer <;> exact ih

end Event

/-! ## What a connection was told -/

namespace Connection

/-- The reports of all replies that a connection has received, the oldest first. -/
def reports (c : Connection σ) : List Attributes :=
  (Event.exchanges c.journal.toList).filterMap Attempt.report?

theorem reports_eq (c : Connection σ) :
    c.reports = (Event.paired c.calls).filterMap Attempt.report? := rfl

/-- A connection knows what it was told, and its journal tells its exchanges apart. -/
structure Informed (c : Connection σ) : Prop where
  alternates : Event.Alternates c.calls
  attributes : c.attributes.Collects c.reports

namespace Informed

variable {c d : Connection σ} {events : List Event}

theorem reports_append (h : c.Informed) (hcalls : d.calls = c.calls ++ events) :
    d.reports = c.reports ++ (Event.paired events).filterMap Attempt.report? := by
  rw [reports_eq, reports_eq, hcalls, (h.alternates.append events).1, List.filterMap_append]

/-- A connection stays informed if it merges the reports of its further calls. -/
theorem extend (h : c.Informed) (hcalls : d.calls = c.calls ++ events)
    (halternates : Event.Alternates events)
    (hattributes : d.attributes =
      ((Event.paired events).filterMap Attempt.report?).foldl Attributes.merge c.attributes) :
    d.Informed where
  alternates := hcalls ▸ (h.alternates.append events).2 halternates
  attributes := by
    rw [hattributes, h.reports_append hcalls]
    exact h.attributes.append _

theorem entered (h : c.Informed) [Transport σ] (info : SessionInfo) : (c.entered info).Informed :=
  h.extend (calls_entered c info) trivial rfl

variable [Transport σ] {talk : List Attempt} {cache : StatementCache}

theorem reports_leads (h : c.Informed) (hleads : Leads c talk cache d) :
    d.reports = c.reports ++ talk.filterMap Attempt.report? := by
  rw [h.reports_append hleads.calls, Event.paired_events, Attempt.reports_sent]

theorem leads (h : c.Informed) (hleads : Leads c talk cache d) : d.Informed := by
  apply h.extend hleads.calls (Event.alternates_flatMap_events talk)
  rw [hleads.attributes, Attempt.foldl_attributes, Event.paired_events, Attempt.reports_sent]

theorem close (h : c.Informed) (hopen : c.isOpen = true) :
    (Quiet.on Connection.close c).2.Informed := by
  refine h.extend (calls_close hopen) trivial ?_
  rw [on_close hopen]
  rfl

theorem disconnect (h : c.Informed) : (Quiet.on Connection.disconnect c).2.Informed := by
  cases hopen : c.isOpen with
  | false =>
    rw [disconnect_of_closed hopen]
    exact h
  | true =>
    obtain ⟨talk, d, hleads, -, hclose⟩ := disconnect_leads hopen
    rw [hclose]
    exact (h.leads hleads).close (hleads.isOpen.trans hopen)

end Informed

/-! ## One request -/

section Send

variable [Transport σ]

/--
A request changes the attributes only if a message comes that is a reply of the type which the
request asks for: those of the reply, be it a success or an error, override those from before.
-/
theorem attributes_send (α : Type) [Payload α] (r : Request) (c : Connection σ) :
    let known := ((send α r).on c).2.attributes
    match (c.line.attempt r).answer with
    | .cancelled | .closed | .unwritten _ | .unread _ => known = c.attributes
    | .message json => match Reply.decode (Payload.decode : Json → Option α) json with
      | none => known = c.attributes
      | some reply =>
        known.encode.IsUnion c.attributes.encode (reply.attributes.getD .empty).encode := by
  intro known
  have hon := on_send α r c
  cases hanswer : (c.line.attempt r).answer with
  | cancelled | closed | unwritten _ | unread _ =>
    rw [hanswer] at hon
    exact congrArg (·.2.attributes) hon
  | message json =>
    rw [hanswer] at hon
    obtain ⟨-, notices, haccept⟩ := on_accept α r json (c.answered r)
    have hknown : known = c.attributes.merge (reportedAs α json) :=
      (congrArg (·.2.attributes) hon).trans (congrArg (·.attributes) haccept)
    unfold reportedAs at hknown
    dsimp only
    cases hdecode : Reply.decode (Payload.decode : Json → Option α) json with
    | none =>
      rw [hdecode] at hknown
      exact hknown.trans (Attributes.merge_empty _)
    | some reply =>
      rw [hdecode] at hknown
      rw [hknown]
      exact Attributes.encode_merge _ _

/-- A request leaves a connection informed that reads the reply as what the request asks for. -/
theorem Informed.send {c : Connection σ} (h : c.Informed) {α : Type} [Payload α] {r : Request}
    (hr : r.Promises α) : ((Connection.send α r).on c).2.Informed :=
  h.leads (send_yields α r hr c).leads

/-- Whoever asks for the attributes is given what the connection was told until then. -/
theorem Informed.refreshAttributes {c : Connection σ} (h : c.Informed) :
    let a := c.line.attempt .getAttributes
    let d := (Connection.refreshAttributes.on c).2
    d.reports = c.reports ++ a.report?.toList ∧ d.attributes.Collects d.reports ∧
      (Connection.refreshAttributes.on c).1 =
        ((a.reply Unit).map fun _ => d.attributes).mapError
          (.context "Unable to get session attributes") := by
  intro a d
  let asked : Action σ Unit :=
    Action.within "Unable to get session attributes" (tell .getAttributes)
  have hasked : asked.Yields c [a] c.statements _ :=
    (tell_yields .getAttributes rfl c).mapFault (.context "Unable to get session attributes")
  have hinformed := h.leads hasked.leads
  have hreports : (asked.on c).2.reports = c.reports ++ a.report?.toList := by
    rw [h.reports_leads hasked.leads]
    cases hreport : a.report? <;> simp [hreport]
  have hreturns := hasked.returns
  have hon : Connection.refreshAttributes.on c =
      (((a.reply Unit).map fun _ => (asked.on c).2.attributes).mapError
        (.context "Unable to get session attributes"), (asked.on c).2) := by
    cases hreply : a.reply Unit with
    | error fault =>
      rw [hreply] at hreturns
      exact Action.on_bind_error hreturns
    | ok reply =>
      rw [hreply] at hreturns
      exact Action.on_bind_ok hreturns
  have hd : d = (asked.on c).2 := congrArg Prod.snd hon
  rw [hd, hon]
  exact ⟨hreports, hinformed.attributes, rfl⟩

end Send

end Connection

/-! ## Sessions -/

section Session

variable [Transport σ]

open Connection

theorem Connection.informed_connect (host : ClientHost) (config : Config) (peer : σ)
    (cancelled : Bool) : (connect host config peer cancelled).2.Informed := by
  have hstart : (connected config peer cancelled).Informed := ⟨trivial, Attributes.collects_nil⟩
  apply connect_cases host peer cancelled (motive := fun outcome => outcome.2.Informed)
  · exact fun _ _ => ⟨trivial, Attributes.collects_nil⟩
  · exact fun _ _ _ _ => ⟨trivial, Attributes.collects_nil⟩
  · exact fun _ _ d cause hleads _ => (hstart.leads hleads).close hleads.isOpen
  · exact fun _ _ d info hleads _ => (hstart.leads hleads).entered info

theorem Client.informed_step (x : Client σ) (h : x.connection.Informed) (move : Move) :
    (x.step move).connection.Informed := by
  by_cases hend : move = .call .disconnect
  · subst hend
    exact h.disconnect
  · by_cases hcancel : move = .call .cancel
    · subst hcancel
      exact ⟨h.alternates, h.attributes⟩
    · obtain ⟨talk, cache, hleads⟩ := x.step_leads hend hcancel
      exact h.leads hleads

theorem informed_session (host : ClientHost) (config : Config) (peer : σ) (cancelled : Bool)
    (moves : List Move) : (session host config peer cancelled moves).connection.Informed :=
  session_induction (P := fun x => x.connection.Informed)
    (informed_connect host config peer cancelled) (fun x move h => x.informed_step h move) moves

/--
At every moment of a session there is under each name of an attribute the last value that was
reported by the replies so far, of those that were read as the type which their request asks for.
A single request changes the attributes in no other way: where it is not sent, not taken or not
answered, or where the answer is malformed, they stay as they are, and otherwise those of the reply
override them, which may report an error as well. So they are right between any two requests of an
operation too. Who asks for the attributes is given those that include the reply to this question.
-/
theorem attributes_of_session (host : ClientHost) (config : Config) (peer : σ) (cancelled : Bool)
    (moves : List Move) :
    let d := (session host config peer cancelled moves).connection
    d.attributes.Collects d.reports ∧
    (∀ (c : Connection σ) (α : Type) [Payload α] (r : Request),
      (let known := ((send α r).on c).2.attributes
       match (c.line.attempt r).answer with
        | .cancelled | .closed | .unwritten _ | .unread _ => known = c.attributes
        | .message json => match Reply.decode (Payload.decode : Json → Option α) json with
          | none => known = c.attributes
          | some reply =>
            known.encode.IsUnion c.attributes.encode (reply.attributes.getD .empty).encode) ∧
      (r.Promises α → c.Informed → ((send α r).on c).2.Informed)) ∧
    (let a := d.line.attempt .getAttributes
     let e := (refreshAttributes.on d).2
     e.reports = d.reports ++ a.report?.toList ∧ e.attributes.Collects e.reports ∧
      (refreshAttributes.on d).1 = ((a.reply Unit).map fun _ => e.attributes).mapError
        (.context "Unable to get session attributes")) := by
  intro d
  have hd := informed_session host config peer cancelled moves
  refine ⟨hd.attributes, ?_, hd.refreshAttributes⟩
  intro c α _ r
  exact ⟨attributes_send α r c, fun hr hc => hc.send hr⟩

end Session

end ExasolClient
