-- SUMMARY: Which request the message belongs to that is accepted in answer to a request.
import ExasolClient.Proofs.Client.Session
import ExasolClient.Rehearsal.Server

/-!
# Correlation

Messages carry no mark of the request that they answer: the message that is read next is
taken for the answer to the request just written. A transport that queues its replies keeps
one for each request that it took, until it is read (`Queues`). Then nothing is lost and
nothing is overtaken (`Queues.conserved`), but a read that fails leaves its reply in the
queue, and the client goes on. Main statement: so the message that is accepted for a request
is the reply to the request taken as many requests before as reads have failed so far
(`Sending.Displaced`, `replies_displaced`).
-/

namespace ExasolClient

/-! ## Attempts -/

namespace Attempt

/-- The transport took the request. -/
def isTaken (a : Attempt) : Bool :=
  match a.answer with
  | .unread _ | .message _ => true
  | .cancelled | .closed | .unwritten _ => false

/-- The transport took the request, but the read behind it failed. -/
def isLost (a : Attempt) : Bool :=
  match a.answer with
  | .unread _ => true
  | .cancelled | .closed | .unwritten _ | .message _ => false

/-- The message that was accepted as the answer. -/
def accepted? (a : Attempt) : Option Json :=
  match a.answer with
  | .message json => some json
  | .cancelled | .closed | .unwritten _ | .unread _ => none

theorem answer_of_accepted {a : Attempt} {json : Json} (h : a.accepted? = some json) :
    a.answer = .message json := by
  obtain ⟨request, answer⟩ := a
  cases answer with
  | message reply => exact congrArg Answer.message (Option.some.inj h)
  | cancelled | closed | unwritten _ | unread _ => cases h

end Attempt

/-! ## Queues of replies -/

/--
A transport that keeps a queue of replies: each request that it takes adds the reply to that
request at the end, a read takes the first one, and whatever fails leaves the queue as it is.
-/
structure Queues [Transport σ] (pending : σ → List Json) (replyTo : σ → Request → Json) :
    Prop where
  connect : ∀ endpoint mode timeout p, (Transport.connect endpoint mode timeout p).result = .ok () →
    pending (Transport.connect endpoint mode timeout p).next = []
  compression : ∀ enabled p, pending (Transport.setCompression enabled p) = pending p
  taken : ∀ p (r : Request), (Transport.write r.encode p).result = .ok () →
    pending (Transport.write r.encode p).next = pending p ++ [replyTo p r]
  untaken : ∀ p (r : Request) fault, (Transport.write r.encode p).result = .error fault →
    pending (Transport.write r.encode p).next = pending p
  received : ∀ p json, (Transport.read p).result = .ok json →
    pending p = json :: pending (Transport.read p).next
  lost : ∀ p fault, (Transport.read p).result = .error fault →
    pending (Transport.read p).next = pending p

namespace Sending

/-- The reply to the request, if the transport took it. -/
def reply? (replyTo : σ → Request → Json) (s : Sending σ) : Option Json :=
  if s.attempt.isTaken then some (replyTo s.peer s.attempt.request) else none

/-- The messages that were accepted, in their order. -/
def accepted (traffic : List (Sending σ)) : List Json :=
  traffic.filterMap (·.attempt.accepted?)

/-- The replies to the requests that were taken, in their order. -/
def replies (replyTo : σ → Request → Json) (traffic : List (Sending σ)) : List Json :=
  traffic.filterMap (reply? replyTo)

/-- Counted backwards from the last one of all that were taken, the one at place `n`. -/
def takenBack? (traffic : List (Sending σ)) (n : Nat) : Option (Sending σ) :=
  (traffic.filter (·.attempt.isTaken)).reverse[n]?

/-- For every request that was taken a message is accepted, or the read has failed. -/
theorem length_replies (replyTo : σ → Request → Json) (traffic : List (Sending σ)) :
    (replies replyTo traffic).length =
      (accepted traffic).length + traffic.countP (·.attempt.isLost) := by
  induction traffic with
  | nil => rfl
  | cons s traffic ih =>
    obtain ⟨peer, request, answer⟩ := s
    unfold replies accepted at ih ⊢
    cases answer <;>
      simp [reply?, Attempt.isTaken, Attempt.isLost, Attempt.accepted?, ih] <;> omega

/-- Counted backwards, the replies are those to the requests that were taken. -/
theorem reverse_replies (replyTo : σ → Request → Json) (traffic : List (Sending σ)) (n : Nat) :
    (replies replyTo traffic).reverse[n]? =
      (takenBack? traffic n).map fun s => replyTo s.peer s.attempt.request := by
  have hreplies : replies replyTo traffic =
      (traffic.filter (·.attempt.isTaken)).map fun s => replyTo s.peer s.attempt.request := by
    induction traffic with
    | nil => rfl
    | cons s traffic ih =>
      unfold replies at ih ⊢
      cases htaken : s.attempt.isTaken <;> simp [reply?, htaken, ih]
  rw [hreplies, ← List.map_reverse, List.getElem?_map, takenBack?]

/--
Each message that was accepted is the reply to the request that was taken as many requests
before as reads have failed until then: to the request itself as long as none has failed,
to an earlier one from then on.
-/
def Displaced (replyTo : σ → Request → Json) (traffic : List (Sending σ)) : Prop :=
  ∀ before s after json, traffic = before ++ s :: after → s.attempt.accepted? = some json →
    let lost := before.countP (·.attempt.isLost)
    ∃ earlier, takenBack? (before ++ [s]) lost = some earlier ∧
      json = replyTo earlier.peer earlier.attempt.request ∧
      (lost = 0 → earlier = s) ∧ (0 < lost → earlier ∈ before)

/-- Backwards from a request that was taken comes that request first, and then those before. -/
theorem takenBack?_append {before : List (Sending σ)} {s earlier : Sending σ} {n : Nat}
    (hs : s.attempt.isTaken = true) (h : takenBack? (before ++ [s]) n = some earlier) :
    (n = 0 → earlier = s) ∧ (0 < n → earlier ∈ before) := by
  have hreverse : ((before ++ [s]).filter (·.attempt.isTaken)).reverse =
      s :: (before.filter (·.attempt.isTaken)).reverse := by
    simp [hs]
  rw [takenBack?, hreverse] at h
  cases n with
  | zero => exact ⟨fun _ => (Option.some.inj h).symm, nofun⟩
  | succ n =>
    have hmem := List.mem_of_getElem? (List.getElem?_cons_succ.symm.trans h)
    exact ⟨nofun, fun _ => (List.mem_filter.1 (List.mem_reverse.1 hmem)).1⟩

end Sending

open Sending

section Queues

variable [Transport σ] {pending : σ → List Json} {replyTo : σ → Request → Json} {l m : Line σ}
  {traffic before after : List (Sending σ)} {s : Sending σ}

/-- What one attempt adds to the queue, and what it takes from it. -/
theorem Queues.attempt (law : Queues pending replyTo) (l : Line σ) (r : Request) :
    pending l.peer ++ replies replyTo [⟨l.peer, l.attempt r⟩] =
      accepted [⟨l.peer, l.attempt r⟩] ++ pending (l.after r).peer := by
  unfold Line.attempt Line.after
  cases hlive : l.isCancelled with
  | true =>
    rw [l.answer_of_cancelled r hlive]
    exact List.append_nil _
  | false =>
    cases hopen : l.isOpen with
    | false =>
      rw [l.answer_of_closed r hlive hopen]
      exact List.append_nil _
    | true =>
      cases hwrite : (Transport.write r.encode l.peer).result with
      | error fault =>
        rw [l.answer_of_untaken r hlive hopen hwrite]
        exact (List.append_nil _).trans (law.untaken _ _ _ hwrite).symm
      | ok _ =>
        have hqueued : pending (l.offered r).peer = pending l.peer ++ [replyTo l.peer r] :=
          law.taken _ _ hwrite
        rw [l.answer_of_taken r hlive hopen hwrite]
        cases hread : (Transport.read (l.offered r).peer).result with
        | error fault =>
          have hleft := law.lost _ _ hread
          simp [Line.listen, hread, replies, reply?, accepted, Attempt.isTaken, Attempt.accepted?,
            hleft, hqueued]
        | ok json =>
          have hfront := law.received _ _ hread
          simp [Line.listen, hread, replies, reply?, accepted, Attempt.isTaken, Attempt.accepted?,
            ← hfront, hqueued]

/--
As long as the line is open, each reply is accepted or still queued, in the order of the
requests.
-/
theorem Queues.conserved (law : Queues pending replyTo) (h : Traffic l traffic m)
    (hopen : m.isOpen = true) :
    pending l.peer ++ replies replyTo traffic = accepted traffic ++ pending m.peer := by
  induction h with
  | done => exact List.append_nil _
  | @attempt l _ r rest _ ih =>
    have hfirst := law.attempt l r
    have hreplies : replies replyTo (⟨l.peer, l.attempt r⟩ :: rest) =
        replies replyTo [⟨l.peer, l.attempt r⟩] ++ replies replyTo rest :=
      List.filterMap_append (l := [_])
    have haccepted : accepted (⟨l.peer, l.attempt r⟩ :: rest) =
        accepted [⟨l.peer, l.attempt r⟩] ++ accepted rest :=
      List.filterMap_append (l := [_])
    rw [hreplies, haccepted, ← List.append_assoc, hfirst, List.append_assoc, ih hopen,
      List.append_assoc]
  | compress enabled _ ih =>
    rw [← ih hopen, law.compression]
  | cancel _ ih => exact ih hopen
  | close hrest _ => cases hrest.isOpen hopen

/-- As long as the line is open, as many replies are queued as reads have failed. -/
theorem Queues.length_pending (law : Queues pending replyTo) (hstart : pending l.peer = [])
    (h : Traffic l traffic m) (hopen : m.isOpen = true) :
    (pending m.peer).length = traffic.countP (·.attempt.isLost) := by
  have hconserved := law.conserved h hopen
  have hcounted := length_replies replyTo traffic
  rw [hstart, List.nil_append] at hconserved
  rw [hconserved, List.length_append] at hcounted
  omega

/-- Traffic that starts with an empty queue is displaced by the reads that fail. -/
theorem Queues.displaced (law : Queues pending replyTo) (hstart : pending l.peer = [])
    (h : Traffic l traffic m) : Displaced replyTo traffic := by
  rintro before s after json rfl hjson
  obtain ⟨line, r, hbefore, rfl, -⟩ := h.split
  have hanswer : (line.attempt r).answer = .message json := Attempt.answer_of_accepted hjson
  have hopen : (line.after r).isOpen = true := by
    rw [line.isOpen_after]
    refine Bool.of_not_eq_false fun hclosed => ?_
    have hunsent := line.not_isSent_attempt r hclosed
    rw [Attempt.isSent, hanswer] at hunsent
    cases hunsent
  have htaken : (line.attempt r).isTaken = true := by
    rw [Attempt.isTaken, hanswer]
  have hsofar : Traffic l (before ++ [⟨line.peer, line.attempt r⟩]) (line.after r) :=
    hbefore.append (.attempt (.done _))
  have hreplies : replies replyTo (before ++ [⟨line.peer, line.attempt r⟩]) =
      accepted before ++ json :: pending (line.after r).peer := by
    have hconserved := law.conserved hsofar hopen
    rw [hstart, List.nil_append] at hconserved
    simp [hconserved, accepted, hjson]
  have hqueued : (pending (line.after r).peer).length = before.countP (·.attempt.isLost) := by
    rw [law.length_pending hstart hsofar hopen]
    simp [List.countP_append, Attempt.isLost, hanswer]
  -- Behind the accepted message wait just the replies of the reads that failed.
  have hplace : (replies replyTo (before ++ [⟨line.peer, line.attempt r⟩])).reverse[
      before.countP (·.attempt.isLost)]? = some json := by
    rw [hreplies, ← hqueued]
    simp
  rw [reverse_replies, Option.map_eq_some_iff] at hplace
  obtain ⟨earlier, hearlier, hreply⟩ := hplace
  exact ⟨earlier, hearlier, hreply.symm, takenBack?_append htaken hearlier⟩

end Queues

/-! ## Sessions -/

section Session

open Connection

theorem Event.paired_traffic (traffic : List (Sending σ)) (rest : List Event) :
    Event.paired (traffic.flatMap (·.attempt.events) ++ rest) =
      (traffic.map Sending.attempt).filter Attempt.isSent ++ Event.paired rest := by
  rw [← Event.paired_flatMap_events, List.flatMap_map]

theorem Event.paired_closing (isOpen : Bool) : Event.paired (closing isOpen) = [] := by
  cases isOpen <;> rfl

variable [Transport σ] {config : Config} {peer : σ} {cancelled established : Bool}
  {d : Connection σ}

/-- The exchanges of a session are the traffic over the line that was connected for it. -/
theorem Courses.traffic (h : Courses config peer cancelled established d) :
    Event.exchanges d.journal.toList = [] ∨
      (reaching config peer).result = .ok () ∧ ∃ traffic,
        Traffic (connected config peer cancelled).line traffic d.line ∧
        Event.exchanges d.journal.toList =
          (traffic.map Sending.attempt).filter Attempt.isSent := by
  have hexchanges : Event.exchanges d.journal.toList = Event.paired d.calls := rfl
  rw [hexchanges]
  cases h with
  | refused _ | unreached _ _ => exact .inl rfl
  | @failed traffic _ _ hok hpasses hclosed =>
    refine .inr ⟨hok, traffic, hpasses.line, ?_⟩
    rw [calls_failed hok hpasses hclosed]
    exact (Event.paired_traffic traffic [.closed]).trans (List.append_nil _)
  | @established first rest _ _ _ _ _ _ _ hok hfirst _ hopen hrest =>
    refine .inr ⟨hok, first ++ rest, hfirst.line.append (.compress false hrest.line), ?_⟩
    rw [calls_established hok hfirst hopen hrest]
    have hbehind : Event.paired (.compression false ::
        (rest.flatMap (·.attempt.events) ++ closing d.isOpen)) =
          (rest.map Sending.attempt).filter Attempt.isSent := by
      refine (Event.paired_traffic rest (closing d.isOpen)).trans ?_
      rw [Event.paired_closing, List.append_nil]
    refine (Event.paired_traffic first _).trans ?_
    rw [hbehind, List.map_append, List.filter_append]

/--
Over a transport that queues its replies, the messages that a session accepts are displaced
by the reads that fail.
-/
theorem replies_displaced {pending : σ → List Json} {replyTo : σ → Request → Json}
    (law : Queues pending replyTo) (host : ClientHost) (config : Config) (peer : σ)
    (cancelled : Bool) (moves : List Move) :
    let d := (session host config peer cancelled moves).connection
    Event.exchanges d.journal.toList = [] ∨ ∃ traffic,
      Traffic (connected config peer cancelled).line traffic d.line ∧
      Event.exchanges d.journal.toList = (traffic.map Sending.attempt).filter Attempt.isSent ∧
      Displaced replyTo traffic := by
  intro d
  refine (session_courses host config peer cancelled moves).traffic.imp_right ?_
  rintro ⟨hok, traffic, htraffic, hexchanges⟩
  have hstart : pending (connected config peer cancelled).line.peer = [] :=
    law.connect _ _ _ _ hok
  exact ⟨traffic, htraffic, hexchanges, law.displaced hstart htraffic⟩

end Session

/-! ## A lost reply -/

section Mailbox

open Connection Rehearsal

/-- A server whose replies are kept until they are read. -/
structure Mailbox where
  waiting : List Json := []
  /-- For each of the next reads, whether it fails. -/
  outages : List Bool := []

namespace Mailbox

/-- The reply to a message: a statement affects as many rows as its text has characters. -/
def replyTo (message : Json) : Json :=
  let command := commandOf message
  if command = "execute" then
    outcome "rowCount" (.int (((message.get? "sqlText").bind Json.str?).getD "").toList.length)
  else
    let server : Server := { script := [], modulus := "e3b0c44298fc1c149afbf5", exponent := "3" }
    server.unscripted command

/-- The fault of a read that fails. -/
def outage : Fault := .connection .disconnected "no message" none

instance : Transport Mailbox where
  connect _ _ _ p := { result := .ok (), next := { p with waiting := [] } }
  setCompression _ p := p
  write message p :=
    { result := .ok (), next := { p with waiting := p.waiting ++ [replyTo message] } }
  read p :=
    let rest := { p with outages := p.outages.tail }
    match p.outages.headD false, p.waiting with
    | false, json :: waiting => { result := .ok json, next := { rest with waiting } }
    | _, _ => { result := .error outage, next := rest }
  close p := p

theorem queues : Queues waiting fun _ r => replyTo r.encode where
  connect _ _ _ _ _ := rfl
  compression _ _ := rfl
  taken _ _ _ := rfl
  untaken _ _ _ h := nomatch h
  received p json h := by
    dsimp only [Transport.read] at h ⊢
    split at h
    · cases h
      assumption
    · cases h
  lost p fault h := by
    dsimp only [Transport.read] at h ⊢
    split at h
    · cases h
    · rfl

/-- A client machine whose password is padded with ones. -/
def onesHost : ClientHost where
  os := ""
  user := ""
  filler := ⟨fun _ => 1, fun _ => by decide⟩
  describePem _ := ""

/-- A server from which nothing comes back for the third request. -/
def silentOnce : Mailbox where
  outages := [false, false, true]

def firstUpdate : Request := .execute "UPDATE t" none

def secondUpdate : Request := .execute "UPDATE t SET a = 1" none

/-- A session of two statements, in which the reply to the first one is not read. -/
def interrupted : Client Mailbox :=
  session onesHost {} silentOnce false
    [.call (.execute "UPDATE t" {}), .call (.execute "UPDATE t SET a = 1" {})]

/-- The messages of the interrupted session are displaced. -/
theorem interrupted_displaced :
    let d := interrupted.connection
    ∃ traffic, Traffic (connected {} silentOnce false).line traffic d.line ∧
      Event.exchanges d.journal.toList = (traffic.map Sending.attempt).filter Attempt.isSent ∧
      Displaced (fun _ r => replyTo r.encode) traffic := by
  refine (replies_displaced queues onesHost {} silentOnce false _).resolve_left fun hnone => ?_
  have hcount : (Event.exchanges interrupted.connection.journal.toList).length = 4 := by
    decide +kernel
  have hzero := congrArg List.length hnone
  exact absurd (hcount.symm.trans hzero) (by decide)

/--
The read behind the first statement fails, the second one is written all the same, and the
message that is accepted for it is the reply to the first one.
-/
theorem reply_of_other_request :
    Queues waiting (fun _ r => replyTo r.encode) ∧
    ((Event.exchanges interrupted.connection.journal.toList).drop 2).map
        (fun a => (a.request, a.isTaken, a.accepted?)) =
      [(firstUpdate, true, none), (secondUpdate, true, some (replyTo firstUpdate.encode))] ∧
    replyTo secondUpdate.encode ≠ replyTo firstUpdate.encode :=
  ⟨queues, by decide +kernel, by decide +kernel⟩

end Mailbox
end Mailbox

end ExasolClient
