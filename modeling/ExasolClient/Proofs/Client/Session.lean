-- SUMMARY: The calls that a session makes of its transport, from the first to the last.
import ExasolClient.Proofs.Client.Moves
import ExasolClient.Proofs.Exchange.Handshake

/-!
# Sessions

A session begins with a handshake and goes on in moves. All its operations share one
transport, whose calls are neither interleaved nor cut short: every request that the
transport takes is followed by one read, and after a close there is nothing more. Main
statement: whatever the transport does and whatever moves are made, the calls of a session
are a connect, exchanges, and at most one close, and compression is switched off once,
directly behind the handshake (`calls_of_session`).
-/

namespace ExasolClient

/-! ## Moves -/

section Moves

variable [Transport σ]

theorem Connection.disconnect_passes (c : Connection σ) :
    ∃ traffic, Passes c traffic (Quiet.on disconnect c).2 := by
  cases hopen : c.isOpen with
  | false =>
    rw [disconnect_of_closed hopen]
    exact ⟨[], .refl c⟩
  | true =>
    obtain ⟨talk, d, hleads, -, hclose⟩ := disconnect_leads hopen
    obtain ⟨traffic, hpasses, -⟩ := Passes.of_leads hleads
    rw [hclose]
    exact ⟨traffic ++ [], hpasses.trans (.close (hleads.isOpen.trans hopen))⟩

theorem Client.step_passes (x : Client σ) (move : Move) :
    ∃ traffic, Passes x.connection traffic (x.step move).connection := by
  by_cases hend : move = .call .disconnect
  · subst hend
    exact x.connection.disconnect_passes
  · by_cases hcancel : move = .call .cancel
    · subst hcancel
      exact ⟨[], .cancel x.connection⟩
    · obtain ⟨talk, cache, hleads⟩ := x.step_leads hend hcancel
      obtain ⟨traffic, hpasses, -⟩ := Passes.of_leads hleads
      exact ⟨traffic, hpasses⟩

/-- Whatever a client does, its moves are traffic over the line of its connection. -/
theorem Client.run_passes (x : Client σ) (moves : List Move) :
    ∃ traffic, Passes x.connection traffic (x.run moves).connection := by
  induction moves generalizing x with
  | nil => exact ⟨[], .refl x.connection⟩
  | cons move moves ih =>
    obtain ⟨traffic, hstep⟩ := x.step_passes move
    obtain ⟨more, hrest⟩ := ih (x.step move)
    exact ⟨traffic ++ more, hstep.trans hrest⟩

end Moves

/-! ## Exchanges -/

namespace Event

/-- A request that the transport does not take, or one that it takes and the read behind it. -/
inductive IsExchange : List Event → Prop where
  | unwritten (r : Request) (fault : Fault) : IsExchange [.wrote r (some fault)]
  | answered (r : Request) (reply : Except Fault Json) : IsExchange [.wrote r none, .read reply]

/--
Every request that the transport takes is followed by a read at once, and there is no read
anywhere else.
-/
def Alternates : List Event → Prop
  | .wrote _ none :: .read _ :: rest => Alternates rest
  | .wrote _ none :: _ | .read _ :: _ => False
  | _ :: rest => Alternates rest
  | [] => True

theorem IsExchange.alternates {exchange rest : List Event} (h : IsExchange exchange)
    (hrest : Alternates rest) : Alternates (exchange ++ rest) := by
  cases h with
  | unwritten r fault => exact hrest
  | answered r reply => exact hrest

theorem alternates_flatten {exchanges : List (List Event)} {rest : List Event}
    (h : ∀ e ∈ exchanges, IsExchange e) (hrest : Alternates rest) :
    Alternates (exchanges.flatten ++ rest) := by
  induction exchanges with
  | nil => exact hrest
  | cons e exchanges ih =>
    rw [List.flatten_cons, List.append_assoc]
    exact (h e List.mem_cons_self).alternates (ih fun e he => h e (List.mem_cons_of_mem _ he))

end Event

theorem Attempt.isExchange_events {a : Attempt} (h : a.isSent = true) :
    Event.IsExchange a.events := by
  obtain ⟨request, answer⟩ := a
  cases answer with
  | cancelled | closed => cases h
  | unwritten fault => exact .unwritten request fault
  | unread fault => exact .answered request (.error fault)
  | message json => exact .answered request (.ok json)

/-- The calls of a traffic are the exchanges of those attempts that were sent. -/
theorem exchanges_of_traffic (traffic : List (Sending σ)) : ∃ exchanges : List (List Event),
    (∀ e ∈ exchanges, Event.IsExchange e) ∧
      traffic.flatMap (·.attempt.events) = exchanges.flatten := by
  induction traffic with
  | nil => exact ⟨[], (fun _ he => nomatch he), rfl⟩
  | cons s traffic ih =>
    obtain ⟨exchanges, hexchanges, hflat⟩ := ih
    cases hsent : s.attempt.isSent with
    | false =>
      refine ⟨exchanges, hexchanges, ?_⟩
      rw [List.flatMap_cons, hflat, Attempt.events_of_not_isSent hsent, List.nil_append]
    | true =>
      refine ⟨s.attempt.events :: exchanges, fun e he => ?_, ?_⟩
      · rcases List.mem_cons.1 he with rfl | he
        · exact Attempt.isExchange_events hsent
        · exact hexchanges e he
      · rw [List.flatMap_cons, hflat, List.flatten_cons]

/-! ## Sessions -/

open Connection

section Session

variable [Transport σ]

/-- A client that connects and then makes its moves, unless there is no connection. -/
def session (host : ClientHost) (config : Config) (peer : σ) (cancelled : Bool)
    (moves : List Move) : Client σ :=
  match connect host config peer cancelled with
  | (.ok (), c) => Client.run { connection := c } moves
  | (.error _, c) => { connection := c }

/-- What every move keeps is kept by all moves. -/
theorem Client.run_induction {P : Client σ → Prop} (hstep : ∀ x move, P x → P (x.step move))
    {x : Client σ} (h : P x) (moves : List Move) : P (x.run moves) := by
  induction moves generalizing x with
  | nil => exact h
  | cons move moves ih => exact ih (hstep x move h)

/-- What holds of a connection at first and is kept by every move holds in every session. -/
theorem session_induction {P : Client σ → Prop} {host : ClientHost} {config : Config} {peer : σ}
    {cancelled : Bool} (hstart : P { connection := (connect host config peer cancelled).2 })
    (hstep : ∀ x move, P x → P (x.step move)) (moves : List Move) :
    P (session host config peer cancelled moves) := by
  unfold session
  split
  next c hconnect =>
    rw [hconnect] at hstart
    exact Client.run_induction hstep hstart moves
  next fault c hconnect =>
    rw [hconnect] at hstart
    exact hstart

/-- What becomes of the connection of a session, and whether that is established. -/
inductive Courses (config : Config) (peer : σ) (cancelled : Bool) :
    (established : Bool) → Connection σ → Prop where
  /-- The mode asks for encryption. -/
  | refused : config.tlsMode.isEnabled = true →
      Courses config peer cancelled false (begun config peer cancelled)
  /-- The transport does not connect. -/
  | unreached {fault : Fault} : config.tlsMode.isEnabled = false →
      (reaching config peer).result = .error fault →
      Courses config peer cancelled false (reached config peer cancelled)
  /-- The handshake fails. -/
  | failed {traffic : List (Sending σ)} {d : Connection σ} : config.tlsMode.isEnabled = false →
      (reaching config peer).result = .ok () →
      Passes (connected config peer cancelled) traffic d → d.isOpen = false →
      Courses config peer cancelled false d
  | established {greeting rest : List (Sending σ)} {c d : Connection σ} {key reply : Json}
      {credentials : Credentials} {info : SessionInfo} : config.tlsMode.isEnabled = false →
      (reaching config peer).result = .ok () →
      Passes (connected config peer cancelled) greeting c →
      greeting.map Sending.attempt = [⟨.login protocolVersion, .message key⟩,
        ⟨.authenticate credentials, .message reply⟩] →
      c.isOpen = true → Passes (c.entered info) rest d → Courses config peer cancelled true d

theorem session_courses (host : ClientHost) (config : Config) (peer : σ) (cancelled : Bool)
    (moves : List Move) :
    Courses config peer cancelled (connect host config peer cancelled).1.isOk
      (session host config peer cancelled moves).connection := by
  let client : Except Fault Unit × Connection σ → Client σ
    | (.ok (), c) => Client.run { connection := c } moves
    | (.error _, c) => { connection := c }
  change Courses config peer cancelled _ (client (connect host config peer cancelled)).connection
  apply connect_cases host peer cancelled (motive := fun outcome =>
    Courses config peer cancelled outcome.1.isOk (client outcome).connection)
  · intro htls fault
    exact .refused htls
  · intro htls cause fault hreached
    exact .unreached htls hreached
  · intro htls hreached c cause hleads _
    obtain ⟨greeting, hpasses, -⟩ := Passes.of_leads hleads
    have hopen : c.isOpen = true := hleads.isOpen
    refine .failed htls hreached (hpasses.trans (.close hopen)) ?_
    rw [on_close hopen]
  · intro htls hreached c info hleads hverdict
    obtain ⟨greeting, hpasses, htalk⟩ := Passes.of_leads hleads
    obtain ⟨rest, hrest⟩ := Client.run_passes { connection := c.entered info } moves
    obtain ⟨key, password, reply, -, hgreetings⟩ := Line.answered_of_verdict hverdict
    exact .established htls hreached hpasses (htalk.trans hgreetings) hleads.isOpen hrest

/-! ## Their calls -/

/-- The calls that a connection has made of its transport so far. -/
def Connection.calls (c : Connection σ) : List Event := Event.calls c.journal.toList

/-- The calls of a handshake with which a session is established. -/
def greeting (credentials : Credentials) (key reply : Json) : List Event :=
  [.wrote (.login protocolVersion) none, .read (.ok key),
    .wrote (.authenticate credentials) none, .read (.ok reply), .compression false]

/-- The close of a transport, unless that is still open. -/
def closing (isOpen : Bool) : List Event := if isOpen then [] else [.closed]

theorem alternates_closing (isOpen : Bool) : Event.Alternates (closing isOpen) := by
  cases isOpen <;> trivial

theorem Passes.calls_of_open {c d : Connection σ} {traffic : List (Sending σ)}
    (h : Passes c traffic d) (hopen : c.isOpen = true) :
    d.calls = c.calls ++ (traffic.flatMap (·.attempt.events) ++ closing d.isOpen) := by
  rw [Connection.calls, h.calls, hopen]
  cases d.isOpen <;> rfl

theorem calls_close {c : Connection σ} (hopen : c.isOpen = true) :
    (Quiet.on close c).2.calls = c.calls ++ [.closed] := by
  rw [on_close hopen]
  exact (congrArg Event.calls Array.toList_push).trans (Event.calls_append _ _)

/-- The calls of a talk are added to the earlier ones. -/
theorem Leads.calls {c d : Connection σ} {talk : List Attempt} {cache : StatementCache}
    (h : Leads c talk cache d) : d.calls = c.calls ++ talk.flatMap Attempt.events := by
  obtain ⟨events, hjournal, hcalls⟩ := h.journal
  rw [Connection.calls, hjournal, Event.calls_append, hcalls, Connection.calls]

variable {host : ClientHost} {config : Config} {peer : σ} {cancelled established : Bool}
  {c d : Connection σ} {traffic first rest : List (Sending σ)} {info : SessionInfo}

theorem calls_reached : (reached config peer cancelled).calls =
    [reachedEvent config (fault? (reaching config peer).result)] := rfl

theorem calls_connected (h : (reaching config peer).result = .ok ()) :
    (connected config peer cancelled).calls = [reachedEvent config none] := by
  have hcalls : (connected config peer cancelled).calls =
      (reached config peer cancelled).calls := rfl
  rw [hcalls, calls_reached, h]
  rfl

theorem calls_entered (c : Connection σ) (info : SessionInfo) :
    (c.entered info).calls = c.calls ++ [.compression false] := by
  unfold calls entered
  rw [Array.toList_push, Array.toList_push, Event.calls_append, Event.calls_append,
    List.append_assoc]
  rfl

/-- The calls of a handshake that fails. -/
theorem calls_failed (hok : (reaching config peer).result = .ok ())
    (hpasses : Passes (connected config peer cancelled) traffic d) (hclosed : d.isOpen = false) :
    d.calls = reachedEvent config none :: (traffic.flatMap (·.attempt.events) ++ [.closed]) := by
  rw [hpasses.calls_of_open rfl, calls_connected hok, hclosed]
  rfl

/-- The calls of a handshake that succeeds, and of all that comes after it. -/
theorem calls_established (hok : (reaching config peer).result = .ok ())
    (hfirst : Passes (connected config peer cancelled) first c) (hopen : c.isOpen = true)
    (hrest : Passes (c.entered info) rest d) :
    d.calls = reachedEvent config none :: (first.flatMap (·.attempt.events) ++
      .compression false :: (rest.flatMap (·.attempt.events) ++ closing d.isOpen)) := by
  rw [hrest.calls_of_open hopen, calls_entered, hfirst.calls_of_open rfl, calls_connected hok,
    hopen]
  simp [closing]

theorem Courses.calls_refused (h : Courses config peer cancelled established d)
    (htls : config.tlsMode.isEnabled = true) : established = false ∧ d.calls = [] := by
  cases h with
  | refused => exact ⟨rfl, rfl⟩
  | unreached hplain _ | failed hplain _ _ _ | established hplain _ _ _ _ _ =>
    rw [htls] at hplain
    cases hplain

theorem Courses.calls_unreached (h : Courses config peer cancelled established d)
    (htls : config.tlsMode.isEnabled = false) (fault : Fault)
    (hfault : (reaching config peer).result = .error fault) :
    established = false ∧ d.calls = [reachedEvent config (some fault)] := by
  cases h with
  | refused hrefused =>
    rw [htls] at hrefused
    cases hrefused
  | unreached =>
    rw [calls_reached, hfault]
    exact ⟨rfl, rfl⟩
  | failed _ hok _ _ | established _ hok _ _ _ _ =>
    rw [hfault] at hok
    cases hok

/-- The calls of a session that has connected. -/
theorem Courses.calls (h : Courses config peer cancelled established d)
    (htls : config.tlsMode.isEnabled = false) (hok : (reaching config peer).result = .ok ()) :
    Event.Alternates d.calls ∧ ∃ exchanges : List (List Event),
      (∀ e ∈ exchanges, Event.IsExchange e) ∧
      if established then ∃ credentials key reply, d.calls = reachedEvent config none ::
        (greeting credentials key reply ++ (exchanges.flatten ++ closing d.isOpen))
      else d.calls = reachedEvent config none :: (exchanges.flatten ++ [.closed]) := by
  cases h with
  | refused hrefused =>
    rw [htls] at hrefused
    cases hrefused
  | unreached _ hfault =>
    rw [hok] at hfault
    cases hfault
  | @failed traffic _ _ _ hpasses hclosed =>
    obtain ⟨exchanges, hexchanges, hflat⟩ := exchanges_of_traffic traffic
    rw [calls_failed hok hpasses hclosed, hflat]
    exact ⟨Event.alternates_flatten hexchanges trivial, exchanges, hexchanges, rfl⟩
  | @established first rest _ _ key reply credentials _ _ _ hfirst hgreeting hopen hrest =>
    obtain ⟨exchanges, hexchanges, hflat⟩ := exchanges_of_traffic rest
    have hgreet : first.flatMap (·.attempt.events) ++ [.compression false] =
        greeting credentials key reply := by
      rw [← List.flatMap_map, hgreeting]
      rfl
    rw [calls_established hok hfirst hopen hrest, hflat, List.append_cons, hgreet]
    exact ⟨Event.alternates_flatten hexchanges (alternates_closing d.isOpen), exchanges,
      hexchanges, credentials, key, reply, rfl⟩

/--
A session whose mode asks for encryption makes no call of the transport at all, and one whose
transport does not connect makes no other call. Otherwise the connect is followed by exchanges
one after the other, each of which is a failed write, or a write and the one read behind it.
A handshake that fails closes the transport behind them. One that succeeds consists of two
exchanges that were answered, directly behind which compression is switched off; whatever
moves follow, they make no other calls than exchanges and at most one close, which is the
last call.
-/
theorem calls_of_session (host : ClientHost) (config : Config) (peer : σ) (cancelled : Bool)
    (moves : List Move) :
    let established := (connect host config peer cancelled).1.isOk
    let d := (session host config peer cancelled moves).connection
    (config.tlsMode.isEnabled = true → established = false ∧ d.calls = []) ∧
    (config.tlsMode.isEnabled = false → ∀ fault, (reaching config peer).result = .error fault →
      established = false ∧ d.calls = [reachedEvent config (some fault)]) ∧
    (config.tlsMode.isEnabled = false → (reaching config peer).result = .ok () →
      Event.Alternates d.calls ∧ ∃ exchanges : List (List Event),
        (∀ e ∈ exchanges, Event.IsExchange e) ∧
        if established then ∃ credentials key reply, d.calls = reachedEvent config none ::
          (greeting credentials key reply ++ (exchanges.flatten ++ closing d.isOpen))
        else d.calls = reachedEvent config none :: (exchanges.flatten ++ [.closed])) := by
  have hcourses := session_courses host config peer cancelled moves
  exact ⟨hcourses.calls_refused, hcourses.calls_unreached, hcourses.calls⟩

end Session

end ExasolClient
