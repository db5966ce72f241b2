-- SUMMARY: What a successful handshake guarantees, and what is left behind by one that fails.
import ExasolClient.Proofs.Client.Correlation
import ExasolClient.Proofs.Client.Recording

/-!
# Logins

A handshake takes two exchanges, each of which can fail in many ways, and between them the
password is encrypted. The line on which it begins decides all of this (`Line.cipher`,
`Line.verdict`), so what a handshake says and how it ends is read off from there. What its two
messages are is said of the tape of the transport (`Json.Greets`, `Json.Authenticates`). Main
statement: a session is established only by two answered messages, and whatever goes wrong
closes the transport and names the step that failed (`handshake_safe`).
-/

namespace ExasolClient

/-! ## Messages -/

/-- The request that is handed to the transport. -/
def Event.written? : Event → Option Request
  | .wrote r _ => some r
  | .connected _ _ _ _ | .read _ | .compression _ | .closed | .logged _ => none

/-- The requests that a connection has handed to its transport, the oldest first. -/
def Connection.written (c : Connection σ) : List Request := c.calls.filterMap Event.written?

theorem Attempt.written_events (talk : List Attempt) :
    (talk.flatMap Attempt.events).filterMap Event.written? =
      (talk.filter Attempt.isSent).map Attempt.request := by
  induction talk with
  | nil => rfl
  | cons a talk ih =>
    obtain ⟨request, answer⟩ := a
    rw [List.flatMap_cons, List.filterMap_append, ih]
    cases answer <;> rfl

theorem Attempt.closed_not_mem_events (talk : List Attempt) :
    Event.closed ∉ talk.flatMap Attempt.events := by
  intro hmem
  obtain ⟨⟨request, answer⟩, -, hevent⟩ := List.mem_flatMap.1 hmem
  cases answer <;> simp [Attempt.events] at hevent

/-- The messages that are written are the requests, in their form on the wire. -/
theorem Event.messages_calls (events : List Event) :
    Call.messages (events.filterMap call?) = (events.filterMap written?).map Request.encode := by
  rw [Call.messages, List.filterMap_filterMap, List.map_filterMap]
  congr 1
  funext event
  cases event <;> rfl

/-- A message that begins a handshake. -/
def Json.Greets (message : Json) : Prop :=
  message.Holds [("command", some (.str "login")), ("protocolVersion", some (.int 1))]

/-- A message that completes a handshake, with the attributes that the session begins with. -/
def Json.Authenticates (message : Json) (host : ClientHost) (config : Config) (password : String) :
    Prop :=
  ∃ attributes : Json,
    attributes.Holds [
      ("autocommit", some (.bool true)),
      ("queryTimeout", config.queryTimeoutSeconds.map fun seconds => .int seconds.toNat)] ∧
    message.Holds [
      ("username", some (.str config.user)),
      ("password", some (.str password)),
      ("useCompression", some (.bool false)),
      ("clientName", some (.str config.clientName)),
      ("driverName", some (.str driverName)),
      ("clientOs", some (.str host.os)),
      ("clientOsUsername", some (.str host.user)),
      ("clientVersion", some (.str config.clientVersion)),
      ("clientRuntime", some (.str clientRuntime)),
      ("attributes", some attributes)]

theorem greets_login : (Request.login protocolVersion).encode.Greets :=
  (Request.login protocolVersion).holds_encode

theorem authenticates_credentials (host : ClientHost) (config : Config) (password : String) :
    (Request.authenticate (Connection.credentials host config password)).encode.Authenticates host
      config password := by
  let attributes : Attributes :=
    { autocommit := some true, queryTimeout := config.queryTimeoutSeconds }
  -- Of the attributes only these two may have a value.
  have hset : attributes.encode = .ofMembers [
      ("autocommit", some (.bool true)),
      ("queryTimeout", config.queryTimeoutSeconds.map .ofUInt64)] := by
    cases hseconds : config.queryTimeoutSeconds <;>
      simp [attributes, Attributes.encode, Attributes.members, Json.ofMembers, hseconds]
  refine ⟨attributes.encode, ?_, Request.holds_encode _⟩
  rw [hset]
  exact Json.holds_ofMembers (by simp)

/-! ## The time limit -/

/-- A time limit is sent in whole seconds, and only if there is at least one. -/
theorem Config.queryTimeoutSeconds_eq_some_iff (config : Config) (seconds : UInt64) :
    config.queryTimeoutSeconds = some seconds ↔ ∃ timeout, config.queryTimeout = some timeout ∧
      1000 ≤ timeout.millis ∧ seconds = timeout.wholeSeconds := by
  have hwhole : ∀ timeout : Duration, 0 < timeout.wholeSeconds ↔ 1000 ≤ timeout.millis := by
    intro timeout
    have hdiv : timeout.wholeSeconds.toNat = timeout.millis.toNat / 1000 := UInt64.toNat_div _ _
    rw [UInt64.lt_iff_toNat_lt, UInt64.le_iff_toNat_le, hdiv]
    change 0 < timeout.millis.toNat / 1000 ↔ 1000 ≤ timeout.millis.toNat
    omega
  unfold queryTimeoutSeconds
  cases config.queryTimeout with
  | none => simp
  | some timeout =>
    simp only [Option.map_some, Option.filter_eq_some_iff, Option.some.injEq, decide_eq_true_eq]
    constructor
    · rintro ⟨rfl, hpositive⟩
      exact ⟨timeout, rfl, (hwhole timeout).1 hpositive, rfl⟩
    · rintro ⟨_, rfl, hlong, rfl⟩
      exact ⟨rfl, (hwhole timeout).2 hlong⟩

/-! ## Connecting -/

open Connection

section Established

variable [Transport σ] {host : ClientHost} {config : Config} {peer : σ} {cancelled : Bool}

/-- The calls of a handshake with which a session is established. -/
def exchanged (config : Config) (login key auth reply : Json) : List Call := [
  .connect config.endpoint config.tlsMode config.connectTimeout none,
  .write login none, .read (.ok key), .write auth none, .read (.ok reply), .setCompression false]

/-- What the session of a connection rests on, by what was written and read for it. -/
structure Established (host : ClientHost) (config : Config) (offer : Crypto.OfferedKey)
    (password : String) (info : SessionInfo) (d : Connection (Taped σ)) : Prop where
  encrypted : offer.encrypt host.filler config.password = .ok password
  nonzero : info.sessionId ≠ 0
  tape : ∃ login key auth reply, login.Greets ∧ key.Brings offer ∧
    auth.Authenticates host config password ∧ reply.Brings info ∧
    d.peer.tape = exchanged config login key auth reply
  session : d.session = info
  statements : d.statements = .empty
  isOpen : d.isOpen = true

theorem tape_of_connect : (connect host config (Taped.blank peer) cancelled).2.peer.tape =
    (connect host config (Taped.blank peer) cancelled).2.calls.filterMap Event.call? :=
  (journaled_connect host _ cancelled).tape_eq

/-- A session that is established was brought by the second of two answers, the first of which
has brought the key. -/
theorem Line.brings_of_verdict {l : Line σ} {info : SessionInfo}
    (h : l.verdict host config = .ok info) :
    ∃ (offer : Crypto.OfferedKey) (password : String) (key reply : Json),
      offer.encrypt host.filler config.password = .ok password ∧ info.sessionId ≠ 0 ∧
      key.Brings offer ∧ reply.Brings info ∧
      l.greetings host config = [⟨.login protocolVersion, .message key⟩,
        ⟨.authenticate (credentials host config password), .message reply⟩] := by
  obtain ⟨key, password, reply, hcipher, hgreetings⟩ := answered_of_verdict h
  obtain ⟨hboth, hadmission⟩ := verdict_of_ok hcipher
  obtain ⟨offer, hoffer, hencrypt⟩ := key_of_cipher hcipher
  obtain ⟨hinfo, hnonzero⟩ := Attempt.payload_of_admission (hadmission.symm.trans h)
  obtain ⟨hfirst, hrest⟩ := List.cons.inj (hboth.symm.trans hgreetings)
  obtain ⟨hsecond, -⟩ := List.cons.inj hrest
  rw [hfirst] at hoffer
  rw [hsecond] at hinfo
  obtain ⟨_, ⟨⟩, hkey⟩ := Attempt.brings_of_payload hoffer
  obtain ⟨_, ⟨⟩, hreply⟩ := Attempt.brings_of_payload hinfo
  exact ⟨offer, password, key, reply, hencrypt, hnonzero, hkey, hreply, hgreetings⟩

theorem established_of_connect
    (h : (connect host config (Taped.blank peer) cancelled).1 = .ok ()) :
    (reaching config (Taped.blank peer)).result = .ok () ∧ ∃ offer password info,
      Established host config offer password info
        (connect host config (Taped.blank peer) cancelled).2 := by
  have htape := @tape_of_connect σ _ host config peer cancelled
  revert h htape
  apply connect_cases host (Taped.blank peer) cancelled (motive := fun outcome =>
    outcome.1 = .ok () → outcome.2.peer.tape = outcome.2.calls.filterMap Event.call? →
      (reaching config (Taped.blank peer)).result = .ok () ∧ ∃ offer password info,
        Established host config offer password info outcome.2)
  · exact fun _ _ h => nomatch h
  · exact fun _ _ _ _ h => nomatch h
  · exact fun _ _ _ _ _ _ h => nomatch h
  · intro _ hok e info hleads hverdict _ htape
    obtain ⟨offer, password, key, reply, hencrypt, hnonzero, hkey, hreply, hgreetings⟩ :=
      Line.brings_of_verdict hverdict
    refine ⟨hok, offer, password, info, hencrypt, hnonzero, ?_, rfl, hleads.statements,
      hleads.isOpen⟩
    refine ⟨_, key, _, reply, greets_login, hkey, authenticates_credentials host config password,
      hreply, ?_⟩
    rw [htape, calls_entered, hleads.calls, calls_connected hok, hgreetings]
    rfl

end Established

section GivenUp

variable [Transport σ] {host : ClientHost} {config : Config} {peer : σ} {cancelled : Bool}

/-- What is left behind by a handshake over line `l` that fails. -/
structure GivenUp (host : ClientHost) (config : Config) (l : Line σ) (cause : Fault)
    (d : Connection σ) : Prop where
  verdict : l.verdict host config = .error cause
  calls : d.calls = reachedEvent config none ::
    ((l.greetings host config).flatMap Attempt.events ++ [.closed])
  statements : d.statements = .empty
  isOpen : d.isOpen = false

theorem givenUp_of_connect (htls : config.tlsMode.isEnabled = false)
    (hok : (reaching config peer).result = .ok ()) {fault : Fault}
    (h : (connect host config peer cancelled).1 = .error fault) :
    ∃ cause, fault = .context "Unable to login to Exasol" cause ∧
      GivenUp host config (connected config peer cancelled).line cause
        (connect host config peer cancelled).2 := by
  revert h
  apply connect_cases host peer cancelled (motive := fun outcome => outcome.1 = .error fault →
    ∃ cause, fault = .context "Unable to login to Exasol" cause ∧
      GivenUp host config (connected config peer cancelled).line cause outcome.2)
  · intro hrefused
    cases htls.symm.trans hrefused
  · intro _ cause _ hunreached
    cases hok.symm.trans hunreached
  · intro _ _ e cause hleads hverdict h
    cases h
    have hopen : e.isOpen = true := hleads.isOpen
    refine ⟨cause, rfl, hverdict, ?_, ?_, ?_⟩
    · rw [calls_close hopen, hleads.calls, calls_connected hok]
      rfl
    · rw [on_close hopen]
      exact hleads.statements
    · rw [on_close hopen]
  · exact fun _ _ _ _ _ _ h => nomatch h

/-- A transport is handed the first message of a handshake, or both, or none. -/
theorem written_greetings (l : Line σ) (host : ClientHost) (config : Config) :
    ((l.greetings host config).filter Attempt.isSent).map Attempt.request <+:
      match l.cipher host config with
      | .error _ => [.login protocolVersion]
      | .ok password =>
        [.login protocolVersion, .authenticate (credentials host config password)] := by
  cases hcipher : l.cipher host config with
  | error fault =>
    rw [(Line.verdict_of_error hcipher).1]
    cases hsent : (l.attempt (.login protocolVersion)).isSent with
    | false =>
      rw [List.filter_cons_of_neg (Bool.not_eq_true _ ▸ hsent)]
      exact List.nil_prefix
    | true =>
      rw [List.filter_cons_of_pos hsent]
      exact List.prefix_refl _
  | ok password =>
    obtain ⟨offer, hoffer, -⟩ := Line.key_of_cipher hcipher
    obtain ⟨key, hkey⟩ := Attempt.answered_of_payload hoffer
    have hfirst : (l.attempt (.login protocolVersion)).isSent = true := by
      rw [hkey]
      rfl
    rw [(Line.verdict_of_ok hcipher).1, List.filter_cons_of_pos hfirst]
    cases hsent : (l.authentication host config password).isSent with
    | false =>
      rw [List.filter_cons_of_neg (Bool.not_eq_true _ ▸ hsent)]
      exact List.prefix_append [_] [_]
    | true =>
      rw [List.filter_cons_of_pos hsent]
      exact List.prefix_refl _

namespace GivenUp

variable {l : Line σ} {cause : Fault} {d : Connection σ}

/-- The transport is closed at last, and once. -/
theorem closed_last (h : GivenUp host config l cause d) :
    ∃ before, d.calls = before ++ [.closed] ∧ .closed ∉ before := by
  refine ⟨reachedEvent config none :: (l.greetings host config).flatMap Attempt.events,
    h.calls, ?_⟩
  intro hmem
  rcases List.mem_cons.1 hmem with heq | hmem
  · cases heq
  · exact Attempt.closed_not_mem_events _ hmem

theorem written (h : GivenUp host config l cause d) :
    d.written <+: match l.cipher host config with
      | .error _ => [.login protocolVersion]
      | .ok password =>
        [.login protocolVersion, .authenticate (credentials host config password)] := by
  have hwritten : d.written =
      ((l.greetings host config).filter Attempt.isSent).map Attempt.request := by
    rw [← Attempt.written_events]
    refine (congrArg (List.filterMap Event.written?) h.calls).trans ?_
    exact List.filterMap_append.trans (List.append_nil _)
  rw [hwritten]
  exact written_greetings l host config

/-- The cause is about the step that failed. -/
theorem kind (h : GivenUp host config l cause d) :
    match l.cipher host config with
    | .error fault => fault = cause ∧ ∃ message source, cause = .connection .login message source
    | .ok _ => ∃ message source, cause = .connection .authentication message source := by
  have hverdict := h.verdict
  cases hcipher : l.cipher host config with
  | error fault =>
    obtain rfl : fault = cause :=
      Except.error.inj ((Line.verdict_of_error hcipher).2.symm.trans hverdict)
    exact ⟨rfl, Line.kind_of_cipher hcipher⟩
  | ok password =>
    exact Attempt.kind_of_admission ((Line.verdict_of_ok hcipher).2.symm.trans hverdict)

end GivenUp

section OnTape

variable {d : Connection (Taped σ)} {l : Line (Taped σ)} {cause : Fault}

/-- The transport is closed at last, and once. -/
theorem GivenUp.tape_closed (h : GivenUp host config l cause d)
    (htape : d.peer.tape = d.calls.filterMap Event.call?) :
    ∃ before, d.peer.tape = before ++ [.close] ∧ .close ∉ before := by
  obtain ⟨before, hcalls, hnone⟩ := h.closed_last
  refine ⟨before.filterMap Event.call?, ?_, fun hmem => ?_⟩
  · rw [htape, hcalls, List.filterMap_append]
    rfl
  · obtain ⟨event, hevent, hclose⟩ := List.mem_filterMap.1 hmem
    cases event with
    | closed => exact hnone hevent
    | connected | wrote | read | compression | logged => cases hclose

/-- What is written is the first message of a handshake, or both, or nothing. -/
theorem GivenUp.messages (h : GivenUp host config l cause d)
    (htape : d.peer.tape = d.calls.filterMap Event.call?) :
    match l.cipher host config with
    | .error _ => ∃ login, login.Greets ∧ Call.messages d.peer.tape <+: [login]
    | .ok password => ∃ login auth, login.Greets ∧ auth.Authenticates host config password ∧
      Call.messages d.peer.tape <+: [login, auth] := by
  have hwritten := h.written.map Request.encode
  have hmessages : Call.messages d.peer.tape = d.written.map Request.encode := by
    rw [htape]
    exact Event.messages_calls d.calls
  rw [← hmessages] at hwritten
  cases hcipher : l.cipher host config with
  | error fault =>
    rw [hcipher] at hwritten
    exact ⟨_, greets_login, hwritten⟩
  | ok password =>
    rw [hcipher] at hwritten
    exact ⟨_, _, greets_login, authenticates_credentials host config password, hwritten⟩

end OnTape

/--
Without encryption a connection is established only if the transport has connected, the
server has sent a key with which the password can be encrypted, and the answer to that names
a session, which is not zero. Then two messages were written and answered, and compression
was switched off behind them, once. The second message asks for automatic commits, and for
the configured time limit if that is a second or more.

If the transport has connected and there is no session all the same, the transport was closed,
as the last call and not before. Either the first message was not answered by a key that can be
used: then nothing but this message was written, and the fault is about the login. Or the second
one was not answered by a session: then nothing else was written, and the fault is about the
authentication.
-/
theorem handshake_safe (host : ClientHost) (config : Config) (peer : σ) (cancelled : Bool)
    (htls : config.tlsMode = .disable) :
    let blank := Taped.blank peer
    let l := (connected config blank cancelled).line
    let d := (connect host config blank cancelled).2
    ((connect host config blank cancelled).1 = .ok () →
      (reaching config blank).result = .ok () ∧ ∃ offer password info,
        Established host config offer password info d) ∧
    (∀ fault, (connect host config blank cancelled).1 = .error fault →
      (reaching config blank).result = .ok () →
        (∃ before, d.peer.tape = before ++ [.close] ∧ .close ∉ before) ∧
        d.isOpen = false ∧ d.statements = .empty ∧
        match l.cipher host config with
        | .error cause =>
          (∃ message source, cause = .connection .login message source) ∧ fault.root = cause ∧
          ∃ login : Json, login.Greets ∧ Call.messages d.peer.tape <+: [login]
        | .ok password =>
          (∃ message source, fault.root = .connection .authentication message source) ∧
          ∃ login auth : Json, login.Greets ∧ auth.Authenticates host config password ∧
            Call.messages d.peer.tape <+: [login, auth]) ∧
    ∀ seconds, config.queryTimeoutSeconds = some seconds ↔ ∃ timeout,
      config.queryTimeout = some timeout ∧ 1000 ≤ timeout.millis ∧
        seconds = timeout.wholeSeconds := by
  intro blank l d
  have hplain : config.tlsMode.isEnabled = false := by
    rw [htls]
    rfl
  refine ⟨established_of_connect, ?_, config.queryTimeoutSeconds_eq_some_iff⟩
  intro fault h hok
  have htape : d.peer.tape = d.calls.filterMap Event.call? := tape_of_connect
  obtain ⟨cause, rfl, hgivenUp⟩ := givenUp_of_connect hplain hok h
  refine ⟨hgivenUp.tape_closed htape, hgivenUp.isOpen, hgivenUp.statements, ?_⟩
  have hmessages := hgivenUp.messages htape
  have hkind := hgivenUp.kind
  cases hcipher : l.cipher host config with
  | error fault =>
    rw [hcipher] at hmessages hkind
    obtain ⟨rfl, message, source, hlogin⟩ := hkind
    refine ⟨⟨message, source, hlogin⟩, ?_, hmessages⟩
    rw [hlogin]
    rfl
  | ok password =>
    rw [hcipher] at hmessages hkind
    obtain ⟨message, source, hauthentication⟩ := hkind
    refine ⟨⟨message, source, ?_⟩, hmessages⟩
    rw [hauthentication]
    rfl

end GivenUp

/-! ## A session with a time limit -/

/-- A configuration that limits queries to a minute and a half. -/
def limited : Config where
  queryTimeout := some (.ofSeconds 90)

open Mailbox in
/-- The calls and the session of a handshake that asks for the limit. -/
theorem handshake_of_limited :
    let d := (connect onesHost limited (Taped.blank ({} : Mailbox)) false).2
    ∃ login key auth reply attributes, d.peer.tape = exchanged limited login key auth reply ∧
      login.get? "protocolVersion" = some (.int 1) ∧ auth.get? "attributes" = some attributes ∧
      attributes.get? "autocommit" = some (.bool true) ∧
      attributes.get? "queryTimeout" = some (.int 90) ∧
      d.session.sessionId ≠ 0 ∧ d.statements = .empty := by
  obtain ⟨hestablished, -, hseconds⟩ := handshake_safe onesHost limited ({} : Mailbox) false rfl
  have hisOk : (connect onesHost limited (Taped.blank ({} : Mailbox)) false).1.isOk = true := by
    decide +kernel
  have hok : (connect onesHost limited (Taped.blank ({} : Mailbox)) false).1 = .ok () := by
    cases hresult : (connect onesHost limited (Taped.blank ({} : Mailbox)) false).1 with
    | ok _ => rfl
    | error fault =>
      rw [hresult] at hisOk
      cases hisOk
  obtain ⟨-, offer, password, info, hsession⟩ := hestablished hok
  obtain ⟨login, key, auth, reply, hlogin, -, ⟨attributes, hset, hauth⟩, -, htape⟩ := hsession.tape
  have hlimit := (hseconds 90).2 ⟨.ofSeconds 90, rfl, by decide, rfl⟩
  rw [hlimit] at hset
  exact ⟨login, key, auth, reply, attributes, htape, hlogin.field _ (.tail _ (.head _)),
    hauth.field ("attributes", some attributes) (by simp), hset.field _ (.head _),
    hset.field _ (.tail _ (.head _)), hsession.session ▸ hsession.nonzero, hsession.statements⟩

end ExasolClient
