-- SUMMARY: What a handshake says to the server, and what is left of it.
import ExasolClient.Connection.Handshake
import ExasolClient.Proofs.Exchange.Traffic

/-!
# Handshakes

A handshake is given up before anything is said where the mode asks for encryption or the
transport does not connect. Otherwise it makes one attempt or two (`Line.greetings`): the
first asks for the key of the server, the second for a session. The line decides what is said
and how it ends (`negotiate_yields`). Main statement: a transport that has connected is either
closed again behind these attempts, or it is told not to compress (`logIn_negotiates`).
-/

namespace ExasolClient

theorem mapError_eq_ok {result : Except ε α} {f : ε → ε'} {a : α} :
    result.mapError f = .ok a ↔ result = .ok a := by
  cases result with
  | ok b =>
    exact ⟨fun h => congrArg Except.ok (Except.ok.inj h),
      fun h => congrArg Except.ok (Except.ok.inj h)⟩
  | error cause =>
    constructor
    · intro h
      change Except.error (f cause) = Except.ok a at h
      cases h
    · intro h
      cases h

theorem mapError_eq_error {result : Except ε α} {f : ε → ε'} {fault : ε'} :
    result.mapError f = .error fault ↔ ∃ cause, result = .error cause ∧ f cause = fault := by
  cases result with
  | ok b =>
    constructor
    · intro h
      change Except.ok b = Except.error fault at h
      cases h
    · rintro ⟨_, hok, _⟩
      cases hok
  | error cause =>
    constructor
    · intro h
      exact ⟨cause, rfl, Except.error.inj h⟩
    · rintro ⟨_, hcause, rfl⟩
      cases hcause
      rfl

/-- An attempt that has brought a payload was answered. -/
theorem Attempt.answered_of_payload {α : Type} [Payload α] {a : Attempt} {payload : α}
    (h : a.payload α = .ok payload) : ∃ reply, a = ⟨a.request, .message reply⟩ := by
  obtain ⟨request, answer⟩ := a
  cases answer with
  | message reply => exact ⟨reply, rfl⟩
  | cancelled | closed | unwritten _ | unread _ => cases h

namespace Connection

variable [Transport σ]

/-- Ask the server for its key, and then for a session. -/
def negotiate (host : ClientHost) : Action σ SessionInfo := do
  let config := (← get).config
  let key ← (ask Crypto.OfferedKey (.login protocolVersion)).mapFault
    (handshakeFault .login "Login request failed")
  match key.encrypt host.filler config.password with
  | .error fault =>
    throw (.connection .login s!"Unable to encrypt password: {fault.message host.describePem}" none)
  | .ok password =>
    (requestSession (credentials host config password)).mapFault
      (handshakeFault .authentication "Authentication failed")

/-- Begin to use the session that the server has established. -/
def enter (session : SessionInfo) : Action σ Unit := do
  setCompression false
  note (.sessionEstablished session.sessionId session.databaseName session.releaseVersion)
  modify fun c => { c with session := session }

theorem authenticate_eq (host : ClientHost) :
    (authenticate host : Action σ Unit) = negotiate host >>= enter := by
  unfold authenticate negotiate
  simp only [bind_assoc]
  apply bind_congr
  intro c
  apply bind_congr
  intro key
  cases key.encrypt host.filler c.config.password with
  | error fault => rfl
  | ok password => rfl

end Connection

/-! ## What comes of it -/

/-- Zero is no session. -/
def SessionInfo.checked (session : SessionInfo) : Except Fault SessionInfo :=
  if session.sessionId = 0 then .error (.protocolError .noSessionId) else .ok session

/-- The session that is established in answer to credentials, or why there is none. -/
def Attempt.admission (a : Attempt) : Except Fault SessionInfo :=
  (a.payload SessionInfo >>= SessionInfo.checked).mapError
    (Connection.handshakeFault .authentication "Authentication failed")

theorem Attempt.payload_of_admission {a : Attempt} {session : SessionInfo}
    (h : a.admission = .ok session) :
    a.payload SessionInfo = .ok session ∧ session.sessionId ≠ 0 := by
  have hchecked := mapError_eq_ok.1 h
  cases hpayload : a.payload SessionInfo with
  | error fault =>
    rw [hpayload] at hchecked
    cases hchecked
  | ok info =>
    rw [hpayload] at hchecked
    by_cases hzero : info.sessionId = 0
    · cases (if_pos hzero).symm.trans hchecked
    · cases (if_neg hzero).symm.trans hchecked
      exact ⟨rfl, hzero⟩

theorem Attempt.kind_of_admission {a : Attempt} {fault : Fault} (h : a.admission = .error fault) :
    ∃ message source, fault = .connection .authentication message source := by
  obtain ⟨cause, -, rfl⟩ := mapError_eq_error.1 h
  exact ⟨_, _, rfl⟩

namespace Line

variable [Transport σ] (l : Line σ) (host : ClientHost) (config : Config)

/-- The password, encrypted with the key with which the server answers the first message. -/
def cipher : Except Fault String := do
  let key ← ((l.attempt (.login protocolVersion)).payload Crypto.OfferedKey).mapError
    (Connection.handshakeFault .login "Login request failed")
  (key.encrypt host.filler config.password).mapError fun fault =>
    .connection .login s!"Unable to encrypt password: {fault.message host.describePem}" none

/-- The second attempt of a handshake, which carries the encrypted password. -/
def authentication (password : String) : Attempt :=
  (l.after (.login protocolVersion)).attempt
    (.authenticate (Connection.credentials host config password))

/-- The attempts of a handshake; where no password was encrypted there is no second one. -/
def greetings : List Attempt :=
  l.attempt (.login protocolVersion) ::
    match l.cipher host config with
    | .ok password => [l.authentication host config password]
    | .error _ => []

/-- How a handshake ends. -/
def verdict : Except Fault SessionInfo := do
  (l.authentication host config (← l.cipher host config)).admission

variable {l}

theorem cipher_of_unanswered {fault : Fault}
    (h : (l.attempt (.login protocolVersion)).payload Crypto.OfferedKey = .error fault) :
    l.cipher host config =
      .error (Connection.handshakeFault .login "Login request failed" fault) := by
  unfold cipher
  rw [h]
  rfl

theorem cipher_of_key {key : Crypto.OfferedKey}
    (h : (l.attempt (.login protocolVersion)).payload Crypto.OfferedKey = .ok key) :
    l.cipher host config = (key.encrypt host.filler config.password).mapError fun fault =>
      .connection .login s!"Unable to encrypt password: {fault.message host.describePem}" none := by
  unfold cipher
  rw [h]
  rfl

variable {host config}

/-- Without an encrypted password nothing more is said. -/
theorem verdict_of_error {fault : Fault} (h : l.cipher host config = .error fault) :
    l.greetings host config = [l.attempt (.login protocolVersion)] ∧
      l.verdict host config = .error fault := by
  unfold greetings verdict
  rw [h]
  exact ⟨rfl, rfl⟩

theorem verdict_of_ok {password : String} (h : l.cipher host config = .ok password) :
    l.greetings host config =
        [l.attempt (.login protocolVersion), l.authentication host config password] ∧
      l.verdict host config = (l.authentication host config password).admission := by
  unfold greetings verdict
  rw [h]
  exact ⟨rfl, rfl⟩

/-- The password is encrypted with a key that came as the answer. -/
theorem key_of_cipher {password : String} (h : l.cipher host config = .ok password) :
    ∃ key, (l.attempt (.login protocolVersion)).payload Crypto.OfferedKey = .ok key ∧
      key.encrypt host.filler config.password = .ok password := by
  cases hpayload : (l.attempt (.login protocolVersion)).payload Crypto.OfferedKey with
  | error fault =>
    rw [cipher_of_unanswered host config hpayload] at h
    cases h
  | ok key =>
    rw [cipher_of_key host config hpayload] at h
    exact ⟨key, rfl, mapError_eq_ok.1 h⟩

theorem kind_of_cipher {fault : Fault} (h : l.cipher host config = .error fault) :
    ∃ message source, fault = .connection .login message source := by
  cases hpayload : (l.attempt (.login protocolVersion)).payload Crypto.OfferedKey with
  | error cause =>
    rw [cipher_of_unanswered host config hpayload] at h
    exact ⟨_, _, (Except.error.inj h).symm⟩
  | ok key =>
    rw [cipher_of_key host config hpayload] at h
    obtain ⟨cause, -, rfl⟩ := mapError_eq_error.1 h
    exact ⟨_, _, rfl⟩

/-- A session is established only if both attempts are answered. -/
theorem answered_of_verdict {session : SessionInfo} (h : l.verdict host config = .ok session) :
    ∃ key password reply, l.cipher host config = .ok password ∧
      l.greetings host config = [⟨.login protocolVersion, .message key⟩,
        ⟨.authenticate (Connection.credentials host config password), .message reply⟩] := by
  cases hcipher : l.cipher host config with
  | error fault =>
    rw [(verdict_of_error hcipher).2] at h
    cases h
  | ok password =>
    obtain ⟨hgreetings, hverdict⟩ := verdict_of_ok hcipher
    obtain ⟨key, hkey, -⟩ := key_of_cipher hcipher
    obtain ⟨first, hfirst⟩ := Attempt.answered_of_payload hkey
    obtain ⟨second, hsecond⟩ :=
      Attempt.answered_of_payload (Attempt.payload_of_admission (hverdict.symm.trans h)).1
    refine ⟨first, password, second, rfl, ?_⟩
    rw [hgreetings, hfirst, hsecond]
    rfl

end Line

namespace Connection

variable [Transport σ]

theorem requestSession_yields (credentials : Credentials) (c : Connection σ) :
    ((requestSession credentials).mapFault
      (handshakeFault .authentication "Authentication failed")).Yields c
        [c.line.attempt (.authenticate credentials)] c.statements
        (c.line.attempt (.authenticate credentials)).admission := by
  refine .mapFault ?_ _
  have hask := ask_yields SessionInfo (.authenticate credentials) rfl c
  cases hpayload : (c.line.attempt (.authenticate credentials)).payload SessionInfo with
  | error fault =>
    rw [hpayload] at hask
    exact hask.bind_error
  | ok session =>
    rw [hpayload] at hask
    have hleads := hask.leads
    refine Action.Yields.bind hask (?_ : Action.Yields _ _ [] _ session.checked)
    unfold SessionInfo.checked
    split
    · exact (hleads.throw _).bind_error
    · exact hleads.pure session

/-- The whole of a handshake is decided by the line. -/
theorem negotiate_yields (host : ClientHost) (c : Connection σ) :
    (negotiate host).Yields c (c.line.greetings host c.config) c.statements
      (c.line.verdict host c.config) := by
  have hask := (ask_yields Crypto.OfferedKey (.login protocolVersion) rfl c).mapFault
    (handshakeFault .login "Login request failed")
  refine .get ?_
  cases hpayload : (c.line.attempt (.login protocolVersion)).payload Crypto.OfferedKey with
  | error fault =>
    obtain ⟨hgreetings, hverdict⟩ := Line.verdict_of_error
      (Line.cipher_of_unanswered host c.config hpayload)
    rw [hpayload] at hask
    rw [hgreetings, hverdict]
    exact hask.bind_error
  | ok key =>
    have hcipher := Line.cipher_of_key host c.config hpayload
    rw [hpayload] at hask
    have hleads := hask.leads
    cases hencrypt : key.encrypt host.filler c.config.password with
    | error fault =>
      rw [hencrypt] at hcipher
      obtain ⟨hgreetings, hverdict⟩ := Line.verdict_of_error hcipher
      rw [hgreetings, hverdict]
      refine Action.Yields.bind hask (?_ : Action.Yields _ _ [] _ _)
      rw [hencrypt]
      exact hleads.throw _
    | ok password =>
      rw [hencrypt] at hcipher
      obtain ⟨hgreetings, hverdict⟩ := Line.verdict_of_ok hcipher
      have hrequest := requestSession_yields (credentials host c.config password)
        (((ask Crypto.OfferedKey (.login protocolVersion)).mapFault
          (handshakeFault .login "Login request failed")).on c).2
      rw [hleads.line.eq_after, hleads.statements] at hrequest
      rw [hgreetings, hverdict]
      refine Action.Yields.bind hask (?_ : Action.Yields _ _ [_] _ _)
      rw [hencrypt]
      exact hrequest

/-! ## Connecting -/

/-- A connection that nothing was done with yet. -/
def begun (config : Config) (peer : σ) (cancelled : Bool) : Connection σ :=
  { config, peer, isCancelled := cancelled }

/-- What comes of connecting the transport. -/
def reaching (config : Config) (peer : σ) : Outcome σ Unit :=
  Transport.connect config.endpoint config.tlsMode config.connectTimeout peer

/-- The entry of the journal for connecting the transport. -/
def reachedEvent (config : Config) (fault : Option Fault) : Event :=
  .connected config.endpoint config.tlsMode config.connectTimeout fault

/-- The connection after its transport was told to connect. -/
def reached (config : Config) (peer : σ) (cancelled : Bool) : Connection σ :=
  let outcome := reaching config peer
  { config
    peer := outcome.next
    isCancelled := cancelled || outcome.cancels
    journal := #[.logged (.connecting config.endpoint config.user),
      reachedEvent config (fault? outcome.result)] }

/-- The connection over a transport that has connected. -/
def connected (config : Config) (peer : σ) (cancelled : Bool) : Connection σ :=
  { reached config peer cancelled with isOpen := true }

/-- The mode is checked, and then the transport is told to connect. -/
def approach (config : Config) : Action σ Unit := do
  Action.ofExcept (checkTls config.tlsMode)
  note (.connecting config.endpoint config.user)
  openTransport

/-- On a transport that has connected a session is established, or it is closed again. -/
def logIn (host : ClientHost) : Action σ Unit := do
  match ← Action.ofQuiet (authenticate host).attempt with
  | .ok () => return
  | .error fault =>
    Action.ofQuiet close
    throw (.context "Unable to login to Exasol" fault)

/-- The connection with which the session is begun that the server has established. -/
def entered (c : Connection σ) (session : SessionInfo) : Connection σ :=
  { c with
    peer := Transport.setCompression false c.peer
    session := session
    journal := (c.journal.push (.compression false)).push <| .logged <|
      .sessionEstablished session.sessionId session.databaseName session.releaseVersion }

theorem on_authenticate (host : ClientHost) (c : Connection σ) : (authenticate host).on c =
    match (negotiate host).on c with
    | (.ok session, d) => (.ok (), d.entered session)
    | (.error fault, d) => (.error fault, d) := by
  rw [authenticate_eq, Action.on_bind]
  rcases (negotiate host).on c with ⟨_ | _, d⟩ <;> rfl

theorem on_logIn (host : ClientHost) (c : Connection σ) : (logIn host).on c =
    match (authenticate host).on c with
    | (.ok (), d) => (.ok (), d)
    | (.error fault, d) =>
      (.error (.context "Unable to login to Exasol" fault), (Quiet.on close d).2) := by
  have hattempt : Quiet.on (authenticate host).attempt c = (authenticate host).on c := rfl
  rw [logIn, Action.on_bind, Action.on_ofQuiet, hattempt]
  rcases (authenticate host).on c with ⟨_ | _, d⟩ <;> rfl

/--
A login makes the attempts of a handshake, and then begins the session or closes the
transport.
-/
theorem logIn_negotiates (host : ClientHost) (c : Connection σ) : ∃ d,
    Leads c (c.line.greetings host c.config) c.statements d ∧
      (logIn host).on c = match c.line.verdict host c.config with
        | .ok session => (.ok (), d.entered session)
        | .error fault =>
          (.error (.context "Unable to login to Exasol" fault), (Quiet.on close d).2) := by
  have hyields := negotiate_yields host c
  refine ⟨((negotiate host).on c).2, hyields.leads, ?_⟩
  rw [on_logIn, on_authenticate, ← hyields.returns]
  rcases (negotiate host).on c with ⟨_ | _, d⟩ <;> rfl

variable (host : ClientHost) {config : Config} (peer : σ) (cancelled : Bool)

theorem connect_eq : connect host config peer cancelled =
    match (approach config).on (begun config peer cancelled) with
    | (.ok (), d) => (logIn host).on { d with isOpen := true }
    | (.error fault, d) => (.error (.context "Unable to connect to Exasol" fault), d) := by
  have hestablish : (establish host : Action σ Unit) = (do
      Action.within "Unable to connect to Exasol" (approach (← get).config)
      modify fun c => { c with isOpen := true }
      logIn host) := rfl
  have hconnect : connect host config peer cancelled =
      (establish host).on (begun config peer cancelled) := rfl
  have hconfig : (begun config peer cancelled).config = config := rfl
  rw [hconnect, hestablish, Action.on_bind, Action.on_get]
  dsimp only
  rw [hconfig, Action.on_bind, Action.on_within]
  rcases (approach config).on (begun config peer cancelled) with ⟨_ | _, d⟩ <;> rfl

/-- Without encryption a mode that asks for it is refused. -/
theorem connect_refused (h : config.tlsMode.isEnabled = true) : ∃ fault,
    connect host config peer cancelled = (.error fault, begun config peer cancelled) := by
  have happroach : (approach config).on (begun config peer cancelled) =
      (.error (.config (.tlsUnavailable config.tlsMode)), begun config peer cancelled) := by
    rw [approach, checkTls, if_pos h]
    rfl
  rw [connect_eq, happroach]
  exact ⟨_, rfl⟩

theorem on_approach (h : config.tlsMode.isEnabled = false) :
    (approach config).on (begun config peer cancelled) =
      ((reaching config peer).result, reached config peer cancelled) := by
  rw [approach, checkTls, h]
  rfl

/-- A transport that does not connect is left alone from then on. -/
theorem connect_unreached (h : config.tlsMode.isEnabled = false) {fault : Fault}
    (hfault : (reaching config peer).result = .error fault) : ∃ fault,
    connect host config peer cancelled = (.error fault, reached config peer cancelled) := by
  rw [connect_eq, on_approach peer cancelled h, hfault]
  exact ⟨_, rfl⟩

/-- Over a transport that connects a login is made. -/
theorem connect_reached (h : config.tlsMode.isEnabled = false)
    (hok : (reaching config peer).result = .ok ()) : connect host config peer cancelled =
      (logIn host).on (connected config peer cancelled) := by
  rw [connect_eq, on_approach peer cancelled h, hok]
  rfl

/--
What becomes of a connection: it is refused, its transport does not connect, its handshake
fails, or a session is established.
-/
theorem connect_cases {motive : Except Fault Unit × Connection σ → Prop}
    (refused : config.tlsMode.isEnabled = true →
      ∀ fault, motive (.error fault, begun config peer cancelled))
    (unreached : config.tlsMode.isEnabled = false →
      ∀ cause fault, (reaching config peer).result = .error cause →
        motive (.error fault, reached config peer cancelled))
    (failed : config.tlsMode.isEnabled = false → (reaching config peer).result = .ok () →
      ∀ d cause, Leads (connected config peer cancelled)
          ((connected config peer cancelled).line.greetings host config) .empty d →
        (connected config peer cancelled).line.verdict host config = .error cause →
        motive (.error (.context "Unable to login to Exasol" cause), (Quiet.on close d).2))
    (established : config.tlsMode.isEnabled = false → (reaching config peer).result = .ok () →
      ∀ d info, Leads (connected config peer cancelled)
          ((connected config peer cancelled).line.greetings host config) .empty d →
        (connected config peer cancelled).line.verdict host config = .ok info →
        motive (.ok (), d.entered info)) :
    motive (connect host config peer cancelled) := by
  cases htls : config.tlsMode.isEnabled with
  | true =>
    obtain ⟨fault, hconnect⟩ := connect_refused host peer cancelled htls
    rw [hconnect]
    exact refused htls fault
  | false =>
    cases hreached : (reaching config peer).result with
    | error cause =>
      obtain ⟨fault, hconnect⟩ := connect_unreached host peer cancelled htls hreached
      rw [hconnect]
      exact unreached htls cause fault hreached
    | ok _ =>
      obtain ⟨d, hleads, hlogIn⟩ := logIn_negotiates host (connected config peer cancelled)
      rw [connect_reached host peer cancelled htls hreached, hlogIn]
      cases hverdict : (connected config peer cancelled).line.verdict host
          (connected config peer cancelled).config with
      | error cause => exact failed htls hreached d cause hleads hverdict
      | ok info => exact established htls hreached d info hleads hverdict

end Connection
end ExasolClient
