-- SUMMARY: What an operation says to the server: the attempts it makes, and where they lead.
import ExasolClient.Proofs.Exchange.Attempt
import ExasolClient.Connection.Exchange

/-!
# Talk

The line of a connection is the part of its state that decides whether a request
is sent and what comes back: the transport, and whether the connection is open and
cancelled. A talk is a list of attempts made one after the other, each answered by
the line as the earlier ones left it. `Yields` says what an operation does on a
connection: the talk that it makes, the cache that it leaves and how it ends. All
else about the connection afterwards follows from the talk (`Leads`). Main
statement: a request is one attempt, whose answer decides how it ends
(`send_yields`).
-/

namespace ExasolClient

/-! ## Lines -/

/-- What decides whether a request is sent, and what comes back. -/
structure Line (σ : Type) where
  peer : σ
  isOpen : Bool
  isCancelled : Bool

/-- The line of a connection. -/
def Connection.line (c : Connection σ) : Line σ := ⟨c.peer, c.isOpen, c.isCancelled⟩

namespace Line

variable [Transport σ]

/-- Read the message that answers a request which the transport has taken. -/
def listen (l : Line σ) : Answer × Line σ :=
  let outcome := Transport.read l.peer
  let next := { l with peer := outcome.next, isCancelled := l.isCancelled || outcome.cancels }
  match outcome.result with
  | .ok json => (.message json, next)
  | .error fault => (.unread fault, next)

/-- Offer a request to the transport, and wait for the message that answers it. -/
def answer (l : Line σ) (request : Request) : Answer × Line σ :=
  if l.isCancelled then (.cancelled, l)
  else if l.isOpen then
    let outcome := Transport.write request.encode l.peer
    let next := { l with peer := outcome.next, isCancelled := l.isCancelled || outcome.cancels }
    match outcome.result with
    | .ok () => next.listen
    | .error fault => (.unwritten fault, next)
  else (.closed, l)

theorem answer_of_cancelled {l : Line σ} (r : Request) (h : l.isCancelled = true) :
    l.answer r = (.cancelled, l) := by
  simp [answer, h]

theorem answer_of_closed {l : Line σ} (r : Request) (h : l.isCancelled = false)
    (h' : l.isOpen = false) : l.answer r = (.closed, l) := by
  simp [answer, h, h']

/-- The line after a request was offered to the transport. -/
def offered (l : Line σ) (request : Request) : Line σ :=
  let outcome := Transport.write request.encode l.peer
  { l with peer := outcome.next, isCancelled := l.isCancelled || outcome.cancels }

theorem answer_of_taken {l : Line σ} (r : Request) (h : l.isCancelled = false)
    (h' : l.isOpen = true) (hok : (Transport.write r.encode l.peer).result = .ok ()) :
    l.answer r = (l.offered r).listen := by
  simp [answer, offered, h, h', hok]

theorem answer_of_untaken {l : Line σ} (r : Request) (h : l.isCancelled = false)
    (h' : l.isOpen = true) {fault : Fault}
    (hfault : (Transport.write r.encode l.peer).result = .error fault) :
    l.answer r = (.unwritten fault, l.offered r) := by
  simp [answer, offered, h, h', hfault]

/-- The attempt to send a request over a line. -/
def attempt (l : Line σ) (request : Request) : Attempt := ⟨request, (l.answer request).1⟩

/-- The line after the attempt to send a request. -/
def after (l : Line σ) (request : Request) : Line σ := (l.answer request).2

@[simp]
theorem isOpen_listen (l : Line σ) : l.listen.2.isOpen = l.isOpen := by
  simp only [listen]
  split <;> rfl

/-- An attempt neither opens nor closes the line. -/
@[simp]
theorem isOpen_after (l : Line σ) (r : Request) : (l.after r).isOpen = l.isOpen := by
  simp only [after, answer]
  split
  · rfl
  · split
    · split <;> simp
    · rfl

/-- A cancelled line stays cancelled. -/
theorem isCancelled_of_after {l : Line σ} (r : Request) (h : (l.after r).isCancelled = false) :
    l.isCancelled = false := by
  cases hl : l.isCancelled with
  | false => rfl
  | true => simp [after, answer_of_cancelled r hl, hl] at h

/-- On an open line that is not cancelled every request is handed to the transport. -/
theorem isSent_attempt {l : Line σ} (r : Request) (hopen : l.isOpen = true)
    (hlive : l.isCancelled = false) : (l.attempt r).isSent = true := by
  unfold attempt
  cases hwrite : (Transport.write r.encode l.peer).result with
  | error fault =>
    rw [answer_of_untaken r hlive hopen hwrite]
    rfl
  | ok _ =>
    rw [answer_of_taken r hlive hopen hwrite]
    dsimp only [listen]
    split <;> rfl

/-- On a closed line nothing is handed to the transport. -/
theorem not_isSent_attempt {l : Line σ} (r : Request) (hclosed : l.isOpen = false) :
    (l.attempt r).isSent = false := by
  unfold attempt
  cases hlive : l.isCancelled with
  | true =>
    rw [answer_of_cancelled r hlive]
    rfl
  | false =>
    rw [answer_of_closed r hlive hclosed]
    rfl

end Line

/-- The attempts of a list, made one after the other, lead from one line to another. -/
inductive Talk [Transport σ] : Line σ → List Attempt → Line σ → Prop where
  | nil (l : Line σ) : Talk l [] l
  | cons {l m : Line σ} {r : Request} {rest : List Attempt} :
      Talk (l.after r) rest m → Talk l (l.attempt r :: rest) m

namespace Talk

variable [Transport σ] {l m n : Line σ} {talk more : List Attempt}

theorem single (l : Line σ) (r : Request) : Talk l [l.attempt r] (l.after r) := .cons (.nil _)

/-- One attempt leads to the line after it. -/
theorem eq_after {r : Request} (h : Talk l [l.attempt r] m) : m = l.after r := by
  generalize hone : [l.attempt r] = one at h
  cases h with
  | nil => cases hone
  | @cons _ _ r' rest hrest =>
    obtain ⟨hattempt, rfl⟩ := List.cons.inj hone
    have hr : r = r' := congrArg Attempt.request hattempt
    cases hrest
    exact hr ▸ rfl

theorem append (h : Talk l talk m) (h' : Talk m more n) : Talk l (talk ++ more) n := by
  induction h with
  | nil => exact h'
  | cons _ ih => exact .cons (ih h')

/-- A talk may be cut anywhere. -/
theorem split (h : Talk l (talk ++ more) n) : ∃ m, Talk l talk m ∧ Talk m more n := by
  induction talk generalizing l with
  | nil => exact ⟨l, .nil l, h⟩
  | cons a rest ih =>
      cases h with
      | cons h =>
          obtain ⟨m, hrest, hmore⟩ := ih h
          exact ⟨m, .cons hrest, hmore⟩

theorem isOpen (h : Talk l talk m) : m.isOpen = l.isOpen := by
  induction h with
  | nil => rfl
  | @cons l m r _ _ ih => rw [ih, Line.isOpen_after]

/-- Where no talk leads to a cancelled line, none has started from one. -/
theorem isCancelled (h : Talk l talk m) (hlive : m.isCancelled = false) :
    l.isCancelled = false := by
  induction h with
  | nil => exact hlive
  | @cons l m r _ _ ih => exact Line.isCancelled_of_after r (ih hlive)

/-- A talk on an open line that is not cancelled meanwhile is handed to the transport. -/
theorem isSent (h : Talk l talk m) (hopen : l.isOpen = true) (hlive : m.isCancelled = false) :
    ∀ a ∈ talk, a.isSent = true := by
  induction h with
  | nil => simp
  | @cons l m r rest hrest ih =>
      have hl := (Talk.cons hrest).isCancelled hlive
      have hsent := Line.isSent_attempt r hopen hl
      have hmore := ih (by rwa [Line.isOpen_after]) hlive
      simpa [hsent] using hmore

/-- Nothing is handed to the transport on a closed line. -/
theorem not_isSent (h : Talk l talk m) (hclosed : l.isOpen = false) :
    ∀ a ∈ talk, a.isSent = false := by
  induction h with
  | nil => simp
  | @cons l m r rest _ ih =>
      have hunsent := Line.not_isSent_attempt r hclosed
      have hmore := ih (by rwa [Line.isOpen_after])
      simpa [hunsent] using hmore

end Talk

/-! ## Running an operation -/

/-- What an operation that cannot fail returns on a connection, and the connection afterwards. -/
def Quiet.on (action : Quiet σ α) (c : Connection σ) : α × Connection σ := action.run c

/-- How an operation ends on a connection, and the connection afterwards. -/
def Action.on (action : Action σ α) (c : Connection σ) : Except Fault α × Connection σ :=
  Quiet.on action.attempt c

namespace Quiet

theorem on_pure (a : α) (c : Connection σ) : Quiet.on (pure a) c = (a, c) := rfl

theorem on_bind (x : Quiet σ α) (f : α → Quiet σ β) (c : Connection σ) :
    Quiet.on (x >>= f) c = Quiet.on (f (Quiet.on x c).1) (Quiet.on x c).2 := rfl

theorem on_get (c : Connection σ) : Quiet.on get c = (c, c) := rfl

theorem on_modify (f : Connection σ → Connection σ) (c : Connection σ) :
    Quiet.on (modify f) c = ((), f c) := rfl

end Quiet

namespace Action

theorem on_pure (a : α) (c : Connection σ) : (pure a : Action σ α).on c = (.ok a, c) := rfl

theorem on_throw (fault : Fault) (c : Connection σ) :
    (throw fault : Action σ α).on c = (.error fault, c) := rfl

theorem on_get (c : Connection σ) : (get : Action σ (Connection σ)).on c = (.ok c, c) := rfl

theorem on_modify (f : Connection σ → Connection σ) (c : Connection σ) :
    (modify f : Action σ Unit).on c = (.ok (), f c) := rfl

theorem on_ofQuiet (x : Quiet σ α) (c : Connection σ) :
    (Action.ofQuiet x).on c = (.ok (Quiet.on x c).1, (Quiet.on x c).2) := rfl

theorem on_within (operation : String) (x : Action σ α) (c : Connection σ) :
    (Action.within operation x).on c = ((x.on c).1.mapError (.context operation), (x.on c).2) := rfl

theorem on_bind (x : Action σ α) (f : α → Action σ β) (c : Connection σ) :
    (x >>= f).on c =
      match x.on c with
      | (.ok a, d) => (f a).on d
      | (.error fault, d) => (.error fault, d) := by
  simp only [Action.on, Quiet.on, Action.attempt, ExceptT.run_bind, StateT.run_bind]
  change _ = match (x.run.run c : Except Fault α × Connection σ) with
    | (.ok a, d) => _
    | (.error fault, d) => _
  rcases (x.run.run c : Except Fault α × Connection σ) with ⟨result, d⟩
  cases result <;> rfl

theorem on_bind_ok {x : Action σ α} {f : α → Action σ β} {c : Connection σ} {a : α}
    (h : (x.on c).1 = .ok a) : (x >>= f).on c = (f a).on (x.on c).2 := by
  rw [on_bind]
  rcases hx : x.on c with ⟨result, d⟩
  simp only [hx] at h
  simp only [h]

theorem on_bind_error {x : Action σ α} {f : α → Action σ β} {c : Connection σ} {fault : Fault}
    (h : (x.on c).1 = .error fault) : (x >>= f).on c = (.error fault, (x.on c).2) := by
  rw [on_bind]
  rcases hx : x.on c with ⟨result, d⟩
  simp only [hx] at h
  simp only [h]

end Action

/-! ## Where a talk leads -/

/-- A talk leads from connection `c` to connection `d`, which holds the statements `cache`. -/
structure Leads [Transport σ] (c : Connection σ) (talk : List Attempt) (cache : StatementCache)
    (d : Connection σ) : Prop where
  line : Talk c.line talk d.line
  config : d.config = c.config
  session : d.session = c.session
  attributes : d.attributes = talk.foldl (fun known a => known.merge a.attributes) c.attributes
  statements : d.statements = cache
  journal : ∃ events, d.journal.toList = c.journal.toList ++ events ∧
    Event.calls events = talk.flatMap Attempt.events

namespace Leads

variable [Transport σ] {c d e : Connection σ} {talk more : List Attempt}
  {cache cache' : StatementCache}

theorem refl (c : Connection σ) : Leads c [] c.statements c where
  line := .nil _
  config := rfl
  session := rfl
  attributes := rfl
  statements := rfl
  journal := ⟨[], by simp, rfl⟩

theorem trans (h : Leads c talk cache d) (h' : Leads d more cache' e) :
    Leads c (talk ++ more) cache' e where
  line := h.line.append h'.line
  config := h'.config.trans h.config
  session := h'.session.trans h.session
  attributes := by rw [h'.attributes, h.attributes, List.foldl_append]
  statements := h'.statements
  journal := by
    obtain ⟨events, hd, hcalls⟩ := h.journal
    obtain ⟨events', he, hcalls'⟩ := h'.journal
    refine ⟨events ++ events', ?_, ?_⟩
    · rw [he, hd, List.append_assoc]
    · rw [Event.calls_append, hcalls, hcalls', List.flatMap_append]

/-- The attempts that were sent are found again in the journal. -/
theorem exchanges (h : Leads c talk cache d) :
    Event.exchanges (d.journal.toList.drop c.journal.size) = talk.filter Attempt.isSent := by
  obtain ⟨events, hjournal, hcalls⟩ := h.journal
  rw [hjournal, ← Array.length_toList, List.drop_left, Event.exchanges_eq hcalls]

theorem exchanges_of_open (h : Leads c talk cache d) (hopen : c.isOpen = true)
    (hlive : d.isCancelled = false) :
    Event.exchanges (d.journal.toList.drop c.journal.size) = talk := by
  rw [h.exchanges]
  exact List.filter_eq_self.2 (h.line.isSent hopen hlive)

theorem exchanges_of_closed (h : Leads c talk cache d) (hclosed : c.isOpen = false) :
    Event.exchanges (d.journal.toList.drop c.journal.size) = [] := by
  rw [h.exchanges]
  exact List.filter_eq_nil_iff.2 fun a ha => by simp [h.line.not_isSent hclosed a ha]

theorem isOpen (h : Leads c talk cache d) : d.isOpen = c.isOpen := h.line.isOpen

theorem isCancelled (h : Leads c talk cache d) (hlive : d.isCancelled = false) :
    c.isCancelled = false :=
  h.line.isCancelled hlive

/-- A notice is logged without any talk. -/
theorem log (c : Connection σ) (notice : Notice) :
    Leads c [] c.statements (Quiet.on (Connection.log notice) c).2 where
  line := .nil _
  config := rfl
  session := rfl
  attributes := rfl
  statements := rfl
  journal := ⟨[.logged notice], by simp [Connection.log, Connection.record, Quiet.on_modify], rfl⟩

/-- The cache is changed without any talk. -/
theorem setStatements (c : Connection σ) (cache : StatementCache) :
    Leads c [] cache { c with statements := cache } where
  line := .nil _
  config := rfl
  session := rfl
  attributes := rfl
  statements := rfl
  journal := ⟨[], by simp, rfl⟩

end Leads

/-! ## What an operation does -/

/--
On connection `c` an operation makes the attempts of `talk`, leaves the statements
`cache` and returns `a`.
-/
structure Quiet.Yields [Transport σ] (action : Quiet σ α) (c : Connection σ)
    (talk : List Attempt) (cache : StatementCache) (a : α) : Prop where
  returns : (Quiet.on action c).1 = a
  leads : Leads c talk cache (Quiet.on action c).2

/--
On connection `c` an operation makes the attempts of `talk`, leaves the statements
`cache` and ends with `result`.
-/
structure Action.Yields [Transport σ] (action : Action σ α) (c : Connection σ)
    (talk : List Attempt) (cache : StatementCache) (result : Except Fault α) : Prop where
  returns : (action.on c).1 = result
  leads : Leads c talk cache (action.on c).2

namespace Quiet.Yields

variable [Transport σ] {c : Connection σ} {talk more : List Attempt}
  {cache cache' : StatementCache}

theorem bind {x : Quiet σ α} {f : α → Quiet σ β} {a : α} {b : β}
    (hx : Quiet.Yields x c talk cache a) (hf : Quiet.Yields (f a) (Quiet.on x c).2 more cache' b) :
    Quiet.Yields (x >>= f) c (talk ++ more) cache' b := by
  constructor
  · rw [Quiet.on_bind, hx.returns, hf.returns]
  · rw [Quiet.on_bind, hx.returns]
    exact hx.leads.trans hf.leads

theorem get {f : Connection σ → Quiet σ α} {a : α} (h : Quiet.Yields (f c) c talk cache a) :
    Quiet.Yields (MonadState.get >>= f) c talk cache a :=
  ⟨h.returns, h.leads⟩

theorem attempt {x : Action σ α} {result : Except Fault α} (h : x.Yields c talk cache result) :
    Quiet.Yields x.attempt c talk cache result :=
  ⟨h.returns, h.leads⟩

/-- One operation, and then another that says nothing more. -/
theorem before {x : Quiet σ α} {f : α → Quiet σ β} {a : α} {b : β}
    (hx : Quiet.Yields x c talk cache a) (hf : Quiet.Yields (f a) (Quiet.on x c).2 [] cache' b) :
    Quiet.Yields (x >>= f) c talk cache' b := by
  have hbind := hx.bind hf
  rwa [List.append_nil] at hbind

/-- One operation, and then something that is told how it ended and says nothing more. -/
theorem bind_attempt {x : Action σ α} {f : Except Fault α → Quiet σ β} {b : β}
    {result : Except Fault α} (hx : x.Yields c talk cache result)
    (hf : ∀ d, Leads c talk cache d → Quiet.Yields (f result) d [] cache b) :
    Quiet.Yields (x.attempt >>= f) c talk cache b :=
  (Quiet.Yields.attempt hx).before (hf _ hx.leads)

end Quiet.Yields

namespace Leads

variable [Transport σ] {c d : Connection σ} {talk : List Attempt} {cache : StatementCache}

/-- Where a talk has led, nothing more is done. -/
theorem pure (h : Leads c talk cache d) (a : α) :
    (Pure.pure a : Action σ α).Yields d [] cache (.ok a) :=
  ⟨rfl, h.statements ▸ .refl d⟩

theorem throw (h : Leads c talk cache d) (fault : Fault) :
    (MonadExcept.throw fault : Action σ α).Yields d [] cache (.error fault) :=
  ⟨rfl, h.statements ▸ .refl d⟩

theorem quiet_pure (h : Leads c talk cache d) (a : α) : Quiet.Yields (Pure.pure a) d [] cache a :=
  ⟨rfl, h.statements ▸ .refl d⟩

theorem ofExcept (h : Leads c talk cache d) (result : Except Fault α) :
    (Action.ofExcept result).Yields d [] cache result :=
  ⟨rfl, h.statements ▸ .refl d⟩

theorem note (h : Leads c talk cache d) (notice : Notice) :
    (Connection.note notice).Yields d [] cache (.ok ()) :=
  ⟨rfl, h.statements ▸ .log d notice⟩

theorem quiet_log (h : Leads c talk cache d) (notice : Notice) :
    Quiet.Yields (Connection.log notice) d [] cache () :=
  ⟨rfl, h.statements ▸ .log d notice⟩

end Leads

namespace Action.Yields

variable [Transport σ] {c : Connection σ} {talk more : List Attempt}
  {cache cache' : StatementCache}

theorem bind {x : Action σ α} {f : α → Action σ β} {a : α} {result : Except Fault β}
    (hx : x.Yields c talk cache (.ok a)) (hf : (f a).Yields (x.on c).2 more cache' result) :
    (x >>= f).Yields c (talk ++ more) cache' result := by
  constructor
  · rw [Action.on_bind_ok hx.returns, hf.returns]
  · rw [Action.on_bind_ok hx.returns]
    exact hx.leads.trans hf.leads

theorem bind_error {x : Action σ α} {f : α → Action σ β} {fault : Fault}
    (hx : x.Yields c talk cache (.error fault)) : (x >>= f).Yields c talk cache (.error fault) := by
  constructor
  · rw [Action.on_bind_error hx.returns]
  · rw [Action.on_bind_error hx.returns]
    exact hx.leads

theorem get {f : Connection σ → Action σ α} {result : Except Fault α}
    (h : (f c).Yields c talk cache result) : (MonadState.get >>= f).Yields c talk cache result :=
  ⟨h.returns, h.leads⟩

theorem ofQuiet {x : Quiet σ α} {a : α} (h : Quiet.Yields x c talk cache a) :
    (Action.ofQuiet x).Yields c talk cache (.ok a) :=
  ⟨congrArg Except.ok h.returns, h.leads⟩

theorem mapFault {x : Action σ α} {result : Except Fault α} (h : x.Yields c talk cache result)
    (f : Fault → Fault) : (x.mapFault f).Yields c talk cache (result.mapError f) :=
  ⟨congrArg (·.mapError f) h.returns, h.leads⟩

/-- A step that says nothing and changes no more than the journal comes first. -/
theorem after {x : Action σ α} {f : α → Action σ β} {a : α} {result : Except Fault β}
    (hx : x.Yields c [] cache (.ok a)) (hf : (f a).Yields (x.on c).2 talk cache' result) :
    (x >>= f).Yields c talk cache' result :=
  hx.bind hf

end Action.Yields

/-! ## Grammars -/

/-- Which talks an operation may have, with the statements it leaves and the way it ends. -/
abbrev Grammar (α : Type) := List Attempt → StatementCache → Except Fault α → Prop

/-- What an operation does on a connection is in a grammar. -/
def Action.Follows [Transport σ] (action : Action σ α) (c : Connection σ) (P : Grammar α) : Prop :=
  ∃ talk cache result, P talk cache result ∧ action.Yields c talk cache result

namespace Action.Follows

variable [Transport σ] {c : Connection σ} {P : Grammar α} {Q : Grammar β}

theorem ofYields {action : Action σ α} {talk : List Attempt} {cache : StatementCache}
    {result : Except Fault α} (h : action.Yields c talk cache result) (hp : P talk cache result) :
    action.Follows c P :=
  ⟨talk, cache, result, hp, h⟩

theorem mono {action : Action σ α} {P' : Grammar α} (h : action.Follows c P)
    (hp : ∀ talk cache result, P talk cache result → P' talk cache result) :
    action.Follows c P' := by
  obtain ⟨talk, cache, result, hP, hyields⟩ := h
  exact ⟨talk, cache, result, hp _ _ _ hP, hyields⟩

theorem get {f : Connection σ → Action σ β} (h : (f c).Follows c Q) :
    (MonadState.get >>= f).Follows c Q := by
  obtain ⟨talk, cache, result, hQ, hyields⟩ := h
  exact ⟨talk, cache, result, hQ, .get hyields⟩

/-- One operation and then another: the talk of the first goes before that of the second. -/
theorem bind {x : Action σ α} {f : α → Action σ β} (hx : x.Follows c P)
    (hok : ∀ talk cache a d, P talk cache (.ok a) → Leads c talk cache d →
      (f a).Follows d fun more => Q (talk ++ more))
    (herror : ∀ talk cache fault, P talk cache (.error fault) → Q talk cache (.error fault)) :
    (x >>= f).Follows c Q := by
  obtain ⟨talk, cache, result, hP, hyields⟩ := hx
  cases result with
  | error fault => exact ⟨talk, cache, .error fault, herror _ _ _ hP, hyields.bind_error⟩
  | ok a =>
      obtain ⟨more, cache', result, hQ, hmore⟩ := hok _ _ _ _ hP hyields.leads
      exact ⟨talk ++ more, cache', result, hQ, hyields.bind hmore⟩

/-- One operation, and then another that is told how the first one ended. -/
theorem bind_attempt {x : Action σ α} {f : Except Fault α → Action σ β} (hx : x.Follows c P)
    (hf : ∀ talk cache result d, P talk cache result → Leads c talk cache d →
      (f result).Follows d fun more => Q (talk ++ more)) :
    (Action.ofQuiet x.attempt >>= f).Follows c Q := by
  obtain ⟨talk, cache, result, hP, hyields⟩ := hx
  obtain ⟨more, cache', result', hQ, hmore⟩ := hf _ _ _ _ hP hyields.leads
  exact ⟨talk ++ more, cache', result', hQ,
    (Action.Yields.ofQuiet (.attempt hyields)).bind hmore⟩

/-- A step without any talk comes first. -/
theorem after {x : Action σ α} {f : α → Action σ β} {a : α} {cache : StatementCache}
    (hx : x.Yields c [] cache (.ok a)) (hf : (f a).Follows (x.on c).2 Q) :
    (x >>= f).Follows c Q := by
  obtain ⟨talk, cache', result, hQ, hyields⟩ := hf
  exact ⟨talk, cache', result, hQ, hx.after hyields⟩

/-- Something is made of the way an operation ends, without another word. -/
theorem attempt {x : Action σ α} (h : x.Follows c P) (f : Except Fault α → β) :
    ∃ talk cache result, P talk cache result ∧
      Quiet.Yields (do return f (← x.attempt)) c talk cache (f result) := by
  obtain ⟨talk, cache, result, hP, hyields⟩ := h
  exact ⟨talk, cache, result, hP, .bind_attempt hyields fun d hleads => hleads.quiet_pure _⟩

theorem mapFault {x : Action σ α} {P' : Grammar α} (f : Fault → Fault) (h : x.Follows c P)
    (hp : ∀ talk cache result, P talk cache result → P' talk cache (result.mapError f)) :
    (x.mapFault f).Follows c P' := by
  obtain ⟨talk, cache, result, hP, hyields⟩ := h
  exact ⟨talk, cache, result.mapError f, hp _ _ _ hP, hyields.mapFault f⟩

end Action.Follows

/-! ## One request -/

namespace Connection

variable [Transport σ]

omit [Transport σ] in
theorem on_note (notice : Notice) (c : Connection σ) :
    (note notice).on c = (.ok (), { c with journal := c.journal.push (.logged notice) }) := rfl

omit [Transport σ] in
theorem on_absorb (outcome : Outcome σ α) (event : Except Fault α → Event) (c : Connection σ) :
    (absorb outcome event).on c = (outcome.result, { c with
      peer := outcome.next
      isCancelled := c.isCancelled || outcome.cancels
      journal := c.journal.push (event outcome.result) }) := rfl

theorem on_write (r : Request) (c : Connection σ) :
    (write r).on c = (absorb (Transport.write r.encode c.peer) fun result =>
      .wrote r (fault? result)).on c := rfl

theorem on_read (c : Connection σ) :
    (read : Action σ Json).on c = (absorb (Transport.read c.peer) .read).on c := rfl

/-- An open connection is closed. -/
theorem on_close {c : Connection σ} (hopen : c.isOpen = true) :
    Quiet.on close c = ((), { c with
      peer := Transport.close c.peer
      isOpen := false
      journal := c.journal.push .closed }) := by
  rw [close, Quiet.on_modify, if_pos hopen]

/-- The part of a request that comes after the message that answers it. -/
def accept (α : Type) [Payload α] (command : String) (json : Json) : Action σ (Reply α) := do
  match Reply.decode (Payload.decode : Json → Option α) json with
  | none => throw (.protocolError (.malformedReply command))
  | some reply =>
    adopt reply.attributes
    match reply.result with
    | .ok reply => return reply
    | .error fault =>
      logServerError command fault
      throw fault

theorem send_eq (α : Type) [Payload α] (r : Request) :
    (send α r : Action σ (Reply α)) = (do
      if (← get).isCancelled then throw .cancelled
      note (.sendingCommand r.command)
      unless (← get).isOpen do throw .closed
      write r
      accept α r.command (← read)) := rfl

omit [Transport σ] in
theorem on_logServerError (command : String) (fault : Fault) (c : Connection σ) :
    (logServerError command fault).on c = (.ok (),
      if c.config.suppressErrors then c
      else { c with journal := c.journal.push (.logged (.serverError command fault)) }) := by
  simp only [logServerError, Action.on_bind, Action.on_get]
  split <;> rfl

omit [Transport σ] in
/-- Accepting a message merges its attributes and, where errors are logged, reports its error. -/
theorem on_accept_eq (α : Type) [Payload α] (r : Request) (json : Json) (c : Connection σ) :
    let a : Attempt := ⟨r, .message json⟩
    (accept α r.command json).on c = (a.reply α, { c with
      attributes := c.attributes.merge (reportedAs α json)
      journal := if c.config.suppressErrors then c.journal
        else c.journal ++ (r.errorNotices (a.serverError? α)).toArray }) := by
  intro a
  cases hdecode : Reply.decode (Payload.decode : Json → Option α) json with
  | none =>
    have hreply : a.reply α = .error (.protocolError (.malformedReply r.command)) := by
      simp [a, Attempt.reply, Answer.message?, hdecode, bind, Except.bind]
    have hreport : a.serverError? α = none := by
      simp [a, Attempt.serverError?, Answer.message?, hdecode, Except.toOption]
    rw [hreply, hreport]
    simp [accept, hdecode, reportedAs, Request.errorNotices, Action.on_throw]
  | some reply =>
    have hreply : a.reply α = reply.result := by
      simp [a, Attempt.reply, Answer.message?, hdecode, bind, Except.bind]
    cases hstatus : reply.status with
    | ok =>
      have hreport : a.serverError? α = none := by
        simp [a, Attempt.serverError?, Answer.message?, hdecode, hstatus, Except.toOption]
      rw [hreply, hreport]
      simp only [accept, hdecode, hstatus, Reply.result, reportedAs, Action.on_bind]
      simp [adopt, Request.errorNotices, Action.on_modify, Action.on_pure]
    | error =>
      have hreport : a.serverError? α = some (reply.exception.getD Reply.unexplained) := by
        simp [a, Attempt.serverError?, Answer.message?, hdecode, hstatus, Except.toOption]
      rw [hreply, hreport]
      simp only [accept, hdecode, hstatus, Reply.result, reportedAs, Action.on_bind,
        on_logServerError, Action.on_throw]
      cases hsuppress : c.config.suppressErrors <;>
        simp [adopt, Request.errorNotices, Action.on_modify, hsuppress, Exception.fault]

omit [Transport σ] in
/-- Accepting a message merges its attributes, and may log a notice. -/
theorem on_accept (α : Type) [Payload α] (r : Request) (json : Json) (c : Connection σ) :
    ((accept α r.command json).on c).1 = (⟨r, .message json⟩ : Attempt).reply α ∧
      ∃ notices : Array Notice, ((accept α r.command json).on c).2 = { c with
        attributes := c.attributes.merge (reportedAs α json)
        journal := c.journal ++ notices.map Event.logged } := by
  rw [on_accept_eq]
  refine ⟨rfl, ?_⟩
  cases hsuppress : c.config.suppressErrors with
  | true => exact ⟨#[], by simp⟩
  | false =>
    let report? := (⟨r, .message json⟩ : Attempt).serverError? α
    let notices := report?.toList.map fun report => Notice.serverError r.command report.fault
    exact ⟨notices.toArray, by
      simp [notices, report?, Request.errorNotices, Function.comp_def]⟩

/-- Offer a request to the transport, and wait for the message that answers it. -/
def converse (r : Request) : Action σ Json := do
  write r
  read

/-- An exchange gives what the line answers, and leaves its calls in the journal. -/
theorem on_converse (r : Request) {c : Connection σ}
    (hcancelled : c.isCancelled = false) (hopen : c.isOpen = true) :
    (converse r).on c = ((c.line.attempt r).answer.message?, { c with
      peer := (c.line.after r).peer
      isCancelled := (c.line.after r).isCancelled
      journal := c.journal ++ (c.line.attempt r).events.toArray }) := by
  cases hw : (Transport.write r.encode c.peer).result with
  | error fault =>
    simp [converse, Action.on_bind, on_write, on_absorb, hw, Line.attempt, Line.after, Line.answer,
      line, hcancelled, hopen, Attempt.events, Answer.message?, fault?]
  | ok _ =>
    cases hr : (Transport.read (Transport.write r.encode c.peer).next).result <;>
      simp [converse, Action.on_bind, on_write, on_read, on_absorb, hw, hr, Line.attempt,
        Line.after, Line.answer, Line.listen, line, hcancelled, hopen, Attempt.events,
        Answer.message?, fault?] <;>
      rfl

/-- What is logged before an attempt to send a request. -/
def announcement (c : Connection σ) (r : Request) : List Event :=
  if c.isCancelled then [] else [.logged (.sendingCommand r.command)]

/-- The connection after an attempt, whose answer was not looked at yet. -/
def answered (c : Connection σ) (r : Request) : Connection σ :=
  { c with
    peer := (c.line.after r).peer
    isCancelled := (c.line.after r).isCancelled
    journal := c.journal ++ (c.announcement r ++ (c.line.attempt r).events).toArray }

/-- A request is one attempt, and the message that answers it is accepted. -/
theorem on_send (α : Type) [Payload α] (r : Request) (c : Connection σ) :
    (send α r).on c =
      match (c.line.attempt r).answer.message? with
      | .ok json => (accept α r.command json).on (c.answered r)
      | .error fault => (.error fault, c.answered r) := by
  cases hcancelled : c.isCancelled with
  | true =>
    have hanswer := Line.answer_of_cancelled (l := c.line) r hcancelled
    simp only [send, Action.on_bind, Action.on_get, hcancelled, Action.on_throw, if_true,
      Line.attempt, Line.after, hanswer, Answer.message?, answered, announcement]
    simp [line, Attempt.events]
  | false =>
    cases hopen : c.isOpen with
    | false =>
      have hanswer := Line.answer_of_closed (l := c.line) r hcancelled hopen
      simp only [send, Action.on_bind, Action.on_get, hcancelled, hopen, Action.on_throw, on_note,
        Bool.false_eq_true, if_false, Line.attempt, Line.after, hanswer, Answer.message?, answered,
        announcement]
      simp [line, Attempt.events, hopen, hcancelled]
    | true =>
      have hon : (send α r).on c =
          (converse r >>= accept α r.command).on
            ((note (.sendingCommand r.command)).on c).2 := by
        simp only [send_eq, converse, Action.on_bind, Action.on_get, hcancelled, hopen, on_note,
          on_write, on_absorb, if_true, Bool.false_eq_true, if_false]
        cases (Transport.write r.encode c.peer).result <;> rfl
      have hanswered : c.answered r = { ((note (.sendingCommand r.command)).on c).2 with
          peer := (c.line.after r).peer
          isCancelled := (c.line.after r).isCancelled
          journal := ((note (.sendingCommand r.command)).on c).2.journal ++
            (c.line.attempt r).events.toArray } := by
        simp [answered, announcement, hcancelled, on_note]
      rw [hanswered, hon, Action.on_bind,
        on_converse (c := ((note (.sendingCommand r.command)).on c).2) r hcancelled hopen]
      simp only [on_note, line]
      split <;> simp_all

omit [Transport σ] in
/-- Notices are not calls of the transport. -/
theorem calls_notices (notices : List Notice) : Event.calls (notices.map Event.logged) = [] := by
  simp [Event.calls, Event.isNotice]

omit [Transport σ] in
theorem calls_announcement (c : Connection σ) (r : Request) :
    Event.calls (c.announcement r) = [] := by
  unfold announcement
  split <;> rfl

/-- What an attempt leaves behind is the state of the line and its calls in the journal. -/
theorem answered_leads (c : Connection σ) (r : Request) (notices : Array Notice) :
    Leads c [c.line.attempt r] c.statements { c.answered r with
      attributes := c.attributes.merge (c.line.attempt r).attributes
      journal := (c.answered r).journal ++ notices.map Event.logged } where
  line := by
    have hline : c.line.after r = (c.answered r).line :=
      congrArg (Line.mk _ · _) (Line.isOpen_after c.line r)
    exact hline ▸ Talk.single c.line r
  config := rfl
  session := rfl
  attributes := rfl
  statements := rfl
  journal := by
    refine ⟨c.announcement r ++ (c.line.attempt r).events ++ (notices.map Event.logged).toList,
      ?_, ?_⟩
    · simp only [answered, Array.toList_append, List.append_assoc]
    · simp [calls_notices, calls_announcement]

/-- A request to which no message came fails without any other trace. -/
theorem unanswered_yields (α : Type) [Payload α] {r : Request} {c : Connection σ} {fault : Fault}
    (h : (c.line.attempt r).answer.message? = .error fault) :
    (send α r).Yields c [c.line.attempt r] c.statements (.error fault) := by
  have hattributes : (c.line.attempt r).attributes = .empty := by
    unfold Attempt.attributes
    split
    · simp_all [Answer.message?]
    · rfl
  have hleads := answered_leads c r #[]
  rw [hattributes] at hleads
  constructor
  · rw [on_send, h]
  · rw [on_send, h]
    simpa [answered] using hleads

/-- A request is one attempt, and its answer decides how the request ends. -/
theorem send_yields (α : Type) [Payload α] (r : Request) (h : r.Promises α) (c : Connection σ) :
    (send α r).Yields c [c.line.attempt r] c.statements ((c.line.attempt r).reply α) := by
  cases hanswer : (c.line.attempt r).answer with
  | cancelled | closed | unwritten _ | unread _ =>
    have hreply : (c.line.attempt r).reply α = (c.line.attempt r).answer.message?.bind _ := rfl
    rw [hreply, hanswer]
    exact unanswered_yields α (congrArg Answer.message? hanswer)
  | message json =>
    have hattempt : (⟨r, .message json⟩ : Attempt) = c.line.attempt r := by
      rw [← hanswer]
      rfl
    have hreported : reportedAs α json = (c.line.attempt r).attributes := by
      rw [← hattempt, ← h]
      rfl
    obtain ⟨hresult, notices, hafter⟩ := on_accept α r json (c.answered r)
    constructor
    · rw [on_send, hanswer, ← hattempt]
      exact hresult
    · rw [on_send, hanswer]
      simp only [Answer.message?]
      rw [hafter, hreported]
      exact answered_leads c r notices

/-- What asks for a payload is one attempt as well. -/
theorem ask_yields (α : Type) [Payload α] (r : Request) (h : r.Promises α) (c : Connection σ) :
    (ask α r).Yields c [c.line.attempt r] c.statements ((c.line.attempt r).payload α) := by
  have hsend := send_yields α r h c
  unfold ask Attempt.payload
  cases hreply : (c.line.attempt r).reply α with
  | error fault =>
    rw [hreply] at hsend
    exact hsend.bind_error
  | ok reply =>
    rw [hreply] at hsend
    exact hsend.bind (hsend.leads.ofExcept reply.payload)

theorem tell_yields (r : Request) (h : r.Promises Unit) (c : Connection σ) :
    (tell r).Yields c [c.line.attempt r] c.statements
      (((c.line.attempt r).reply Unit).map fun _ => ()) := by
  have hsend := send_yields Unit r h c
  unfold tell
  cases hreply : (c.line.attempt r).reply Unit with
  | error fault =>
    rw [hreply] at hsend
    exact hsend.bind_error
  | ok reply =>
    rw [hreply] at hsend
    exact hsend.bind (hsend.leads.pure ())

end Connection
end ExasolClient
