import WebOfThings.Bus.Client

/-!
# The sessions of a client

A client has had many sessions, and the loop of each may still see what happens to it: a late event
of a session that was given up comes between whatever is done with the client meanwhile. What
happens to a client is a list of steps (`ClientStep`): connects begin and end, the client is told to
disconnect, loops see events, and messages and filters are handed to it. A history is what happened
since the client was new, where loops see events of sessions that were begun (`History`).

Whatever the history is, the client is *orderly* (`Orderly`): all sessions are given up but the
installed one, and how the client stands with its broker is what the latest event of that session
says, of those that decide it. Nothing else can: an event is passed over if its session was given
up, and whatever replaces a session gives it up. So a client that was closed stays closed until it
is connected again (`closed_until_start`).
-/

namespace WebOfThings

/-- What happens to a client. -/
inductive ClientStep (α : Type)
  /-- A connect begins. -/
  | start (broker : Broker) (credentials : Credentials)
  /-- The wait of a connect ends. -/
  | conclude (broker : Broker)
  /-- It is told to disconnect. -/
  | disconnect
  /-- The loop of a session sees an event. -/
  | see (session : Nat) (event : SessionEvent)
  /-- A message is published. -/
  | publish (message : Message)
  /-- A filter gets a receiver. -/
  | subscribe (filter : String) (receiver : α)
  /-- A filter is left without a receiver. -/
  | unsubscribe (filter : String)
  deriving Repr, Inhabited

/-- Whether an event decides how a session stands with its broker. -/
def SessionEvent.decides : SessionEvent → Bool
  | accepted | ended | failed _ => true
  | refused | message .. | sent _ => false

/-- How a client stands with its broker after the latest deciding event of its session, if there was
    one. -/
def SessionEvent.status : Option SessionEvent → BusStatus
  | some accepted => { state := .connected }
  | some ended => { lastError := some "Disconnected by the broker" }
  | some (failed reason) => { lastError := some reason }
  | _ => { state := .connecting }

namespace ClientStep

variable {α : Type}

/-- The deciding event of a session that is seen. -/
def decision? (i : Nat) : ClientStep α → Option SessionEvent
  | see j event => if j = i ∧ event.decides then some event else none
  | _ => none

/-- The latest deciding event of a session, among steps of which the latest comes first. -/
def latest? (i : Nat) (steps : List (ClientStep α)) : Option SessionEvent :=
  steps.findSome? (decision? i)

/-- Whether a connect begins. -/
def isStart : ClientStep α → Bool
  | start .. => true
  | _ => false

theorem latest?_cons (i : Nat) (step : ClientStep α) (steps : List (ClientStep α)) :
    latest? i (step :: steps) = (step.decision? i).or (latest? i steps) := by
  cases h : step.decision? i <;> simp [latest?, h]

theorem latest?_cons_of_none {i : Nat} {step : ClientStep α} (h : step.decision? i = none)
    (steps : List (ClientStep α)) : latest? i (step :: steps) = latest? i steps := by
  rw [latest?_cons, h, Option.none_or]

end ClientStep

namespace Session

/-- A session takes a request if the request is a valid one and fits the queue. -/
theorem request?_eq_some {capacity : Nat} {r : BrokerRequest} {s s' : Session} :
    s.request? capacity r = some s' ↔
      (r.isValid = true ∧ s.queue.length < capacity) ∧ { s with queue := s.queue ++ [r] } = s' := by
  simp [request?, Option.ite_none_right_eq_some]

theorem cancelled_of_request? {capacity : Nat} {r : BrokerRequest} {s s' : Session}
    (h : s.request? capacity r = some s') : s'.cancelled = s.cancelled := by
  obtain ⟨-, rfl⟩ := request?_eq_some.1 h
  rfl

@[simp] theorem cancelled_subscribeAll (capacity : Nat) (filters : List String) (s : Session) :
    (s.subscribeAll capacity filters).cancelled = s.cancelled := by
  simp only [subscribeAll]
  induction filters generalizing s with
  | nil => rfl
  | cons filter filters ih =>
    rw [List.foldl_cons, ih]
    cases h : s.request? capacity (.subscribe filter) with
    | none => rfl
    | some s' => exact cancelled_of_request? h

@[simp] theorem cancelled_react (event : SessionEvent) (s : Session) :
    (s.react event).cancelled = s.cancelled := by
  cases event <;> rfl

end Session

namespace BusClient

variable {α : Type} {c c' : BusClient α} {i : Nat} {event : SessionEvent}

/-- A client after a step. -/
def step (c : BusClient α) : ClientStep α → BusClient α
  | .start broker credentials => (c.start broker credentials).2
  | .conclude broker => (c.conclude broker).2
  | .disconnect => c.disconnect
  | .see i event => c.react i event
  | .publish m => (c.publish? m).toOption.getD c
  | .subscribe filter receiver => (c.subscribe filter receiver).2
  | .unsubscribe filter => (c.unsubscribe filter).2

/-- A step closes a client: it is told to disconnect, or a connect fails, because its credentials
    cannot be shown or because the broker did not accept it. -/
def Closes (c : BusClient α) : ClientStep α → Prop
  | .disconnect => True
  | .start broker credentials => (c.start broker credentials).1 ≠ .done
  | .conclude broker => (c.conclude broker).1 ≠ .done
  | _ => False

/-- The steps that brought a new client to where it is, the latest first. Loops see events of
    sessions that were begun. -/
inductive History (config : BusConfig) : List (ClientStep α) → BusClient α → Prop
  /-- Nothing happened yet. -/
  | new : History config [] { config }
  /-- One more thing happened. -/
  | step {steps : List (ClientStep α)} {c : BusClient α} {step : ClientStep α}
      (before : History config steps c)
      (begun : ∀ i event, step = .see i event → i < c.sessions.next) :
      History config (step :: steps) (c.step step)

/-- What a loop sees counts if its session is there and was not given up. -/
theorem isLive_iff : c.isLive i = true ↔ (c.sessions.get? i).map (·.cancelled) = some false := by
  simp only [isLive]
  split
  · next s hs => simp [hs]
  · next hs => simp [hs]

/-- Publishing hands the message over if the client is connected. -/
theorem step_publish (c : BusClient α) (m : Message) :
    c.step (.publish m) =
      if c.isConnected && c.session?.isSome then (c.request? (.publish m)).getD c else c := by
  simp only [step, publish?]
  cases c.isConnected <;> cases c.session? <;> try rfl
  cases c.request? (.publish m) <;> rfl

/-- Subscribing hands the filter over if the client is connected. -/
theorem step_subscribe (c : BusClient α) (filter : String) (receiver : α) :
    c.step (.subscribe filter receiver) =
      let c := { c with subscriptions := c.subscriptions.insert filter receiver }
      if c.isConnected then (c.request? (.subscribe filter)).getD c else c := by
  simp only [step, subscribe]
  split
  · split <;> simp [*]
  · rfl

/-- Unsubscribing hands the filter over if it had a receiver and the client is connected. -/
theorem step_unsubscribe (c : BusClient α) (filter : String) :
    c.step (.unsubscribe filter) =
      let known := c.subscriptions.contains filter
      let c := { c with subscriptions := c.subscriptions.erase filter }
      if known && c.isConnected then (c.request? (.unsubscribe filter)).getD c else c := by
  simp only [step, unsubscribe]
  split
  · split <;> simp [*]
  · rfl

/-- A request that is not refused goes to the end of the queue of the installed session. Nothing
    comes of it if there is none. -/
theorem cases_of_request? {r : BrokerRequest} (h : c.request? r = some c') :
    c' = c ∨ ∃ i s, c.installed = some i ∧ c.sessions.get? i = some s ∧
      (r.isValid = true ∧ s.queue.length < c.config.channelCapacity) ∧
      c' = { c with sessions :=
        c.sessions.update i fun s => { s with queue := s.queue ++ [r] } } := by
  simp only [request?] at h
  split at h
  · next i s hi hs =>
    obtain ⟨s', hs', rfl⟩ := Option.map_eq_some_iff.1 h
    obtain ⟨hfits, rfl⟩ := Session.request?_eq_some.1 hs'
    rw [session?, hi, Option.bind_some] at hs
    refine .inr ⟨i, s, hi, hs, hfits, ?_⟩
    rw [Table.update_const hs fun s => { s with queue := s.queue ++ [r] }]
  · exact .inl (Option.some.inj h).symm

/-- A client that disconnects keeps all but its session and how it stands with its broker. -/
theorem exists_disconnect_eq (c : BusClient α) : ∃ sessions,
    c.disconnect = { c with status := {}, installed := none, sessions } := by
  have hcancel (c : BusClient α) :
      ∃ sessions, c.cancel = { c with installed := none, sessions } := by
    simp only [cancel]
    split
    · next hi => exact ⟨c.sessions, by rw [← hi]⟩
    · exact ⟨_, rfl⟩
  have htold : ∃ sessions,
      (if c.isConnected then (c.request? .disconnect).getD c else c) = { c with sessions } := by
    split
    · cases hr : c.request? .disconnect with
      | none => exact ⟨c.sessions, rfl⟩
      | some =>
        obtain rfl | ⟨_, _, -, -, -, rfl⟩ := cases_of_request? hr
        · exact ⟨_, rfl⟩
        · exact ⟨_, rfl⟩
    · exact ⟨c.sessions, rfl⟩
  obtain ⟨_, htold⟩ := htold
  obtain ⟨sessions, hcancel⟩ := hcancel { c with sessions := _ }
  exact ⟨sessions, by rw [disconnect, htold, hcancel]⟩

/-! ## What becomes of receivers

Sessions come and go, and filters keep their receivers. -/

theorem subscriptions_of_request? {r : BrokerRequest} (h : c.request? r = some c') :
    c'.subscriptions = c.subscriptions := by
  obtain rfl | ⟨_, _, -, -, -, rfl⟩ := cases_of_request? h <;> rfl

@[simp] theorem subscriptions_subscribe (c : BusClient α) (filter : String) (receiver : α) :
    (c.subscribe filter receiver).2.subscriptions = c.subscriptions.insert filter receiver := by
  simp only [subscribe]
  split
  · split
    · next hr => exact subscriptions_of_request? hr
    · rfl
  · rfl

@[simp] theorem subscriptions_unsubscribe (c : BusClient α) (filter : String) :
    (c.unsubscribe filter).2.subscriptions = c.subscriptions.erase filter := by
  simp only [unsubscribe]
  split
  · split
    · next hr => exact subscriptions_of_request? hr
    · rfl
  · rfl

@[simp] theorem subscriptions_disconnect (c : BusClient α) :
    c.disconnect.subscriptions = c.subscriptions := by
  obtain ⟨_, h⟩ := exists_disconnect_eq c
  rw [h]

@[simp] theorem subscriptions_start (c : BusClient α) (broker : Broker)
    (credentials : Credentials) :
    (c.start broker credentials).2.subscriptions = c.subscriptions := by
  rw [← subscriptions_disconnect c]
  simp only [start, cancel]
  split
  · rfl
  · split <;> rfl

@[simp] theorem subscriptions_conclude (c : BusClient α) (broker : Broker) :
    (c.conclude broker).2.subscriptions = c.subscriptions := by
  simp only [conclude]
  split
  · rfl
  · exact subscriptions_disconnect c

@[simp] theorem subscriptions_react (c : BusClient α) (i : Nat) (event : SessionEvent) :
    (c.react i event).subscriptions = c.subscriptions := by
  cases event <;> simp only [react] <;> split <;> rfl

/-! ## What becomes of sessions -/

/-- A client whose sessions are given up, or not, as those of another, and that stands with its
    broker like the other. -/
structure Alike (c c' : BusClient α) : Prop where
  /-- Requests go to the same session. -/
  installed : c'.installed = c.installed
  /-- It stands with its broker in the same way. -/
  status : c'.status = c.status
  /-- The same sessions were given up. -/
  cancelled : ∀ i, (c'.sessions.get? i).map (·.cancelled) = (c.sessions.get? i).map (·.cancelled)
  /-- There are as many. -/
  next : c'.sessions.next = c.sessions.next

namespace Alike

theorem refl (c : BusClient α) : c.Alike c := ⟨rfl, rfl, fun _ => rfl, rfl⟩

theorem trans {c'' : BusClient α} (h : c.Alike c') (h' : c'.Alike c'') : c.Alike c'' :=
  ⟨h'.installed.trans h.installed, h'.status.trans h.status,
    fun i => (h'.cancelled i).trans (h.cancelled i), h'.next.trans h.next⟩

/-- One session changes, but is given up, or not, as it was. -/
theorem update (c : BusClient α) (i : Nat) {change : Session → Session}
    (h : ∀ s, c.sessions.get? i = some s → (change s).cancelled = s.cancelled) :
    c.Alike { c with sessions := c.sessions.update i change } := by
  refine ⟨rfl, rfl, fun j => ?_, by simp [Table.next, Table.update]⟩
  change ((c.sessions.update i change).get? j).map _ = _
  rw [Table.get?_update]
  split
  · next hij =>
    subst hij
    cases hs : c.sessions.get? i with
    | none => rfl
    | some s => simp [h s hs]
  · rfl

theorem request? {r : BrokerRequest} (h : c.request? r = some c') : c.Alike c' := by
  obtain rfl | ⟨i, s, -, -, -, rfl⟩ := cases_of_request? h
  · exact refl _
  · exact update c i fun _ _ => by rfl

/-- A request is handed to the session, or refused. -/
theorem ask (c : BusClient α) (r : BrokerRequest) : c.Alike ((c.request? r).getD c) := by
  cases hr : c.request? r with
  | none => exact refl c
  | some => exact request? hr

/-- Messages and filters are handed to the session. -/
theorem publish (c : BusClient α) (m : Message) : c.Alike (c.step (.publish m)) := by
  rw [step_publish]
  split
  · exact ask c _
  · exact refl c

/-- Who receives messages says nothing about sessions. -/
theorem withSubscriptions (c : BusClient α) (subscriptions : NameMap α) :
    c.Alike { c with subscriptions } := ⟨rfl, rfl, fun _ => rfl, rfl⟩

theorem subscribe (c : BusClient α) (filter : String) (receiver : α) :
    c.Alike (c.step (.subscribe filter receiver)) := by
  rw [step_subscribe]
  have h := withSubscriptions c (c.subscriptions.insert filter receiver)
  dsimp only
  split
  · exact h.trans (ask _ _)
  · exact h

theorem unsubscribe (c : BusClient α) (filter : String) :
    c.Alike (c.step (.unsubscribe filter)) := by
  rw [step_unsubscribe]
  have h := withSubscriptions c (c.subscriptions.erase filter)
  dsimp only
  split
  · exact h.trans (ask _ _)
  · exact h

/-- Whether what a loop sees counts is the same. -/
theorem isLive (h : c.Alike c') (i : Nat) : c'.isLive i = c.isLive i := by
  rw [Bool.eq_iff_iff, isLive_iff, isLive_iff, h.cancelled]

/-- A session took note of an event. -/
theorem note (c : BusClient α) (i : Nat) (event : SessionEvent) :
    c.Alike { c with sessions := c.sessions.update i (·.react event) } :=
  update c i fun s _ => s.cancelled_react event

/-- Whatever a loop sees, no session is given up or installed. -/
theorem react (c : BusClient α) (i : Nat) (event : SessionEvent) :
    c.Alike { c.react i event with status := c.status } := by
  have hnote := note c i event
  cases event with
  | accepted =>
    simp only [BusClient.react]
    split
    · exact hnote.trans (update _ i fun s _ => s.cancelled_subscribeAll _ _)
    · exact hnote
  | ended | failed => simp only [BusClient.react]; split <;> exact hnote
  | refused | message | sent => exact hnote

end Alike

/-- How a client stands with its broker after one of its loops has seen an event. -/
theorem status_react (c : BusClient α) (i : Nat) (event : SessionEvent) :
    (c.react i event).status =
      if c.isLive i ∧ event.decides then SessionEvent.status (some event) else c.status := by
  rw [← (Alike.note c i event).isLive i]
  cases event with
  | accepted | ended | failed =>
    simp only [react, SessionEvent.decides, and_true]
    split <;> rfl
  | refused | message | sent => simp [react, SessionEvent.decides]

/-- All sessions are given up but the installed one, and how the client stands with its broker is
    what the latest deciding event of that session says. -/
structure Orderly (steps : List (ClientStep α)) (c : BusClient α) : Prop where
  /-- What is not installed was given up. -/
  retired : ∀ i s, c.sessions.get? i = some s → c.installed ≠ some i → s.cancelled = true
  /-- What is installed was not. -/
  live : ∀ i, c.installed = some i → c.isLive i = true
  /-- The installed session says how the client stands. -/
  decided : ∀ i, c.installed = some i → c.status = SessionEvent.status (ClientStep.latest? i steps)
  /-- Without one, the client is closed. -/
  idle : c.installed = none → c.status = {}
  /-- Nothing was seen of sessions to come. -/
  unseen : ∀ i, c.sessions.next ≤ i → ClientStep.latest? i steps = none

namespace Orderly

variable {steps : List (ClientStep α)} {step : ClientStep α}

/-- A new client is orderly. -/
theorem new (config : BusConfig) : Orderly [] ({ config } : BusClient α) where
  retired i s hs := by simp [Table.get?] at hs
  live i hi := nomatch hi
  decided i hi := nomatch hi
  idle _ := rfl
  unseen _ _ := rfl

theorem of_alike (h : Orderly steps c) (ha : c.Alike c') : Orderly steps c' where
  retired i s hs hi := by
    have hold : (c.sessions.get? i).map (·.cancelled) = some s.cancelled := by
      rw [← ha.cancelled, hs]
      rfl
    obtain ⟨s₀, hs₀, hc⟩ := Option.map_eq_some_iff.1 hold
    exact hc ▸ h.retired i s₀ hs₀ (ha.installed ▸ hi)
  live i hi := ha.isLive i ▸ h.live i (ha.installed ▸ hi)
  decided i hi := ha.status ▸ h.decided i (ha.installed ▸ hi)
  idle hi := ha.status ▸ h.idle (ha.installed ▸ hi)
  unseen i hi := h.unseen i (ha.next ▸ hi)

/-- A step at which no loop sees a deciding event leaves what the events say. -/
theorem cons (h : Orderly steps c) (hstep : ∀ i, step.decision? i = none) :
    Orderly (step :: steps) c where
  retired := h.retired
  live := h.live
  decided i hi := by rw [ClientStep.latest?_cons_of_none (hstep i)]; exact h.decided i hi
  idle := h.idle
  unseen i hi := by rw [ClientStep.latest?_cons_of_none (hstep i)]; exact h.unseen i hi

/-- What a loop sees counts for the installed session only. -/
theorem isLive_iff (h : Orderly steps c) : c.isLive i = true ↔ c.installed = some i := by
  refine ⟨fun hl => ?_, h.live i⟩
  obtain ⟨s, hs, hcancelled⟩ := Option.map_eq_some_iff.1 (BusClient.isLive_iff.1 hl)
  refine Decidable.byContradiction fun hi => ?_
  simp [h.retired i s hs hi] at hcancelled

/-- The client gives its session up. -/
theorem close (h : Orderly steps c) : Orderly steps { c.cancel with status := {} } := by
  simp only [cancel]
  split
  · next hi =>
    exact { h with
      decided := fun i hi' => by simp [hi] at hi'
      idle := fun _ => rfl }
  · next i hi =>
    refine ⟨fun j s hs _ => ?_, nofun, nofun, fun _ => rfl, fun j hj => h.unseen j ?_⟩
    · change (c.sessions.update i _).get? j = some s at hs
      rw [Table.get?_update] at hs
      split at hs
      · obtain ⟨s₀, -, rfl⟩ := Option.map_eq_some_iff.1 hs
        rfl
      · next hij => exact h.retired j s hs (by simp [hi, hij])
    · simpa [Table.next, Table.update] using hj

/-- The client disconnects. -/
theorem disconnect (h : Orderly steps c) : Orderly steps c.disconnect := by
  have htold : c.Alike (if c.isConnected then (c.request? .disconnect).getD c else c) := by
    split
    · exact .ask c .disconnect
    · exact .refl c
  exact (h.of_alike htold).close

/-- A client without a session begins one. -/
theorem begin (h : Orderly steps c) (hi : c.installed = none) (session : Session)
    (hnew : session.cancelled = false) :
    Orderly steps { c with
      status := { state := .connecting }
      installed := some c.sessions.next
      sessions := c.sessions.add session } where
  retired j s hs hj := by
    replace hs : (c.sessions.add session).get? j = some s := hs
    rw [Table.get?_add, if_neg fun hjn => hj (by rw [hjn])] at hs
    exact h.retired j s hs (by simp [hi])
  live j hj := by
    obtain rfl : c.sessions.next = j := Option.some.inj hj
    simp [BusClient.isLive_iff, Table.get?_add, hnew]
  decided j hj := by
    obtain rfl : c.sessions.next = j := Option.some.inj hj
    rw [h.unseen _ (Nat.le_refl _)]
    rfl
  idle := nofun
  unseen j hj := h.unseen j (by simp [Table.next, Table.add] at hj ⊢; omega)

/-- A loop sees an event of a session that was begun. -/
theorem see (h : Orderly steps c) (hbegun : i < c.sessions.next) (event : SessionEvent) :
    Orderly (.see i event :: steps) (c.react i event) := by
  have ha := Alike.react c i event
  have h' := h.of_alike ha
  have hother : ∀ j, j ≠ i → (.see i event : ClientStep α).decision? j = none :=
    fun j hj => if_neg fun hd => hj hd.1.symm
  have hstatus := status_react c i event
  refine ⟨h'.retired, h'.live, fun j hj => ?_, fun hi => ?_, fun j hj => ?_⟩
  · -- the event counts if and only if it is one of the installed session
    replace hj : c.installed = some j := ha.installed ▸ hj
    rw [hstatus, ClientStep.latest?_cons]
    by_cases hji : j = i
    · subst hji
      simp only [h.live j hj, true_and, ClientStep.decision?]
      split
      · rfl
      · exact h.decided j hj
    · rw [if_neg fun hl => hji (Option.some.inj (hj ▸ h.isLive_iff.1 hl.1)), hother j hji,
        Option.none_or]
      exact h.decided j hj
  · replace hi : c.installed = none := ha.installed ▸ hi
    rw [hstatus, if_neg fun hl => by simp [h.isLive_iff, hi] at hl]
    exact h.idle hi
  · replace hj : c.sessions.next ≤ j := ha.next ▸ hj
    rw [ClientStep.latest?_cons_of_none (hother j (by omega))]
    exact h.unseen j hj

/-- A client is connected only if it has a session, and that was accepted and not lost since. -/
theorem accepted (h : Orderly steps c) (hconnected : c.isConnected = true) :
    ∃ i, c.installed = some i ∧ ClientStep.latest? i steps = some .accepted := by
  have hstate : c.status.state = .connected := of_decide_eq_true hconnected
  cases hi : c.installed with
  | none => simp [h.idle hi] at hstate
  | some i =>
    refine ⟨i, rfl, ?_⟩
    rw [h.decided i hi] at hstate
    -- no other event lets a client be connected
    simp only [SessionEvent.status] at hstate
    split at hstate <;> simp_all

end Orderly

/-- Nothing is installed once a client has given its session up. -/
@[simp] theorem installed_cancel (c : BusClient α) : c.cancel.installed = none := by
  simp only [cancel]
  split
  · next hi => exact hi
  · rfl

/-- A client that disconnects is closed. -/
@[simp] theorem installed_disconnect (c : BusClient α) : c.disconnect.installed = none :=
  installed_cancel _

/-- Without a session there is none to give up. -/
theorem cancel_of_none (hi : c.installed = none) : c.cancel = c := by
  simp only [cancel]
  rw [hi]

/-- A client is orderly after every step. -/
theorem History.orderly {config : BusConfig} {steps : List (ClientStep α)}
    (h : History config steps c) : Orderly steps c := by
  induction h with
  | new => exact .new config
  | @step steps c step _ hbegun ih =>
    cases step with
    | start broker credentials =>
      refine Orderly.cons ?_ fun _ => rfl
      simp only [BusClient.step, start]
      split
      · exact ih.disconnect
      · rw [cancel_of_none (installed_disconnect c)]
        exact ih.disconnect.begin (installed_disconnect c) _ rfl
    | conclude broker =>
      refine Orderly.cons ?_ fun _ => rfl
      simp only [BusClient.step, conclude]
      split
      · exact ih
      · exact ih.disconnect
    | disconnect => exact ih.disconnect.cons fun _ => rfl
    | see i event => exact ih.see (hbegun i event rfl) event
    | publish m => exact (ih.of_alike (.publish c m)).cons fun _ => rfl
    | subscribe filter receiver =>
      exact (ih.of_alike (.subscribe c filter receiver)).cons fun _ => rfl
    | unsubscribe filter => exact (ih.of_alike (.unsubscribe c filter)).cons fun _ => rfl

/-! ## Closed clients -/

/-- Nothing is installed after a step that closes a client. -/
theorem installed_of_closes {step : ClientStep α} (h : c.Closes step) :
    (c.step step).installed = none := by
  cases step with
  | disconnect => exact installed_disconnect c
  | start broker credentials =>
    simp only [Closes, BusClient.step, start] at h ⊢
    split
    · exact installed_disconnect c
    · next hok => simp [hok] at h
  | conclude broker =>
    simp only [Closes, BusClient.step, conclude] at h ⊢
    split
    · next hc => simp [hc] at h
    · exact installed_disconnect c
  | see | publish | subscribe | unsubscribe => exact h.elim

/-- A session is installed only when a connect begins. -/
theorem installed_step_of_none {step : ClientStep α} (hi : c.installed = none)
    (hstep : step.isStart = false) : (c.step step).installed = none := by
  cases step with
  | start => simp [ClientStep.isStart] at hstep
  | conclude broker =>
    simp only [BusClient.step, conclude]
    split
    · exact hi
    · exact installed_disconnect c
  | disconnect => exact installed_disconnect c
  | see i event => exact (Alike.react c i event).installed.trans hi
  | publish m => exact (Alike.publish c m).installed.trans hi
  | subscribe filter receiver => exact (Alike.subscribe c filter receiver).installed.trans hi
  | unsubscribe filter => exact (Alike.unsubscribe c filter).installed.trans hi

/-- What happened to a client says where it is. -/
theorem History.unique {config : BusConfig} {steps : List (ClientStep α)}
    (h : History config steps c) (h' : History config steps c') : c = c' := by
  induction h generalizing c' with
  | new => cases h'; rfl
  | step _ _ ih => cases h' with | step before _ => rw [ih before]

/-- A closed client has no session for as long as no connect begins. -/
theorem History.installed_after {config : BusConfig} {steps late : List (ClientStep α)}
    {step : ClientStep α} (h : History config steps c) (hclose : c.Closes step)
    (hlate : ∀ s ∈ late, s.isStart = false) (h' : History config (late ++ step :: steps) c') :
    c'.installed = none := by
  induction late generalizing c' with
  | nil =>
    cases h' with
    | step before _ => rw [before.unique h]; exact installed_of_closes hclose
  | cons s late ih =>
    cases h' with
    | step before _ =>
      have hbefore := ih (fun t ht => hlate t (List.mem_cons_of_mem _ ht)) before
      exact installed_step_of_none hbefore (hlate s List.mem_cons_self)

/-- Whatever happens to a client, all its sessions but the installed one are given up; while it is
    connected there is an installed one, which is not given up and was accepted by the latest of the
    events that decide this; and once it disconnected, or a connect of it failed, it is closed, and
    stays so until a connect begins. -/
theorem closed_until_start {config : BusConfig} {steps : List (ClientStep α)}
    (h : History config steps c) :
    (∀ i s, c.sessions.get? i = some s → c.installed ≠ some i → s.cancelled = true) ∧
    (c.isConnected = true → ∃ i s, c.installed = some i ∧ c.sessions.get? i = some s ∧
      s.cancelled = false ∧ ClientStep.latest? i steps = some .accepted) ∧
    ∀ step, c.Closes step → ∀ late, (∀ s ∈ late, s.isStart = false) →
      ∀ c', History config (late ++ step :: steps) c' →
        c'.status = { state := .disconnected, lastError := none } := by
  have ho := h.orderly
  refine ⟨ho.retired, fun hconnected => ?_, fun step hclose late hlate c' h' => ?_⟩
  · obtain ⟨i, hi, haccepted⟩ := ho.accepted hconnected
    obtain ⟨s, hs, hcancelled⟩ :=
      Option.map_eq_some_iff.1 (BusClient.isLive_iff.1 (ho.live i hi))
    exact ⟨i, s, hi, hs, hcancelled, haccepted⟩
  · exact h'.orderly.idle (h.installed_after hclose hlate h')

/-- The lamp's client was accepted and then disconnected; the loop that was given up sees another
    acceptance, and nothing comes of it. -/
theorem closed_until_start_lamp :
    ∃ c c' : BusClient Unit,
      History { clientId := "lamp" }
        [.see 0 .accepted, .start ⟨"localhost", 1883⟩ .anonymous] c ∧ c.isConnected = true ∧
      History { clientId := "lamp" }
        ([.see 0 .accepted] ++
          .disconnect :: [.see 0 .accepted, .start ⟨"localhost", 1883⟩ .anonymous]) c' ∧
      c'.status = { state := .disconnected, lastError := none } := by
  have hbegun {c : BusClient Unit} (h : 0 < c.sessions.next) (i : Nat) (event : SessionEvent)
      (he : (.see 0 .accepted : ClientStep Unit) = .see i event) : i < c.sessions.next := by
    cases he
    exact h
  have h : History { clientId := "lamp" }
      [.see 0 .accepted, .start ⟨"localhost", 1883⟩ .anonymous] (_ : BusClient Unit) :=
    .step (.step .new nofun) (hbegun (by decide))
  have h' : History { clientId := "lamp" }
      [.see 0 .accepted, .disconnect, .see 0 .accepted, .start ⟨"localhost", 1883⟩ .anonymous]
      (_ : BusClient Unit) :=
    .step (.step h nofun) (hbegun (by decide))
  exact ⟨_, _, h, rfl, h', (closed_until_start h).2.2 .disconnect trivial [.see 0 .accepted]
    (by simp [ClientStep.isStart]) _ h'⟩

end BusClient

end WebOfThings
