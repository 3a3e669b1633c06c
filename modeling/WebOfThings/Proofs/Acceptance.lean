import WebOfThings.Proofs.Visits

/-!
# When a broker accepts

Connecting the bus of a consumer ends well if the client of the bus is connected once the loop of
its session has seen what there is to see. So an event that accepts the client was among what was
seen (`Run.accepted_of_run_connectBus`), and where no handler disconnects the bus meanwhile, it is
the latest of the events that decide (`SessionEvent.verdict?`) that says whether it ends well
(`Run.run_connectBus_eq_done_iff`): handlers may publish and subscribe, but that neither begins nor
ends a session.
-/

namespace WebOfThings

open Run

/-- The latest of some events that decides how a session stands with its broker. -/
def SessionEvent.verdict? : (events : List SessionEvent) → Option SessionEvent
  | [] => none
  | event :: later => (verdict? later).or (if event.decides then some event else none)

/-- How a session stands after some events, where it stood somehow before. -/
def SessionEvent.statusAfter (events : List SessionEvent) (status : BusStatus) : BusStatus :=
  match verdict? events with
  | some event => SessionEvent.status (some event)
  | none => status

theorem SessionEvent.statusAfter_cons (event : SessionEvent) (later : List SessionEvent)
    (status : BusStatus) : statusAfter (event :: later) status =
      statusAfter later (if event.decides then SessionEvent.status (some event) else status) := by
  simp only [statusAfter, verdict?]
  cases verdict? later with
  | some _ => rfl
  | none => cases event.decides <;> rfl

/-- The client of a bus that has a broker. -/
def Site.client? (s : Site) (k : BusRef) : Option (BusClient Receiver) :=
  (s.buses.get? k).bind (·.client?)

/-! ## Clients of buses -/

namespace Bus

variable {b b' : Bus Receiver} {c : BusClient Receiver} {m : Message}

theorem exists_alike_of_publish? {receivers : List Receiver} (hc : b.client? = some c)
    (h : b.publish? m = .ok (b', receivers)) : ∃ c', b'.client? = some c' ∧ c.Alike c' := by
  obtain ⟨medium, faults⟩ := b
  simp only [publish?] at h
  split at h
  · contradiction
  cases medium with
  | process bus => contradiction
  | broker client =>
    obtain rfl := Option.some.inj hc
    have halike := BusClient.Alike.publish client m
    cases hsent : client.publish? m with
    | error e => simp [hsent, bind, Except.bind] at h
    | ok client' =>
      simp only [hsent, bind, Except.bind, Except.ok.injEq, Prod.mk.injEq] at h
      obtain ⟨rfl, rfl⟩ := h
      rw [BusClient.step, hsent] at halike
      exact ⟨client', rfl, halike⟩

theorem exists_alike_subscribe (hc : b.client? = some c) (filter : String) (r : Receiver) :
    ∃ c', (b.subscribe filter r).2.client? = some c' ∧ c.Alike c' := by
  obtain ⟨medium, faults⟩ := b
  simp only [subscribe]
  split
  · exact ⟨c, hc, .refl c⟩
  cases medium with
  | process bus => contradiction
  | broker client =>
    obtain rfl := Option.some.inj hc
    exact ⟨_, rfl, .subscribe client filter r⟩

theorem exists_alike_unsubscribe (hc : b.client? = some c) (filter : String) :
    ∃ c', (b.unsubscribe filter).2.client? = some c' ∧ c.Alike c' := by
  obtain ⟨medium, faults⟩ := b
  simp only [unsubscribe]
  split
  · exact ⟨c, hc, .refl c⟩
  cases medium with
  | process bus => contradiction
  | broker client =>
    obtain rfl := Option.some.inj hc
    exact ⟨_, rfl, .unsubscribe client filter⟩

theorem client?_disconnect (b : Bus Receiver) :
    b.disconnect.client? = b.client?.map (·.disconnect) := by
  obtain ⟨medium, faults⟩ := b
  cases medium <;> rfl

end Bus

/-- The client of a bus changes as the bus does. -/
theorem Site.client?_of_update {s s' : Site} {k : BusRef} {change : Bus Receiver → Bus Receiver}
    {f : BusClient Receiver → BusClient Receiver} (h : s'.buses = s.buses.update k change)
    (hchange : ∀ b, (change b).client? = b.client?.map f) :
    s'.client? k = (s.client? k).map f := by
  simp only [Site.client?, h, Table.get?_update, if_true]
  cases s.buses.get? k with
  | none => rfl
  | some b => exact hchange b

namespace BusClient

variable {α : Type} {c : BusClient α} {broker : Broker} {credentials : Credentials}

@[simp] theorem config_disconnect (c : BusClient α) : c.disconnect.config = c.config := by
  obtain ⟨_, h⟩ := exists_disconnect_eq c
  rw [h]

/-- A session begins if the credentials can be shown. -/
theorem start_eq (c : BusClient α) (broker : Broker) (credentials : Credentials) :
    (c.start broker credentials).1 = checkCredentials c.config credentials := by
  simp only [start, config_disconnect]
  split <;> simp [*]

/-- A session that begins waits to be accepted. -/
theorem begun_of_start (h : (c.start broker credentials).1 = .done) :
    ∃ i, (c.start broker credentials).2.installed = some i ∧
      (c.start broker credentials).2.isLive i = true ∧
      (c.start broker credentials).2.status = { state := .connecting } := by
  simp only [start] at h ⊢
  split at h
  · contradiction
  · next hcheck =>
    refine ⟨_, rfl, ?_⟩
    simp [isLive_iff, Table.get?_add]

/-- The wait for a broker ends well if the client is connected. -/
theorem conclude_eq_done_iff (c : BusClient α) (broker : Broker) :
    (c.conclude broker).1 = .done ↔ c.isConnected = true := by
  simp only [conclude]
  split <;> simp_all

theorem Alike.isConnected {c' : BusClient α} (h : c.Alike c') : c'.isConnected = c.isConnected := by
  simp [BusClient.isConnected, h.status]

/-- Only an event that accepts it connects a client. -/
theorem isConnected_react {i : Nat} {event : SessionEvent}
    (h : (c.react i event).isConnected = true) : c.isConnected = true ∨ event = .accepted := by
  simp only [isConnected, status_react] at h ⊢
  split at h
  · next hdecides =>
    cases event with
    | accepted => exact .inr rfl
    | _ => simp_all [SessionEvent.status, SessionEvent.decides]
  · exact .inl h

theorem isLive_react (c : BusClient α) (i : Nat) (event : SessionEvent) (j : Nat) :
    (c.react i event).isLive j = c.isLive j := (Alike.react c i event).isLive j

end BusClient

/-! ## What handlers leave of a client -/

/-- A relation between clients that composes, and holds where a client stands with its broker like
    another. -/
structure BusClient.Mild (Q : BusClient Receiver → BusClient Receiver → Prop) : Prop where
  /-- It holds of clients that are alike. -/
  of_alike : ∀ {c c'}, c.Alike c' → Q c c'
  /-- It composes. -/
  trans : ∀ {c c' c''}, Q c c' → Q c' c'' → Q c c''

/-- The client of a bus becomes another that is related to it. -/
def Site.Tends (Q : BusClient Receiver → BusClient Receiver → Prop) (k : BusRef) (s s' : Site) :
    Prop :=
  ∀ c, s.client? k = some c → ∃ c', s'.client? k = some c' ∧ Q c c'

namespace Site.Tends

variable {Q : BusClient Receiver → BusClient Receiver → Prop} (hQ : BusClient.Mild Q) {k : BusRef}
  {s : Site}
include hQ

theorem of_same {s' : Site} (h : s'.buses = s.buses) : s.Tends Q k s' := fun c hc =>
  ⟨c, by rw [← hc, Site.client?, h]; rfl, hQ.of_alike (.refl c)⟩

theorem updateBus {j : BusRef} {change : Bus Receiver → Bus Receiver}
    (h : j = k → ∀ b c, s.buses.get? k = some b → b.client? = some c →
      ∃ c', (change b).client? = some c' ∧ Q c c') :
    s.Tends Q k { s with buses := s.buses.update j change } := by
  intro c hc
  obtain ⟨b, hb, hclient⟩ := Option.bind_eq_some_iff.1 hc
  simp only [Site.client?, Table.get?_update, hb, Option.map_some]
  split
  · next hj => exact h hj b c hb hclient
  · exact ⟨c, hclient, hQ.of_alike (.refl c)⟩

theorem keeps : Keeps (Site.Tends Q k) where
  refl _ := of_same hQ rfl
  trans h h' c hc := by
    obtain ⟨c', hc', hQ'⟩ := h c hc
    obtain ⟨c'', hc'', hQ''⟩ := h' c' hc'
    exact ⟨c'', hc'', hQ.trans hQ' hQ''⟩
  note _ _ := of_same hQ rfl
  mark _ _ := of_same hQ rfl
  publish hget hsent := updateBus hQ fun hj b c hb hc => by
    subst hj
    obtain rfl := Option.some.inj (hget.symm.trans hb)
    obtain ⟨c', hc', halike⟩ := Bus.exists_alike_of_publish? hc hsent
    exact ⟨c', hc', hQ.of_alike halike⟩
  exposed _ _ _ _ := of_same hQ rfl
  consumed _ _ _ _ := of_same hQ rfl

theorem drop (role : Role) (id : String) : s.Tends Q k (role.drop id s) := by
  intro c hc
  obtain ⟨b, hb, hclient⟩ := Option.bind_eq_some_iff.1 hc
  simp only [Site.client?, Role.get?_buses_drop, hb, Option.map_some]
  split
  · obtain ⟨c', hc', halike⟩ := Bus.exists_alike_unsubscribe hclient (role.filter id)
    exact ⟨c', hc', hQ.of_alike halike⟩
  · exact ⟨c, hclient, hQ.of_alike (.refl c)⟩

/-- No act but one that disconnects the bus does more to its client. -/
theorem changed {o : Occasion} {a : Act} (h : a = .disconnect k → ∀ c, Q c c.disconnect) :
    s.Tends Q k (a.changed o s) := by
  refine (keeps hQ).changed (fun j name label acts _ => updateBus hQ fun _ b c _ hc => ?_)
    (fun j name _ => updateBus hQ fun _ b c _ hc => ?_)
    (fun j ha => updateBus hQ fun hj b c _ hc => ?_) fun _ id _ _ => drop hQ .consumed id
  · obtain ⟨c', hc', halike⟩ := Bus.exists_alike_subscribe hc _ _
    exact ⟨c', hc', hQ.of_alike halike⟩
  · obtain ⟨c', hc', halike⟩ := Bus.exists_alike_unsubscribe hc _
    exact ⟨c', hc', hQ.of_alike halike⟩
  · exact ⟨_, by rw [Bus.client?_disconnect, hc, Option.map_some], h (hj ▸ ha) c⟩

end Site.Tends

/-! ## What a session sees -/

/-- A client that is connected was connected before. -/
def BusClient.Stays (c c' : BusClient Receiver) : Prop :=
  c'.isConnected = true → c.isConnected = true

theorem BusClient.mild_stays : BusClient.Mild BusClient.Stays where
  of_alike h hc := h.isConnected ▸ hc
  trans h h' hc := h (h' hc)

theorem BusClient.mild_alike : BusClient.Mild BusClient.Alike where
  of_alike h := h
  trans h h' := h.trans h'

/-- No handler connects the client of a bus. -/
theorem Site.Tends.relates_stays (k : BusRef) (depth : Nat) (h : Handler) (o : Occasion) :
    Relates (Site.Tends BusClient.Stays k) (calls depth h o) :=
  relates_calls (keeps BusClient.mild_stays)
    (fun _ _ _ => changed BusClient.mild_stays fun _ _ hc => absurd hc Bool.false_ne_true) depth h o

/-- Handlers leave a client as it stands, if they do not disconnect its bus. -/
theorem Site.Tends.relates_alike (k : BusRef) (depth : Nat) (h : Handler) (o : Occasion) :
    Relates (Guarded (fun _ a => a ≠ .disconnect k) (Site.Tends BusClient.Alike k))
      (calls depth h o) :=
  relates_guarded_calls (keeps BusClient.mild_alike)
    (fun _ _ ha _ => changed BusClient.mild_alike fun he => absurd he ha) depth h o

namespace Run

variable {call : Call} {k : BusRef} {s s' : Site} {i : Nat} {c : BusClient Receiver}

theorem client?_updateClient (change : BusClient Receiver → BusClient Receiver) (s : Site) :
    ∃ s₁, (updateClient k change).run s = some (.unit, s₁) ∧ s₁.journal = s.journal ∧
      s₁.client? k = (s.client? k).map change := by
  refine ⟨_, rfl, rfl, Site.client?_of_update rfl fun b => ?_⟩
  obtain ⟨medium, faults⟩ := b
  cases medium <;> rfl

/-- What a loop sees is seen by the client of its bus, and then a message may reach its
    receivers. -/
theorem of_run_seeEvent {event : SessionEvent} {u : PUnit}
    (h : (seeEvent call k i event).run s = some (u, s')) :
    ∃ s₁, s₁.journal = s.journal ∧ s₁.client? k = (s.client? k).map (·.react i event) ∧
      ∃ (m : Message) (receivers : List Receiver),
        (receivers.forM (accept call m)).run s₁ = some (.unit, s') := by
  obtain ⟨s₁, hupdate, hjournal, hc₁⟩ := client?_updateClient (k := k) (·.react i event) s
  refine ⟨s₁, hjournal, hc₁, ?_⟩
  unfold seeEvent at h
  rw [run_bind_of_run hupdate] at h
  cases event with
  | message topic payload =>
    dsimp only at h
    split at h
    · obtain ⟨c, s₂, hclient, haccept⟩ := run_bind_eq_some.1 h
      rw [run_client] at hclient
      obtain ⟨c, -, he⟩ := Option.map_eq_some_iff.1 hclient
      obtain ⟨rfl, rfl⟩ := Prod.mk.inj he
      exact ⟨_, _, haccept⟩
    · exact ⟨default, [], h⟩
  | _ => exact ⟨default, [], h⟩

variable {events : List SessionEvent}

/-- A client is connected after some events only if it was so before, or one of them accepted it. -/
theorem isConnected_of_seen {depth : Nat} {u : PUnit}
    (h : (events.forM (seeEvent (calls depth) k i)).run s = some (u, s'))
    (hc : s.client? k = some c) :
    ∃ c', s'.client? k = some c' ∧
      (c'.isConnected = true → c.isConnected = true ∨ .accepted ∈ events) := by
  induction events generalizing s c with
  | nil =>
    obtain ⟨-, rfl⟩ := Prod.mk.inj (Option.some.inj h)
    exact ⟨c, hc, .inl⟩
  | cons event events ih =>
    obtain ⟨_, s₂, hsee, hrest⟩ := run_bind_eq_some.1 h
    obtain ⟨s₁, -, hc₁, m, receivers, haccept⟩ := of_run_seeEvent hsee
    rw [hc, Option.map_some] at hc₁
    have hkeeps := Site.Tends.keeps (k := k) BusClient.mild_stays
    obtain ⟨c₂, hc₂, hstays⟩ := relates_forM hkeeps.toComposes (fun r _ => relates_accept_of_keeps
      hkeeps (Site.Tends.relates_stays k depth) m r) _ _ _ haccept _ hc₁
    obtain ⟨c', hc', hlater⟩ := ih hrest hc₂
    refine ⟨c', hc', fun hconnected => ?_⟩
    rcases hlater hconnected with hconnected₂ | hmem
    · rcases BusClient.isConnected_react (hstays hconnected₂) with hbefore | rfl
      · exact .inl hbefore
      · exact .inr List.mem_cons_self
    · exact .inr (List.mem_cons_of_mem _ hmem)

/-- If no handler disconnects the bus meanwhile, the client of a session stands after some events as
    the latest that decides says. -/
theorem status_of_seen {depth : Nat} {u : PUnit}
    (h : (events.forM (seeEvent (calls depth) k i)).run s = some (u, s')) :
    Guarded (fun _ a => a ≠ .disconnect k) (fun s s' => ∀ c, s.client? k = some c →
      c.isLive i = true → ∃ c', s'.client? k = some c' ∧
        c'.status = SessionEvent.statusAfter events c.status) s s' := by
  induction events generalizing s with
  | nil =>
    obtain ⟨-, rfl⟩ := Prod.mk.inj (Option.some.inj h)
    exact ⟨[], rfl, fun _ c hc _ => ⟨c, hc, rfl⟩⟩
  | cons event events ih =>
    obtain ⟨_, s₂, hsee, hrest⟩ := run_bind_eq_some.1 h
    obtain ⟨s₁, hjournal, hc₁, m, receivers, haccept⟩ := of_run_seeEvent hsee
    have hkeeps : Keeps (Guarded (fun _ a => a ≠ .disconnect k) (Site.Tends BusClient.Alike k)) :=
      keeps_guarded (Site.Tends.keeps BusClient.mild_alike)
    obtain ⟨entries, hj, htends⟩ := relates_forM hkeeps.toComposes (fun r _ =>
      relates_accept_of_keeps hkeeps (Site.Tends.relates_alike k depth) m r) _ _ _ haccept
    obtain ⟨later, hjlater, hlater⟩ := ih hrest
    refine ⟨later ++ entries, by rw [hjlater, hj, hjournal, List.append_assoc],
      fun hallowed c hc hlive => ?_⟩
    rw [hc, Option.map_some] at hc₁
    obtain ⟨c₂, hc₂, halike⟩ :=
      htends (fun e he => hallowed e (List.mem_append_right _ he)) _ hc₁
    obtain ⟨c', hc', hstatus⟩ := hlater (fun e he => hallowed e (List.mem_append_left _ he)) c₂ hc₂
      (by rw [halike.isLive, BusClient.isLive_react, hlive])
    refine ⟨c', hc', ?_⟩
    rw [hstatus, halike.status, BusClient.status_react, SessionEvent.statusAfter_cons, hlive]
    simp

/-! ## Connecting a bus -/

/-- What is done with the client of a bus, is done with it alone. -/
theorem of_run_withClient {α : Type} {f : BusClient Receiver → α × BusClient Receiver} {a : α}
    (h : (do
      let (a, c) := f (← client k)
      updateClient k fun _ => c
      pure a : Run α).run s = some (a, s')) :
    ∃ c, s.client? k = some c ∧ a = (f c).1 ∧ s'.journal = s.journal ∧
      s'.client? k = some (f c).2 := by
  obtain ⟨c, s₁, hclient, hupdate⟩ := run_bind_eq_some.1 h
  rw [run_client] at hclient
  obtain ⟨c, hc, he⟩ := Option.map_eq_some_iff.1 hclient
  obtain ⟨rfl, rfl⟩ := Prod.mk.inj he
  obtain ⟨s₂, hrun, hjournal, hc₂⟩ := client?_updateClient (k := k) (fun _ => (f c).2) s
  dsimp only at hupdate
  rw [run_bind_of_run hrun] at hupdate
  obtain ⟨rfl, rfl⟩ := Prod.mk.inj (Option.some.inj hupdate)
  have hc' : s.client? k = some c := hc
  exact ⟨c, hc', rfl, hjournal, by rw [hc₂, hc', Option.map_some]⟩

variable {broker : Broker} {credentials : Credentials} {outcome : Outcome}

/-- A session of the client of a bus, from the site where it has begun to the one where its loop has
    seen what there is to see, as part of what leads from one site to another. -/
structure HoldsSession (call : Call) (k : BusRef) (broker : Broker) (events : List SessionEvent)
    (outcome : Outcome) (s s' s₁ s₂ : Site) (c₁ c₂ : BusClient Receiver) (i : Nat) : Prop where
  /-- Nothing is noted before. -/
  before : s₁.journal = s.journal
  /-- The client has begun the session. -/
  began : s₁.client? k = some c₁
  /-- The session is not given up. -/
  live : c₁.isLive i = true
  /-- The client waits for its broker. -/
  connecting : c₁.status = { state := .connecting }
  /-- The loop sees what there is to see. -/
  seen : (events.forM (seeEvent call k i)).run s₁ = some (.unit, s₂)
  /-- This is what it leaves of the client. -/
  left : s₂.client? k = some c₂
  /-- The client says how the wait for its broker ends. -/
  concluded : outcome = (c₂.conclude broker).1
  /-- Nothing is noted afterwards. -/
  after : s'.journal = s₂.journal

/-- Connecting a bus fails at once if the credentials cannot be shown. Otherwise a session begins,
    and what its loop leaves of the client says how connecting ends. -/
theorem of_run_connectBus
    (h : (connectBus call k broker credentials events).run s = some (outcome, s')) :
    ∃ c, s.client? k = some c ∧
      ((∃ e, BusClient.checkCredentials c.config credentials = .error e ∧ outcome = .error e ∧
        s'.journal = s.journal) ∨
      BusClient.checkCredentials c.config credentials = .done ∧ ∃ s₁ s₂ c₁ c₂ i,
        HoldsSession call k broker events outcome s s' s₁ s₂ c₁ c₂ i) := by
  obtain ⟨started, s₁, hstart, h⟩ := run_bind_eq_some.1 h
  obtain ⟨c, hc, hstarted, hjournal, hc₁⟩ :=
    of_run_withClient (f := (·.start broker credentials)) hstart
  refine ⟨c, hc, ?_⟩
  rw [← BusClient.start_eq c broker, ← hstarted]
  cases started with
  | error e =>
    obtain ⟨rfl, rfl⟩ := Prod.mk.inj (Option.some.inj h)
    exact .inl ⟨e, rfl, rfl, hjournal⟩
  | ok u =>
    obtain ⟨i, hinstalled, hlive, hstatus⟩ := BusClient.begun_of_start hstarted.symm
    obtain ⟨_, s₂, hsee, hconclude⟩ := run_bind_eq_some.1 h
    obtain ⟨c₂, hc₂, houtcome, hjournal₂, -⟩ :=
      of_run_withClient (f := (·.conclude broker)) hconclude
    have hclient : (client k).run s₁ = some ((c.start broker credentials).2, s₁) := by
      rw [run_client]
      exact congrArg (Option.map (·, s₁)) hc₁
    rw [seeEvents, run_bind_of_run hclient, hinstalled] at hsee
    exact .inr ⟨rfl, s₁, s₂, _, c₂, i, hjournal, hc₁, hlive, hstatus, hsee, hc₂, houtcome,
      hjournal₂⟩

/-- Connecting a bus ends well only if the credentials can be shown and an event accepted the
    client. -/
theorem accepted_of_run_connectBus {depth : Nat}
    (h : (connectBus (calls depth) k broker credentials events).run s = some (.done, s')) :
    (∃ c, s.client? k = some c ∧ BusClient.checkCredentials c.config credentials = .done) ∧
      .accepted ∈ events := by
  obtain ⟨c, hc, ⟨e, -, he, -⟩ | ⟨hcheck, s₁, s₂, c₁, c₂, i, hsession⟩⟩ := of_run_connectBus h
  · contradiction
  refine ⟨⟨c, hc, hcheck⟩, ?_⟩
  obtain ⟨c', hc', hconnected⟩ := isConnected_of_seen hsession.seen hsession.began
  obtain rfl := Option.some.inj (hsession.left.symm.trans hc')
  have hdone := (BusClient.conclude_eq_done_iff c₂ broker).1 hsession.concluded.symm
  rcases hconnected hdone with hbefore | hmem
  · simp [BusClient.isConnected, hsession.connecting] at hbefore
  · exact hmem

theorem statusAfter_connecting_iff (events : List SessionEvent) :
    (SessionEvent.statusAfter events { state := .connecting }).state = .connected ↔
      SessionEvent.verdict? events = some .accepted := by
  simp only [SessionEvent.statusAfter]
  cases SessionEvent.verdict? events with
  | none => simp
  | some event => cases event <;> simp [SessionEvent.status]

/-- Connecting a bus that no handler disconnects meanwhile ends well if and only if the credentials
    can be shown and the latest event that decides accepts the client. -/
theorem run_connectBus_eq_done_iff {depth : Nat}
    (h : (connectBus (calls depth) k broker credentials events).run s = some (outcome, s')) :
    Guarded (fun _ a => a ≠ .disconnect k) (fun s _ => outcome = .done ↔
      (∃ c, s.client? k = some c ∧ BusClient.checkCredentials c.config credentials = .done) ∧
        SessionEvent.verdict? events = some .accepted) s s' := by
  obtain ⟨c, hc, ⟨e, hcheck, rfl, hjournal⟩ | ⟨hcheck, s₁, s₂, c₁, c₂, i, hsession⟩⟩ :=
    of_run_connectBus h
  · exact ⟨[], hjournal, fun _ => by simp [hc, hcheck]⟩
  · obtain ⟨entries, hj, hseen⟩ := status_of_seen hsession.seen
    refine ⟨entries, by rw [hsession.after, hj, hsession.before], fun hallowed => ?_⟩
    obtain ⟨c', hc', hstatus⟩ := hseen hallowed c₁ hsession.began hsession.live
    obtain rfl := Option.some.inj (hsession.left.symm.trans hc')
    rw [hsession.concluded, BusClient.conclude_eq_done_iff, BusClient.isConnected, hstatus,
      hsession.connecting]
    simp [hc, hcheck, statusAfter_connecting_iff]

/-- The bus of the consumer is connected as any bus. -/
theorem exists_of_run_connectConsumerBus {hub : Hub}
    (h : (connectConsumerBus call hub credentials).run s = some (outcome, s')) :
    ∃ broker s₁, (connectBus call s.consumer.bus broker credentials hub.events).run s =
      some (outcome, s₁) ∧ s'.journal = s₁.journal := by
  have hget : (get : Run Site).run s = some (s, s) := rfl
  rw [connectConsumerBus, run_bind_of_run hget] at h
  obtain ⟨outcome', s₁, hconnect, h⟩ := run_bind_eq_some.1 h
  cases outcome' <;>
  · obtain ⟨rfl, rfl⟩ := Prod.mk.inj (Option.some.inj h)
    exact ⟨_, s₁, hconnect, rfl⟩

end Run

end WebOfThings
