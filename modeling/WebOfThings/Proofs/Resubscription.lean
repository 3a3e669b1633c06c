import Mathlib.Data.List.Perm.Subperm
import WebOfThings.Proofs.Sessions

/-!
# Subscribing again

A broker that accepts a session begins with no subscriptions, so the loop of the session hands a
request for every filter that has a receiver to the session's queue. The loop is also the only one
to take requests from the queue, so none leaves it meanwhile.

* `Session.subscribeAll_eq`: of the well-formed filters the first are handed over, as many as there
  is room for. The others are passed over, and nobody asks for them later.
* `resubscribed_iff`: so all filters are subscribed again if and only if all are well formed and fit
  the queue beside the requests that wait there.
* `left_unsubscribed`: a connected client may have a filter that no broker knows of.
-/

namespace WebOfThings

namespace BrokerRequest

/-- What a request says about a filter. -/
def asks? (filter : String) : BrokerRequest → Option Bool
  | subscribe f => if f = filter then some true else none
  | unsubscribe f => if f = filter then some false else none
  | publish _ | disconnect => none

/-- Whether a broker that began with no subscriptions has a filter subscribed once it was sent
    requests. -/
def subscribed (requests : List BrokerRequest) (filter : String) : Bool :=
  (requests.reverse.findSome? (asks? filter)).getD false

/-- More filters are subscribed. -/
theorem subscribed_append (requests : List BrokerRequest) (filters : List String)
    (filter : String) :
    subscribed (requests ++ filters.map subscribe) filter = true ↔
      filter ∈ filters ∨ subscribed requests filter = true := by
  have hasks : (filters.map subscribe).reverse.findSome? (asks? filter) =
      if filter ∈ filters then some true else none := by
    induction filters with
    | nil => rfl
    | cons f filters ih =>
      rw [List.map_cons, List.reverse_cons, List.findSome?_append, ih]
      by_cases hf : f = filter <;> by_cases hmem : filter ∈ filters <;>
        simp [asks?, hf, hmem, Ne.symm]
  simp only [subscribed]
  rw [List.reverse_append, List.findSome?_append, hasks]
  split <;> simp [*]

end BrokerRequest

/-- The filters that are handed over where there is room for some: the first that are well
    formed. -/
def Session.handed (room : Nat) (filters : List String) : List String :=
  (filters.filter fun f => (BrokerRequest.subscribe f).isValid).take room

namespace Session

variable {capacity : Nat} {s : Session}

/-- The filters that are handed over, one after another. -/
theorem subscribeAll_eq (capacity : Nat) (filters : List String) (s : Session) :
    s.subscribeAll capacity filters = { s with
      queue := s.queue ++ (handed (capacity - s.queue.length) filters).map .subscribe } := by
  induction filters generalizing s with
  | nil => simp [subscribeAll, handed]
  | cons f filters ih =>
    change ((s.request? capacity (.subscribe f)).getD s).subscribeAll capacity filters = _
    by_cases hvalid : (BrokerRequest.subscribe f).isValid = true
    · by_cases hroom : s.queue.length < capacity
      · -- the filter takes one place
        have hone : capacity - s.queue.length = capacity - (s.queue.length + 1) + 1 := by omega
        have htaken : s.request? capacity (.subscribe f) =
            some { s with queue := s.queue ++ [.subscribe f] } :=
          request?_eq_some.2 ⟨⟨hvalid, hroom⟩, rfl⟩
        rw [htaken, Option.getD_some, ih]
        simp [handed, hvalid, hone]
      · have hfull : capacity - s.queue.length = 0 := by omega
        rw [ih]
        simp [request?, handed, hroom, hfull]
    · rw [ih]
      simp [request?, handed, hvalid]

/-- What is handed over fits. -/
theorem length_subscribeAll (h : s.queue.length ≤ capacity) (filters : List String) :
    (s.subscribeAll capacity filters).queue.length ≤ capacity := by
  rw [subscribeAll_eq]
  simp [handed]
  omega

/-- All of some different filters are handed over if and only if all are well formed and there is
    room for them. -/
theorem mem_handed_iff {room : Nat} {filters : List String} (hdistinct : filters.Nodup) :
    (∀ f ∈ filters, f ∈ handed room filters) ↔
      (∀ f ∈ filters, (BrokerRequest.subscribe f).isValid = true) ∧ filters.length ≤ room := by
  constructor
  · intro hall
    refine ⟨fun f hf => (List.mem_filter.1 (List.mem_of_mem_take (hall f hf))).2, ?_⟩
    calc filters.length
        ≤ (handed room filters).length := (List.subperm_of_subset hdistinct hall).length_le
      _ ≤ room := List.length_take_le ..
  · rintro ⟨hvalid, hroom⟩ f hf
    have hfilter : filters.filter (fun f => (BrokerRequest.subscribe f).isValid) = filters :=
      List.filter_eq_self.2 hvalid
    rwa [handed, hfilter, List.take_of_length_le hroom]

end Session

namespace BusClient

variable {α : Type} {config : BusConfig} {steps : List (ClientStep α)} {c c' : BusClient α}
  {i : Nat} {s : Session}

/-- A client of which every session has as many requests waiting as fit its queue, and none before
    it was first accepted. -/
structure Stocked (config : BusConfig) (steps : List (ClientStep α)) (c : BusClient α) : Prop where
  /-- Its settings are those it began with. -/
  settings : c.config = config
  /-- No filter comes twice. -/
  distinct : c.subscriptions.Distinct
  /-- What waits fits the queue. -/
  fits : ∀ i s, c.sessions.get? i = some s → s.queue.length ≤ config.channelCapacity
  /-- Nothing waits until a session is accepted. -/
  fresh : ∀ i s, c.sessions.get? i = some s → .see i .accepted ∉ steps → s.queue = []

namespace Stocked

theorem cons (h : Stocked config steps c) (step : ClientStep α) :
    Stocked config (step :: steps) c :=
  { h with fresh := fun i s hs hnot =>
      h.fresh i s hs fun hmem => hnot (List.mem_cons_of_mem _ hmem) }

/-- One session changes. -/
theorem update (h : Stocked config steps c) (i : Nat) (change : Session → Session)
    (hfits : ∀ s, c.sessions.get? i = some s → (change s).queue.length ≤ config.channelCapacity)
    (hfresh : .see i .accepted ∉ steps →
      ∀ s, c.sessions.get? i = some s → (change s).queue = []) :
    Stocked config steps { c with sessions := c.sessions.update i change } where
  settings := h.settings
  distinct := h.distinct
  fits j s hs := by
    change (c.sessions.update i change).get? j = some s at hs
    rw [Table.get?_update] at hs
    split at hs
    · next hij =>
      obtain ⟨s₀, hs₀, rfl⟩ := Option.map_eq_some_iff.1 hs
      exact hfits s₀ (hij ▸ hs₀)
    · exact h.fits j s hs
  fresh j s hs hnot := by
    change (c.sessions.update i change).get? j = some s at hs
    rw [Table.get?_update] at hs
    split at hs
    · next hij =>
      obtain ⟨s₀, hs₀, rfl⟩ := Option.map_eq_some_iff.1 hs
      exact hfresh (hij ▸ hnot) s₀ (hij ▸ hs₀)
    · exact h.fresh j s hs hnot

/-- A request is handed to a session that was accepted. -/
theorem request (h : Stocked config steps c) {r : BrokerRequest}
    (haccepted : ∀ i, c.installed = some i → .see i .accepted ∈ steps)
    (hr : c.request? r = some c') : Stocked config steps c' := by
  obtain rfl | ⟨i, s, hi, hs, ⟨-, hroom⟩, rfl⟩ := cases_of_request? hr
  · exact h
  · refine h.update i _ (fun s₀ hs₀ => ?_) fun hnot => absurd (haccepted i hi) hnot
    obtain rfl : s = s₀ := Option.some.inj (hs.symm.trans hs₀)
    simpa [← h.settings] using Nat.succ_le_of_lt hroom

/-- A session is given up with what waits. -/
theorem cancel (h : Stocked config steps c) : Stocked config steps c.cancel := by
  simp only [BusClient.cancel]
  split
  · exact h
  · next i hi =>
    exact { h.update i (fun s => { s with cancelled := true }) (h.fits i)
      (fun hnot s hs => h.fresh i s hs hnot) with }

end Stocked

/-- Only a client whose session was accepted is connected. -/
theorem Orderly.mem_of_accepted (h : Orderly steps c) (hconnected : c.isConnected = true)
    (hi : c.installed = some i) : .see i .accepted ∈ steps := by
  obtain ⟨j, hj, hlatest⟩ := h.accepted hconnected
  obtain rfl : i = j := Option.some.inj (hi.symm.trans hj)
  obtain ⟨step, hmem, hstep⟩ := List.exists_of_findSome?_eq_some hlatest
  cases step with
  | see j event =>
    obtain ⟨⟨rfl, -⟩, hevent⟩ := Option.ite_none_right_eq_some.1 hstep
    exact Option.some.inj hevent ▸ hmem
  | _ => cases hstep

namespace Stocked

/-- A request is handed to the session of a connected client, if at all. -/
theorem ask (h : Stocked config steps c) (ho : Orderly steps c) {r : BrokerRequest}
    (hconnected : c.isConnected = true) : Stocked config steps ((c.request? r).getD c) := by
  cases hr : c.request? r with
  | none => exact h
  | some c' => exact h.request (fun i hi => ho.mem_of_accepted hconnected hi) hr

/-- Who receives messages changes. -/
theorem withSubscriptions (h : Stocked config steps c) {subscriptions : NameMap α}
    (hdistinct : subscriptions.Distinct) : Stocked config steps { c with subscriptions } :=
  { h with distinct := hdistinct }

/-- The client disconnects. -/
theorem disconnect (h : Stocked config steps c) (ho : Orderly steps c) :
    Stocked config steps c.disconnect := by
  have htold : Stocked config steps
      (if c.isConnected then (c.request? .disconnect).getD c else c) := by
    split
    · next hconnected => exact h.ask ho hconnected
    · exact h
  exact { htold.cancel with }

/-- A session begins. -/
theorem begin (h : Stocked config steps c) {session : Session} (hnew : session.queue = []) :
    Stocked config steps { c with
      status := { state := .connecting }
      installed := some c.sessions.next
      sessions := c.sessions.add session } where
  settings := h.settings
  distinct := h.distinct
  fits j s hs := by
    change (c.sessions.add session).get? j = some s at hs
    rw [Table.get?_add] at hs
    split at hs
    · simp [← Option.some.inj hs, hnew]
    · exact h.fits j s hs
  fresh j s hs hnot := by
    change (c.sessions.add session).get? j = some s at hs
    rw [Table.get?_add] at hs
    split at hs
    · rw [← Option.some.inj hs, hnew]
    · exact h.fresh j s hs hnot

/-- What a session does about an event does not add to what waits. -/
theorem note (h : Stocked config steps c) (i : Nat) (event : SessionEvent) :
    Stocked config steps { c with sessions := c.sessions.update i (·.react event) } := by
  have hsuffix (s : Session) : (s.react event).queue <:+ s.queue := by
    cases event <;> simp [Session.react, List.drop_suffix]
  refine h.update i _ (fun s hs => Nat.le_trans (hsuffix s).length_le (h.fits i s hs))
    fun hnot s hs => ?_
  exact List.suffix_nil.1 (h.fresh i s hs hnot ▸ hsuffix s)

/-- A loop sees an event. -/
theorem see (h : Stocked config steps c) (i : Nat) (event : SessionEvent) :
    Stocked config (.see i event :: steps) (c.react i event) := by
  have hnote := (h.cons (.see i event)).note i event
  cases event with
  | accepted =>
    simp only [react]
    split
    · refine { hnote.update i _ (fun s hs => ?_) fun hnot => absurd List.mem_cons_self hnot with }
      exact h.settings ▸ Session.length_subscribeAll (h.settings ▸ hnote.fits i s hs) _
    · exact hnote
  | ended | failed =>
    simp only [react]
    split
    · exact { hnote with }
    · exact hnote
  | refused | message | sent => exact hnote

end Stocked

/-- The queues of a client's sessions are bounded after every step. -/
theorem History.stocked (h : History config steps c) : Stocked config steps c := by
  induction h with
  | new =>
    exact ⟨rfl, List.nodup_nil, fun i s hs => by simp [Table.get?] at hs,
      fun i s hs => by simp [Table.get?] at hs⟩
  | @step steps c step before _ ih =>
    have ho := before.orderly
    cases step with
    | start broker credentials =>
      refine Stocked.cons ?_ _
      simp only [BusClient.step, start]
      split
      · exact ih.disconnect ho
      · exact (ih.disconnect ho).cancel.begin rfl
    | conclude broker =>
      refine Stocked.cons ?_ _
      simp only [BusClient.step, conclude]
      split
      · exact ih
      · exact ih.disconnect ho
    | disconnect => exact (ih.disconnect ho).cons _
    | see i event => exact ih.see i event
    | publish m =>
      refine Stocked.cons ?_ _
      rw [step_publish]
      split
      · next hc => exact ih.ask ho (Bool.and_eq_true _ _ ▸ hc).1
      · exact ih
    | subscribe filter receiver =>
      have h := ih.withSubscriptions (ih.distinct.insert filter receiver)
      refine Stocked.cons ?_ _
      rw [step_subscribe]
      dsimp only
      split
      · next hc => exact h.ask (ho.of_alike (.withSubscriptions c _)) hc
      · exact h
    | unsubscribe filter =>
      have h := ih.withSubscriptions (ih.distinct.erase filter)
      refine Stocked.cons ?_ _
      rw [step_unsubscribe]
      dsimp only
      split
      · next hc =>
        exact h.ask (ho.of_alike (.withSubscriptions c _)) (Bool.and_eq_true _ _ ▸ hc).2
      · exact h

/-! ## Accepted sessions -/

/-- A session that is accepted is handed all filters that fit. -/
theorem react_accepted (hlive : c.isLive i = true) (hs : c.sessions.get? i = some s) :
    (c.react i .accepted).isConnected = true ∧
      (c.react i .accepted).sessions.get? i =
        some (Session.subscribeAll c.config.channelCapacity c.subscriptions.names
          { s with attempt := 0 }) := by
  have hnote := (Alike.note c i .accepted).isLive i
  simp only [react, hnote, hlive, if_true]
  exact ⟨rfl, by simp [Table.get?_update, hs, Session.react]⟩

/-- Whenever the broker accepts the session of a client, the client is connected, and the first of
    the well-formed filters that have receivers wait to be subscribed, as many as there is room for
    beside what waited before. So every filter is subscribed again if and only if all are well
    formed and there is room for all of them; and once what waits was sent, the broker has a filter
    subscribed if and only if it was handed over, or was asked for by what waited. Nothing waits
    when a session is first accepted. -/
theorem resubscribed_iff (h : History config steps c) (hlive : c.isLive i = true)
    (hs : c.sessions.get? i = some s) :
    ∃ s', (c.react i .accepted).isConnected = true ∧
      (c.react i .accepted).sessions.get? i = some s' ∧
      (c.react i .accepted).subscriptions = c.subscriptions ∧
      ∃ filters, filters =
          Session.handed (config.channelCapacity - s.queue.length) c.subscriptions.names ∧
        s'.queue = s.queue ++ filters.map .subscribe ∧
        ((∀ f ∈ c.subscriptions.names, f ∈ filters) ↔
          (∀ f ∈ c.subscriptions.names, (BrokerRequest.subscribe f).isValid = true) ∧
            s.queue.length + c.subscriptions.names.length ≤ config.channelCapacity) ∧
        (∀ f, BrokerRequest.subscribed s'.queue f = true ↔
          f ∈ filters ∨ BrokerRequest.subscribed s.queue f = true) ∧
        (.see i .accepted ∉ steps → s.queue = []) := by
  have hst := h.stocked
  obtain ⟨hconnected, hget⟩ := react_accepted hlive hs
  refine ⟨_, hconnected, hget, subscriptions_react c i _, _, rfl, ?_, ?_, ?_, hst.fresh i s hs⟩
  · rw [Session.subscribeAll_eq, hst.settings]
  · have hfits := hst.fits i s hs
    rw [Session.mem_handed_iff hst.distinct, Nat.le_sub_iff_add_le' hfits]
  · intro f
    rw [Session.subscribeAll_eq, hst.settings]
    exact BrokerRequest.subscribed_append ..

/-- The lamp's client has two filters and room for both. Its session was lost after they were sent,
    and is accepted again: both wait once more. -/
theorem resubscribed_iff_lamp :
    ∃ (c : BusClient Unit) (s s' : Session),
      History { clientId := "lamp", channelCapacity := 2 }
        [.see 0 (.failed "lost"), .see 0 (.sent 2), .see 0 .accepted,
          .start ⟨"localhost", 1883⟩ .anonymous, .subscribe "b" (), .subscribe "a" ()] c ∧
      c.isLive 0 = true ∧ c.sessions.get? 0 = some s ∧
      (c.react 0 .accepted).sessions.get? 0 = some s' ∧
      s'.queue = [.subscribe "a", .subscribe "b"] := by
  have h : History { clientId := "lamp", channelCapacity := 2 }
      [.subscribe "b" (), .subscribe "a" ()] (_ : BusClient Unit) :=
    .step (.step .new nofun) nofun
  have h : History { clientId := "lamp", channelCapacity := 2 }
      [.see 0 (.failed "lost"), .see 0 (.sent 2), .see 0 .accepted,
        .start ⟨"localhost", 1883⟩ .anonymous, .subscribe "b" (), .subscribe "a" ()]
      (_ : BusClient Unit) :=
    .step (.step (.step (.step h nofun) (by rintro _ _ ⟨⟩; decide)) (by rintro _ _ ⟨⟩; decide))
      (by rintro _ _ ⟨⟩; decide)
  obtain ⟨s', -, hs', -, -, rfl, hqueue, -⟩ := resubscribed_iff (i := 0) h (by decide) rfl
  exact ⟨_, _, s', h, rfl, rfl, hs', hqueue.trans (by decide)⟩

/-- There is room for one of two filters. The client is connected, and once what waits was sent the
    broker knows nothing of the other. -/
theorem left_unsubscribed :
    ∃ (c : BusClient Unit) (s : Session),
      History { clientId := "lamp", channelCapacity := 1 }
        [.see 0 .accepted, .start ⟨"localhost", 1883⟩ .anonymous, .subscribe "b" (),
          .subscribe "a" ()] c ∧
      c.isConnected = true ∧ c.session? = some s ∧ c.subscriptions.names = ["a", "b"] ∧
      s.queue = [.subscribe "a"] ∧ BrokerRequest.subscribed s.queue "b" = false ∧
      ((c.react 0 (.sent 1)).isConnected = true ∧
        (c.react 0 (.sent 1)).session?.map (·.queue) = some []) := by
  have h : History { clientId := "lamp", channelCapacity := 1 }
      [.subscribe "b" (), .subscribe "a" ()] (_ : BusClient Unit) :=
    .step (.step .new nofun) nofun
  have h : History { clientId := "lamp", channelCapacity := 1 }
      [.see 0 .accepted, .start ⟨"localhost", 1883⟩ .anonymous, .subscribe "b" (),
        .subscribe "a" ()] (_ : BusClient Unit) :=
    .step (.step h nofun) (by rintro _ _ ⟨⟩; decide)
  exact ⟨_, _, h, rfl, rfl, rfl, by decide, by decide, rfl, by decide⟩

end BusClient

end WebOfThings
