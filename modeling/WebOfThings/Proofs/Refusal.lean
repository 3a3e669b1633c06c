import WebOfThings.Proofs.Sessions

/-!
# What a refused request leaves behind

A connected client hands a filter to its session, and the session refuses it if no broker would take
it, or if the queue is full (`BusClient.Refuses`). The client notes who receives the messages of a
filter before it asks, and takes nothing back.

* `refused_leaves_trace`: so a filter whose subscription fails has the receiver that was given,
  whichever it had before, and nothing else is changed; and one whose unsubscription fails has none
  any more. Only a receiver that was the one of the filter already leaves all as it was.
* `refused_registered`: a client that refuses a filter has a new receiver for it, or another one, or
  none.
-/

namespace WebOfThings

/-- A value that is put under its own name changes nothing. -/
theorem NameMap.insert_eq_self_iff {α : Type} (m : NameMap α) (name : String) (value : α) :
    m.insert name value = m ↔ m.get? name = some value := by
  constructor
  · intro h
    rw [← h, get?_insert, if_pos rfl]
  · obtain ⟨l⟩ := m
    intro h
    refine congrArg NameMap.mk ?_
    simp only [get?] at h
    induction l with
    | nil => cases h
    | cons e l ih =>
      rw [findEntry] at h
      rw [insertEntry]
      split at h
      · next hname =>
        obtain rfl := Option.some.inj h
        rw [if_pos hname, hname]
      · next hname => rw [if_neg hname, ih h]

namespace BusClient

variable {α : Type} {c : BusClient α} {filter : String} {receiver : α} {r : BrokerRequest}

/-- A connected client refuses a request: its session takes none that no broker would take, and none
    that does not fit the queue. -/
def Refuses (c : BusClient α) (r : BrokerRequest) : Prop :=
  c.isConnected = true ∧ ∃ s, c.session? = some s ∧
    (r.isValid = false ∨ c.config.channelCapacity ≤ s.queue.length)

theorem request?_eq_none_iff : c.request? r = none ↔
    ∃ s, c.session? = some s ∧ (r.isValid = false ∨ c.config.channelCapacity ≤ s.queue.length) := by
  have hrefused (s : Session) : s.request? c.config.channelCapacity r = none ↔
      r.isValid = false ∨ c.config.channelCapacity ≤ s.queue.length := by
    simp [Session.request?, Decidable.imp_iff_not_or]
  cases hs : c.session? with
  | none => cases hi : c.installed <;> simp [request?, hi, hs]
  | some s =>
    -- a session is there because it was installed
    obtain ⟨i, hi, -⟩ := Option.bind_eq_some_iff.1 hs
    simp [request?, hi, hs, hrefused]

/-- A client refuses what it cannot hand to its session. -/
theorem refuses_iff : c.Refuses r ↔ c.isConnected = true ∧ c.request? r = none := by
  rw [Refuses, request?_eq_none_iff]

/-- Who receives messages makes no difference to that. -/
theorem refuses_withSubscriptions (subscriptions : NameMap α) :
    Refuses { c with subscriptions } r ↔ c.Refuses r := Iff.rfl

/-- Subscribing fails if the filter is refused. -/
theorem subscribe_ne_done_iff :
    (c.subscribe filter receiver).1 ≠ .done ↔ c.Refuses (.subscribe filter) := by
  rw [← refuses_withSubscriptions (c.subscriptions.insert filter receiver), refuses_iff]
  simp only [subscribe]
  split
  · split <;> simp [*]
  · simp [*]

/-- The filter has its receiver all the same. -/
theorem subscribe_of_refuses (h : c.Refuses (.subscribe filter)) :
    c.subscribe filter receiver = (.error (refused s!"subscribe to `{filter}`"),
      { c with subscriptions := c.subscriptions.insert filter receiver }) := by
  rw [← refuses_withSubscriptions (c.subscriptions.insert filter receiver), refuses_iff] at h
  simp only [subscribe, h, if_true]

/-- Unsubscribing fails if the filter has a receiver and the request is refused. -/
theorem unsubscribe_ne_done_iff : (c.unsubscribe filter).1 ≠ .done ↔
    c.subscriptions.contains filter = true ∧ c.Refuses (.unsubscribe filter) := by
  rw [← refuses_withSubscriptions (c.subscriptions.erase filter), refuses_iff]
  simp only [unsubscribe]
  split
  · next hknown => split <;> simp_all
  · next hknown => simp_all

/-- The filter has no receiver any more all the same. -/
theorem unsubscribe_of_refuses (hknown : c.subscriptions.contains filter = true)
    (h : c.Refuses (.unsubscribe filter)) :
    c.unsubscribe filter = (.error (refused s!"unsubscribe from `{filter}`"),
      { c with subscriptions := c.subscriptions.erase filter }) := by
  rw [← refuses_withSubscriptions (c.subscriptions.erase filter), refuses_iff] at h
  simp only [unsubscribe, hknown, h, Bool.and_true, if_true]

/-- The receiver of a filter is among those who receive a message that matches. -/
theorem mem_receivers {topic : String} (h : c.subscriptions.get? filter = some receiver)
    (hmatches : Topic.matches filter topic = true) :
    receiver ∈ c.receivers (Bytes.ofString topic) := by
  rw [receivers, Bytes.toString?_ofString]
  exact List.mem_map.2 ⟨_, List.mem_filter.2 ⟨NameMap.mem_of_get? h, hmatches⟩, rfl⟩

/-- Subscribing a filter fails exactly if the client refuses it. Then the filter has the receiver
    that was given, who receives every message that matches, and nothing else is changed: who
    receives messages is as before only if that was the receiver already. Unsubscribing a filter
    fails exactly if it has a receiver and the client refuses the request. Then the filter has none
    any more, and nothing else is changed. -/
theorem refused_leaves_trace (c : BusClient α) (filter : String) (receiver : α) :
    ((c.subscribe filter receiver).1 ≠ .done ↔ c.Refuses (.subscribe filter)) ∧
    (c.Refuses (.subscribe filter) →
      c.subscribe filter receiver = (.error (refused s!"subscribe to `{filter}`"),
        { c with subscriptions := c.subscriptions.insert filter receiver }) ∧
      ((c.subscribe filter receiver).2.subscriptions = c.subscriptions ↔
        c.subscriptions.get? filter = some receiver) ∧
      ∀ topic, Topic.matches filter topic = true →
        receiver ∈ (c.subscribe filter receiver).2.receivers (Bytes.ofString topic)) ∧
    ((c.unsubscribe filter).1 ≠ .done ↔
      c.subscriptions.contains filter = true ∧ c.Refuses (.unsubscribe filter)) ∧
    (c.subscriptions.contains filter = true → c.Refuses (.unsubscribe filter) →
      c.unsubscribe filter = (.error (refused s!"unsubscribe from `{filter}`"),
        { c with subscriptions := c.subscriptions.erase filter }) ∧
      ∀ other, (c.unsubscribe filter).2.subscriptions.get? other =
        if other = filter then none else c.subscriptions.get? other) := by
  refine ⟨subscribe_ne_done_iff, fun hrefuses => ⟨subscribe_of_refuses hrefuses, ?_, ?_⟩,
    unsubscribe_ne_done_iff, fun hknown hrefuses => ⟨unsubscribe_of_refuses hknown hrefuses, ?_⟩⟩
  · rw [subscriptions_subscribe, NameMap.insert_eq_self_iff]
  · intro topic hmatches
    refine mem_receivers ?_ hmatches
    rw [subscriptions_subscribe, NameMap.get?_insert, if_pos rfl]
  · intro other
    rw [subscriptions_unsubscribe, NameMap.get?_erase]

/-- A client whose session has room for two requests. The lamp is subscribed, a message of the lamp
    arrived, and its receiver answered by two messages for the fan, which still wait. -/
def busyClient : BusClient Nat :=
  { config := { clientId := "home", channelCapacity := 2 }
    status := { state := .connected }
    subscriptions := ⟨[("lamp/+", 0)]⟩
    sessions := ⟨[{ broker := ⟨"localhost", 1883⟩, credentials := .anonymous,
                    queue := [.publish ⟨"fan", Bytes.ofString "1"⟩,
                              .publish ⟨"fan", Bytes.ofString "2"⟩] }]⟩
    installed := some 0 }

/-- What happened to the client, the latest first. -/
def busySteps : List (ClientStep Nat) :=
  [.publish ⟨"fan", Bytes.ofString "2"⟩, .publish ⟨"fan", Bytes.ofString "1"⟩,
   .see 0 (.message (Bytes.ofString "lamp/on") (Bytes.ofString "1")), .see 0 (.sent 1),
   .subscribe "lamp/+" 0, .see 0 .accepted, .start ⟨"localhost", 1883⟩ .anonymous]

/-- That is how the client can come to be. -/
theorem history_busyClient : History busyClient.config busySteps busyClient := by
  -- only what a loop sees needs the session that was begun first
  have hstart : History busyClient.config [.start ⟨"localhost", 1883⟩ .anonymous]
      (_ : BusClient Nat) := .step .new nofun
  have haccepted : History _ (.see 0 .accepted :: _) _ :=
    .step hstart (by rintro _ _ ⟨⟩; decide)
  have hsubscribed : History _ (.subscribe "lamp/+" 0 :: _) _ := .step haccepted nofun
  have hsent : History _ (.see 0 (.sent 1) :: _) _ :=
    .step hsubscribed (by rintro _ _ ⟨⟩; decide)
  have harrived : History _
      (.see 0 (.message (Bytes.ofString "lamp/on") (Bytes.ofString "1")) :: _) _ :=
    .step hsent (by rintro _ _ ⟨⟩; decide)
  have hanswered : History _ (.publish ⟨"fan", Bytes.ofString "1"⟩ :: _) _ := .step harrived nofun
  exact .step hanswered nofun

theorem refuses_busyClient (r : BrokerRequest) : busyClient.Refuses r :=
  ⟨rfl, _, rfl, .inr (Nat.le_refl 2)⟩

/-- The client refuses to subscribe the fan, and there are messages for its receiver now. -/
theorem refused_leaves_trace_fan :
    busyClient.Refuses (.subscribe "fan") ∧
      busyClient.subscriptions.get? "fan" = none ∧
      1 ∈ (busyClient.subscribe "fan" 1).2.receivers (Bytes.ofString "fan") := by
  obtain ⟨-, hsubscribe, -⟩ := refused_leaves_trace busyClient "fan" 1
  obtain ⟨-, -, hreceives⟩ := hsubscribe (refuses_busyClient _)
  exact ⟨refuses_busyClient _, rfl, hreceives "fan" (by decide)⟩

/-- The client refuses whatever it is asked for. And yet a filter that had no receiver has one, who
    receives the messages that match it beside the receiver of the lamp; a filter that had a
    receiver has another, and one that had a receiver has none. -/
theorem refused_registered :
    ∃ c : BusClient Nat,
      History { clientId := "home", channelCapacity := 2 } busySteps c ∧
      ((c.subscribe "lamp/off" 1).1 = .error (refused "subscribe to `lamp/off`") ∧
        c.subscriptions.get? "lamp/off" = none ∧
        (c.subscribe "lamp/off" 1).2.subscriptions.get? "lamp/off" = some 1 ∧
        c.receivers (Bytes.ofString "lamp/off") = [0] ∧
        (c.subscribe "lamp/off" 1).2.receivers (Bytes.ofString "lamp/off") = [0, 1]) ∧
      ((c.subscribe "lamp/+" 1).1 = .error (refused "subscribe to `lamp/+`") ∧
        c.subscriptions.get? "lamp/+" = some 0 ∧
        (c.subscribe "lamp/+" 1).2.subscriptions.get? "lamp/+" = some 1) ∧
      ((c.unsubscribe "lamp/+").1 = .error (refused "unsubscribe from `lamp/+`") ∧
        (c.unsubscribe "lamp/+").2.subscriptions.get? "lamp/+" = none) :=
  ⟨busyClient, history_busyClient, ⟨rfl, rfl, rfl, by decide, by decide⟩, ⟨rfl, rfl, rfl⟩, rfl, rfl⟩

end BusClient

end WebOfThings
