import WebOfThings.Proofs.Nest
import WebOfThings.Proofs.Run
import WebOfThings.Proofs.Topic

/-!
# Two things of one description on one bus

A link is an exposed thing and a consumed thing of one description on one bus within the process.
It is bound (`Link.Bound`) while the output of the exposed thing is the bus, and what is published
on the topics of its events reaches the consumed thing once, and comes from the exposed thing only.

What handlers do to a site is made of a few changes, and the theorems below say which of them keep
a link bound: changes of things that leave their descriptions, outputs and interactions, changes of
buses that leave them fitting the link (`Link.Fits`), and forgetting things of other identifiers.
-/

namespace WebOfThings

/-- An exposed thing and a consumed thing of one description on one bus. -/
structure Link where
  /-- The exposed thing. -/
  exposed : ExposedRef
  /-- The consumed thing. -/
  consumed : ConsumedRef
  /-- The bus. -/
  bus : BusRef
  /-- The description of both. -/
  description : ThingDescription

namespace Link

variable (L : Link)

/-- The filter of the events of the thing. -/
def filter : String := Topic.events L.description.id

/-- The topic on which the thing publishes property changes. -/
def topic : String := Topic.batch L.description.id

/-- A bus fits the link: that of the link carries messages and leads the events of the thing to
    the consumed thing, and no other leads to it. -/
structure Fits (i : BusRef) (b : Bus Receiver) : Prop where
  /-- The bus of the link. -/
  own : i = L.bus → ∃ bus, b.medium = .process bus ∧ b.faults.publish = false ∧
    bus.connected = true ∧ bus.Leads L.filter (.events L.consumed)
  /-- Any other bus. -/
  other : i ≠ L.bus → ∀ bus, b.medium = .process bus → ∀ entry ∈ bus.subscriptions.entries,
    entry.2 ≠ .events L.consumed

/-- The link is in place. -/
structure Bound (s : Site) : Prop where
  /-- The exposed thing sends what it emits on the bus, on the topics of its identifier. -/
  exposed : ∃ t, s.exposed.get? L.exposed = some t ∧
    s.catalogue.get? t.description = some L.description ∧
    t.output = .bus L.bus L.description.id
  /-- The consumed thing is held by a caller or by its factory. -/
  consumed : ∃ c, s.consumed.get? L.consumed = some c ∧
    s.catalogue.get? c.description = some L.description ∧
    (c.held = true ∨ s.consumer.things.get? L.description.id = some L.consumed)
  /-- There is the bus. -/
  bus : ∃ b, s.buses.get? L.bus = some b
  /-- All buses fit. -/
  fits : ∀ i b, s.buses.get? i = some b → L.Fits i b
  /-- No other thing emits on the topics of the events. -/
  outputs : ∀ i t, s.exposed.get? i = some t → i ≠ L.exposed → ∀ id,
    t.output = .bus L.bus id → ∀ name, Topic.matches L.filter (Topic.event id name) = false
  /-- No consumed thing sends requests on them. -/
  interactions : ∀ i c, s.consumed.get? i = some c → ∀ id,
    c.interaction = .bus L.bus id → ∀ name, Topic.matches L.filter (Topic.action id name) = false

variable {L} {s : Site}

/-! ## What a bound link is -/

theorem Bound.carries (h : L.Bound s) :
    ∃ bus, s.Carries L.bus bus ∧ bus.Leads L.filter (.events L.consumed) := by
  obtain ⟨b, hb⟩ := h.bus
  obtain ⟨bus, hm, hf, hc, hleads⟩ := (h.fits L.bus b hb).own rfl
  exact ⟨bus, ⟨b.faults, by rw [hb, ← hm], hf, hc⟩, hleads⟩

theorem Bound.alive (h : L.Bound s) : s.consumedIsAlive L.consumed = true := by
  -- either a caller holds it, or its factory does
  obtain ⟨c, hc, -, hheld | hknown⟩ := h.consumed
  · simp [Site.consumedIsAlive, hc, hheld]
  · have := List.mem_map_of_mem (f := Prod.snd) (NameMap.mem_of_get? hknown)
    simp [Site.consumedIsAlive, -List.mem_map, this]

/-! ## What keeps a link bound -/

theorem Bound.note (h : L.Bound s) (journal : List Entry) : L.Bound { s with journal } :=
  ⟨h.exposed, h.consumed, h.bus, h.fits, h.outputs, h.interactions⟩

theorem Bound.mark (h : L.Bound s) (timeline : List Moment) : L.Bound { s with timeline } :=
  ⟨h.exposed, h.consumed, h.bus, h.fits, h.outputs, h.interactions⟩

theorem Bound.updateExposed (h : L.Bound s) (i : ExposedRef)
    (change : ExposedThing → ExposedThing)
    (hd : ∀ t, (change t).description = t.description) (ho : ∀ t, (change t).output = t.output) :
    L.Bound { s with exposed := s.exposed.update i change } := by
  refine ⟨?_, h.consumed, h.bus, h.fits, ?_, h.interactions⟩
  · obtain ⟨t, ht, htd, hto⟩ := h.exposed
    by_cases hi : i = L.exposed
    · exact ⟨change t, by simp [Table.get?_update, hi, ht], by simpa [hd] using htd,
        by rw [ho, hto]⟩
    · exact ⟨t, by simp [Table.get?_update, hi, ht], htd, hto⟩
  · intro k t ht hk id hout
    simp only [Table.get?_update] at ht
    split at ht
    · obtain ⟨t, ht', rfl⟩ := Option.map_eq_some_iff.1 ht
      exact h.outputs k t ht' hk id (ho t ▸ hout)
    · exact h.outputs k t ht hk id hout

theorem Bound.remember (h : L.Bound s) (i : ExposedRef) (changes : List Change) :
    L.Bound (s.remember i changes) :=
  (h.updateExposed i (·.remember changes) (fun _ => rfl) fun _ => rfl).mark _

theorem Bound.updateConsumed (h : L.Bound s) (i : ConsumedRef)
    (change : ConsumedThing → ConsumedThing)
    (hd : ∀ c, (change c).description = c.description)
    (hi : ∀ c, (change c).interaction = c.interaction) (hh : ∀ c, (change c).held = c.held) :
    L.Bound { s with consumed := s.consumed.update i change } := by
  refine ⟨h.exposed, ?_, h.bus, h.fits, h.outputs, ?_⟩
  · obtain ⟨c, hc, hcd, hcheld⟩ := h.consumed
    by_cases he : i = L.consumed
    · exact ⟨change c, by simp [Table.get?_update, he, hc], by simpa [hd] using hcd,
        by simpa [hh] using hcheld⟩
    · exact ⟨c, by simp [Table.get?_update, he, hc], hcd, hcheld⟩
  · intro k c hc id hinter
    simp only [Table.get?_update] at hc
    split at hc
    · obtain ⟨c, hc', rfl⟩ := Option.map_eq_some_iff.1 hc
      exact h.interactions k c hc' id (hi c ▸ hinter)
    · exact h.interactions k c hc id hinter

theorem Bound.updateBus (h : L.Bound s) {i : BusRef} {change : Bus Receiver → Bus Receiver}
    (hf : ∀ b, s.buses.get? i = some b → L.Fits i b → L.Fits i (change b)) :
    L.Bound { s with buses := s.buses.update i change } := by
  refine ⟨h.exposed, h.consumed, ?_, ?_, h.outputs, h.interactions⟩
  · obtain ⟨b, hb⟩ := h.bus
    by_cases hi : i = L.bus
    · exact ⟨change b, by simp [Table.get?_update, hi, hb]⟩
    · exact ⟨b, by simp [Table.get?_update, hi, hb]⟩
  · intro k b hb
    simp only [Table.get?_update] at hb
    split at hb
    · next hk =>
      obtain ⟨b, hb', rfl⟩ := Option.map_eq_some_iff.1 hb
      subst hk
      exact hf b hb' (h.fits _ b hb')
    · exact h.fits k b hb

/-- The factory may forget what it knows under another identifier. -/
theorem Bound.forget (h : L.Bound s) {id : String} (hid : id ≠ L.description.id) :
    L.Bound { s with
      consumer := { s.consumer with things := s.consumer.things.erase id } } := by
  refine ⟨h.exposed, ?_, h.bus, h.fits, h.outputs, h.interactions⟩
  obtain ⟨c, hc, hcd, hheld | hknown⟩ := h.consumed
  · exact ⟨c, hc, hcd, .inl hheld⟩
  · exact ⟨c, hc, hcd, .inr (by simp [NameMap.get?_erase, hid.symm, hknown])⟩

/-! ## What keeps a bus fitting -/

variable {i : BusRef} {b : Bus Receiver}

/-- A bus through a broker is not that of the link, whatever its client does. -/
theorem Fits.broker {client client' : BusClient Receiver} {faults : Faults}
    (h : L.Fits i ⟨.broker client, faults⟩) : L.Fits i ⟨.broker client', faults⟩ where
  own hi := by
    obtain ⟨bus, hm, -⟩ := h.own hi
    contradiction
  other _ bus hm := by contradiction

/-- A bus within the process may change, if it stays connected and leads the events of the thing
    to the consumed thing as before. -/
theorem Fits.process {bus bus' : LocalBus Receiver} {faults : Faults}
    (h : L.Fits i ⟨.process bus, faults⟩)
    (hown : i = L.bus → bus.connected = true → bus.Leads L.filter (.events L.consumed) →
      bus'.connected = true ∧ bus'.Leads L.filter (.events L.consumed))
    (hother : ∀ entry ∈ bus'.subscriptions.entries,
      entry ∈ bus.subscriptions.entries ∨ entry.2 ≠ .events L.consumed) :
    L.Fits i ⟨.process bus', faults⟩ where
  own hi := by
    obtain ⟨bus₁, hm, hf, hc, hleads⟩ := h.own hi
    obtain rfl := Medium.process.inj hm
    exact ⟨bus', rfl, hf, hown hi hc hleads⟩
  other hi bus₁ hm entry he := by
    obtain rfl := Medium.process.inj hm
    rcases hother entry he with hmem | hne
    · exact h.other hi bus rfl entry hmem
    · exact hne

theorem Fits.publish (h : L.Fits i b) {m : Message} {b' : Bus Receiver}
    {receivers : List Receiver} (hp : b.publish? m = .ok (b', receivers)) : L.Fits i b' := by
  obtain ⟨medium, faults⟩ := b
  simp only [Bus.publish?] at hp
  split at hp
  · contradiction
  cases medium with
  | broker client =>
    cases hc : client.publish? m with
    | error e => simp [hc, bind, Except.bind] at hp
    | ok client' =>
      simp only [hc, bind, Except.bind, Except.ok.injEq, Prod.mk.injEq] at hp
      obtain ⟨rfl, -⟩ := hp
      exact h.broker
  | process bus =>
    simp only [LocalBus.publish?] at hp
    split at hp
    · obtain ⟨rfl, -⟩ := Prod.mk.inj (Except.ok.inj hp)
      exact h.process (fun _ hc hleads => ⟨hc, hleads.distinct, hleads.found, hleads.only⟩)
        fun _ he => .inl he
    · contradiction

theorem Fits.take (h : L.Fits i b) (m : Message) :
    L.Fits i (match b.medium with
      | .process bus => { b with medium := .process (bus.take m) }
      | .broker _ => b) := by
  obtain ⟨medium, faults⟩ := b
  cases medium with
  | broker client => exact h
  | process bus =>
    exact h.process (fun _ hc hleads => ⟨hc, hleads.distinct, hleads.found, hleads.only⟩)
      fun _ he => .inl he

theorem Bound.take (h : L.Bound s) (i : BusRef) (m : Message) : L.Bound (s.take i m) :=
  (h.updateBus fun _ _ hfits => hfits.take m).mark _

/-- A message reaches the consumed thing if it is published on the bus of the link, on a topic that
    the filter matches. -/
theorem Fits.of_mem_receivers (h : L.Fits i b) {m : Message} {b' : Bus Receiver}
    {receivers : List Receiver} (hp : b.publish? m = .ok (b', receivers))
    (hr : .events L.consumed ∈ receivers) :
    i = L.bus ∧ Topic.matches L.filter m.topic = true := by
  obtain ⟨medium, faults⟩ := b
  simp only [Bus.publish?] at hp
  split at hp
  · contradiction
  cases medium with
  | broker client =>
    cases hc : client.publish? m with
    | error e => simp [hc, bind, Except.bind] at hp
    | ok client' =>
      simp only [hc, bind, Except.bind, Except.ok.injEq, Prod.mk.injEq] at hp
      simp [← hp.2] at hr
  | process bus =>
    simp only [LocalBus.publish?] at hp
    split at hp
    · obtain ⟨-, rfl⟩ := Prod.mk.inj (Except.ok.inj hp)
      obtain ⟨filter, he, hm⟩ := LocalBus.exists_of_mem_receiversOf hr
      by_cases hi : i = L.bus
      · obtain ⟨bus', hmedium, -, -, hleads⟩ := h.own hi
        obtain rfl := Medium.process.inj hmedium
        exact ⟨hi, hleads.only _ he rfl ▸ hm⟩
      · exact absurd rfl (h.other hi bus rfl _ he)
    · contradiction

/-- A handler may be subscribed, if not under the filter of the link. -/
theorem Fits.subscribe (h : L.Fits i b) {filter : String} (hf : i = L.bus → filter ≠ L.filter)
    (handler : Handler) : L.Fits i (b.subscribe filter (.handler handler)).2 := by
  obtain ⟨medium, faults⟩ := b
  have hne : Receiver.handler handler ≠ .events L.consumed := by simp
  simp only [Bus.subscribe]
  split
  · exact h
  cases medium with
  | broker client => exact h.broker
  | process bus =>
    refine h.process (fun hi hc hleads => ⟨hc, hleads.subscribe (hf hi) hne⟩) fun entry he => ?_
    rcases NameMap.mem_insert he with rfl | he
    · exact .inr hne
    · exact .inl he

/-- A filter may be left without a receiver, if it is not that of the link. -/
theorem Fits.unsubscribe (h : L.Fits i b) {filter : String}
    (hf : i = L.bus → filter ≠ L.filter) : L.Fits i (b.unsubscribe filter).2 := by
  obtain ⟨medium, faults⟩ := b
  simp only [Bus.unsubscribe]
  split
  · exact h
  cases medium with
  | broker client => exact h.broker
  | process bus =>
    exact h.process (fun hi hc hleads => ⟨hc, hleads.unsubscribe (hf hi)⟩)
      fun entry he => .inl (List.mem_filter.1 he).1

/-- A bus may be disconnected, if it is not that of the link. -/
theorem Fits.disconnect (h : L.Fits i b) (hi : i ≠ L.bus) : L.Fits i b.disconnect := by
  refine ⟨fun he => absurd he hi, fun _ bus' hm => ?_⟩
  obtain ⟨medium, faults⟩ := b
  cases medium with
  | broker client => contradiction
  | process bus =>
    obtain rfl := Medium.process.inj hm
    exact h.other hi bus rfl

/-! ## The lamp on a bus -/

/-- The exposed thing of the lamp and a consumed one, on a bus. -/
def lamp : Link := ⟨0, 0, 0, .lamp⟩

/-- A site where the lamp is linked, with handlers of writes and observers. -/
def lampSite (writes observations : NameMap Handler) : Site :=
  { catalogue := ⟨[.lamp]⟩
    exposed := ⟨[{ device := "", description := 0, handlers := some { writes },
                   output := .bus 0 "lamp" }]⟩
    consumed := ⟨[{ description := 0, observations, interaction := .bus 0 "lamp" }]⟩
    buses := ⟨[.ofLocal { subscriptions :=
      ⟨[(Topic.actions "lamp", .requests 0), (Topic.events "lamp", .events 0)]⟩ }]⟩
    consumer := .home }

theorem bound_lampSite (writes observations : NameMap Handler) :
    lamp.Bound (lampSite writes observations) where
  exposed := ⟨_, rfl, rfl, rfl⟩
  consumed := ⟨_, rfl, rfl, .inl rfl⟩
  bus := ⟨_, rfl⟩
  fits i b h := by
    match i with
    | 0 =>
      obtain rfl := Option.some.inj h
      refine ⟨fun _ => ⟨_, rfl, rfl, rfl, by decide, rfl, ?_⟩, fun hi => absurd rfl hi⟩
      simp [lamp, filter, ThingDescription.lamp]
    | i + 1 => contradiction
  outputs i t h hi := by
    match i with
    | 0 => exact absurd rfl hi
    | i + 1 => contradiction
  interactions i c h id hid name := by
    match i with
    | 0 =>
      obtain rfl := Option.some.inj h
      obtain ⟨-, rfl⟩ := Interaction.bus.inj hid
      exact Topic.not_matches_events_action (by decide) (by decide) name
    | i + 1 => contradiction

end Link

end WebOfThings
