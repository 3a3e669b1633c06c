import Mathlib
import WebOfThings.Proofs.Arrival
import WebOfThings.Proofs.Moments

/-!
# Destroyed consumed things

A consumed thing that its factory destroys drops its handlers and its values, and its factory ends
the subscription of its filter. Nothing about the thing tells from then on that it was destroyed, so
what is true of it ever after depends on what may be done with it (`ConsumedThing.Turn`).

* It is silent: none of the handlers from before is told of anything, unless it is set again.
* It stays empty if no filter leads to it any more, which is so if and only if the subscription
  could be ended. If it could not, messages still reach the thing, and it keeps their values.
* If it is destroyed by one of its own observers, the rest of the message that is being handed to it
  is kept. It keeps nothing else afterwards, if no filter leads to it.

`dismissed_silent` says all of this, and `dismissed_filled` that a destroyed thing is not always
empty.
-/

namespace WebOfThings

open Run

/-- An act sets a handler of a consumed thing. -/
def Act.Sets (i : ConsumedRef) (h : Handler) : Act → Prop
  | subscribe j _ label acts | observe j _ label acts => j = i ∧ { label, acts } = h
  | _ => False

/-- An act hands an event to a consumed thing directly. -/
def Act.Tells (i : ConsumedRef) : Act → Prop
  | receive j _ _ => j = i
  | _ => False

/-! ## What becomes of a consumed thing -/

/-- What a single change may do to a consumed thing. -/
inductive ConsumedThing.Turn (allowed : Occasion → Act → Prop) (told : ConsumedRef → Prop)
    (i : ConsumedRef) (c : ConsumedThing) : ConsumedThing → Prop
  /-- Nothing. -/
  | same : Turn allowed told i c c
  /-- It keeps a value, if it may be told of events. -/
  | keep (hi : told i) (x : Delivery) : Turn allowed told i c (c.keep x)
  /-- It gets a handler by an act that is allowed. -/
  | set {o : Occasion} {a : Act} (ha : allowed o a) {h : Handler} (hsets : a.Sets i h)
      (kind : NoticeKind) (name : String) : Turn allowed told i c (c.subscribe kind name h).2
  /-- It loses a handler. -/
  | unset (kind : NoticeKind) (name : String) : Turn allowed told i c (c.unsubscribe kind name).2
  /-- It drops everything. -/
  | stop : Turn allowed told i c c.stop
  /-- A caller holds it, or lets it go. -/
  | hold (held : Bool) : Turn allowed told i c { c with held }

section

variable {allowed : Occasion → Act → Prop} {told : ConsumedRef → Prop} {s s' : Site}
  {i : ConsumedRef} {c c' : ConsumedThing}

/-- One consumed thing changes. -/
theorem exists_turn_update (hc : s.consumed.get? i = some c) (k : ConsumedRef)
    {change : ConsumedThing → ConsumedThing}
    (h : k = i → c.Turn allowed told i (change c)) :
    ∃ c', (s.consumed.update k change).get? i = some c' ∧ c.Turn allowed told i c' := by
  rw [Table.get?_update, hc]
  split
  · next hk => exact ⟨_, rfl, h hk⟩
  · exact ⟨_, rfl, .same⟩

/-- What an act that is allowed may do to a consumed thing. -/
theorem Act.turn_of_changed {o : Occasion} {a : Act} (ha : allowed o a)
    (hc : s.consumed.get? i = some c) :
    ∃ c', (a.changed o s).consumed.get? i = some c' ∧ c.Turn allowed told i c' := by
  cases a with
  | subscribe k | observe k => exact exists_turn_update hc k fun hk => .set ha ⟨hk, rfl⟩ _ _
  | unsubscribe k | unobserve k => exact exists_turn_update hc k fun _ => .unset _ _
  | stop k => exact exists_turn_update hc k fun _ => .stop
  | dismiss k =>
    simp only [Act.changed]
    split
    · exact exists_turn_update (by rwa [Role.consumed_drop]) k fun _ => .stop
    · exact ⟨c, hc, .same⟩
  | _ => exact ⟨c, hc, .same⟩

/-- A consumed thing stays there, and this is all that may become of it at once. -/
theorem Site.Change.turn (h : s.Change allowed told s') (hc : s.consumed.get? i = some c) :
    ∃ c', s'.consumed.get? i = some c' ∧ c.Turn allowed told i c' := by
  cases h with
  | note | take | remember | describe | bus => exact ⟨c, hc, .same⟩
  | @keep k hk x => exact exists_turn_update hc k fun hki => .keep (hki ▸ hk) x
  | act ha => exact Act.turn_of_changed ha hc
  | add role device ref id =>
    cases role with
    | exposed => exact ⟨c, hc, .same⟩
    | consumed => exact ⟨c, Table.get?_add_of_get? hc _, .same⟩
  | hold role k held =>
    cases role with
    | exposed => exact ⟨c, hc, .same⟩
    | consumed => exact exists_turn_update hc k fun _ => .hold held
  | learn role => exact ⟨c, by cases role <;> exact hc, .same⟩
  | drop role id => exact ⟨c, by rwa [Role.consumed_drop], .same⟩
  | empty role k =>
    cases role with
    | exposed => exact ⟨c, hc, .same⟩
    | consumed => exact exists_turn_update hc k fun _ => .stop

namespace ConsumedThing

theorem get?_handlers_stop (c : ConsumedThing) (kind : NoticeKind) (name : String) :
    (c.stop.handlers kind).get? name = none := by cases kind <;> rfl

theorem get?_values_stop (c : ConsumedThing) (name : String) : c.stop.values.get? name = none := rfl

/-- A handler that was not there was set. -/
theorem Turn.handler (h : c.Turn allowed told i c') {kind : NoticeKind} {name : String}
    {f : Handler} (hf : (c'.handlers kind).get? name = some f) :
    (c.handlers kind).get? name = some f ∨ ∃ o a, allowed o a ∧ a.Sets i f := by
  rcases h with _ | _ | ⟨ha, hsets, kind', name'⟩ | ⟨kind', name'⟩ | _ | _
  · exact .inl hf
  · exact .inl (by cases kind <;> exact hf)
  · simp only [subscribe] at hf
    split at hf
    · exact .inl hf
    simp only [handlers_updateHandlers] at hf
    split at hf
    · rw [NameMap.get?_insert] at hf
      split at hf
      · exact .inr ⟨_, _, ha, Option.some.inj hf ▸ hsets⟩
      · exact .inl hf
    · exact .inl hf
  · simp only [unsubscribe, handlers_updateHandlers] at hf
    split at hf
    · rw [NameMap.get?_erase] at hf
      split at hf
      · contradiction
      · exact .inl hf
    · exact .inl hf
  · rw [get?_handlers_stop] at hf
    contradiction
  · exact .inl (by cases kind <;> exact hf)

/-- A thing that is told of no event keeps no other values. -/
theorem Turn.value (h : c.Turn allowed told i c') (hi : ¬ told i) {name : String} {v : Snapshot}
    (hv : c'.values.get? name = some v) : c.values.get? name = some v := by
  rcases h with _ | ⟨hi', -⟩ | ⟨-, -, kind, name'⟩ | ⟨kind, name'⟩ | _ | _
  · exact hv
  · exact absurd hi' hi
  · obtain ⟨change, he⟩ := c.subscribe_eq_updateHandlers kind name' _
    rwa [he, updateHandlers_values] at hv
  · rwa [show (c.unsubscribe kind name').2 = c.updateHandlers kind _ from rfl,
      updateHandlers_values] at hv
  · rw [get?_values_stop] at hv
    contradiction
  · exact hv

end ConsumedThing

end

/-! ## Silence and emptiness -/

/-- A consumed thing has no handler that is a given one. -/
def Site.Without (s : Site) (i : ConsumedRef) (f : Handler) : Prop :=
  ∃ c, s.consumed.get? i = some c ∧ ∀ kind name, (c.handlers kind).get? name ≠ some f

/-- A consumed thing keeps no values but those that a thing has. -/
def Site.Within (s : Site) (i : ConsumedRef) (c₀ : ConsumedThing) : Prop :=
  ∃ c, s.consumed.get? i = some c ∧
    ∀ name v, c.values.get? name = some v → c₀.values.get? name = some v

section

variable {allowed : Occasion → Act → Prop} {told : ConsumedRef → Prop} {s s' : Site}
  {i : ConsumedRef} {f : Handler} {c₀ : ConsumedThing}

theorem Site.Change.without (h : s.Change allowed told s') (hallowed : ∀ o a, allowed o a →
    ¬ a.Sets i f) (hs : s.Without i f) : s'.Without i f := by
  obtain ⟨c, hc, hf⟩ := hs
  obtain ⟨c', hc', hturn⟩ := h.turn hc
  refine ⟨c', hc', fun kind name hf' => ?_⟩
  rcases hturn.handler hf' with hold | ⟨o, a, ha, hsets⟩
  · exact hf kind name hold
  · exact hallowed o a ha hsets

theorem Site.Change.within (h : s.Change allowed told s') (hi : ¬ told i) (hs : s.Within i c₀) :
    s'.Within i c₀ := by
  obtain ⟨c, hc, hwithin⟩ := hs
  obtain ⟨c', hc', hturn⟩ := h.turn hc
  exact ⟨c', hc', fun name v hv => hwithin name v (hturn.value hi hv)⟩

/-- A delivery to a thing without a handler does not depend on how that handler is called. -/
theorem Site.Without.deliver_eq (h : s.Without i f) (x : Delivery) {call call' : Call}
    (hcall : ∀ g, g ≠ f → call g = call' g) :
    (deliver call i x).run s = (deliver call' i x).run s := by
  obtain ⟨c, hc, hf⟩ := h
  have hkept : (Run.consumed i).run (s.keep i x) = some (c.keep x, s.keep i x) := by
    simp [Site.keep, Table.get?_update, hc]
  rw [run_deliver_eq, run_deliver_eq, run_bind_of_run hkept, run_bind_of_run hkept]
  cases hg : (c.keep x).handler? x with
  | none => rfl
  | some g =>
    have hne : g ≠ f := fun he => hf x.kind x.name (he ▸ hg)
    simp only [hcall g hne]

end

/-! ## Dismissal -/

/-- What is true of a consumed thing from the moment that it was destroyed. -/
structure Site.Dismissed (s₁ : Site) (i : ConsumedRef) : Prop where
  /-- Whatever is delivered to it later does not depend on how a handler is called, unless that
      handler is set again. -/
  silent : ∀ f, s₁.EverAfter (fun _ a => ¬ a.Sets i f) (fun _ => True) fun s' =>
    ∀ (x : Delivery) (call call' : Call), (∀ g, g ≠ f → call g = call' g) →
      (deliver call i x).run s' = (deliver call' i x).run s'
  /-- If no filter leads to it, nothing can be read of it later, unless it is handed events
      directly. -/
  empty : s₁.Confined (· ≠ i) → s₁.EverAfter (fun _ a => ¬ a.Tells i) (· ≠ i) fun s' =>
    ∃ c, s'.consumed.get? i = some c ∧ ∀ d name, (c.read d name).toOption = none
  /-- If no filter leads to it, but it was handed the rest of a message until a later moment, what
      can be read of it is from then on what could be read at that moment, or less. -/
  settled : s₁.Confined (· ≠ i) → ∀ allowed told s₂, s₁.Later allowed told s₂ →
    ∃ c₂, s₂.consumed.get? i = some c₂ ∧
      s₂.EverAfter (fun _ a => ¬ a.Tells i) (· ≠ i) fun s' => ∃ c, s'.consumed.get? i = some c ∧
        ∀ d name v, (c.read d name).toOption = some v → (c₂.read d name).toOption = some v
  /-- If a message reaches it nevertheless, all that happens is that it keeps the values. -/
  kept : ∀ c d, s₁.consumed.get? i = some c → s₁.catalogue.get? c.description = some d →
    s₁.consumedIsAlive i = true → ∀ id name payload depth, Topic.IsLevel id →
      ∃ s', (accept (calls (depth + 1)) ⟨Topic.event id name, payload⟩ (.events i)).run s₁ =
          some (.unit, s') ∧
        s'.journal = s₁.journal ∧
        s'.consumed.get? i = some (c.keepAll (ConsumedThing.deliveries d name payload))

section

variable {s s₁ : Site} {i : ConsumedRef}

/-- Acts that tell a thing of nothing tell only others. -/
theorem Act.tellsOnly_of_not_tells (i : ConsumedRef) :
    TellsOnly (fun _ a => ¬ a.Tells i) (· ≠ i) := fun _ _ _ _ h he => h he

/-- A handler that is not there is not there ever after, unless it is set. -/
theorem Site.Without.everAfter {f : Handler} (h : s₁.Without i f) :
    s₁.EverAfter (fun _ a => ¬ a.Sets i f) (fun _ => True) (Site.Without · i f) :=
  .of_change s₁.confined_true (fun _ _ _ _ _ => trivial) h
    fun _ _ hchange => hchange.without fun _ _ => id

/-- No other values are kept ever after, if no filter leads to the thing and it is not handed events
    directly. -/
theorem Site.Within.everAfter {c₀ : ConsumedThing} (h : s₁.Within i c₀)
    (hconfined : s₁.Confined (· ≠ i)) :
    s₁.EverAfter (fun _ a => ¬ a.Tells i) (· ≠ i) (Site.Within · i c₀) :=
  .of_change hconfined (Act.tellsOnly_of_not_tells i) h
    fun _ _ hchange => hchange.within fun hi => hi rfl

/-- A consumed thing without handlers and values is dismissed. -/
theorem Site.Dismissed.of_stop {c : ConsumedThing} (hc : s₁.consumed.get? i = some c.stop) :
    s₁.Dismissed i where
  silent f := by
    have hwithout : s₁.Without i f :=
      ⟨_, hc, fun kind name => by simp [ConsumedThing.get?_handlers_stop]⟩
    exact hwithout.everAfter.imp fun s' hs' x _ _ => hs'.deliver_eq x
  empty hconfined := by
    have hwithin : s₁.Within i c.stop := ⟨_, hc, fun _ _ => id⟩
    refine (hwithin.everAfter hconfined).imp ?_
    rintro s' ⟨c', hc', hvalues⟩
    refine ⟨c', hc', fun d name => ?_⟩
    rw [ConsumedThing.toOption_read, Option.eq_none_iff_forall_not_mem]
    intro v hv
    have hnone := hvalues name v hv
    rw [ConsumedThing.get?_values_stop] at hnone
    contradiction
  settled hconfined allowed told s₂ hlater := by
    -- a thing that is there stays there
    have hconfined₂ := hlater.confined hconfined
    obtain ⟨c₂, hc₂⟩ := hconfined₂.exists_of_not_told i fun h => h rfl
    have hwithin : s₂.Within i c₂ := ⟨_, hc₂, fun _ _ => id⟩
    refine ⟨c₂, hc₂, (hwithin.everAfter hconfined₂).imp ?_⟩
    rintro s' ⟨c', hc', hvalues⟩
    refine ⟨c', hc', fun d name v => ?_⟩
    simpa only [ConsumedThing.toOption_read] using hvalues name v
  kept c' d hc' hd alive id name payload depth level := by
    obtain rfl : c.stop = c' := Option.some.inj (hc.symm.trans hc')
    have hnone (x : Delivery) : c.stop.handler? x = none := c.get?_handlers_stop x.kind x.name
    have hpassive : c.stop.Passive := fun x h hh => by simp [hnone] at hh
    refine ⟨_, run_accept_events level name payload depth alive hc hd hpassive, ?_,
      Site.get?_receive hc _⟩
    simp [Site.receive, ConsumedThing.told, hnone]

theorem Role.get?_empty_drop {c : ConsumedThing} (hc : s.consumed.get? i = some c) (id : String) :
    (Role.consumed.empty i (Role.consumed.drop id s)).consumed.get? i = some c.stop := by
  simp [Role.empty, Table.get?_update, hc]

/-- Unless it is made to fail, ending a subscription leaves its filter without a receiver. -/
theorem Bus.subscriptions_unsubscribe (b : Bus Receiver) (filter : String) :
    (b.unsubscribe filter).2.subscriptions =
      if b.faults.unsubscribe then b.subscriptions else b.subscriptions.erase filter := by
  obtain ⟨medium, faults⟩ := b
  simp only [unsubscribe]
  split
  · rfl
  · cases medium with
    | process bus => rfl
    | broker client => exact client.subscriptions_unsubscribe filter

/-- If only its own filter leads to a thing that its factory knows, then none does after it was
    destroyed if and only if ending the subscription was not made to fail. -/
theorem Site.confined_iff_of_dismiss {id : String} {b : Bus Receiver}
    (hid : Role.consumed.id? s i = some id) (hb : s.buses.get? s.consumer.bus = some b)
    (hknown : s.consumer.things.contains id = true)
    (honly : ∀ k b filter, s.buses.get? k = some b → ((filter, .events i) ∈
      b.subscriptions.entries ↔ k = s.consumer.bus ∧ filter = Topic.events id)) :
    (Role.consumed.empty i (Role.consumed.drop id s)).Confined (· ≠ i) ↔
      b.faults.unsubscribe = false := by
  have hbuses (k : BusRef) : (Role.consumed.empty i (Role.consumed.drop id s)).buses.get? k =
      if s.consumer.bus = k then (s.buses.get? k).map fun b => (b.unsubscribe (Topic.events id)).2
      else s.buses.get? k := by
    rw [Role.buses_empty, Role.get?_buses_drop]
    simp only [Role.known, hknown, Role.bus, true_and]
    rfl
  have hself := (honly _ b (Topic.events id) hb).2 ⟨rfl, rfl⟩
  constructor
  · rw [← Bool.not_eq_true]
    intro h hf
    -- its own filter still leads to it
    refine h.told_of_led s.consumer.bus (b.unsubscribe (Topic.events id)).2 ?_ (Topic.events id) i
      ?_ rfl
    · rw [hbuses, if_pos rfl, hb, Option.map_some]
    · rwa [Bus.subscriptions_unsubscribe, if_pos hf]
  · intro hf
    refine ⟨fun j hj => ?_, fun k b' hb' filter j hentry => ?_⟩
    · obtain rfl : j = i := Classical.not_not.1 hj
      obtain ⟨d, hd, -⟩ := Role.id?_eq_some.1 hid
      obtain ⟨c, hc, -⟩ := Role.description?_consumed.1 hd
      exact ⟨_, Role.get?_empty_drop hc id⟩
    · rintro rfl
      rw [hbuses] at hb'
      split at hb'
      · next hk =>
        subst hk
        rw [hb, Option.map_some, Option.some.injEq] at hb'
        subst hb'
        rw [Bus.subscriptions_unsubscribe, hf, if_neg Bool.false_ne_true] at hentry
        obtain ⟨hold, hne⟩ := List.mem_filter.1 hentry
        obtain ⟨-, rfl⟩ := (honly _ b _ hb).1 hold
        simp at hne
      · next hk => exact hk ((honly k b' filter hb').1 hentry).1.symm

end

/-- Once a consumed thing was destroyed by its factory, its handlers from before are told of nothing
    any more, whatever is done. It reads nothing any more if no filter leads to it, or nothing but
    what was left in the message that was being handed to it. If only its own filter led to it, no
    filter leads to it afterwards if and only if ending the subscription was not made to fail. If
    one does, the thing keeps what still arrives. -/
theorem dismissed_silent {s s₁ : Site} {i : ConsumedRef} {u : Unit}
    (h : (dismiss i).run s = some (u, s₁)) :
    s₁.Dismissed i ∧
      ∀ id b, Role.consumed.id? s i = some id → s.buses.get? s.consumer.bus = some b →
        s.consumer.things.contains id = true →
        (∀ k b filter, s.buses.get? k = some b → ((filter, .events i) ∈ b.subscriptions.entries ↔
          k = s.consumer.bus ∧ filter = Topic.events id)) →
        (s₁.Confined (· ≠ i) ↔ b.faults.unsubscribe = false) := by
  replace h : (Role.consumed.destroy i).run s = some (u, s₁) := h
  obtain ⟨id, hid⟩ := Role.exists_id?_of_run_destroy h
  obtain rfl := Role.eq_of_run_destroy hid h
  obtain ⟨d, hd, -⟩ := Role.id?_eq_some.1 hid
  obtain ⟨c, hc, -⟩ := Role.description?_consumed.1 hd
  refine ⟨.of_stop (Role.get?_empty_drop hc id), fun id' b hid' hb hknown honly => ?_⟩
  obtain rfl : id = id' := Option.some.inj (hid.symm.trans hid')
  exact Site.confined_iff_of_dismiss hid hb hknown honly

/-- The lamp is consumed by a factory that knows it, with an observer of its level, on a bus that
    may be made not to let go of it. -/
def knownLamp (unsubscribe : Bool) (acts : List Act) : Site :=
  { Link.lampSite {} ⟨[("level", ⟨"watch", acts⟩)]⟩ with
    consumer := { ConsumerFactory.home with things := ⟨[("lamp", 0)]⟩ }
    buses := ⟨[{
      medium := .process { subscriptions := ⟨[(Topic.events "lamp", .events 0)]⟩ }
      faults := { unsubscribe } }]⟩ }

/-- The factory destroys the lamp, and its filter leads nowhere. So nothing comes of a message on
    it. -/
theorem dismissed_silent_lamp :
    ∃ s₁ s', (dismiss 0).run (knownLamp false []) = some (.unit, s₁) ∧
      (([.publish 0 ⟨Topic.event "lamp" "level", Bytes.ofString "null"⟩] :
        List Happening).forM (·.run (calls 1))).run s₁ = some (.unit, s') ∧
      s₁.Confined (· ≠ 0) ∧
      (∃ c, s'.consumed.get? 0 = some c ∧ ∀ d name, (c.read d name).toOption = none) ∧
      ∀ (x : Delivery) (call call' : Call), (∀ g, g ≠ ⟨"watch", []⟩ → call g = call' g) →
        (deliver call 0 x).run s' = (deliver call' 0 x).run s' := by
  obtain ⟨s₁, s', hdismiss, hrun, hjournal⟩ :
      ∃ s₁ s', (dismiss 0).run (knownLamp false []) = some (.unit, s₁) ∧
      (([.publish 0 ⟨Topic.event "lamp" "level", Bytes.ofString "null"⟩] :
        List Happening).forM (·.run (calls 1))).run s₁ = some (.unit, s') ∧
      s'.journal = s₁.journal := ⟨_, _, rfl, rfl, rfl⟩
  obtain ⟨hdismissed, hiff⟩ := dismissed_silent hdismiss
  have hconfined : s₁.Confined (· ≠ 0) := (hiff "lamp" _ rfl rfl rfl fun k b filter hb => by
    match k with
    | 0 =>
      obtain rfl := Option.some.inj hb
      have hbus : (knownLamp false []).consumer.bus = 0 := rfl
      simp [hbus, Bus.subscriptions]
    | k + 1 => contradiction).2 rfl
  have hnoted (allowed : Occasion → Act → Prop) : s₁.Noted allowed s' := by
    intro entries hj e he
    obtain rfl : entries = [] := by simpa [hjournal] using hj
    contradiction
  have hempty := hdismissed.empty hconfined
  have hsilent := hdismissed.silent ⟨"watch", []⟩
  exact ⟨s₁, s', hdismiss, hrun, hconfined,
    hempty.holds s' (hempty.later 1 _ _ _ (by simp) hrun (hnoted _)),
    hsilent.holds s' (hsilent.later 1 _ _ _ (by simp) hrun (hnoted _))⟩

/-- The lamp is destroyed on a bus that does not let go of it. Nothing can be read of it then, but a
    message that is published later reaches it, and can be read. -/
theorem dismissed_filled :
    ((do
      dismiss 0
      let before := (← consumed 0).read .lamp "level"
      let _ ← publish (calls 1) 0 ⟨Topic.event "lamp" "level", Bytes.ofString "null"⟩
      let after := (← consumed 0).read .lamp "level"
      pure (before.toOption.isSome, after.toOption.isSome) : Run (Bool × Bool)).run
        (knownLamp true [])).map (·.1) = some (false, true) := by cbv

-- the observer of the level destroys the lamp, and the rest of the batch is kept
example :
    ((do
      let _ ← publish (calls 2) 0 ⟨Topic.batch "lamp",
        Bytes.ofString "\x7b\"level\":null,\"power\":null\x7d"⟩
      let level := (← consumed 0).read .lamp "level"
      let power := (← consumed 0).read .lamp "power"
      pure (level.toOption.isSome, power.toOption.isSome) : Run (Bool × Bool)).run
        (knownLamp false [.dismiss 0])).map (·.1) = some (false, true) := by cbv

end WebOfThings
