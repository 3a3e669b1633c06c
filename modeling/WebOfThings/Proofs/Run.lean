import WebOfThings.Site.Scripts

/-!
# What runs do

A run takes a site to a result and another site, or has no result. `run_bind_eq_some` takes a run
apart into its steps, and the lemmas beside it say what the steps do that all others are made of.

Publishing is one of them on a bus within the process that is connected and not made to fail
(`Site.Carries`): the bus takes the message, and those who receive it at that moment are handed it
one after another (`run_publish`). A receiver that only one filter leads to (`LocalBus.Leads`) is
among them once if the filter matches the topic, and not otherwise.
-/

namespace WebOfThings

namespace Run

variable {α β : Type} {s s' : Site}

theorem run_bind_eq_some {m : Run α} {f : α → Run β} {b : β} {s s'' : Site} :
    (m >>= f).run s = some (b, s'') ↔
      ∃ a s', m.run s = some (a, s') ∧ (f a).run s' = some (b, s'') := by
  rw [StateT.run_bind]
  simp [Option.bind_eq_some_iff]

/-- What is done after something that gives a result. -/
theorem run_bind_of_run {m : Run α} {a : α} (h : m.run s = some (a, s')) (f : α → Run β) :
    (m >>= f).run s = (f a).run s' := by
  rw [StateT.run_bind, h]
  rfl

theorem run_map_eq_some {m : Run α} {f : α → β} {b : β} {s s' : Site} :
    (f <$> m).run s = some (b, s') ↔ ∃ a, m.run s = some (a, s') ∧ f a = b := by
  rw [StateT.run_map]
  simp [Option.map_eq_some_iff]

theorem run_discard (m : Run α) (s : Site) :
    (discard m : Run PUnit).run s = (m.run s).map fun (_, s') => (.unit, s') := by
  rw [show (discard m : Run PUnit) = (fun _ => .unit) <$> m from rfl, StateT.run_map]
  rfl

theorem run_discard_eq_some {m : Run α} {s s' : Site} :
    (discard m : Run PUnit).run s = some (.unit, s') ↔ ∃ a, m.run s = some (a, s') := by
  rw [run_discard]
  simp

@[simp] theorem run_exposed (i : ExposedRef) (s : Site) :
    (exposed i).run s = (s.exposed.get? i).map (·, s) := by
  cases h : s.exposed.get? i <;> simp [exposed, h]

@[simp] theorem run_consumed (i : ConsumedRef) (s : Site) :
    (consumed i).run s = (s.consumed.get? i).map (·, s) := by
  cases h : s.consumed.get? i <;> simp [consumed, h]

@[simp] theorem run_description (i : DescriptionRef) (s : Site) :
    (description i).run s = (s.catalogue.get? i).map (·, s) := by
  cases h : s.catalogue.get? i <;> simp [description, h]

@[simp] theorem run_bus (i : BusRef) (s : Site) :
    (bus i).run s = (s.buses.get? i).map (·, s) := by
  cases h : s.buses.get? i <;> simp [bus, h]

/-- What is done with an exposed thing and its description, which both must exist. -/
theorem run_with_exposed {i : ExposedRef} {f : ExposedThing → ThingDescription → Run α} {a : α} :
    (do let t ← exposed i; let d ← description t.description; f t d : Run α).run s =
        some (a, s') ↔
      ∃ t d, s.exposed.get? i = some t ∧ s.catalogue.get? t.description = some d ∧
        (f t d).run s = some (a, s') := by
  simp only [StateT.run_bind, run_exposed, run_description, Option.bind_eq_bind]
  cases ht : s.exposed.get? i with
  | none => simp
  | some t => cases hd : s.catalogue.get? t.description <;> simp [hd]

/-- What is done with a consumed thing and its description, which both must exist. -/
theorem run_with_consumed {i : ConsumedRef} {f : ConsumedThing → ThingDescription → Run α}
    {a : α} : (do let c ← consumed i; let d ← description c.description; f c d : Run α).run s =
        some (a, s') ↔
      ∃ c d, s.consumed.get? i = some c ∧ s.catalogue.get? c.description = some d ∧
        (f c d).run s = some (a, s') := by
  simp only [StateT.run_bind, run_consumed, run_description, Option.bind_eq_bind]
  cases hc : s.consumed.get? i with
  | none => simp
  | some c => cases hd : s.catalogue.get? c.description <;> simp [hd]

/-- What is done with an exposed thing and its description, where they are given. -/
theorem run_of_exposed {i : ExposedRef} {t : ExposedThing} {d : ThingDescription}
    (ht : s.exposed.get? i = some t) (hd : s.catalogue.get? t.description = some d)
    (f : ExposedThing → ThingDescription → Run α) :
    (do let t ← exposed i; let d ← description t.description; f t d : Run α).run s =
      (f t d).run s := by
  simp [StateT.run_bind, ht, hd]

/-- What is done with a consumed thing and its description, where they are given. -/
theorem run_of_consumed {i : ConsumedRef} {c : ConsumedThing} {d : ThingDescription}
    (hc : s.consumed.get? i = some c) (hd : s.catalogue.get? c.description = some d)
    (f : ConsumedThing → ThingDescription → Run α) :
    (do let c ← consumed i; let d ← description c.description; f c d : Run α).run s =
      (f c d).run s := by
  simp [StateT.run_bind, hc, hd]

@[simp] theorem run_note (e : Entry) (s : Site) :
    (note e).run s = some (.unit, { s with journal := e :: s.journal }) := rfl

@[simp] theorem run_mark (m : Moment) (s : Site) :
    (mark m).run s = some (.unit, { s with timeline := m :: s.timeline }) := rfl

@[simp] theorem run_updateExposed (i : ExposedRef) (change : ExposedThing → ExposedThing)
    (s : Site) : (updateExposed i change).run s =
      some (.unit, { s with exposed := s.exposed.update i change }) := rfl

@[simp] theorem run_updateConsumed (i : ConsumedRef) (change : ConsumedThing → ConsumedThing)
    (s : Site) : (updateConsumed i change).run s =
      some (.unit, { s with consumed := s.consumed.update i change }) := rfl

@[simp] theorem run_updateBus (i : BusRef) (change : Bus Receiver → Bus Receiver) (s : Site) :
    (updateBus i change).run s =
      some (.unit, { s with buses := s.buses.update i change }) := rfl

theorem run_subscribe (i : BusRef) (filter : String) (r : Receiver) (s : Site) :
    (subscribe i filter r).run s = (s.buses.get? i).map fun b => ((b.subscribe filter r).1,
      { s with buses := s.buses.update i fun b => (b.subscribe filter r).2 }) := by
  cases hb : s.buses.get? i with
  | none => simp [subscribe, StateT.run_bind, hb]
  | some b =>
    simp [subscribe, StateT.run_bind, hb, Table.update_const hb fun b => (b.subscribe filter r).2]

theorem run_unsubscribe (i : BusRef) (filter : String) (s : Site) :
    (unsubscribe i filter).run s = (s.buses.get? i).map fun b => ((b.unsubscribe filter).1,
      { s with buses := s.buses.update i fun b => (b.unsubscribe filter).2 }) := by
  cases hb : s.buses.get? i with
  | none => simp [unsubscribe, StateT.run_bind, hb]
  | some b =>
    simp [unsubscribe, StateT.run_bind, hb, Table.update_const hb fun b => (b.unsubscribe filter).2]

theorem run_addHandler (i : ConsumedRef) (kind : NoticeKind) (name : String) (h : Handler)
    (s : Site) : (addHandler i kind name h).run s = (s.consumed.get? i).map fun c =>
      ((c.subscribe kind name h).1,
        { s with consumed := s.consumed.update i fun c => (c.subscribe kind name h).2 }) := by
  cases hc : s.consumed.get? i with
  | none => simp [addHandler, StateT.run_bind, hc]
  | some c =>
    simp [addHandler, StateT.run_bind, hc,
      Table.update_const hc fun c => (c.subscribe kind name h).2]

theorem run_removeHandler (i : ConsumedRef) (kind : NoticeKind) (name : String) (s : Site) :
    (removeHandler i kind name).run s = (s.consumed.get? i).map fun c =>
      ((c.unsubscribe kind name).1,
        { s with consumed := s.consumed.update i fun c => (c.unsubscribe kind name).2 }) := by
  cases hc : s.consumed.get? i with
  | none => simp [removeHandler, StateT.run_bind, hc]
  | some c =>
    simp [removeHandler, StateT.run_bind, hc,
      Table.update_const hc fun c => (c.unsubscribe kind name).2]

/-! ### Relations that runs keep -/

/-- A relation that holds wherever nothing happens, and of two things one after another. -/
structure Composes (R : Site → Site → Prop) : Prop where
  /-- Nothing happens. -/
  refl : ∀ s, R s s
  /-- One thing happens after another. -/
  trans : ∀ {s s' s''}, R s s' → R s' s'' → R s s''

/-- A relation between the site before a run and the site after it. -/
def Relates (R : Site → Site → Prop) (m : Run α) : Prop :=
  ∀ s a s', m.run s = some (a, s') → R s s'

theorem relates_of_run {R : Site → Site → Prop} {m : Run α} {f : Site → α × Site}
    (hm : ∀ s, m.run s = some (f s)) (h : ∀ s, R s (f s).2) : Relates R m := by
  intro s a s' hs
  rw [hm s, Option.some.injEq] at hs
  have := h s
  rwa [hs] at this

theorem relates_of_run_map {R : Site → Site → Prop} {m : Run α} {g : Site → Option β}
    {f : Site → β → α × Site} (hm : ∀ s, m.run s = (g s).map (f s))
    (h : ∀ s b, g s = some b → R s (f s b).2) : Relates R m := by
  intro s a s' hs
  rw [hm s, Option.map_eq_some_iff] at hs
  obtain ⟨b, hb, he⟩ := hs
  have := h s b hb
  rwa [he] at this

section Relates

variable {R : Site → Site → Prop} (hR : Composes R)
include hR

theorem relates_pure (a : α) : Relates R (pure a : Run α) :=
  relates_of_run (fun _ => rfl) hR.refl

theorem relates_bind {m : Run α} {f : α → Run β} (hm : Relates R m) (hf : ∀ a, Relates R (f a)) :
    Relates R (m >>= f) := by
  intro s b s'' h
  obtain ⟨a, s', h₁, h₂⟩ := run_bind_eq_some.1 h
  exact hR.trans (hm _ _ _ h₁) (hf a _ _ _ h₂)

theorem relates_forM {l : List α} {f : α → Run PUnit} (hf : ∀ a ∈ l, Relates R (f a)) :
    Relates R (l.forM f) := by
  induction l with
  | nil => exact relates_pure hR _
  | cons a l ih =>
    exact relates_bind hR (hf a List.mem_cons_self) fun _ =>
      ih fun b hb => hf b (List.mem_cons_of_mem _ hb)

theorem relates_get : Relates R (get : Run Site) :=
  relates_of_run (fun _ => rfl) hR.refl

theorem relates_exposed (i : ExposedRef) : Relates R (exposed i) :=
  relates_of_run_map (run_exposed i) fun s _ _ => hR.refl s

theorem relates_consumed (i : ConsumedRef) : Relates R (consumed i) :=
  relates_of_run_map (run_consumed i) fun s _ _ => hR.refl s

theorem relates_description (i : DescriptionRef) : Relates R (description i) :=
  relates_of_run_map (run_description i) fun s _ _ => hR.refl s

/-- What is done with an exposed thing and its description. -/
theorem relates_with_exposed (i : ExposedRef) {f : ExposedThing → ThingDescription → Run α}
    (hf : ∀ t d, Relates R (f t d)) :
    Relates R (do let t ← exposed i; let d ← description t.description; f t d) :=
  relates_bind hR (relates_exposed hR i) fun t =>
    relates_bind hR (relates_description hR t.description) fun d => hf t d

/-- What is done with a consumed thing and its description. -/
theorem relates_with_consumed (i : ConsumedRef) {f : ConsumedThing → ThingDescription → Run α}
    (hf : ∀ c d, Relates R (f c d)) :
    Relates R (do let c ← consumed i; let d ← description c.description; f c d) :=
  relates_bind hR (relates_consumed hR i) fun c =>
    relates_bind hR (relates_description hR c.description) fun d => hf c d

end Relates

theorem relates_map {R : Site → Site → Prop} {m : Run α} (hm : Relates R m) (f : α → β) :
    Relates R (f <$> m) := by
  intro s b s' h
  obtain ⟨a, h, -⟩ := run_map_eq_some.1 h
  exact hm _ _ _ h

theorem relates_bind_pure {R : Site → Site → Prop} {m : Run α} (hm : Relates R m) (f : α → β) :
    Relates R (m >>= fun a => pure (f a)) := by
  rw [bind_pure_comp]
  exact relates_map hm f

theorem relates_discard {R : Site → Site → Prop} {m : Run α} (hm : Relates R m) :
    Relates R (discard m : Run PUnit) := by
  intro s _ s' h
  obtain ⟨a, h⟩ := run_discard_eq_some.1 h
  exact hm _ _ _ h

section

variable {R : Site → Site → Prop} (hR : Composes R) {call : Call}
  (hcall : ∀ h o, Relates R (call h o))
include hR hcall

/-- A request leads to one handler at most. -/
theorem relates_dispatch (name : String) (what : Dispatch) :
    Relates R (dispatch call name what) := by
  cases what with
  | pass => exact relates_pure hR _
  | refuse e => exact relates_pure hR _
  | serve h input => exact hcall h _

theorem relates_request (i : ExposedRef) (name : String) (payload : Bytes) :
    Relates R (request call i name payload) :=
  relates_with_exposed hR i fun _ _ => relates_dispatch hR hcall name _

theorem relates_writeRequest (i : ExposedRef) (name : String) (payload : Bytes) :
    Relates R (writeRequest call i name payload) :=
  relates_with_exposed hR i fun _ _ => relates_dispatch hR hcall name _

/-- A message leads to what its receiver makes of it, which for a consumed thing is an event. -/
theorem relates_accept {m : Message} {r : Receiver}
    (hreceive : ∀ i parts, r = .events i → Topic.split? m.topic = some parts →
      parts.kind = Topic.eventKind → Relates R (receive call i parts.name m.payload)) :
    Relates R (accept call m r) := by
  cases r with
  | handler h => exact relates_discard (hcall h _)
  | requests i =>
    refine relates_bind hR (relates_get hR) fun s => ?_
    split
    · split
      · split
        · exact relates_discard (relates_request hR hcall i _ _)
        · exact relates_pure hR _
      · exact relates_pure hR _
    · exact relates_pure hR _
  | events i =>
    refine relates_bind hR (relates_get hR) fun s => ?_
    split
    · split
      · next parts hparts =>
        split
        · next hkind => exact hreceive i parts rfl hparts hkind
        · exact relates_pure hR _
      · exact relates_pure hR _
    · exact relates_pure hR _

end

end Run

/-! ## Publishing -/

/-- A bus within the process that is connected and not made to fail. -/
def Site.Carries (s : Site) (i : BusRef) (b : LocalBus Receiver) : Prop :=
  ∃ faults, s.buses.get? i = some { medium := .process b, faults } ∧ faults.publish = false ∧
    b.connected = true

/-- A bus within the process after it took a message. -/
def LocalBus.take {α : Type} (b : LocalBus α) (m : Message) : LocalBus α :=
  { b with history := b.history.map (· ++ [m]) }

/-- A site after one of its buses took a message. -/
def Site.take (s : Site) (i : BusRef) (m : Message) : Site :=
  { s with
    buses := s.buses.update i fun bus => match bus.medium with
      | .process b => { bus with medium := .process (b.take m) }
      | .broker _ => bus
    timeline := .published i m :: s.timeline }

theorem Site.take_buses {s : Site} {i : BusRef} {b : LocalBus Receiver} {faults : Faults}
    (h : s.buses.get? i = some { medium := .process b, faults }) (m : Message) :
    (s.take i m).buses = s.buses.update i fun _ => { medium := .process (b.take m), faults } :=
  (Table.update_const h fun bus => match bus.medium with
    | .process b => { bus with medium := .process (b.take m) }
    | .broker _ => bus).symm

/-- Publishing hands the message to its receivers of that moment, one after another. -/
theorem Run.run_publish {s : Site} {i : BusRef} {b : LocalBus Receiver} (h : s.Carries i b)
    (call : Call) (m : Message) :
    (publish call i m).run s = (do
      (b.receivers m.topic).forM (accept call m)
      pure .done : Run Outcome).run (s.take i m) := by
  obtain ⟨faults, hget, hf, hc⟩ := h
  have hpub : ({ medium := .process b, faults } : Bus Receiver).publish? m =
      .ok ({ medium := .process (b.take m), faults }, b.receivers m.topic) := by
    simp [Bus.publish?, hf, LocalBus.publish?, hc, LocalBus.take, bind, Except.bind]
  have htake : s.take i m = { s with
      buses := s.buses.update i fun _ => { medium := .process (b.take m), faults }
      timeline := .published i m :: s.timeline } := by
    rw [← Site.take_buses hget m]; rfl
  simp [publish, hget, hpub, StateT.run_bind, htake]

/-- A message that the bus takes is handed to those who receive it then. -/
theorem Run.run_publish_of_taken {call : Call} {k : BusRef} {m : Message} {s : Site}
    {b b' : Bus Receiver} {receivers : List Receiver} (found : s.buses.get? k = some b)
    (taken : b.publish? m = .ok (b', receivers)) :
    (publish call k m).run s = ((receivers.forM (accept call m)).run { s with
      buses := s.buses.update k fun _ => b'
      timeline := .published k m :: s.timeline }).map fun (_, s') => (.done, s') := by
  simp [publish, StateT.run_bind, found, taken]

/-- Publishing fails and changes nothing, or the bus takes the message, and those who receive it
    then are handed it. -/
theorem Run.run_publish_eq_some {call : Call} {k : BusRef} {m : Message} {s s' : Site}
    {outcome : Outcome} :
    (publish call k m).run s = some (outcome, s') ↔
      ∃ b, s.buses.get? k = some b ∧
        ((∃ e, b.publish? m = .error e ∧ outcome = .error e ∧ s' = s) ∨
          ∃ b' receivers, b.publish? m = .ok (b', receivers) ∧ outcome = .done ∧
            (receivers.forM (accept call m)).run { s with
              buses := s.buses.update k fun _ => b'
              timeline := .published k m :: s.timeline } = some (.unit, s')) := by
  cases found : s.buses.get? k with
  | none => simp [publish, StateT.run_bind, found]
  | some b =>
    cases hpublish : b.publish? m with
    | error e => simp [publish, StateT.run_bind, found, hpublish, eq_comm]
    | ok sent =>
      obtain ⟨b', receivers⟩ := sent
      rw [run_publish_of_taken found hpublish, Option.map_eq_some_iff]
      constructor
      · rintro ⟨⟨_, s₁⟩, hreceived, he⟩
        obtain ⟨rfl, rfl⟩ := Prod.mk.inj he
        exact ⟨b, rfl, .inr ⟨b', receivers, hpublish, rfl, hreceived⟩⟩
      · rintro ⟨_, he, hsent⟩
        cases he
        obtain ⟨e, hfailed, -⟩ | ⟨b'', receivers', hsent, rfl, hreceived⟩ := hsent
        · cases hpublish.symm.trans hfailed
        · cases hpublish.symm.trans hsent
          exact ⟨_, hreceived, rfl⟩

/-- A site after a thing remembered what it sent. -/
def Site.remember (s : Site) (i : ExposedRef) (changes : List Change) : Site :=
  { s with
    exposed := s.exposed.update i (·.remember changes)
    timeline := .remembered i changes :: s.timeline }

/-- A site after the output of a thing took what it sent, or did not. -/
def Site.afterSending (s : Site) (i : ExposedRef) (changes : List Change) : Outcome → Site
  | .ok () => s.remember i changes
  | .error _ => s

/-- Emitting property changes sends them if there are any, and remembers them if they were sent. -/
theorem Run.run_emitChanges {call : Call} {i : ExposedRef} {batch : Members Json}
    {onlyChanges : Bool} {s : Site} {t : ExposedThing} {d : ThingDescription}
    (ht : s.exposed.get? i = some t) (hd : s.catalogue.get? t.description = some d) :
    (emitChanges call i batch onlyChanges).run s =
      if (t.changes d onlyChanges batch).isEmpty then some (.done, s)
      else ((sendChanges call d t.output
        (ExposedThing.batchValue (t.changes d onlyChanges batch))).run s).map fun (outcome, s₁) =>
          (outcome, s₁.afterSending i (t.changes d onlyChanges batch) outcome) := by
  simp only [emitChanges, StateT.run_bind, run_exposed, ht, Option.map_some, Option.bind_eq_bind,
    Option.bind_some, run_description, hd]
  split
  · rfl
  rw [StateT.run_bind]
  cases hsend : (sendChanges call d t.output
    (ExposedThing.batchValue (t.changes d onlyChanges batch))).run s with
  | none => rfl
  | some sent =>
    obtain ⟨outcome, s₁⟩ := sent
    cases outcome <;> rfl

theorem Run.run_emitChanges_eq_some {call : Call} {i : ExposedRef} {batch : Members Json}
    {onlyChanges : Bool} {s s' : Site} {t : ExposedThing} {d : ThingDescription}
    {outcome : Outcome} (ht : s.exposed.get? i = some t)
    (hd : s.catalogue.get? t.description = some d) :
    (emitChanges call i batch onlyChanges).run s = some (outcome, s') ↔
      ((t.changes d onlyChanges batch).isEmpty = true ∧ outcome = .done ∧ s' = s) ∨
      ((t.changes d onlyChanges batch).isEmpty = false ∧ ∃ s₁,
        (sendChanges call d t.output
          (ExposedThing.batchValue (t.changes d onlyChanges batch))).run s = some (outcome, s₁) ∧
        s' = s₁.afterSending i (t.changes d onlyChanges batch) outcome) := by
  rw [run_emitChanges ht hd]
  cases hc : (t.changes d onlyChanges batch).isEmpty with
  | true => simp [eq_comm]
  | false =>
    simp only [Bool.false_eq_true, if_false, Option.map_eq_some_iff, false_and, false_or, true_and]
    constructor
    · rintro ⟨⟨_, s₁⟩, hsend, he⟩
      obtain ⟨rfl, rfl⟩ := Prod.mk.inj he
      exact ⟨s₁, hsend, rfl⟩
    · rintro ⟨s₁, hsend, rfl⟩
      exact ⟨_, hsend, rfl⟩

/-! ## Receivers -/

namespace LocalBus

variable {α : Type} {b : LocalBus α} {filter other topic : String} {r r' : α}

/-- One filter leads to a receiver, and no other. -/
structure Leads (b : LocalBus α) (filter : String) (r : α) : Prop where
  /-- No filter has two receivers. -/
  distinct : b.subscriptions.Distinct
  /-- The filter leads to the receiver. -/
  found : b.subscriptions.get? filter = some r
  /-- No other does. -/
  only : ∀ entry ∈ b.subscriptions.entries, entry.2 = r → entry.1 = filter

theorem Leads.subscribe (h : b.Leads filter r) (hf : other ≠ filter) (hr : r' ≠ r) :
    (b.subscribe other r').Leads filter r where
  distinct := h.distinct.insert other r'
  found := by simp [LocalBus.subscribe, NameMap.get?_insert, hf.symm, h.found]
  only entry he e := by
    rcases NameMap.mem_insert he with rfl | he
    · exact absurd e hr
    · exact h.only entry he e

theorem Leads.unsubscribe (h : b.Leads filter r) (hf : other ≠ filter) :
    (b.unsubscribe other).Leads filter r where
  distinct := h.distinct.erase other
  found := by simp [LocalBus.unsubscribe, NameMap.get?_erase, hf.symm, h.found]
  only entry he e := h.only entry ((List.mem_filter.1 he).1) e

theorem receivers_eq_append {l₁ l₂ : List (String × α)} {entry : String × α}
    (h : b.subscriptions.entries = l₁ ++ entry :: l₂) (hm : Topic.matches entry.1 topic = true) :
    b.receivers topic = receiversOf ⟨l₁⟩ topic ++ entry.2 :: receiversOf ⟨l₂⟩ topic := by
  simp [receivers, receiversOf, h, hm]

theorem exists_of_mem_receiversOf {m : NameMap α} (h : r ∈ receiversOf m topic) :
    ∃ filter, (filter, r) ∈ m.entries ∧ Topic.matches filter topic = true := by
  simp only [receiversOf, List.mem_map, List.mem_filter] at h
  obtain ⟨⟨filter, _⟩, ⟨he, hm⟩, rfl⟩ := h
  exact ⟨filter, he, hm⟩

/-- A topic that the filter matches reaches the receiver once, and others before and after. -/
theorem Leads.receivers_eq (h : b.Leads filter r) (hm : Topic.matches filter topic = true) :
    ∃ before after, b.receivers topic = before ++ r :: after ∧ r ∉ before ++ after := by
  obtain ⟨l₁, l₂, hl⟩ := List.append_of_mem (NameMap.mem_of_get? h.found)
  have hd : ((l₁ ++ (filter, r) :: l₂).map (·.1)).Nodup := hl ▸ h.distinct
  refine ⟨_, _, receivers_eq_append hl hm, fun hr => ?_⟩
  -- another entry that leads to the receiver would be one of the same filter
  have hmem : (filter, r) ∈ l₁ ++ l₂ := by
    rcases List.mem_append.1 hr with hr | hr
    · obtain ⟨other, he : _ ∈ l₁, -⟩ := exists_of_mem_receiversOf hr
      obtain rfl : other = filter := h.only (other, r) (by simp [hl, he]) rfl
      exact List.mem_append_left _ he
    · obtain ⟨other, he : _ ∈ l₂, -⟩ := exists_of_mem_receiversOf hr
      obtain rfl : other = filter := h.only (other, r) (by simp [hl, he]) rfl
      exact List.mem_append_right _ he
  grind

/-- A topic that the filter does not match does not reach the receiver. -/
theorem Leads.not_mem_receivers (h : b.Leads filter r)
    (hm : Topic.matches filter topic = false) : r ∉ b.receivers topic := by
  intro hr
  obtain ⟨other, he, ho⟩ := exists_of_mem_receiversOf hr
  obtain rfl : other = filter := h.only _ he rfl
  rw [hm] at ho
  contradiction

end LocalBus

/-! ## The examples -/

/-- A lamp whose level and power can be read and written: the thing of the examples. -/
def ThingDescription.lamp : ThingDescription :=
  { context := [], id := "lamp", properties := ⟨[("level", {}), ("power", {})]⟩ }

/-- The factory of somebody at home, who has an account at a hub: the consumer of the examples. -/
def ConsumerFactory.home : ConsumerFactory := .create (.create "home" "localhost" "user") none 0

end WebOfThings
