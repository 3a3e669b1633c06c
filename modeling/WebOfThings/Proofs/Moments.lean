import Mathlib.Logic.Relation
import WebOfThings.Proofs.Factories
import WebOfThings.Proofs.Sessions
import WebOfThings.Site.Connection

/-!
# Later moments

Some laws are about every moment after one, those in the middle of a call among them. What happens
from moment to moment are single changes (`Site.Change`): something is noted, a bus takes a message,
a thing keeps or remembers values, an act changes what it is about, a factory learns or forgets, a
description is changed, a bus is handled by its owner. A site is later than another if single
changes lead from the one to the other (`Site.Later`).

What is done on a site is a list of happenings (`Happening`): a caller does something with the
factories, with a bus or with a thing, changes a description, or the loop of a session sees an
event. Whatever happens, with the handlers that it leads to, is made of single changes
(`Site.Unfolds.relates_happening`). So a law that single changes preserve holds ever after
(`Site.EverAfter.of_change`).

Two things are kept track of: which acts were carried out, and which consumed things were told of
events. A thing that no filter leads to is told of none as long as no act tells it directly, whoever
publishes what (`Site.Confined`).
-/

namespace WebOfThings

open Run

/-! ## Buses -/

namespace Bus

variable {b b' : Bus Receiver} {filter : String} {r : Receiver} {entry : String × Receiver}

/-- Publishing leaves the subscriptions what they are, and hands the message to some of those that
    filters lead to. -/
theorem of_publish? {m : Message} {receivers : List Receiver}
    (h : b.publish? m = .ok (b', receivers)) :
    b'.subscriptions = b.subscriptions ∧
      ∀ r ∈ receivers, ∃ filter, (filter, r) ∈ b.subscriptions.entries := by
  obtain ⟨medium, faults⟩ := b
  simp only [publish?] at h
  split at h
  · contradiction
  cases medium with
  | process bus =>
    simp only [LocalBus.publish?] at h
    split at h
    · obtain ⟨rfl, rfl⟩ := Prod.mk.inj (Except.ok.inj h)
      refine ⟨rfl, fun r hr => ?_⟩
      obtain ⟨filter, hentry, -⟩ := LocalBus.exists_of_mem_receiversOf hr
      exact ⟨filter, hentry⟩
    · contradiction
  | broker client =>
    cases hc : client.publish? m with
    | error e => simp [hc, bind, Except.bind] at h
    | ok client' =>
      simp only [hc, bind, Except.bind, Except.ok.injEq, Prod.mk.injEq] at h
      obtain ⟨rfl, rfl⟩ := h
      refine ⟨?_, by simp⟩
      simp only [BusClient.publish?] at hc
      split at hc
      · contradiction
      split at hc
      · next hr => exact Except.ok.inj hc ▸ BusClient.subscriptions_of_request? hr
      · contradiction

/-- Subscribing leads the filter to its receiver, and leads no other filter anywhere else. -/
theorem of_mem_subscribe (h : entry ∈ (b.subscribe filter r).2.subscriptions.entries) :
    entry = (filter, r) ∨ entry ∈ b.subscriptions.entries := by
  obtain ⟨medium, faults⟩ := b
  simp only [subscribe] at h
  split at h
  · exact .inr h
  cases medium with
  | process bus => exact NameMap.mem_insert h
  | broker client => exact NameMap.mem_insert (client.subscriptions_subscribe filter r ▸ h)

theorem of_mem_unsubscribe (h : entry ∈ (b.unsubscribe filter).2.subscriptions.entries) :
    entry ∈ b.subscriptions.entries := by
  obtain ⟨medium, faults⟩ := b
  simp only [unsubscribe] at h
  split at h
  · exact h
  cases medium with
  | process bus => exact (List.mem_filter.1 h).1
  | broker client =>
    replace h : entry ∈ (client.unsubscribe filter).2.subscriptions.entries := h
    rw [client.subscriptions_unsubscribe] at h
    exact (List.mem_filter.1 h).1

@[simp] theorem subscriptions_disconnect (b : Bus Receiver) :
    b.disconnect.subscriptions = b.subscriptions := by
  obtain ⟨medium, faults⟩ := b
  cases medium with
  | process bus => rfl
  | broker client => exact BusClient.subscriptions_disconnect client

@[simp] theorem subscriptions_reconnect (b : Bus Receiver) :
    b.reconnect.subscriptions = b.subscriptions := by
  obtain ⟨medium, faults⟩ := b
  cases medium <;> rfl

end Bus

/-! ## Single changes -/

/-- What may happen at once, where some acts are allowed and some consumed things may be told of
    events. -/
inductive Site.Change (allowed : Occasion → Act → Prop) (told : ConsumedRef → Prop) (s : Site) :
    Site → Prop
  /-- Something is noted. -/
  | note (e : Entry) : Change allowed told s { s with journal := e :: s.journal }
  /-- A bus takes a message. -/
  | take {k : BusRef} {m : Message} {b b' : Bus Receiver} {receivers : List Receiver}
      (hget : s.buses.get? k = some b) (hsent : b.publish? m = .ok (b', receivers)) :
      Change allowed told s { s with
        buses := s.buses.update k fun _ => b'
        timeline := .published k m :: s.timeline }
  /-- A consumed thing keeps a value that arrived. -/
  | keep {i : ConsumedRef} (hi : told i) (delivery : Delivery) :
      Change allowed told s (s.keep i delivery)
  /-- An exposed thing remembers what it sent. -/
  | remember (i : ExposedRef) (changes : List WebOfThings.Change) :
      Change allowed told s (s.remember i changes)
  /-- An act changes what it is about. -/
  | act {o : Occasion} {a : Act} (ha : allowed o a) : Change allowed told s (a.changed o s)
  /-- A new thing is made, and its filter leads to it if it can be subscribed. -/
  | add (role : Role) (device : String) (ref : DescriptionRef) (id : String) :
      Change allowed told s (role.listen id (role.next s) (role.add device ref id s))
  /-- A caller holds a thing, or lets it go. -/
  | hold (role : Role) (i : Nat) (held : Bool) : Change allowed told s (role.hold i held s)
  /-- A factory knows other things. -/
  | learn (role : Role) (things : NameMap Nat) : Change allowed told s (role.withKnown things s)
  /-- A factory forgets an identifier. -/
  | drop (role : Role) (id : String) : Change allowed told s (role.drop id s)
  /-- A thing drops its handlers and its values. -/
  | empty (role : Role) (i : Nat) : Change allowed told s (role.empty i s)
  /-- A shared description is changed. -/
  | describe (ref : DescriptionRef) (change : ThingDescription → ThingDescription) :
      Change allowed told s { s with catalogue := s.catalogue.update ref change }
  /-- A bus changes in another way than by its subscriptions. -/
  | bus {k : BusRef} {change : Bus Receiver → Bus Receiver}
      (hsubs : ∀ b, s.buses.get? k = some b → (change b).subscriptions = b.subscriptions) :
      Change allowed told s { s with buses := s.buses.update k change }

/-- A site after some single changes. -/
def Site.Later (allowed : Occasion → Act → Prop) (told : ConsumedRef → Prop) : Site → Site → Prop :=
  Relation.ReflTransGen (Site.Change allowed told)

/-- Filters lead to no consumed things but those that may be told of events, and the others are
    there. -/
structure Site.Confined (told : ConsumedRef → Prop) (s : Site) : Prop where
  /-- The others are there. -/
  exists_of_not_told : ∀ i, ¬ told i → ∃ c, s.consumed.get? i = some c
  /-- No filter leads to them. -/
  told_of_led : ∀ k b, s.buses.get? k = some b → ∀ filter i,
    (filter, .events i) ∈ b.subscriptions.entries → told i

/-- Nothing keeps a site from telling every consumed thing. -/
theorem Site.confined_true (s : Site) : s.Confined fun _ => True :=
  ⟨fun _ h => absurd trivial h, fun _ _ _ _ _ _ => trivial⟩

section

variable {allowed : Occasion → Act → Prop} {told told' : ConsumedRef → Prop} {s s' : Site}

namespace Site.Confined

/-- A bus may change if its filters lead to no other things. -/
theorem updateBus (h : s.Confined told) {k : BusRef} {change : Bus Receiver → Bus Receiver}
    (hc : ∀ b, s.buses.get? k = some b → ∀ entry ∈ (change b).subscriptions.entries,
      entry ∈ b.subscriptions.entries ∨ ∀ i, entry.2 = .events i → told i) :
    Site.Confined told { s with buses := s.buses.update k change } where
  exists_of_not_told := h.exists_of_not_told
  told_of_led j b hb filter i hentry := by
    replace hb : (s.buses.update k change).get? j = some b := hb
    rw [Table.get?_update] at hb
    split at hb
    · next hkj =>
      obtain ⟨b₀, hb₀, rfl⟩ := Option.map_eq_some_iff.1 hb
      rcases hc b₀ (hkj ▸ hb₀) _ hentry with hold | hnew
      · exact h.told_of_led j b₀ hb₀ filter i hold
      · exact hnew i rfl
    · exact h.told_of_led j b hb filter i hentry

theorem updateConsumed (h : s.Confined told) (i : ConsumedRef)
    (change : ConsumedThing → ConsumedThing) :
    Site.Confined told { s with consumed := s.consumed.update i change } where
  exists_of_not_told j hj := by
    obtain ⟨c, hc⟩ := h.exists_of_not_told j hj
    simp only [Table.get?_update, hc, Option.map_some]
    split <;> exact ⟨_, rfl⟩
  told_of_led := h.told_of_led

theorem keeps : Keeps fun s s' => s.Confined told → s'.Confined told where
  refl _ h := h
  trans h h' hs := h' (h hs)
  note _ _ h := ⟨h.exists_of_not_told, h.told_of_led⟩
  mark _ _ h := ⟨h.exists_of_not_told, h.told_of_led⟩
  publish hget hsent h := h.updateBus fun b hb entry he => .inl (by
    obtain rfl := Option.some.inj (hget.symm.trans hb)
    rwa [← (Bus.of_publish? hsent).1])
  exposed _ _ _ _ h := ⟨h.exists_of_not_told, h.told_of_led⟩
  consumed _ i change _ h := h.updateConsumed i change

theorem withKnown (h : s.Confined told) (role : Role) (things : NameMap Nat) :
    Site.Confined told (role.withKnown things s) := by
  cases role <;> exact ⟨h.exists_of_not_told, h.told_of_led⟩

theorem drop (h : s.Confined told) (role : Role) (id : String) :
    Site.Confined told (role.drop id s) := by
  simp only [Role.drop]
  split
  · exact (h.withKnown role _).updateBus fun _ _ _ he => .inl (Bus.of_mem_unsubscribe he)
  · exact h

theorem changed (h : s.Confined told) (o : Occasion) (a : Act) :
    Site.Confined told (a.changed o s) :=
  keeps.changed
    (fun _ _ _ _ _ h => h.updateBus fun _ _ entry he => (Bus.of_mem_subscribe he).symm.imp_right
      (by rintro rfl i hi; contradiction))
    (fun _ _ _ h => h.updateBus fun _ _ _ he => .inl (Bus.of_mem_unsubscribe he))
    (fun _ _ h => h.updateBus fun b _ _ he => .inl (b.subscriptions_disconnect ▸ he))
    (fun _ id _ _ h => h.drop .consumed id) h

/-- A new thing is none of those that were there. -/
theorem add (h : s.Confined told) (role : Role) (device : String) (ref : DescriptionRef)
    (id : String) :
    Site.Confined told (role.listen id (role.next s) (role.add device ref id s)) := by
  have hadd : Site.Confined told (role.add device ref id s) := by
    refine ⟨fun j hj => ?_, by cases role <;> exact h.told_of_led⟩
    obtain ⟨c, hc⟩ := h.exists_of_not_told j hj
    cases role with
    | exposed => exact ⟨c, hc⟩
    | consumed => exact ⟨c, Table.get?_add_of_get? hc _⟩
  refine hadd.updateBus fun b _ entry he => (Bus.of_mem_subscribe he).symm.imp_right ?_
  rintro rfl i hi
  refine Classical.byContradiction fun hnot => ?_
  obtain ⟨rfl, hnext⟩ : Role.consumed = role ∧ i = role.next s := by
    cases role <;> simp_all [Role.receiver]
  obtain ⟨c, hc⟩ := h.exists_of_not_told i hnot
  simp [hnext, Role.next, Table.get?_next] at hc

end Site.Confined

/-- Single changes lead filters to no other things, whichever things are told. -/
theorem Site.Change.confined (h : s.Change allowed told' s') (hs : s.Confined told) :
    s'.Confined told := by
  cases h with
  | note e => exact Site.Confined.keeps.note s e hs
  | take hget hsent =>
    exact Site.Confined.keeps.mark _ _ (Site.Confined.keeps.publish hget hsent hs)
  | keep => exact Site.Confined.keeps.mark _ _ (hs.updateConsumed _ _)
  | remember i changes => exact Site.Confined.keeps.lasts.remember s i changes hs
  | act => exact hs.changed _ _
  | add role device ref id => exact hs.add role device ref id
  | hold role i held =>
    cases role with
    | exposed => exact ⟨hs.exists_of_not_told, hs.told_of_led⟩
    | consumed => exact hs.updateConsumed i _
  | learn role things => exact hs.withKnown role things
  | drop role id => exact hs.drop role id
  | empty role i =>
    cases role with
    | exposed => exact ⟨hs.exists_of_not_told, hs.told_of_led⟩
    | consumed => exact hs.updateConsumed i _
  | describe => exact ⟨hs.exists_of_not_told, hs.told_of_led⟩
  | bus hsubs => exact hs.updateBus fun b hb _ he => .inl (hsubs b hb ▸ he)

theorem Site.Later.confined (h : s.Later allowed told' s') (hs : s.Confined told) :
    s'.Confined told := by
  induction h with
  | refl => exact hs
  | tail _ hchange ih => exact hchange.confined ih

end

/-! ## Happenings -/

/-- What is done on a site from outside. -/
inductive Happening
  /-- A caller does something with the factories, or carries out acts. -/
  | operation (operation : Operation)
  /-- Operations of a bus begin to fail, or no longer do. -/
  | fault (bus : BusRef) (faults : Faults)
  /-- A shared description is changed. -/
  | describe (ref : DescriptionRef) (change : ThingDescription → ThingDescription)
  /-- An exposed thing is asked for something. -/
  | request (thing : ExposedRef) (name : String) (payload : Bytes)
  /-- An exposed thing is asked to write a property. -/
  | writeRequest (thing : ExposedRef) (name : String) (payload : Bytes)
  /-- A consumed thing is handed an event. -/
  | receive (thing : ConsumedRef) (name : String) (payload : Bytes)
  /-- A message is published. -/
  | publish (bus : BusRef) (message : Message)
  /-- A bus within the process is connected again. -/
  | reconnect (bus : BusRef)
  /-- A session with a broker begins. -/
  | start (bus : BusRef) (broker : Broker) (credentials : Credentials)
  /-- The loop of a session sees an event. -/
  | see (bus : BusRef) (session : Nat) (event : SessionEvent)
  /-- The wait for a broker ends. -/
  | conclude (bus : BusRef) (broker : Broker)

/-- Does what is done from outside. -/
def Happening.run (call : Call) : Happening → Run Unit
  | operation op => op.run call
  | fault k faults => updateBus k fun b => { b with faults }
  | describe ref change => modify fun s => { s with catalogue := s.catalogue.update ref change }
  | request i name payload => discard (Run.request call i name payload)
  | writeRequest i name payload => discard (Run.writeRequest call i name payload)
  | receive i name payload => Run.receive call i name payload
  | publish k m => discard (Run.publish call k m)
  | reconnect k => updateBus k (·.reconnect)
  | start k broker credentials => discard (startSession k broker credentials)
  | see k session event => seeEvent call k session event
  | conclude k broker => discard (concludeSession k broker)

/-- What was noted between two sites is allowed. -/
def Site.Noted (allowed : Occasion → Act → Prop) (s s' : Site) : Prop :=
  ∀ entries, s'.journal = entries ++ s.journal → ∀ e ∈ entries, Allows allowed e

namespace Run

@[simp] theorem run_client (k : BusRef) (s : Site) :
    (client k).run s = ((s.buses.get? k).bind (·.client?)).map (·, s) := by
  cases hb : s.buses.get? k with
  | none => simp [client, StateT.run_bind, hb]
  | some b => cases hc : b.client? <;> simp [client, StateT.run_bind, hb, hc]

/-- The subscriptions of a client are those of its bus. -/
theorem subscriptions_updateClient (change : BusClient Receiver → BusClient Receiver)
    {b : Bus Receiver}
    (hsubs : ∀ c, b.client? = some c → (change c).subscriptions = c.subscriptions) :
    (match b.medium with
      | .broker c => { b with medium := .broker (change c) }
      | .process _ => b).subscriptions = b.subscriptions := by
  obtain ⟨medium, faults⟩ := b
  cases medium with
  | process bus => rfl
  | broker c => exact hsubs c rfl

end Run

section

variable {allowed : Occasion → Act → Prop} {told : ConsumedRef → Prop}

/-- Acts tell only those consumed things of events directly that may be told. -/
def TellsOnly (allowed : Occasion → Act → Prop) (told : ConsumedRef → Prop) : Prop :=
  ∀ o i name value, allowed o (.receive i name value) → told i

/-- What is confined is later by single changes. -/
abbrev Site.Unfolds (allowed : Occasion → Act → Prop) (told : ConsumedRef → Prop) :
    Site → Site → Prop :=
  Guarded allowed fun s s' => s.Confined told → s.Later allowed told s'

namespace Site.Unfolds

variable {s s' : Site}

theorem composes_later :
    Composes fun s s' : Site => s.Confined told → s.Later allowed told s' where
  refl _ _ := .refl
  trans h h' hs := (h hs).trans (h' ((h hs).confined hs))

theorem composes : Composes (Site.Unfolds allowed told) where
  refl s := .of_same_journal rfl (composes_later.refl s)
  trans h h' := h.trans composes_later h'

theorem of_change (hj : s'.journal = s.journal) (h : s.Change allowed told s') :
    s.Unfolds allowed told s' :=
  .of_same_journal hj fun _ => .single h

theorem lasts : Lasts (Site.Unfolds allowed told) where
  toComposes := composes
  note _ e := ⟨[e], rfl, fun _ _ => .single (.note e)⟩
  remember _ i changes := of_change rfl (.remember i changes)

theorem updateBus {k : BusRef} {change : Bus Receiver → Bus Receiver}
    (hsubs : ∀ b, s.buses.get? k = some b → (change b).subscriptions = b.subscriptions) :
    s.Unfolds allowed told { s with buses := s.buses.update k change } :=
  of_change rfl (.bus hsubs)

/-- What is done with a client and leaves its subscriptions. -/
theorem relates_withClient {α : Type} (k : BusRef)
    {f : BusClient Receiver → α × BusClient Receiver}
    (hf : ∀ c, (f c).2.subscriptions = c.subscriptions) :
    Relates (Site.Unfolds allowed told) (do
      let (a, c) := f (← client k)
      updateClient k fun _ => c
      pure a : Run α) := by
  intro s a s' h
  simp only [run_bind_eq_some, run_client, updateClient, run_updateBus] at h
  obtain ⟨c, s₁, hclient, _, s₂, hu, hpure⟩ := h
  obtain ⟨c, hc, he⟩ := Option.map_eq_some_iff.1 hclient
  obtain ⟨rfl, rfl⟩ := Prod.mk.inj he
  obtain ⟨-, rfl⟩ := Prod.mk.inj (Option.some.inj hu)
  obtain ⟨-, rfl⟩ := Prod.mk.inj (Option.some.inj hpure)
  refine updateBus fun b hb => subscriptions_updateClient _ fun c' hc' => ?_
  rw [hb, Option.bind_some, hc', Option.some.injEq] at hc
  exact hc ▸ hf c'

section

variable {call : Call} (hcall : ∀ h o, Relates (Site.Unfolds allowed told) (call h o))
include hcall

theorem relates_receive {i : ConsumedRef} (hi : told i) (name : String) (payload : Bytes) :
    Relates (Site.Unfolds allowed told) (Run.receive call i name payload) :=
  relates_with_consumed composes i fun _ _ => relates_forM composes fun delivery _ =>
    relates_deliver_of_keep composes hcall fun _ => of_change rfl (.keep hi delivery)

theorem relates_accept {m : Message} {r : Receiver} (hr : ∀ i, r = .events i → told i) :
    Relates (Site.Unfolds allowed told) (accept call m r) :=
  Run.relates_accept composes hcall fun i _ he _ _ => relates_receive hcall (hr i he) _ _

/-- Those who receive a message are told of it if the site is confined. -/
theorem of_accepts {m : Message} {receivers : List Receiver}
    (hr : s.Confined told → ∀ i, .events i ∈ receivers → told i) {u : PUnit}
    (h : (receivers.forM (accept call m)).run s = some (u, s')) : s.Unfolds allowed told s' := by
  by_cases hs : s.Confined told
  · exact relates_forM composes (fun r hmem => relates_accept hcall fun i he =>
      hr hs i (he ▸ hmem)) _ _ _ h
  · -- nothing is said of a site that is not confined, but that more is noted
    have hkeeps : Keeps (Guarded allowed fun _ _ => True) := keeps_guarded_true
    obtain ⟨entries, hj, -⟩ := relates_forM hkeeps.toComposes
      (fun r _ => relates_accept_of_keeps hkeeps
        (fun h o s a s' hrun => (hcall h o s a s' hrun).weaken) m r) _ _ _ h
    exact ⟨entries, hj, fun _ hs' => absurd hs' hs⟩

theorem relates_publish (k : BusRef) (m : Message) :
    Relates (Site.Unfolds allowed told) (publish call k m) := by
  intro s outcome s' h
  by_cases hs : s.Confined told
  · refine rel_of_run_publish composes h fun b b' receivers hget hsent =>
      ⟨of_change rfl (.take hget hsent), relates_forM composes fun r hmem => ?_⟩
    refine relates_accept hcall fun i he => ?_
    obtain ⟨filter, hentry⟩ := (Bus.of_publish? hsent).2 r hmem
    exact hs.told_of_led k b hget filter i (he ▸ hentry)
  · obtain ⟨entries, hj, -⟩ := Run.relates_publish keeps_guarded_true
      (fun h o s a s' hrun => (hcall h o s a s' hrun).weaken) k m _ _ _ h
    exact ⟨entries, hj, fun _ hs' => absurd hs' hs⟩

theorem relates_perform (htells : TellsOnly allowed told) {o : Occasion} {a : Act}
    (ha : allowed o a) : Relates (Site.Unfolds allowed told) (perform call o a) :=
  relates_perform_of_lasts lasts (relates_publish hcall) hcall
    (fun i name value he => relates_receive hcall (htells o i name value (he ▸ ha)) _ _)
    fun s => of_change (journal_changed o a s) (.act ha)

theorem relates_seeEvent (k : BusRef) (session : Nat) (event : SessionEvent) :
    Relates (Site.Unfolds allowed told) (seeEvent call k session event) := by
  refine relates_bind composes (relates_of_run (run_updateBus k _) fun s => updateBus fun b _ =>
    subscriptions_updateClient _ fun c _ => c.subscriptions_react _ _) fun _ => ?_
  cases event with
  | message topic payload =>
    dsimp only
    cases topic.toString? with
    | none => exact relates_pure composes _
    | some text =>
      intro s u s' h
      simp only [run_bind_eq_some, run_client] at h
      obtain ⟨c, s₁, hclient, h⟩ := h
      obtain ⟨c, hc, he⟩ := Option.map_eq_some_iff.1 hclient
      obtain ⟨rfl, rfl⟩ := Prod.mk.inj he
      refine of_accepts hcall (fun hs i hmem => ?_) h
      -- those who receive the message stand under a filter on the bus
      obtain ⟨b, hb, hc⟩ := Option.bind_eq_some_iff.1 hc
      obtain ⟨medium, faults⟩ := b
      cases medium with
      | process bus => contradiction
      | broker c' =>
        obtain rfl := Option.some.inj hc
        simp only [BusClient.receivers] at hmem
        split at hmem
        · obtain ⟨filter, hentry, -⟩ := LocalBus.exists_of_mem_receiversOf hmem
          exact hs.told_of_led k _ hb filter i hentry
        · simp at hmem
  | _ => exact relates_pure composes _

end

variable (htells : TellsOnly allowed told) (depth : Nat)
include htells

theorem relates_calls (h : Handler) (o : Occasion) :
    Relates (Site.Unfolds allowed told) (calls depth h o) :=
  relates_guarded_calls_of_perform composes_later (fun _ e _ => .single (.note e))
    (fun hcall _ _ ha => relates_perform hcall htells ha) depth h o

theorem relates_script (label : String) (o : Occasion) (acts : List Act) :
    Relates (Site.Unfolds allowed told) (performAll (calls depth) label o acts) :=
  relates_guarded_script_of_perform composes_later (fun _ e _ => .single (.note e))
    (fun hcall _ _ ha => relates_perform hcall htells ha) depth label o acts

/-- Obtaining a thing holds one that is known, or makes one and announces it. -/
theorem of_obtained {role : Role} {device : String} {ref : DescriptionRef}
    {result : Except Error Nat} (h : role.Obtained (calls depth) device ref s result s') :
    s.Unfolds allowed told s' := by
  have hjournal (role : Role) (s : Site) (i : Nat) (held : Bool) :
      (role.hold i held s).journal = s.journal := by cases role <;> rfl
  have hadd (role : Role) (id : String) : s.Unfolds allowed told
      (role.listen id (role.next s) (role.add device ref id s)) :=
    of_change (by cases role <;> rfl) (.add role device ref id)
  cases h with
  | known => exact of_change (hjournal ..) (.hold role _ true)
  | refused => exact composes.trans (hadd role _) (of_change (hjournal ..) (.hold role _ false))
  | @new d b u s₁ _ _ _ _ ha =>
    have hannounced : Relates (Site.Unfolds allowed told)
        (role.announce (calls depth) (role.bus s) d) := by
      cases role with
      | exposed =>
        exact relates_discard (relates_publish (relates_calls htells depth) _ _)
      | consumed => exact relates_pure composes _
    exact composes.trans (hadd role _) (composes.trans (hannounced _ _ _ ha)
      (of_change (by cases role <;> rfl) (.learn role _)))

theorem relates_operation (op : Operation) :
    Relates (Site.Unfolds allowed told) (op.run (calls depth)) := by
  cases op with
  | obtain role device ref =>
    exact relates_discard fun _ _ _ h => of_obtained htells depth (Role.obtained_of_run h)
  | destroy role i =>
    intro s u s' h
    obtain ⟨id, hid⟩ := Role.exists_id?_of_run_destroy h
    rw [Role.eq_of_run_destroy hid h]
    exact composes.trans (of_change (role.journal_drop s id) (.drop role id))
      (of_change (by cases role <;> rfl) (.empty role i))
  | letGo role i =>
    exact relates_of_run (fun _ => rfl) fun s =>
      of_change (by cases role <;> rfl) (.hold role i false)
  | carryOut label o acts => exact relates_discard (relates_script htells depth label o acts)
  | fault k publish subscribe =>
    exact relates_of_run (run_updateBus k _) fun s => updateBus fun _ _ => rfl

theorem relates_happening {h : Happening} (hh : ∀ i name payload, h = .receive i name payload →
    told i) : Relates (Site.Unfolds allowed told) (h.run (calls depth)) := by
  have hcall := relates_calls htells depth
  cases h with
  | operation op => exact relates_operation htells depth op
  | fault k faults => exact relates_of_run (run_updateBus k _) fun s => updateBus fun _ _ => rfl
  | describe ref change =>
    exact relates_of_run (fun _ => rfl) fun s => of_change rfl (.describe ref change)
  | request i name payload => exact relates_discard (relates_request composes hcall i name payload)
  | writeRequest i name payload =>
    exact relates_discard (relates_writeRequest composes hcall i name payload)
  | receive i name payload => exact relates_receive hcall (hh i name payload rfl) name payload
  | publish k m => exact relates_discard (relates_publish hcall k m)
  | reconnect k =>
    exact relates_of_run (run_updateBus k _) fun s => updateBus fun b _ => b.subscriptions_reconnect
  | start k broker credentials =>
    exact relates_discard (relates_withClient k fun c => c.subscriptions_start broker credentials)
  | see k session event => exact relates_seeEvent hcall k session event
  | conclude k broker =>
    exact relates_discard (relates_withClient k fun c => c.subscriptions_conclude broker)

end Site.Unfolds

/-- A law holds at every moment after one, if only allowed acts are carried out and only some
    consumed things are told of events; and whatever happens so ends at such a moment. -/
structure Site.EverAfter (s : Site) (allowed : Occasion → Act → Prop) (told : ConsumedRef → Prop)
    (law : Site → Prop) : Prop where
  /-- The law holds at every moment. -/
  holds : ∀ s', s.Later allowed told s' → law s'
  /-- Whatever happens ends at one. -/
  later : ∀ (depth : Nat) (happenings : List Happening) (u : PUnit) (s' : Site),
    (∀ i name payload, .receive i name payload ∈ happenings → told i) →
    (happenings.forM (·.run (calls depth))).run s = some (u, s') → s.Noted allowed s' →
    s.Later allowed told s'

variable {s : Site}

/-- What single changes preserve holds ever after, where filters lead to no consumed things but
    those that may be told of events. -/
theorem Site.EverAfter.of_change {law : Site → Prop} (hs : s.Confined told)
    (htells : TellsOnly allowed told) (hlaw : law s)
    (hchange : ∀ s s', s.Change allowed told s' → law s → law s') :
    s.EverAfter allowed told law where
  holds s' h := by
    induction h with
    | refl => exact hlaw
    | tail _ h ih => exact hchange _ _ h ih
  later depth happenings u s' hh h noted := by
    obtain ⟨entries, hj, hlater⟩ := relates_forM Site.Unfolds.composes (fun happening hmem =>
      Site.Unfolds.relates_happening htells depth fun i name payload he =>
        hh i name payload (he ▸ hmem)) _ _ _ h
    exact hlater (noted entries hj) hs

theorem Site.EverAfter.imp {law law' : Site → Prop} (h : s.EverAfter allowed told law)
    (himp : ∀ s', law s' → law' s') : s.EverAfter allowed told law' :=
  ⟨fun s' hs' => himp s' (h.holds s' hs'), h.later⟩

end

end WebOfThings
