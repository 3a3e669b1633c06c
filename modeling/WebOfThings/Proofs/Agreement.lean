import WebOfThings.Proofs.Registry
import WebOfThings.Proofs.Routing

/-!
# What a caller sees of a factory

A site begins with factories that know nothing and with no filters of things subscribed
(`Site.Fresh`, `Site.Vacant`). Whatever is done then, if handlers leave the filters of things alone
(`Site.LeftFilters`), what a factory knows and what is subscribed on its bus agree (`Role.Agrees`).

`registry_in_step` says so, and what comes of asking a factory for a thing in any such state: one
that it knows is given, and where subscribing fails nothing happens (`Site.Unmoved`); a new thing
that is exposed publishes its description once.
-/

namespace WebOfThings

open Run

/-- No filter of things is subscribed on the buses of the factories. -/
def Site.Vacant (s : Site) : Prop :=
  ∀ role b, s.buses.get? (Role.bus role s) = some b → b.subscriptions.Distinct ∧
    ∀ entry ∈ b.subscriptions.entries,
      (∀ id, entry.1 ≠ role.filter id) ∧ ∀ i, entry.2 ≠ role.receiver i

/-- What was noted between two sites leaves the filters of things alone. -/
def Site.LeftFilters (s s' : Site) : Prop :=
  ∀ entries, s'.journal = entries ++ s.journal →
    ∀ e ∈ entries, Allows (LeavesFilters (Role.bus · s)) e

/-- Nothing was registered, subscribed or published. -/
structure Site.Unmoved (s s' : Site) : Prop where
  /-- The factories know the same things. -/
  known : ∀ role, Role.known role s' = role.known s
  /-- The buses are the same. -/
  buses : s'.buses = s.buses
  /-- The timeline shows nothing more. -/
  timeline : s'.timeline = s.timeline

/-- A site whose factories know nothing is in step if nothing of theirs is subscribed. -/
theorem Site.Fresh.inStep {s : Site} (fresh : s.Fresh) (vacant : s.Vacant) :
    s.InStep (Role.bus · s) := by
  intro role
  obtain ⟨b, hb, hr⟩ := fresh.releases role
  obtain ⟨hdistinct, hnone⟩ := vacant role b hb
  have hempty : (role.known s).entries = [] := by
    cases hk : (role.known s).entries with
    | nil => rfl
    | cons e l =>
      have := fresh.known role e.1
      simp [NameMap.get?, NameMap.findEntry, hk] at this
  refine ⟨rfl, by simp [NameMap.Distinct, NameMap.names, hempty], fun id i hk => ?_, b, hb, hr,
    hdistinct, fun id => ?_, fun entry he i hi => absurd hi ((hnone entry he).2 i)⟩
  · rw [fresh.known] at hk
    contradiction
  · rw [fresh.known, Option.map_none]
    cases hget : b.subscriptions.get? (role.filter id) with
    | none => rfl
    | some r => exact absurd rfl ((hnone _ (NameMap.mem_of_get? hget)).1 id)

/-- Asked for a thing that it knows, a factory gives that thing. -/
theorem Role.unmoved_of_known {role : Role} {s : Site} {call : Call} {device : String}
    {ref : DescriptionRef} {d : ThingDescription} {i : Nat} (hd : s.catalogue.get? ref = some d)
    (hk : (role.known s).get? d.id = some i) :
    ∃ s', (role.obtain call device ref).run s = some (.ok i, s') ∧ s.Unmoved s' :=
  ⟨_, run_obtain_known hd hk, by simp, by simp, by cases role <;> rfl⟩

/-- If subscribing fails, so does obtaining a new thing. -/
theorem Role.unmoved_of_fault {role : Role} {s : Site} {call : Call} {device : String}
    {ref : DescriptionRef} {d : ThingDescription} {b : Bus Receiver}
    (hd : s.catalogue.get? ref = some d) (hk : (role.known s).get? d.id = none)
    (hb : s.buses.get? (role.bus s) = some b) (hf : b.faults.subscribe = true) :
    ∃ s', (role.obtain call device ref).run s = some (.error (Bus.fault "subscribe"), s') ∧
      s.Unmoved s' := by
  have hsub : b.subscribe (role.filter d.id) (role.receiver (role.next s)) =
      (.error (Bus.fault "subscribe"), b) := by simp [Bus.subscribe, hf]
  refine ⟨role.hold (role.next s) false
    (role.listen d.id (role.next s) (role.add device ref d.id s)), ?_, ?_⟩
  · rw [run_obtain_new hd hk, hb, Option.bind_some, hsub]
  · have hbuses :
        (role.listen d.id (role.next s) (role.add device ref d.id s)).buses = s.buses := by
      have hb' : (role.add device ref d.id s).buses.get? (role.bus (role.add device ref d.id s)) =
          some b := by simpa using hb
      exact (Table.update_eq_self hb' (congrArg Prod.snd hsub)).trans (by simp)
    refine ⟨by simp [listen], by simp [hbuses], ?_⟩
    cases role <;> rfl

/-- The message that carries a description. -/
def ThingDescription.announcement (d : ThingDescription) : Message :=
  ⟨Topic.description d.id, d.asValue.compact⟩

/-- Exposing a new thing publishes its description once; what else is published in the call, those
    publish who receive the description. -/
theorem Role.publishes_description {s : Site} {call : Call} {device : String} {ref : DescriptionRef}
    {d : ThingDescription} {bus : LocalBus Receiver} {faults : Faults}
    (hd : s.catalogue.get? ref = some d) (hk : (exposed.known s).get? d.id = none)
    (hb : s.buses.get? (exposed.bus s) = some { medium := .process bus, faults })
    (hs : faults.subscribe = false) (hp : faults.publish = false) (hc : bus.connected = true) :
    ∃ s₁ receivers, s₁.timeline = .published (exposed.bus s) d.announcement :: s.timeline ∧
      receivers = (bus.subscribe (exposed.filter d.id)
        (exposed.receiver (exposed.next s))).receivers d.announcement.topic ∧
      (exposed.obtain call device ref).run s =
        ((receivers.forM (accept call d.announcement)).run s₁).map fun (_, s₂) =>
          (.ok (exposed.next s),
            exposed.withKnown ((exposed.known s₂).insert d.id (exposed.next s)) s₂) := by
  have hsub : ({ medium := .process bus, faults } : Bus Receiver).subscribe (exposed.filter d.id)
      (exposed.receiver (exposed.next s)) = (.done, { medium := .process (bus.subscribe
        (exposed.filter d.id) (exposed.receiver (exposed.next s))), faults }) := by
    simp [Bus.subscribe, hs]
  have hcarries : (exposed.listen d.id (exposed.next s) (exposed.add device ref d.id s)).Carries
      (exposed.bus s)
      (bus.subscribe (exposed.filter d.id) (exposed.receiver (exposed.next s))) := by
    refine ⟨faults, ?_, hp, hc⟩
    simp [listen, withBus, Table.get?_update, hb, hsub]
  refine ⟨(exposed.listen d.id (exposed.next s) (exposed.add device ref d.id s)).take
    (exposed.bus s) d.announcement, _, rfl, rfl, ?_⟩
  have hannounce : exposed.announce call (exposed.bus s) d =
      discard (publish call (exposed.bus s) d.announcement) := rfl
  rw [run_obtain_new hd hk, hb, Option.bind_some, hsub]
  simp only [hannounce, run_discard, run_publish hcarries, StateT.run_bind, Option.map_map]
  generalize (List.forM (LocalBus.receivers _ d.announcement.topic)
    (accept call d.announcement)).run _ = received
  cases received <;> rfl

/-- What a factory knows and what is subscribed on its bus agree. -/
structure Role.Agrees (role : Role) (s : Site) : Prop where
  /-- The factory knows one thing at most under an identifier. -/
  distinct : (role.known s).Distinct
  /-- A filter is subscribed if and only if the factory knows a thing of its identifier, and is that
      of the thing. -/
  filter : ∃ b, s.buses.get? (role.bus s) = some b ∧ ∀ id,
    b.subscriptions.get? (role.filter id) = ((role.known s).get? id).map role.receiver
  /-- A thing that is known has the identifier, and no other filter leads to it. -/
  attends : ∀ id i, (role.known s).get? id = some i →
    role.id? s i = some id ∧ role.Attends s id i
  /-- What its receiver accepts is handed to the thing, and to nobody else. -/
  delivers : ∀ id i, (role.known s).get? id = some i → ∀ call m,
    (accept call m (role.receiver i)).run s = match role.handover? i m.topic with
      | some h => (role.handle call i h.name m.payload).run s
      | none => some (.unit, s)

theorem Site.InStep.agrees {buses : Role → BusRef} {s : Site} (h : s.InStep buses) (role : Role) :
    role.Agrees s where
  distinct := (h role).distinct
  filter := by
    obtain ⟨b, hb, -, hregisters⟩ := (h role).subscribed
    exact ⟨b, by rw [(h role).bus, hb], hregisters.filter⟩
  attends id i hk := ⟨(h role).identified id i hk, (h role).attends hk⟩
  delivers id i hk call m := by
    rw [accept_eq_hand, hand_receiver]
    cases hh : role.handover? i m.topic with
    | none => rfl
    | some handover =>
      obtain ⟨rfl, rfl⟩ := Role.receiver_inj.1
        (Receiver.eq_receiver_of_handover? (handover?_receiver.trans hh))
      exact Handover.run_of_isAlive (Role.isAlive_of_known hk)

/-- Whatever is done with the factories, if others leave the filters of things alone: what the
    factories know and what is subscribed agree. Asked for a thing that it knows a factory gives
    that thing, and if subscribing fails it fails; nothing is registered, subscribed or published
    then. Exposing a new thing publishes its description once. -/
theorem registry_in_step {s s' : Site} (fresh : s.Fresh) (vacant : s.Vacant) {depth : Nat}
    {ops : List Operation} {u : PUnit}
    (h : (ops.forM (·.run (calls depth))).run s = some (u, s')) (left : s.LeftFilters s') :
    (∀ role : Role, role.Agrees s') ∧
      ∀ call device ref d, s'.catalogue.get? ref = some d →
        (∀ (role : Role) i, (role.known s').get? d.id = some i →
          ∃ s'', (role.obtain call device ref).run s' = some (.ok i, s'') ∧ s'.Unmoved s'') ∧
        (∀ (role : Role) b, (role.known s').get? d.id = none →
          s'.buses.get? (role.bus s') = some b → b.faults.subscribe = true →
          ∃ s'', (role.obtain call device ref).run s' = some (.error (Bus.fault "subscribe"), s'') ∧
            s'.Unmoved s'') ∧
        ∀ bus faults, (Role.exposed.known s').get? d.id = none →
          s'.buses.get? (Role.exposed.bus s') = some { medium := .process bus, faults } →
          faults.subscribe = false → faults.publish = false → bus.connected = true →
          ∃ s₁ receivers, s₁.timeline =
              .published (Role.exposed.bus s') d.announcement :: s'.timeline ∧
            receivers = (bus.subscribe (Role.exposed.filter d.id)
              (Role.exposed.receiver (Role.exposed.next s'))).receivers d.announcement.topic ∧
            (Role.exposed.obtain call device ref).run s' =
              ((receivers.forM (accept call d.announcement)).run s₁).map fun (_, s₂) =>
                (.ok (Role.exposed.next s'), Role.exposed.withKnown
                  ((Role.exposed.known s₂).insert d.id (Role.exposed.next s')) s₂) := by
  obtain ⟨entries, hj, hstep⟩ := relates_upkept_all depth ops _ _ _ h
  have hinStep : s'.InStep (Role.bus · s) := hstep (left entries hj) (fresh.inStep vacant)
  exact ⟨hinStep.agrees, fun call device ref d hd =>
    ⟨fun role i hk => Role.unmoved_of_known hd hk,
      fun role b hk hb hf => Role.unmoved_of_fault hd hk hb hf,
      fun bus faults hk hb hs hp hc => Role.publishes_description hd hk hb hs hp hc⟩⟩

theorem vacant_lampFactories : lampFactories.Vacant := by
  intro role b hb
  obtain rfl : Bus.ofLocal {} = b := by
    cases role <;> exact Option.some.inj hb
  exact ⟨by decide, fun entry he => absurd he List.not_mem_nil⟩

/-- The lamp is exposed, consumed, and no longer exposed. Consumed again it is the same; exposed
    again it is another one, and its description is published. -/
theorem registry_in_step_lamp :
    ∃ s', (([.obtain .exposed "" 0, .obtain .consumed "" 0, .destroy .exposed 0] :
        List Operation).forM (·.run (calls 0))).run lampFactories = some (.unit, s') ∧
      (∀ role : Role, role.Agrees s') ∧
      (∃ s'', (Role.consumed.obtain (calls 0) "" 0).run s' = some (.ok 0, s'') ∧
        s'.Unmoved s'') ∧
      ∃ s₁, s₁.timeline = .published 0 ThingDescription.lamp.announcement :: s'.timeline ∧
        (Role.exposed.obtain (calls 0) "" 0).run s' =
          some (.ok 1, Role.exposed.withKnown ((Role.exposed.known s₁).insert "lamp" 1) s₁) := by
  obtain ⟨s', hrun, hd, hconsumed, hexposed, hnext, hbus, hb, hj⟩ : ∃ s',
      (([.obtain .exposed "" 0, .obtain .consumed "" 0, .destroy .exposed 0] :
        List Operation).forM (·.run (calls 0))).run lampFactories = some (.unit, s') ∧
      s'.catalogue.get? 0 = some .lamp ∧ (Role.consumed.known s').get? "lamp" = some 0 ∧
      (Role.exposed.known s').get? "lamp" = none ∧ Role.exposed.next s' = 1 ∧
      Role.exposed.bus s' = 0 ∧
      s'.buses.get? 0 = some (.ofLocal
        { subscriptions := ⟨[(Topic.events "lamp", .events 0)]⟩ }) ∧ s'.journal = [] :=
    ⟨_, rfl, rfl, rfl, rfl, rfl, rfl, rfl, rfl⟩
  have left : lampFactories.LeftFilters s' := by
    intro entries he
    rw [hj] at he
    obtain ⟨rfl, -⟩ := List.append_eq_nil_iff.1 he.symm
    exact fun e he => absurd he List.not_mem_nil
  obtain ⟨hagrees, hlaws⟩ := registry_in_step fresh_lampFactories vacant_lampFactories hrun left
  obtain ⟨hknown, -, hnew⟩ := hlaws (calls 0) "" 0 .lamp hd
  rw [hnext, hbus] at hnew
  obtain ⟨s₁, receivers, htimeline, hreceivers, hobtain⟩ := hnew _ _ hexposed hb rfl rfl rfl
  -- the description is received by nobody
  obtain rfl : receivers = [] := hreceivers
  exact ⟨s', hrun, hagrees, hknown .consumed 0 hconsumed, s₁, htimeline, hobtain⟩

end WebOfThings
