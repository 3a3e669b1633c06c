import WebOfThings.Proofs.Run
import WebOfThings.Proofs.Topic

/-!
# The two roles of things

A thing is exposed by the device or consumed by the consumer. An exposed thing is handed requests
and a consumed one events, and each has a factory that knows it by its identifier. But for names the
two are alike (`Role`): in the topics and the filter of an identifier, in the receiver that a bus
hands messages to, in what their factory knows, and in how it obtains a thing and destroys one.

`Role.run_destroy` says what destroying a thing does to a site, and `Role.run_obtain_known` and
`Role.run_obtain_new` what obtaining one does.
-/

namespace WebOfThings

open Run

/-- What a thing is to a site. -/
inductive Role
  /-- It is exposed by the device. -/
  | exposed
  /-- It is consumed by the consumer. -/
  | consumed
  deriving DecidableEq, Repr, Inhabited

namespace Role

/-! ## Topics and receivers -/

/-- The kind of the messages that a thing is handed. -/
def kind : Role → String
  | exposed => Topic.actionKind
  | consumed => Topic.eventKind

/-- The topic of a name of the thing of an identifier. -/
def topic (role : Role) (id name : String) : String := Topic.layout id role.kind name

/-- The filter of all names of the thing of an identifier. -/
def filter (role : Role) (id : String) : String := role.topic id "#"

/-- The receiver that stands for a thing. -/
def receiver : Role → Nat → Receiver
  | exposed => .requests
  | consumed => .events

theorem isLevel_kind (role : Role) : Topic.IsLevel role.kind := by cases role <;> decide

theorem kind_inj {role role' : Role} (h : role.kind = role'.kind) : role = role' := by
  revert h
  cases role <;> cases role' <;> decide

@[simp] theorem receiver_inj {role role' : Role} {i j : Nat} :
    role.receiver i = role'.receiver j ↔ role = role' ∧ i = j := by
  cases role <;> cases role' <;> simp [receiver]

theorem receiver_ne_handler (role : Role) (i : Nat) (h : Handler) :
    role.receiver i ≠ .handler h := by
  cases role <;> simp [receiver]

/-- Different things have different filters. -/
theorem filter_inj {role role' : Role} {id id' : String} (h : role.filter id = role'.filter id') :
    role = role' ∧ id = id' := by
  have h := congrArg String.toList h
  simp only [filter, topic, Topic.toList_layout, List.append_cancel_left_eq, List.cons.injEq,
    true_and] at h
  -- the kinds end differently
  have hrole : role = role' := by
    have h := congrArg List.reverse h
    revert h
    cases role <;> cases role' <;>
      simp [kind, Topic.actionKind, Topic.eventKind]
  subst hrole
  exact ⟨rfl, String.ext (List.append_inj_left' h rfl)⟩

/-! ## What a site knows -/

/-- Whether anybody holds a thing. -/
def isAlive : Role → Site → Nat → Bool
  | exposed, s, i => s.exposedIsAlive i
  | consumed, s, i => s.consumedIsAlive i

/-- The things that the factory knows by their identifiers. -/
def known : Role → Site → NameMap Nat
  | exposed, s => s.device.things
  | consumed, s => s.consumer.things

/-- The bus of the factory. -/
def bus : Role → Site → BusRef
  | exposed, s => s.device.bus
  | consumed, s => s.consumer.bus

/-- The description of a thing. -/
def description? : Role → Site → Nat → Option ThingDescription
  | exposed, s, i => (s.exposed.get? i).bind fun t => s.catalogue.get? t.description
  | consumed, s, i => (s.consumed.get? i).bind fun c => s.catalogue.get? c.description

/-- The identifier of a thing. -/
def id? (role : Role) (s : Site) (i : Nat) : Option String := (role.description? s i).map (·.id)

/-- The number that the next thing gets. -/
def next : Role → Site → Nat
  | exposed, s => s.exposed.next
  | consumed, s => s.consumed.next

theorem isAlive_of_known {role : Role} {s : Site} {id : String} {i : Nat}
    (h : (role.known s).get? id = some i) : role.isAlive s i = true := by
  have hmem : i ∈ (role.known s).entries.map (·.2) :=
    List.mem_map_of_mem (f := Prod.snd) (NameMap.mem_of_get? h)
  cases role
  all_goals
    simp only [known] at hmem
    simp [isAlive, Site.exposedIsAlive, Site.consumedIsAlive, -List.mem_map, hmem]

/-! ## What is changed -/

/-- A site whose factory knows other things. -/
def withKnown (role : Role) (things : NameMap Nat) (s : Site) : Site :=
  match role with
  | exposed => { s with device := { s.device with things } }
  | consumed => { s with consumer := { s.consumer with things } }

/-- A site whose factory has its bus in another state. -/
def withBus (role : Role) (change : Bus Receiver → Bus Receiver) (s : Site) : Site :=
  { s with buses := s.buses.update (role.bus s) change }

/-- A site after its factory forgot an identifier and left the filter without a receiver. -/
def forget (role : Role) (id : String) (s : Site) : Site :=
  role.withBus (fun b => (b.unsubscribe (role.filter id)).2)
    (role.withKnown ((role.known s).erase id) s)

/-- A site whose factory does not know an identifier, whether it did before or not. -/
def drop (role : Role) (id : String) (s : Site) : Site :=
  if (role.known s).contains id then role.forget id s else s

/-- A site after a thing dropped its handlers and its values. -/
def empty (role : Role) (i : Nat) (s : Site) : Site :=
  match role with
  | exposed => { s with exposed := s.exposed.update i (·.destroy) }
  | consumed => { s with consumed := s.consumed.update i (·.stop) }

/-- A site where a caller holds a thing, or does not. -/
def hold (role : Role) (i : Nat) (held : Bool) (s : Site) : Site :=
  match role with
  | exposed => { s with exposed := s.exposed.update i fun t => { t with held } }
  | consumed => { s with consumed := s.consumed.update i fun c => { c with held } }

/-- A site with a new thing, which sends on the bus of its factory. -/
def add (role : Role) (device : String) (ref : DescriptionRef) (id : String) (s : Site) : Site :=
  match role with
  | exposed =>
    { s with
      exposed := s.exposed.add { device, description := ref, output := .bus s.device.bus id } }
  | consumed =>
    { s with
      consumed := s.consumed.add { description := ref, interaction := .bus s.consumer.bus id } }

/-- A site after a thing was made the receiver of the filter of an identifier. -/
def listen (role : Role) (id : String) (i : Nat) (s : Site) : Site :=
  role.withBus (fun b => (b.subscribe (role.filter id) (role.receiver i)).2) s

section

variable (role role' : Role) (s : Site) (i : Nat)

@[simp] theorem known_withKnown (things : NameMap Nat) :
    role'.known (role.withKnown things s) = if role' = role then things else role'.known s := by
  cases role <;> cases role' <;> rfl

@[simp] theorem known_withBus (change : Bus Receiver → Bus Receiver) :
    role'.known (role.withBus change s) = role'.known s := by cases role' <;> rfl

@[simp] theorem known_empty : role'.known (role.empty i s) = role'.known s := by
  cases role <;> cases role' <;> rfl

@[simp] theorem known_hold (held : Bool) : role'.known (role.hold i held s) = role'.known s := by
  cases role <;> cases role' <;> rfl

@[simp] theorem known_add (device : String) (ref : DescriptionRef) (id : String) :
    role'.known (role.add device ref id s) = role'.known s := by
  cases role <;> cases role' <;> rfl

@[simp] theorem bus_withKnown (things : NameMap Nat) :
    role'.bus (role.withKnown things s) = role'.bus s := by cases role <;> cases role' <;> rfl

@[simp] theorem bus_withBus (change : Bus Receiver → Bus Receiver) :
    role'.bus (role.withBus change s) = role'.bus s := by cases role' <;> rfl

@[simp] theorem bus_empty : role'.bus (role.empty i s) = role'.bus s := by
  cases role <;> cases role' <;> rfl

@[simp] theorem bus_add (device : String) (ref : DescriptionRef) (id : String) :
    role'.bus (role.add device ref id s) = role'.bus s := by cases role <;> cases role' <;> rfl

@[simp] theorem buses_withKnown (things : NameMap Nat) :
    (role.withKnown things s).buses = s.buses := by cases role <;> rfl

@[simp] theorem buses_empty : (role.empty i s).buses = s.buses := by cases role <;> rfl

@[simp] theorem buses_hold (held : Bool) : (role.hold i held s).buses = s.buses := by
  cases role <;> rfl

@[simp] theorem buses_add (device : String) (ref : DescriptionRef) (id : String) :
    (role.add device ref id s).buses = s.buses := by cases role <;> rfl

@[simp] theorem description?_withKnown (things : NameMap Nat) :
    role'.description? (role.withKnown things s) i = role'.description? s i := by
  cases role <;> cases role' <;> rfl

@[simp] theorem description?_withBus (change : Bus Receiver → Bus Receiver) :
    role'.description? (role.withBus change s) i = role'.description? s i := by
  cases role' <;> rfl

/-- A thing keeps its description whatever else is changed of it. -/
theorem description?_updateExposed (k : ExposedRef) (change : ExposedThing → ExposedThing)
    (hd : ∀ t, (change t).description = t.description) :
    role'.description? { s with exposed := s.exposed.update k change } i =
      role'.description? s i := by
  cases role' with
  | consumed => rfl
  | exposed =>
    have h := congrArg (·.bind s.catalogue.get?) (Table.map_get?_update hd s.exposed k i)
    rwa [Option.bind_map, Option.bind_map] at h

theorem description?_updateConsumed (k : ConsumedRef) (change : ConsumedThing → ConsumedThing)
    (hd : ∀ c, (change c).description = c.description) :
    role'.description? { s with consumed := s.consumed.update k change } i =
      role'.description? s i := by
  cases role' with
  | exposed => rfl
  | consumed =>
    have h := congrArg (·.bind s.catalogue.get?) (Table.map_get?_update hd s.consumed k i)
    rwa [Option.bind_map, Option.bind_map] at h

@[simp] theorem description?_empty (k : Nat) :
    role'.description? (role.empty k s) i = role'.description? s i := by
  cases role with
  | exposed => exact description?_updateExposed role' s i k (·.destroy) fun _ => rfl
  | consumed => exact description?_updateConsumed role' s i k (·.stop) fun _ => rfl

/-- Only the new thing gets a description. -/
theorem description?_add (device : String) (ref : DescriptionRef) (id : String) :
    role'.description? (role.add device ref id s) i =
      if role' = role ∧ i = role.next s then s.catalogue.get? ref else role'.description? s i := by
  cases role <;> cases role' <;> simp only [description?, add, next, Table.get?_add]
  · split <;> simp_all
  · simp
  · simp
  · split <;> simp_all

/-- There is no thing of the next number yet. -/
theorem description?_next : role.description? s (role.next s) = none := by
  cases role <;> simp [description?, next, Table.get?_next]

@[simp] theorem description?_drop (id : String) :
    role'.description? (role.drop id s) i = role'.description? s i := by
  simp only [drop, forget]
  split <;> simp

/-- Forgetting an identifier that was known ends the subscription of its filter. -/
theorem get?_buses_drop (id : String) (k : BusRef) :
    (role.drop id s).buses.get? k =
      if (role.known s).contains id = true ∧ role.bus s = k then
        (s.buses.get? k).map fun b => (b.unsubscribe (role.filter id)).2
      else s.buses.get? k := by
  simp only [drop, forget, withBus]
  by_cases hk : (role.known s).contains id = true
  · simp [hk, Table.get?_update]
  · simp [hk]

@[simp] theorem bus_drop (id : String) : role'.bus (role.drop id s) = role'.bus s := by
  simp only [drop, forget]
  split <;> simp

@[simp] theorem journal_drop (id : String) : (role.drop id s).journal = s.journal := by
  simp only [drop]
  split
  · cases role <;> rfl
  · rfl

@[simp] theorem consumed_drop (id : String) : (role.drop id s).consumed = s.consumed := by
  simp only [drop]
  split
  · cases role <;> rfl
  · rfl

@[simp] theorem exposed_drop (id : String) : (role.drop id s).exposed = s.exposed := by
  simp only [drop]
  split
  · cases role <;> rfl
  · rfl

@[simp] theorem catalogue_drop (id : String) : (role.drop id s).catalogue = s.catalogue := by
  simp only [drop]
  split
  · cases role <;> rfl
  · rfl

@[simp] theorem timeline_drop (id : String) : (role.drop id s).timeline = s.timeline := by
  simp only [drop]
  split
  · cases role <;> rfl
  · rfl

/-- A factory forgets no other identifier, and the other factory none at all. -/
theorem get?_known_drop (id id' : String) :
    (role'.known (role.drop id s)).get? id' =
      if role' = role ∧ id' = id then none else (role'.known s).get? id' := by
  simp only [drop, forget]
  split
  · by_cases hr : role' = role <;> simp [hr, NameMap.get?_erase]
  · next hk =>
    simp only [NameMap.contains, Bool.not_eq_true, Option.isSome_eq_false_iff,
      Option.isNone_iff_eq_none] at hk
    split
    · next h => rw [h.1, h.2, hk]
    · rfl

end

/-! ## The factories -/

/-- Destroys a thing. -/
def destroy : Role → Nat → Run Unit
  | exposed => retire
  | consumed => dismiss

/-- Obtains a thing of a description: exposes it, or consumes it. -/
def obtain : Role → Call → (device : String) → DescriptionRef → Run (Except Error Nat)
  | exposed, call, device, ref => expose call device ref
  | consumed, _, _, ref => consume ref

/-- Tells others of a new thing: an exposed one publishes its description. -/
def announce (role : Role) (call : Call) (b : BusRef) (d : ThingDescription) : Run Unit :=
  match role with
  | exposed => discard (publishValue call b (Topic.description d.id) d.asValue)
  | consumed => pure ()

variable {role : Role} {s : Site} {i : Nat} {id : String}

theorem id?_eq_some : role.id? s i = some id ↔
    ∃ d, role.description? s i = some d ∧ d.id = id := by
  simp [id?]

/-- What is done with a thing and its description, in either role. -/
theorem description?_exposed {d : ThingDescription} :
    exposed.description? s i = some d ↔
      ∃ t, s.exposed.get? i = some t ∧ s.catalogue.get? t.description = some d := by
  simp [description?, Option.bind_eq_some_iff]

theorem description?_consumed {d : ThingDescription} :
    consumed.description? s i = some d ↔
      ∃ c, s.consumed.get? i = some c ∧ s.catalogue.get? c.description = some d := by
  simp [description?, Option.bind_eq_some_iff]

/-- Destroying a thing makes its factory forget whatever it knows under its identifier, and then
    empties the thing. To forget it the factory needs its bus. -/
theorem run_destroy (hid : role.id? s i = some id) :
    (role.destroy i).run s =
      if (role.known s).contains id = true ∧ s.buses.get? (role.bus s) = none then none
      else some (.unit, role.empty i (role.drop id s)) := by
  obtain ⟨d, hd, rfl⟩ := id?_eq_some.1 hid
  cases role with
  | exposed =>
    obtain ⟨t, ht, hd⟩ := description?_exposed.1 hd
    rw [destroy, retire, run_of_exposed ht hd]
    by_cases hk : s.device.things.contains d.id
    · cases hb : s.buses.get? s.device.bus <;>
        simp [drop, known, bus, hk, hb, StateT.run_bind, updateDeviceThings, run_discard,
          run_unsubscribe]
      rfl
    · simp [drop, known, hk, StateT.run_bind, empty]
  | consumed =>
    obtain ⟨c, hc, hd⟩ := description?_consumed.1 hd
    rw [destroy, dismiss, run_of_consumed hc hd]
    by_cases hk : s.consumer.things.contains d.id
    · cases hb : s.buses.get? s.consumer.bus <;>
        simp [drop, known, bus, hk, hb, StateT.run_bind, updateConsumerThings, updateConsumer,
          run_discard, run_unsubscribe]
      rfl
    · simp [drop, known, hk, StateT.run_bind, empty]

/-- What is destroyed has an identifier. -/
theorem exists_id?_of_run_destroy {u : Unit} {s' : Site}
    (h : (role.destroy i).run s = some (u, s')) : ∃ id, role.id? s i = some id := by
  cases role with
  | exposed =>
    obtain ⟨t, d, ht, hd, -⟩ := run_with_exposed.1 h
    exact ⟨d.id, id?_eq_some.2 ⟨d, description?_exposed.2 ⟨t, ht, hd⟩, rfl⟩⟩
  | consumed =>
    obtain ⟨c, d, hc, hd, -⟩ := run_with_consumed.1 h
    exact ⟨d.id, id?_eq_some.2 ⟨d, description?_consumed.2 ⟨c, hc, hd⟩, rfl⟩⟩

theorem eq_of_run_destroy (hid : role.id? s i = some id) {u : Unit} {s' : Site}
    (h : (role.destroy i).run s = some (u, s')) : s' = role.empty i (role.drop id s) := by
  rw [run_destroy hid] at h
  split at h
  · contradiction
  · exact (Prod.mk.inj (Option.some.inj h)).2.symm

variable {call : Call} {device : String} {ref : DescriptionRef} {d : ThingDescription}

/-- Obtaining a thing of an identifier that the factory knows gives the thing that it knows. -/
theorem run_obtain_known (hd : s.catalogue.get? ref = some d)
    (hk : (role.known s).get? d.id = some i) :
    (role.obtain call device ref).run s = some (.ok i, role.hold i true s) := by
  cases role with
  | exposed =>
    simp only [known] at hk
    simp [obtain, expose, StateT.run_bind, hd, hk, holdExposed, hold]
  | consumed =>
    simp only [known] at hk
    simp [obtain, consume, StateT.run_bind, hd, hk, holdConsumed, hold]

/-- Serving a thing makes it the receiver of its requests, and then announces it. -/
theorem run_serve {t : ExposedThing} (ht : s.exposed.get? i = some t)
    (hd : s.catalogue.get? t.description = some d) :
    (serve call i s.device.bus d.id).run s = (s.buses.get? s.device.bus).bind fun b =>
      match (b.subscribe (exposed.filter d.id) (.requests i)).1 with
      | .error e => some (.error e, exposed.listen d.id i s)
      | .ok () => ((exposed.announce call s.device.bus d).run (exposed.listen d.id i s)).map
          fun (_, s₁) => (.done, s₁) := by
  rw [serve, run_of_exposed ht hd, show Topic.actions d.id = exposed.filter d.id from rfl,
    StateT.run_bind, run_subscribe]
  cases s.buses.get? s.device.bus with
  | none => rfl
  | some b =>
    change _ = match (b.subscribe (exposed.filter d.id) (.requests i)).1 with
      | .error e => _
      | .ok u => _
    simp only [Option.map_some]
    cases (b.subscribe (exposed.filter d.id) (.requests i)).1 with
    | error e => rfl
    | ok u =>
      change ((exposed.announce call s.device.bus d).run (exposed.listen d.id i s)).bind _ =
        Option.map _ ((exposed.announce call s.device.bus d).run (exposed.listen d.id i s))
      cases (exposed.announce call s.device.bus d).run (exposed.listen d.id i s) <;> rfl

/-- Obtaining any other makes a new thing the receiver of the filter. If that fails the thing is let
    go; if not it is announced, and the factory knows it from then on. -/
theorem run_obtain_new (hd : s.catalogue.get? ref = some d)
    (hk : (role.known s).get? d.id = none) :
    (role.obtain call device ref).run s = (s.buses.get? (role.bus s)).bind fun b =>
      match (b.subscribe (role.filter d.id) (role.receiver (role.next s))).1 with
      | .error e => some (.error e, role.hold (role.next s) false
          (role.listen d.id (role.next s) (role.add device ref d.id s)))
      | .ok () => ((role.announce call (role.bus s) d).run
          (role.listen d.id (role.next s) (role.add device ref d.id s))).map fun (_, s₁) =>
            (.ok (role.next s), role.withKnown ((role.known s₁).insert d.id (role.next s)) s₁) := by
  have hdesc : (description ref).run s = some (d, s) := by simp [hd]
  have hget : (get : Run Site).run s = some (s, s) := rfl
  cases role with
  | exposed =>
    simp only [known] at hk
    have hadd : (addExposed
        { device, description := ref, output := .bus s.device.bus d.id }).run s =
        some (s.exposed.next, exposed.add device ref d.id s) := rfl
    have ht : (exposed.add device ref d.id s).exposed.get? s.exposed.next =
        some { device, description := ref, output := .bus s.device.bus d.id } := by
      simp [add, Table.get?_add]
    rw [obtain, expose, run_bind_of_run hdesc, run_bind_of_run hget]
    simp only [hk]
    rw [run_bind_of_run hadd, StateT.run_bind,
      show s.device.bus = (exposed.add device ref d.id s).device.bus from rfl, run_serve ht hd]
    change Option.bind (Option.bind (s.buses.get? s.device.bus) _) _ =
      Option.bind (s.buses.get? s.device.bus) _
    cases s.buses.get? s.device.bus with
    | none => rfl
    | some b =>
      have hreceiver : exposed.receiver (exposed.next s) = .requests s.exposed.next := rfl
      simp only [Option.bind_some, hreceiver]
      cases (b.subscribe (exposed.filter d.id) (.requests s.exposed.next)).1 with
      | error e => rfl
      | ok u =>
        change (Option.map _ ((exposed.announce call s.device.bus d).run
          (exposed.listen d.id s.exposed.next (exposed.add device ref d.id s)))).bind _ =
          Option.map _ ((exposed.announce call s.device.bus d).run
          (exposed.listen d.id s.exposed.next (exposed.add device ref d.id s)))
        cases (exposed.announce call s.device.bus d).run
          (exposed.listen d.id s.exposed.next (exposed.add device ref d.id s)) <;> rfl
  | consumed =>
    simp only [known] at hk
    have hadd : (addConsumed
        { description := ref, interaction := .bus s.consumer.bus d.id }).run s =
        some (s.consumed.next, consumed.add device ref d.id s) := rfl
    rw [obtain, consume, run_bind_of_run hdesc, run_bind_of_run hget]
    simp only [hk]
    rw [run_bind_of_run hadd, StateT.run_bind, follow, run_subscribe]
    change Option.bind (Option.map _ (s.buses.get? s.consumer.bus)) _ =
      Option.bind (s.buses.get? s.consumer.bus) _
    cases s.buses.get? s.consumer.bus with
    | none => rfl
    | some b =>
      have hreceiver : consumed.receiver (consumed.next s) = .events s.consumed.next := rfl
      have hfilter : consumed.filter d.id = Topic.events d.id := rfl
      simp only [Option.map_some, Option.bind_some, hreceiver, hfilter]
      cases (b.subscribe (Topic.events d.id) (.events s.consumed.next)).1 <;> rfl

/-- What comes of obtaining a thing. -/
inductive Obtained (role : Role) (call : Call) (device : String) (ref : DescriptionRef) (s : Site) :
    Except Error Nat → Site → Prop
  /-- The factory knows one of the identifier. -/
  | known {d : ThingDescription} {i : Nat} (hd : s.catalogue.get? ref = some d)
      (hk : (role.known s).get? d.id = some i) : Obtained role call device ref s (.ok i)
        (role.hold i true s)
  /-- The new one cannot be subscribed. -/
  | refused {d : ThingDescription} {b : Bus Receiver} {e : Error}
      (hd : s.catalogue.get? ref = some d) (hk : (role.known s).get? d.id = none)
      (hb : s.buses.get? (role.bus s) = some b)
      (he : (b.subscribe (role.filter d.id) (role.receiver (role.next s))).1 = .error e) :
      Obtained role call device ref s (.error e) (role.hold (role.next s) false
        (role.listen d.id (role.next s) (role.add device ref d.id s)))
  /-- The new one is subscribed and announced. -/
  | new {d : ThingDescription} {b : Bus Receiver} {u : Unit} {s₁ : Site}
      (hd : s.catalogue.get? ref = some d) (hk : (role.known s).get? d.id = none)
      (hb : s.buses.get? (role.bus s) = some b)
      (hs : (b.subscribe (role.filter d.id) (role.receiver (role.next s))).1 = .done)
      (ha : (role.announce call (role.bus s) d).run
        (role.listen d.id (role.next s) (role.add device ref d.id s)) = some (u, s₁)) :
      Obtained role call device ref s (.ok (role.next s))
        (role.withKnown ((role.known s₁).insert d.id (role.next s)) s₁)

theorem obtained_of_run {result : Except Error Nat} {s' : Site}
    (h : (role.obtain call device ref).run s = some (result, s')) :
    role.Obtained call device ref s result s' := by
  have hdesc : ∃ d, s.catalogue.get? ref = some d := by
    have hrun : ∃ d s₁, (description ref).run s = some (d, s₁) := by
      cases role with
      | exposed =>
        obtain ⟨d, s₁, hd, -⟩ := run_bind_eq_some.1 h
        exact ⟨d, s₁, hd⟩
      | consumed =>
        obtain ⟨d, s₁, hd, -⟩ := run_bind_eq_some.1 h
        exact ⟨d, s₁, hd⟩
    obtain ⟨d, s₁, hd⟩ := hrun
    rw [run_description, Option.map_eq_some_iff] at hd
    obtain ⟨d, hd, -⟩ := hd
    exact ⟨d, hd⟩
  obtain ⟨d, hd⟩ := hdesc
  cases hk : (role.known s).get? d.id with
  | some i =>
    rw [run_obtain_known hd hk] at h
    obtain ⟨rfl, rfl⟩ := Prod.mk.inj (Option.some.inj h)
    exact .known hd hk
  | none =>
    rw [run_obtain_new hd hk, Option.bind_eq_some_iff] at h
    obtain ⟨b, hb, h⟩ := h
    split at h
    · next e he =>
      obtain ⟨rfl, rfl⟩ := Prod.mk.inj (Option.some.inj h)
      exact .refused hd hk hb he
    · next hs =>
      obtain ⟨⟨u, s₁⟩, ha, he⟩ := Option.map_eq_some_iff.1 h
      obtain ⟨rfl, rfl⟩ := Prod.mk.inj he
      exact .new hd hk hb hs ha

end Role

end WebOfThings
