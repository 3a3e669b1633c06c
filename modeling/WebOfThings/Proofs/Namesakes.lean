import Mathlib
import WebOfThings.Proofs.Arrival
import WebOfThings.Proofs.Batch

/-!
# Properties and events that have the name of batches

Batches and events of a thing arrive on one family of topics and are told apart by their name. That
of batches is a name like any other, which a property or an event may have as well. The consumed
thing looks for a property of the name first: then a batch is taken for the value of that property.
If there is none, an event of the name is taken for a batch.

`taken_by_name` says what that comes to. A batch changes the properties that it names, and no other,
unless a property has the name of batches. An event changes no property but one of its own name,
unless it has the name of batches and no property has.
-/

namespace WebOfThings

open Run

/-! ## Deliveries -/

namespace ConsumedThing

variable {c : ConsumedThing} {p : String} {d : ThingDescription} {name : String} {payload : Bytes}

theorem name_eq_of_mem_eventDeliveries {x : Delivery} (h : x ∈ eventDeliveries d name payload) :
    x.name = name := by
  unfold eventDeliveries at h
  split at h
  · obtain rfl := List.mem_singleton.1 h
    rfl
  · contradiction

theorem propertyDeliveries_of_declared {schema : DataSchema}
    (h : d.propertySchema? name = some schema) :
    propertyDeliveries d name payload =
      [⟨.property, name, Snapshot.ofWire payload (some schema)⟩] := by
  simp [propertyDeliveries, h]

/-- All deliveries are of the name under which something arrives, unless it is taken for a batch. -/
theorem name_eq_of_mem_deliveries
    (h : name = Topic.batchName → d.propertySchema? Topic.batchName ≠ none) {x : Delivery}
    (hx : x ∈ deliveries d name payload) : x.name = name := by
  rcases List.mem_append.1 hx with hx | hx
  · cases hs : d.propertySchema? name with
    | some schema =>
      rw [propertyDeliveries_of_declared hs] at hx
      obtain rfl := List.mem_singleton.1 hx
      rfl
    | none =>
      have hne : name ≠ Topic.batchName := fun he => h he (he ▸ hs)
      simp [propertyDeliveries, hs, hne] at hx
  · exact name_eq_of_mem_eventDeliveries hx

/-- A batch makes no two deliveries of one name. -/
theorem nodup_batchDeliveries : ((batchDeliveries d payload).map (·.name)).Nodup := by
  unfold batchDeliveries
  cases hread : Json.read? payload with
  | none => simp
  | some v =>
    have hnodup : (v.members.map (·.1)).Nodup := by
      cases v with
      | object members => exact (Json.sorted_of_read? hread).nodup
      | _ => simp [Json.members]
    refine hnodup.sublist ?_
    simp only [Option.map_some, Option.getD_some]
    generalize v.members = members
    induction members with
    | nil => simp
    | cons e members ih =>
      cases hs : d.propertySchema? e.1 with
      | none => simpa [hs] using ih.cons e.1
      | some schema => simpa [hs] using ih

/-- The delivery of a declared property is that of its entry in the batch. -/
theorem find?_batchDeliveries {schema : DataSchema} (h : d.propertySchema? p = some schema) :
    ((batchDeliveries d payload).find? (·.name = p)).map (·.value) =
      ((Json.read? payload).bind (Json.get? p)).map fun v => Snapshot.ofNative v (some schema) := by
  unfold batchDeliveries
  cases Json.read? payload with
  | none => rfl
  | some v =>
    simp only [Option.map_some, Option.getD_some, Option.bind_some, Json.get?]
    generalize v.members = members
    induction members with
    | nil => rfl
    | cons e members ih =>
      by_cases hp : p = e.1
      · subst hp
        simp [h, Members.get?]
      · cases hs : d.propertySchema? e.1 with
        | none => simpa [hs, Members.get?, hp] using ih
        | some schema' => simpa [hs, Members.get?, hp, Ne.symm hp] using ih

/-- What is taken for a batch changes each declared property that comes in it, and no other. -/
theorem get?_keepAll_batch (hname : d.propertySchema? Topic.batchName = none) {schema : DataSchema}
    (hp : d.propertySchema? p = some schema) :
    (c.keepAll (deliveries d Topic.batchName payload)).values.get? p =
      (((Json.read? payload).bind (Json.get? p)).map fun v =>
        Snapshot.ofNative v (some schema)).or (c.values.get? p) := by
  have hne : p ≠ Topic.batchName := fun he => by simp [he, hname] at hp
  have hbatch : propertyDeliveries d Topic.batchName payload = batchDeliveries d payload := by
    rw [propertyDeliveries, hname]
    exact if_pos rfl
  rw [deliveries, hbatch, keepAll_append, get?_keepAll_of_ne fun x hx =>
      (name_eq_of_mem_eventDeliveries hx).symm ▸ hne.symm,
    get?_keepAll nodup_batchDeliveries, find?_batchDeliveries hp]

end ConsumedThing

namespace Link

variable {L : Link} {s s' : Site}

/-! ## Batches and events -/

/-- The message that brings changes. -/
def batchMessage (L : Link) (changes : List Change) : Message :=
  ⟨L.topic, (ExposedThing.batchValue changes).compact⟩

/-- What the consumed thing makes of it. -/
def batchDeliveries (L : Link) (changes : List Change) : List Delivery :=
  ConsumedThing.deliveries L.description Topic.batchName (L.batchMessage changes).payload

section

variable (joined : L.Joined s) (passive : L.Passive s) (level : Topic.IsLevel L.description.id)
  (hash : L.description.id ≠ "#") {t : ExposedThing} (ht : s.exposed.get? L.exposed = some t)
  {c : ConsumedThing} (hc : s.consumed.get? L.consumed = some c) (depth : Nat)
include joined passive level hash ht hc

/-- Changes that are emitted arrive under the name of batches. -/
theorem Joined.exists_run_emitChanges {batch : Members Json} {onlyChanges : Bool}
    {changes : List Change} (hchanges : t.changes L.description onlyChanges batch = changes)
    (hne : changes ≠ []) :
    ∃ s', (emitChanges (calls (depth + 1)) L.exposed batch onlyChanges).run s =
        some (.done, s') ∧
      s'.consumed.get? L.consumed = some (c.keepAll (L.batchDeliveries changes)) ∧
      L.Told s s' (L.batchMessage changes) Topic.batchName
        (c.told (L.batchDeliveries changes)) := by
  obtain ⟨t', ht', htd, hout⟩ := joined.exposed
  obtain rfl := Option.some.inj (ht.symm.trans ht')
  obtain ⟨s₁, hrun, hkept, htold⟩ := joined.exists_run_publish passive level hash hc depth
    Topic.batchName (L.batchMessage changes).payload
  refine ⟨s₁.remember L.exposed changes, ?_, hkept, htold⟩
  have hempty : changes.isEmpty = false := by simpa using hne
  have hsend : (sendChanges (calls (depth + 1)) L.description t.output
      (ExposedThing.batchValue changes)).run s = some (.done, s₁) := by
    rw [hout]
    exact hrun
  rw [run_emitChanges ht htd, hchanges, hempty, hsend]
  rfl

/-- An event that is emitted arrives under its name. -/
theorem Joined.exists_run_emitEvent {name : String}
    (hname : L.description.events.contains name = true) (data : Json) :
    ∃ s', (emitEvent (calls (depth + 1)) L.exposed name data).run s = some (.done, s') ∧
      s'.consumed.get? L.consumed =
        some (c.keepAll (ConsumedThing.deliveries L.description name data.compact)) := by
  obtain ⟨t', ht', htd, hout⟩ := joined.exposed
  obtain rfl := Option.some.inj (ht.symm.trans ht')
  obtain ⟨s', hrun, hkept, -⟩ := joined.exists_run_publish passive level hash hc depth name
    data.compact
  refine ⟨s', ?_, hkept⟩
  rw [emitEvent, run_of_exposed ht htd, if_pos hname, hout]
  exact hrun

end

/-- The consumed thing took a batch for what it is. -/
structure Updated (L : Link) (s s' : Site) (c c' : ConsumedThing) (changes : List Change) :
    Prop where
  /-- No property comes twice in it. -/
  distinct : (changes.map (·.name)).Nodup
  /-- Each property that comes in it has the value that it has there. -/
  value : ∀ x ∈ changes, c'.values.get? x.name = some x.snapshot ∧ x.snapshot.value = x.value
  /-- All other properties have the values that they had. -/
  others : ∀ p, (L.description.propertySchema? p).isSome = true → (∀ x ∈ changes, x.name ≠ p) →
    c'.values.get? p = c.values.get? p
  /-- Of each change the observer of its property was told once; a subscriber of an event that has
      the name of batches was told of the batch. -/
  told : L.Told s s' (L.batchMessage changes) Topic.batchName
    ((changes.filterMap fun x => (c.observations.get? x.name).map fun h =>
        .called h.label (.notice x.name x.snapshot)) ++
      c.told (ConsumedThing.eventDeliveries L.description Topic.batchName
        (L.batchMessage changes).payload))

/-- The consumed thing took a batch for the value of a property that has the name of batches. -/
structure Mistaken (L : Link) (s s' : Site) (c c' : ConsumedThing) (changes : List Change)
    (schema : DataSchema) : Prop where
  /-- The property has the batch for its value, if there is no event of the name. -/
  whole : L.description.events.get? Topic.batchName = none → c'.values.get? Topic.batchName =
    some (Snapshot.ofWire (L.batchMessage changes).payload (some schema))
  /-- All other properties have the values that they had. -/
  others : ∀ p, p ≠ Topic.batchName → c'.values.get? p = c.values.get? p
  /-- The observer of the property was told of the batch. -/
  told : L.Told s s' (L.batchMessage changes) Topic.batchName
    (c.told (⟨.property, Topic.batchName,
        Snapshot.ofWire (L.batchMessage changes).payload (some schema)⟩ ::
      ConsumedThing.eventDeliveries L.description Topic.batchName
        (L.batchMessage changes).payload))

section

variable {c : ConsumedThing} {changes : List Change}

theorem find?_name_of_mem {x : Change} (h : (changes.map (·.name)).Nodup) (hx : x ∈ changes) :
    changes.find? (·.name = x.name) = some x := by
  induction changes with
  | nil => contradiction
  | cons y changes ih =>
    rw [List.map_cons, List.nodup_cons] at h
    rcases List.mem_cons.1 hx with rfl | hx
    · simp
    · have hne : y.name ≠ x.name := fun he => h.1 (List.mem_map.2 ⟨x, hx, he.symm⟩)
      simp [hne, ih h.2 hx]

theorem updated_of_told (hname : L.description.propertySchema? Topic.batchName = none)
    (hd : L.Declares changes) (hreads : L.ReadsBack (.remembered L.exposed changes))
    (htold : L.Told s s' (L.batchMessage changes) Topic.batchName
      (c.told (L.batchDeliveries changes))) :
    L.Updated s s' c (c.keepAll (L.batchDeliveries changes)) changes := by
  obtain ⟨hbatch, hvalues⟩ := hreads changes rfl
  have hnodup := nodup_of_readsBack hbatch
  have hdeliveries : L.batchDeliveries changes = changes.map Change.delivery ++
      ConsumedThing.eventDeliveries L.description Topic.batchName
        (L.batchMessage changes).payload := by
    rw [← propertyDeliveries_batch hname hd hbatch]
    rfl
  -- an event of the name brings no value of a property
  have hget : ∀ p, (L.description.propertySchema? p).isSome = true →
      (c.keepAll (L.batchDeliveries changes)).values.get? p =
      ((changes.find? (·.name = p)).map (·.snapshot)).or (c.values.get? p) := by
    intro p hp
    have hp : p ≠ Topic.batchName := fun he => by simp [he, hname] at hp
    have hnodup' : ((changes.map Change.delivery).map (·.name)).Nodup := by
      rw [List.map_map]
      exact hnodup
    rw [hdeliveries, ConsumedThing.keepAll_append, ConsumedThing.get?_keepAll_of_ne fun x hx =>
      (ConsumedThing.name_eq_of_mem_eventDeliveries hx).symm ▸ hp.symm,
      ConsumedThing.get?_keepAll hnodup', List.find?_map, Option.map_map]
    rfl
  refine ⟨hnodup, fun x hx => ?_, fun p hp hn => ?_, ?_⟩
  · obtain ⟨schema, hs, hsnap⟩ := hd x hx
    rw [hget x.name (by simp [hs]), find?_name_of_mem hnodup hx]
    exact ⟨rfl, by rw [hsnap, Snapshot.value_ofNative (hvalues x hx)]⟩
  · have hnone : changes.find? (·.name = p) = none :=
      List.find?_eq_none.2 fun x hx => by simpa using hn x hx
    rw [hget p hp, hnone]
    rfl
  · rw [hdeliveries, ConsumedThing.told, List.filterMap_append, List.filterMap_map] at htold
    exact htold

theorem mistaken_of_told {schema : DataSchema}
    (hname : L.description.propertySchema? Topic.batchName = some schema)
    (htold : L.Told s s' (L.batchMessage changes) Topic.batchName
      (c.told (L.batchDeliveries changes))) :
    L.Mistaken s s' c (c.keepAll (L.batchDeliveries changes)) changes schema := by
  have hdeliveries : L.batchDeliveries changes = ⟨.property, Topic.batchName,
        Snapshot.ofWire (L.batchMessage changes).payload (some schema)⟩ ::
      ConsumedThing.eventDeliveries L.description Topic.batchName
        (L.batchMessage changes).payload := by
    rw [batchDeliveries, ConsumedThing.deliveries,
      ConsumedThing.propertyDeliveries_of_declared hname]
    rfl
  refine ⟨fun hevent => ?_, fun p hp => ConsumedThing.get?_keepAll_of_ne fun x hx => ?_, ?_⟩
  · have hnone : ConsumedThing.eventDeliveries L.description Topic.batchName
        (L.batchMessage changes).payload = [] := by simp [ConsumedThing.eventDeliveries, hevent]
    rw [hdeliveries, hnone]
    simp [ConsumedThing.keepAll, NameMap.get?_insert]
  · have hx := ConsumedThing.name_eq_of_mem_deliveries (fun _ => by simp [hname]) hx
    exact hx.symm ▸ hp.symm
  · rwa [hdeliveries] at htold

end

/-- What is emitted is told apart by its name. A batch changes the properties that it names, tells
    the observer of each once, and changes no other property, if no property has the name of
    batches; if one has, the batch is taken for its value, and changes no other property. An event
    changes no property but one of its own name, unless it has the name of batches and no property
    has; then it is taken for a batch. -/
theorem taken_by_name (joined : L.Joined s) (passive : L.Passive s)
    (level : Topic.IsLevel L.description.id) (hash : L.description.id ≠ "#") (depth : Nat) :
    ∃ t c, s.exposed.get? L.exposed = some t ∧ s.consumed.get? L.consumed = some c ∧
      (∀ batch onlyChanges changes, t.changes L.description onlyChanges batch = changes →
        changes ≠ [] → ∃ s' c',
          (emitChanges (calls (depth + 1)) L.exposed batch onlyChanges).run s =
            some (.done, s') ∧
          s'.consumed.get? L.consumed = some c' ∧
          (L.description.propertySchema? Topic.batchName = none →
            L.ReadsBack (.remembered L.exposed changes) → L.Updated s s' c c' changes) ∧
          ∀ schema, L.description.propertySchema? Topic.batchName = some schema →
            L.Mistaken s s' c c' changes schema) ∧
      ∀ name data,
        (L.description.events.contains name = false →
          (emitEvent (calls (depth + 1)) L.exposed name data).run s =
            some (.error (L.description.noEvent name), s)) ∧
        (L.description.events.contains name = true → ∃ s' c',
          (emitEvent (calls (depth + 1)) L.exposed name data).run s = some (.done, s') ∧
          s'.consumed.get? L.consumed = some c' ∧
          ((name = Topic.batchName →
              L.description.propertySchema? Topic.batchName ≠ none) →
            ∀ p, p ≠ name → c'.values.get? p = c.values.get? p) ∧
          (name = Topic.batchName → L.description.propertySchema? Topic.batchName = none →
            ∀ p schema, L.description.propertySchema? p = some schema →
              c'.values.get? p = (((Json.read? data.compact).bind (Json.get? p)).map fun v =>
                Snapshot.ofNative v (some schema)).or (c.values.get? p))) := by
  obtain ⟨t, ht, htd, -⟩ := joined.exposed
  obtain ⟨c, hc, -⟩ := joined.consumed
  refine ⟨t, c, ht, hc, fun batch onlyChanges changes hchanges hne => ?_,
    fun name data => ⟨fun hname => ?_, fun hname => ?_⟩⟩
  · obtain ⟨s', hrun, hkept, htold⟩ :=
      joined.exists_run_emitChanges passive level hash ht hc depth hchanges hne
    have hdeclares : L.Declares changes := hchanges ▸ declares_changes
    exact ⟨s', _, hrun, hkept, fun hname hreads => updated_of_told hname hdeclares hreads htold,
      fun schema hname => mistaken_of_told hname htold⟩
  · simp [emitEvent, StateT.run_bind, ht, htd, hname]
  · obtain ⟨s', hrun, hkept⟩ :=
      joined.exists_run_emitEvent passive level hash ht hc depth hname data
    refine ⟨s', _, hrun, hkept, fun hbatch p hp => ?_, ?_⟩
    · exact ConsumedThing.get?_keepAll_of_ne fun x hx =>
        (ConsumedThing.name_eq_of_mem_deliveries hbatch hx).symm ▸ hp.symm
    · rintro rfl hnone p schema hp
      exact ConsumedThing.get?_keepAll_batch hnone hp

/-- The lamp on a bus, where its level is observed by somebody who does not act, but with another
    description. -/
def watched (d : ThingDescription) : Site :=
  { lampSite {} ⟨[("level", { label := "watch" })]⟩ with catalogue := ⟨[d]⟩ }

theorem joined_watched {d : ThingDescription} (hd : d.id = "lamp") :
    (Link.mk 0 0 0 d).Joined (watched d) where
  exposed := ⟨_, rfl, rfl, by rw [hd]⟩
  consumed := ⟨_, rfl, rfl⟩
  alive := rfl
  bus := by
    refine ⟨_, ⟨{}, rfl, rfl, rfl⟩, by decide, ?_, ?_⟩
    · simp only [filter, hd]
      rfl
    · simp [filter, hd]

theorem passive_watched (d : ThingDescription) : (Link.mk 0 0 0 d).Passive (watched d) := by
  rintro bus ⟨faults, hget, -⟩ entry he
  obtain rfl : { subscriptions :=
      ⟨[(Topic.actions "lamp", .requests 0), (Topic.events "lamp", .events 0)]⟩ } = bus :=
    Medium.process.inj (congrArg Bus.medium (Option.some.inj hget))
  simp only [List.mem_cons, List.not_mem_nil, or_false] at he
  rcases he with rfl | rfl
  · trivial
  · refine fun _ => ⟨_, d, rfl, rfl, fun x h hh => ?_⟩
    obtain ⟨kind, name, value⟩ := x
    cases kind with
    | event => contradiction
    | property =>
      obtain ⟨-, rfl⟩ := Prod.mk.inj (List.mem_singleton.1 (NameMap.mem_of_get? hh))
      rfl

/-- The level is sent, and its observer is told. -/
theorem taken_by_name_lamp : ∃ c s' c',
    (emitChanges (calls 1) 0 [("level", .bool true)] false).run (watched .lamp) =
      some (.done, s') ∧
    s'.consumed.get? 0 = some c' ∧
    lamp.Updated (watched .lamp) s' c c'
      [⟨"level", .bool true, .ofNative (.bool true) (some {})⟩] := by
  have hreads : lamp.ReadsBack
      (.remembered 0 [⟨"level", .bool true, .ofNative (.bool true) (some {})⟩]) := by
    intro changes h
    obtain ⟨-, rfl⟩ := Moment.remembered.inj h
    exact ⟨by cbv, List.forall_mem_singleton.2 (by cbv)⟩
  obtain ⟨t, c, ht, -, hbatch, -⟩ := taken_by_name (joined_watched rfl) (passive_watched .lamp)
    (by decide) (by decide) 0
  obtain rfl := Option.some.inj ht
  have hchanges : ExposedThing.changes .lamp false [("level", .bool true)]
      { device := "", description := 0, output := .bus 0 "lamp" } =
      [⟨"level", .bool true, .ofNative (.bool true) (some {})⟩] := rfl
  obtain ⟨s', c', hrun, hget, hupdated, -⟩ := hbatch _ false _ hchanges (List.cons_ne_nil _ _)
  exact ⟨c, s', c', hrun, hget, hupdated rfl hreads⟩

/-- A lamp with a property that has the name of batches. -/
def lampWithProperty : ThingDescription :=
  { context := [], id := "lamp", properties := ⟨[("level", {}), (Topic.batchName, {})]⟩ }

/-- A lamp with an event that has the name of batches. -/
def lampWithEvent : ThingDescription :=
  { context := [], id := "lamp"
    properties := ⟨[("level", {})]⟩
    events := ⟨[(Topic.batchName, { data := {} })]⟩ }

/-- The level is sent, and another property gets a value instead. An event is sent, and the level
    gets a value. There were no values before. -/
theorem taken_for_another :
    (∃ s' c', (Link.mk 0 0 0 lampWithProperty).Joined (watched lampWithProperty) ∧
      (Link.mk 0 0 0 lampWithProperty).Passive (watched lampWithProperty) ∧
      (emitChanges (calls 1) 0 [("level", .bool true)] false).run (watched lampWithProperty) =
        some (.done, s') ∧
      s'.consumed.get? 0 = some c' ∧ c'.values.get? "level" = none ∧
      (c'.values.get? Topic.batchName).isSome = true) ∧
    ∃ s' c', (Link.mk 0 0 0 lampWithEvent).Joined (watched lampWithEvent) ∧
      (Link.mk 0 0 0 lampWithEvent).Passive (watched lampWithEvent) ∧
      (emitEvent (calls 1) 0 Topic.batchName (.object [("level", .bool true)])).run
        (watched lampWithEvent) = some (.done, s') ∧
      s'.consumed.get? 0 = some c' ∧
      (c'.values.get? "level").map (·.value) = some (.bool true) := by
  constructor
  · have hchanges : ExposedThing.changes lampWithProperty false [("level", .bool true)]
        { device := "", description := 0, output := .bus 0 "lamp" } =
        [⟨"level", .bool true, .ofNative (.bool true) (some {})⟩] := rfl
    obtain ⟨s', hrun, hkept, htold⟩ := (joined_watched rfl).exists_run_emitChanges
      (passive_watched lampWithProperty) (by decide) (by decide) rfl rfl 0 hchanges
      (List.cons_ne_nil _ _)
    have hmistaken := mistaken_of_told rfl htold
    refine ⟨s', _, joined_watched rfl, passive_watched _, hrun, hkept, ?_, ?_⟩
    · rw [hmistaken.others "level" (by decide)]
      rfl
    · rw [hmistaken.whole rfl]
      rfl
  · have hname : lampWithEvent.events.contains Topic.batchName = true := rfl
    obtain ⟨s', hrun, hkept⟩ := (joined_watched rfl).exists_run_emitEvent
      (passive_watched lampWithEvent) (by decide) (by decide) rfl rfl 0 hname
      (.object [("level", .bool true)])
    refine ⟨s', _, joined_watched rfl, passive_watched _, hrun, hkept, ?_⟩
    have hread : Json.read? (Json.object [("level", .bool true)]).compact =
        some (.object [("level", .bool true)]) := by cbv
    have hlevel : Json.read? (Json.bool true).compact = some (.bool true) := by cbv
    rw [ConsumedThing.get?_keepAll_batch rfl rfl, hread]
    exact congrArg some (Snapshot.value_ofNative hlevel _)

end Link

end WebOfThings
