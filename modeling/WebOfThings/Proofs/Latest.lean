import Mathlib
import WebOfThings.Proofs.Namesakes

/-!
# The value that arrived last

A consumed thing keeps one value under each name, whatever brought it. An arrival, which is a
payload under a name, is relevant for that name if a property or an event has it; and an arrival
that is taken for a batch is relevant for each declared property that has an entry in it
(`Arrival.Relevant`). What it brings then depends on which of the two it is, and on whether there is
an event of the name (`Arrival.Brings`).

* `reads_latest`: after any arrivals, what is read under a name is what the last relevant one
  brought, and nothing if there was none.
* `carries_schema_iff`: so the value that is read of a property carries the schema of the
  property, unless it came alone and an event of the name has another.
-/

namespace WebOfThings

open Run

namespace Snapshot

@[simp] theorem schema_ofWire (encoded : Bytes) (schema : Option DataSchema) :
    (ofWire encoded schema).schema = schema := by
  unfold ofWire
  split <;> rfl

@[simp] theorem schema_ofNative (v : Json) (schema : Option DataSchema) :
    (ofNative v schema).schema = schema := by
  unfold ofNative ofEncoding
  dsimp only
  split <;> rfl

/-- What does not decode to an object is marked where it does not decode at all, or an object was
    expected. -/
theorem clean_ofWire_iff {encoded : Bytes}
    (h : ∀ members, Json.read? encoded ≠ some (.object members)) (schema : DataSchema) :
    (ofWire encoded (some schema)).clean = false ↔
      ∀ v, Json.read? encoded = some v → schema.dataType = some .object := by
  unfold ofWire
  cases hread : Json.read? encoded with
  | none => simp
  | some v =>
    have hobject : v.isObject = false := by
      cases v with
      | object members => exact absurd hread (h members)
      | _ => rfl
    simp [hobject]

end Snapshot

/-! ## What arrives -/

/-- What is handed to a consumed thing. -/
structure Arrival where
  /-- The name that it comes under. -/
  name : String
  /-- What comes. -/
  payload : Bytes

namespace Arrival

variable (d : ThingDescription) (n : String) (a : Arrival)

/-- An arrival has an entry of a name, if it is taken for a batch: it comes under the name of
    batches, which no property has, and decodes to an object that has a member of the name. -/
def HasEntry (v : Json) : Prop :=
  a.name = Topic.batchName ∧ d.propertySchema? Topic.batchName = none ∧
    ∃ members, Json.read? a.payload = some (.object members) ∧ Members.get? n members = some v

/-- An arrival is relevant for a name: it comes under that name and a property or an event has it,
    or it has an entry of that name and a property has it. -/
def Relevant : Prop :=
  (a.name = n ∧ ((d.propertySchema? n).isSome = true ∨ (d.events.get? n).isSome = true)) ∨
    (∃ v, a.HasEntry d n v) ∧ (d.propertySchema? n).isSome = true

/-- What an arrival brings under a name. -/
inductive Brings : Snapshot → Prop
  /-- The data of the event of the name. -/
  | event {e : Event} (named : a.name = n) (declared : d.events.get? n = some e) :
    Brings (.ofWire a.payload (some e.data))
  /-- The value of the property of the name, if there is no such event. -/
  | property {schema : DataSchema} (named : a.name = n) (unmatched : d.events.get? n = none)
    (declared : d.propertySchema? n = some schema) : Brings (.ofWire a.payload (some schema))
  /-- The entry of the name. -/
  | entry {schema : DataSchema} {v : Json} (listed : a.HasEntry d n v)
    (declared : d.propertySchema? n = some schema) : Brings (.ofNative v (some schema))

variable {d n a}

theorem relevant_iff : a.Relevant d n ↔ ∃ value, a.Brings d n value := by
  constructor
  · rintro (⟨named, hdeclared⟩ | ⟨⟨v, listed⟩, hdeclared⟩)
    · cases hevent : d.events.get? n with
      | some e => exact ⟨_, .event named hevent⟩
      | none =>
        simp only [hevent, Option.isSome_none, Bool.false_eq_true, or_false] at hdeclared
        obtain ⟨schema, declared⟩ := Option.isSome_iff_exists.1 hdeclared
        exact ⟨_, .property named hevent declared⟩
    · obtain ⟨schema, declared⟩ := Option.isSome_iff_exists.1 hdeclared
      exact ⟨_, .entry listed declared⟩
  · rintro ⟨value, h⟩
    cases h with
    | event named declared => exact .inl ⟨named, .inr (by simp [declared])⟩
    | property named _ declared => exact .inl ⟨named, .inl (by simp [declared])⟩
    | entry listed declared => exact .inr ⟨⟨_, listed⟩, by simp [declared]⟩

/-- What comes under a name that is not declared, and is no batch with entries, is not relevant for
    any name. -/
theorem not_relevant_of_undeclared (hevent : d.events.get? a.name = none)
    (hproperty : d.propertySchema? a.name = none)
    (hbatch : a.name = Topic.batchName → ∀ members, Json.read? a.payload ≠ some (.object members)) :
    ¬ a.Relevant d n := by
  rintro (⟨rfl, hdeclared⟩ | ⟨⟨v, hname, -, members, hread, -⟩, -⟩)
  · simp [hevent, hproperty] at hdeclared
  · exact hbatch hname members hread

variable {value : Snapshot} {schema : DataSchema}

/-- What an arrival brings carries the schema of the property of the name, unless it came under the
    name itself, and the data of an event of the name has another. -/
theorem Brings.schema_iff (h : a.Brings d n value) (hschema : d.propertySchema? n = some schema) :
    value.schema = some schema ↔
      ∀ e, a.name = n → d.events.get? n = some e → e.data = schema := by
  cases h with
  | event named declared => simp [named, declared]
  | property named unmatched declared =>
    obtain rfl := Option.some.inj (hschema.symm.trans declared)
    simp [unmatched]
  | entry listed declared =>
    -- no property has the name of batches, so what comes under it is not the property itself
    have hne : a.name ≠ n := fun he => by simp [← he, listed.1, listed.2.1] at declared
    obtain rfl := Option.some.inj (hschema.symm.trans declared)
    simp [hne]

/-- Where an object is expected and something else comes under the name itself, it is marked unless
    it can be decoded and the data of an event of the name is not expected to be an object. -/
theorem Brings.clean_iff (h : a.Brings d n value) (hschema : d.propertySchema? n = some schema)
    (named : a.name = n) (htype : schema.dataType = some .object)
    (hobject : ∀ members, Json.read? a.payload ≠ some (.object members)) :
    value.clean = false ↔ ∀ e, d.events.get? n = some e →
      ∀ v, Json.read? a.payload = some v → e.data.dataType = some .object := by
  cases h with
  | event named declared => simp [Snapshot.clean_ofWire_iff hobject, declared]
  | property named unmatched declared =>
    obtain rfl := Option.some.inj (hschema.symm.trans declared)
    simp [Snapshot.clean_ofWire_iff hobject, unmatched, htype]
  | entry listed declared => simp [← named, listed.1, listed.2.1] at declared

end Arrival

namespace ConsumedThing

variable {d : ThingDescription} {n : String} {a : Arrival} {c : ConsumedThing}

/-- What a thing makes of an arrival. -/
def made (d : ThingDescription) (a : Arrival) : List Delivery := deliveries d a.name a.payload

/-- Whatever is made of an arrival, the arrival is relevant for its name. -/
theorem relevant_of_mem_made {x : Delivery} (h : x ∈ made d a) : a.Relevant d x.name := by
  rcases List.mem_append.1 h with h | h
  · unfold propertyDeliveries at h
    split at h
    · next schema hschema =>
      obtain rfl := List.mem_singleton.1 h
      exact .inl ⟨rfl, .inl (by simp [hschema])⟩
    · next hnone =>
      split at h
      · next hbatch =>
        obtain ⟨⟨name, value⟩, hmem, hx⟩ := List.mem_filterMap.1 h
        obtain ⟨schema, hschema, rfl⟩ := Option.map_eq_some_iff.1 hx
        -- only an object has members
        cases hread : Json.read? a.payload with
        | none => simp [hread] at hmem
        | some v =>
          cases v with
          | object members =>
            have hget := Members.get?_eq_some_of_mem (Json.sorted_of_read? hread).nodup
              (show (name, value) ∈ members by simpa [hread, Json.members] using hmem)
            exact .inr ⟨⟨value, hbatch, hbatch ▸ hnone, members, hread, hget⟩, by simp [hschema]⟩
          | _ => simp [hread, Json.members] at hmem
      · contradiction
  · unfold eventDeliveries at h
    split at h
    · next e he =>
      obtain rfl := List.mem_singleton.1 h
      exact .inl ⟨rfl, .inr (by simp [he])⟩
    · contradiction

/-- Of an arrival that is not relevant for any name nothing is made. -/
theorem made_eq_nil (h : ∀ n, ¬ a.Relevant d n) : made d a = [] :=
  List.eq_nil_iff_forall_not_mem.2 fun _ hx => h _ (relevant_of_mem_made hx)

/-- What an arrival brings under a name is kept there. -/
theorem get?_keepAll_of_brings {value : Snapshot} (h : a.Brings d n value) :
    (c.keepAll (made d a)).values.get? n = some value := by
  cases h with
  | event named declared =>
    -- the data of the event comes last, so it replaces the value of a property of the name
    subst named
    rw [made, deliveries, keepAll_append, eventDeliveries, declared]
    simp [keepAll, NameMap.get?_insert]
  | property named unmatched declared =>
    subst named
    rw [made, deliveries, propertyDeliveries_of_declared declared, eventDeliveries, unmatched]
    simp [keepAll, NameMap.get?_insert]
  | entry listed declared =>
    obtain ⟨hname, hfree, members, hread, hget⟩ := listed
    rw [made, hname, get?_keepAll_batch hfree declared, hread]
    simp [Json.get?, Json.members, hget]

/-- Keeps what is made of arrivals, one after another. -/
def heard (d : ThingDescription) (arrivals : List Arrival) (c : ConsumedThing) : ConsumedThing :=
  c.keepAll (arrivals.flatMap (made d))

theorem heard_append (arrivals arrivals' : List Arrival) :
    c.heard d (arrivals ++ arrivals') = (c.heard d arrivals).heard d arrivals' := by
  simp [heard, keepAll_append]

theorem heard_singleton (a : Arrival) : c.heard d [a] = c.keepAll (made d a) := by
  simp [heard]

/-- Arrivals that are not relevant for a name leave what is kept there. -/
theorem get?_heard_of_not_relevant {arrivals : List Arrival}
    (h : ∀ a ∈ arrivals, ¬ a.Relevant d n) :
    (c.heard d arrivals).values.get? n = c.values.get? n := by
  refine get?_keepAll_of_ne fun x hx he => ?_
  obtain ⟨a, ha, hx⟩ := List.mem_flatMap.1 hx
  exact h a ha (he ▸ relevant_of_mem_made hx)

/-- Of arrivals none is relevant for a name, or there is the last one that is. -/
theorem not_relevant_or_last (d : ThingDescription) (n : String) (arrivals : List Arrival) :
    (∀ a ∈ arrivals, ¬ a.Relevant d n) ∨
    ∃ before a after value, arrivals = before ++ a :: after ∧ a.Brings d n value ∧
      ∀ b ∈ after, ¬ b.Relevant d n := by
  induction arrivals using List.reverseRecOn with
  | nil => exact .inl fun _ ha => absurd ha List.not_mem_nil
  | append_singleton arrivals a ih =>
    by_cases ha : a.Relevant d n
    · obtain ⟨value, hbrings⟩ := Arrival.relevant_iff.1 ha
      exact .inr ⟨arrivals, a, [], value, rfl, hbrings, fun _ hb => absurd hb List.not_mem_nil⟩
    · rcases ih with hnone | ⟨before, b, after, value, rfl, hbrings, hafter⟩
      · refine .inl fun b hb => ?_
        rcases List.mem_append.1 hb with hb | hb
        · exact hnone b hb
        · exact List.mem_singleton.1 hb ▸ ha
      · refine .inr ⟨before, b, after ++ [a], value, by simp, hbrings, fun x hx => ?_⟩
        rcases List.mem_append.1 hx with hx | hx
        · exact hafter x hx
        · exact List.mem_singleton.1 hx ▸ ha

/-- What the last relevant arrival brought is kept. -/
theorem get?_heard_of_last {before after : List Arrival} {value : Snapshot}
    (hbrings : a.Brings d n value) (hafter : ∀ b ∈ after, ¬ b.Relevant d n) :
    (c.heard d (before ++ a :: after)).values.get? n = some value := by
  rw [show before ++ a :: after = before ++ [a] ++ after by simp, heard_append, heard_append,
    get?_heard_of_not_relevant hafter, heard_singleton, get?_keepAll_of_brings hbrings]

theorem read_eq_ok_iff {value : Snapshot} :
    c.read d n = .ok value ↔ c.values.get? n = some value := by
  rw [read]
  cases c.values.get? n <;> simp

theorem read_eq_notFound_iff :
    (∃ info, c.read d n = .error ⟨.notFound, info⟩) ↔ c.values.get? n = none := by
  rw [read]
  cases c.values.get? n <;> simp

section

variable (hvalues : c.values = {}) (arrivals : List Arrival)
include hvalues

/-- A thing that had no values reads what the last relevant arrival brought. -/
theorem read_heard_eq_ok_iff {value : Snapshot} :
    (c.heard d arrivals).read d n = .ok value ↔
      ∃ before a after, arrivals = before ++ a :: after ∧ a.Brings d n value ∧
        ∀ b ∈ after, ¬ b.Relevant d n := by
  rw [read_eq_ok_iff]
  constructor
  · intro hget
    rcases not_relevant_or_last d n arrivals with
      hnone | ⟨before, a, after, last, rfl, hbrings, hafter⟩
    · rw [get?_heard_of_not_relevant hnone, hvalues] at hget
      contradiction
    · rw [get?_heard_of_last hbrings hafter] at hget
      exact ⟨before, a, after, rfl, Option.some.inj hget ▸ hbrings, hafter⟩
  · rintro ⟨before, a, after, rfl, hbrings, hafter⟩
    exact get?_heard_of_last hbrings hafter

/-- It finds no value to read if and only if no arrival was relevant. -/
theorem read_heard_eq_notFound_iff :
    (∃ info, (c.heard d arrivals).read d n = .error ⟨.notFound, info⟩) ↔
      ∀ a ∈ arrivals, ¬ a.Relevant d n := by
  rw [read_eq_notFound_iff]
  constructor
  · intro hget
    rcases not_relevant_or_last d n arrivals with
      hnone | ⟨before, a, after, last, rfl, hbrings, hafter⟩
    · exact hnone
    · rw [get?_heard_of_last hbrings hafter] at hget
      contradiction
  · intro hnone
    rw [get?_heard_of_not_relevant hnone, hvalues]
    rfl

end

end ConsumedThing

/-! ## Handlers that leave the thing alone -/

/-- A consumed thing and the descriptions are what they were. -/
structure Site.Spared (i : ConsumedRef) (s s' : Site) : Prop where
  /-- The thing is. -/
  thing : s'.consumed.get? i = s.consumed.get? i
  /-- The descriptions are. -/
  catalogue : s'.catalogue = s.catalogue

/-- A handler that is called returns, and did not call back into a consumed thing: the thing is what
    it was. -/
def Call.Spares (call : Call) (i : ConsumedRef) (h : Handler) : Prop :=
  ∀ o s, ∃ outcome s', (call h o).run s = some (outcome, s') ∧ s.Spared i s'

/-- A handler that does not act is one. -/
theorem Run.calls_spares {h : Handler} (passive : h.acts = []) (depth : Nat) (i : ConsumedRef) :
    Call.Spares (calls (depth + 1)) i h :=
  fun o s => ⟨_, _, run_calls_of_passive passive depth o s, rfl, rfl⟩

/-- The handlers of a thing leave it alone. -/
def ConsumedThing.Spared (call : Call) (i : ConsumedRef) (c : ConsumedThing) : Prop :=
  ∀ x h, c.handler? x = some h → call.Spares i h

/-- The consumed thing of the lamp, whose observer does not act, leaves it alone. -/
theorem Link.exists_spared_watched {d : ThingDescription} (hd : d.id = "lamp") :
    ∃ c, (Link.watched d).consumed.get? 0 = some c ∧
      (Link.watched d).catalogue.get? c.description = some d ∧ c.values = {} ∧
      c.Spared (calls 1) 0 := by
  have hreceiver : (Link.watched d).Passive (.events 0) :=
    Link.passive_watched d _ ⟨{}, rfl, rfl, rfl⟩ (Topic.events "lamp", .events 0) (by simp)
  obtain ⟨hpassive, -⟩ := (Link.joined_watched hd).passive_consumed rfl hreceiver
  exact ⟨_, rfl, rfl, rfl, fun x h hh => calls_spares (hpassive x h hh) 0 0⟩

/-! ## Arrivals one after another -/

/-- Hands arrivals to a consumed thing, one after another. -/
def Run.receiveAll (call : Call) (i : ConsumedRef) (arrivals : List Arrival) : Run Unit :=
  arrivals.forM fun a => receive call i a.name a.payload

namespace Run

variable {call : Call} {i : ConsumedRef} {s : Site} {c : ConsumedThing} {d : ThingDescription}

/-- A delivery is kept, and the handlers that are told of it change nothing about that. -/
theorem exists_run_deliver (hc : s.consumed.get? i = some c) (spared : c.Spared call i)
    (x : Delivery) : ∃ s', (deliver call i x).run s = some (.unit, s') ∧
      s'.consumed.get? i = some (c.keep x) ∧ s'.catalogue = s.catalogue := by
  have hget : (s.keep i x).consumed.get? i = some (c.keep x) := by
    simp [Site.keep, Table.get?_update, hc]
  have hkept : (consumed i).run (s.keep i x) = some (c.keep x, s.keep i x) := by simp [hget]
  rw [run_deliver_eq, run_bind_of_run hkept, show (c.keep x).handler? x = c.handler? x from rfl]
  cases hh : c.handler? x with
  | none => exact ⟨_, rfl, hget, rfl⟩
  | some h =>
    obtain ⟨outcome, s', hrun, hspared⟩ := spared x h hh (.notice x.name x.value) (s.keep i x)
    exact ⟨s', run_discard_eq_some.2 ⟨outcome, hrun⟩, hspared.thing.trans hget, hspared.catalogue⟩

/-- So are deliveries, one after another. -/
theorem exists_run_forM_deliver (hc : s.consumed.get? i = some c) (spared : c.Spared call i)
    (l : List Delivery) : ∃ s', (l.forM (deliver call i)).run s = some (.unit, s') ∧
      s'.consumed.get? i = some (c.keepAll l) ∧ s'.catalogue = s.catalogue := by
  induction l generalizing s c with
  | nil => exact ⟨s, rfl, hc, rfl⟩
  | cons x l ih =>
    obtain ⟨s₁, hrun, hget, hcatalogue⟩ := exists_run_deliver hc spared x
    -- to keep a value leaves the handlers as they are
    obtain ⟨s₂, hruns, hgets, hcatalogues⟩ := ih hget spared
    refine ⟨s₂, ?_, hgets, hcatalogues.trans hcatalogue⟩
    rw [List.forM_eq_forM, List.forM_cons, run_bind_of_run hrun]
    exact hruns

/-- What is handed to a thing is made into deliveries, which are kept. -/
theorem exists_run_receiveAll (hc : s.consumed.get? i = some c)
    (hd : s.catalogue.get? c.description = some d) (spared : c.Spared call i)
    (arrivals : List Arrival) : ∃ s', (receiveAll call i arrivals).run s = some (.unit, s') ∧
      s'.consumed.get? i = some (c.heard d arrivals) ∧ s'.catalogue = s.catalogue := by
  induction arrivals generalizing s c with
  | nil => exact ⟨s, rfl, hc, rfl⟩
  | cons a arrivals ih =>
    obtain ⟨s₁, hrun, hget, hcatalogue⟩ :=
      exists_run_forM_deliver hc spared (ConsumedThing.made d a)
    have hreceive : (receive call i a.name a.payload).run s = some (.unit, s₁) := by
      rw [receive, run_of_consumed hc hd]
      exact hrun
    obtain ⟨s₂, hruns, hgets, hcatalogues⟩ := ih hget (hcatalogue ▸ hd) spared
    refine ⟨s₂, ?_, ?_, hcatalogues.trans hcatalogue⟩
    · rw [receiveAll, List.forM_eq_forM, List.forM_cons, run_bind_of_run hreceive]
      exact hruns
    · rw [hgets, show a :: arrivals = [a] ++ arrivals from rfl, ConsumedThing.heard_append,
        ConsumedThing.heard_singleton]

/-- An arrival that is not relevant for any name changes nothing, and nobody is told of it. -/
theorem run_receive_of_not_relevant (hc : s.consumed.get? i = some c)
    (hd : s.catalogue.get? c.description = some d) {a : Arrival} (h : ∀ n, ¬ a.Relevant d n) :
    (receive call i a.name a.payload).run s = some (.unit, s) := by
  rw [receive, run_of_consumed hc hd,
    show ConsumedThing.deliveries d a.name a.payload = [] from ConsumedThing.made_eq_nil h]
  rfl

end Run

section

variable {call : Call} {i : ConsumedRef} {s : Site} {c : ConsumedThing} {d : ThingDescription}
  (hc : s.consumed.get? i = some c) (hd : s.catalogue.get? c.description = some d)
  (hvalues : c.values = {}) (spared : c.Spared call i) (arrivals : List Arrival)
include hc hd hvalues spared

/-- A thing that had no values is handed arrivals, and its handlers leave it alone. Then what is
    read under a name is what the last arrival brought that was relevant for the name, and nothing
    if there was none. What is not declared, and a batch that is no object, changes nothing. -/
theorem reads_latest : ∃ s' c', (receiveAll call i arrivals).run s = some (.unit, s') ∧
    s'.consumed.get? i = some c' ∧
    (∀ n, (∀ value, c'.read d n = .ok value ↔
        ∃ before a after, arrivals = before ++ a :: after ∧ a.Brings d n value ∧
          ∀ b ∈ after, ¬ b.Relevant d n) ∧
      ((∃ info, c'.read d n = .error ⟨.notFound, info⟩) ↔ ∀ a ∈ arrivals, ¬ a.Relevant d n)) ∧
    ∀ name payload, d.events.get? name = none → d.propertySchema? name = none →
      (name = Topic.batchName → ∀ members, Json.read? payload ≠ some (.object members)) →
      (receive call i name payload).run s' = some (.unit, s') := by
  obtain ⟨s', hrun, hget, hcatalogue⟩ := exists_run_receiveAll hc hd spared arrivals
  refine ⟨s', _, hrun, hget, fun n => ⟨fun value => ?_, ?_⟩, fun name payload he hp hbatch => ?_⟩
  · exact ConsumedThing.read_heard_eq_ok_iff hvalues arrivals
  · exact ConsumedThing.read_heard_eq_notFound_iff hvalues arrivals
  · exact run_receive_of_not_relevant (a := ⟨name, payload⟩) hget (hcatalogue ▸ hd)
      fun n => Arrival.not_relevant_of_undeclared he hp hbatch

omit hc hd hvalues spared in
/-- The level of the lamp comes alone, and then in a batch, which is what is read of it. Something
    that is not declared comes last. The power never came. -/
theorem reads_latest_lamp : ∃ s' c', (receiveAll (calls 1) 0
      [⟨"level", (Json.bool false).compact⟩,
        ⟨Topic.batchName, (Json.object [("level", .bool true)]).compact⟩,
        ⟨"colour", (Json.bool true).compact⟩]).run (Link.watched .lamp) = some (.unit, s') ∧
    s'.consumed.get? 0 = some c' ∧
    c'.read .lamp "level" = .ok (.ofNative (.bool true) (some {})) ∧
    ∃ info, c'.read .lamp "power" = .error ⟨.notFound, info⟩ := by
  obtain ⟨c, hc, hd, hvalues, spared⟩ := Link.exists_spared_watched (d := .lamp) rfl
  have hread : Json.read? (Json.object [("level", .bool true)]).compact =
      some (.object [("level", .bool true)]) := by cbv
  obtain ⟨s', c', hrun, hget, hreads, -⟩ := reads_latest hc hd hvalues spared
    [⟨"level", (Json.bool false).compact⟩,
      ⟨Topic.batchName, (Json.object [("level", .bool true)]).compact⟩,
      ⟨"colour", (Json.bool true).compact⟩]
  have hcolour : ∀ n, ¬ Arrival.Relevant .lamp n ⟨"colour", (Json.bool true).compact⟩ :=
    fun n => Arrival.not_relevant_of_undeclared rfl rfl fun h => absurd h (by decide)
  refine ⟨s', c', hrun, hget, ((hreads "level").1 _).2 ⟨[_], _, [_], rfl,
    .entry ⟨rfl, rfl, _, hread, rfl⟩ rfl, ?_⟩, (hreads "power").2.2 ?_⟩
  · exact fun b hb => List.mem_singleton.1 hb ▸ hcolour "level"
  · rintro a ha (⟨hname, -⟩ | ⟨⟨v, hname, -, members, hmembers, hget⟩, -⟩)
    · simp only [List.mem_cons, List.not_mem_nil, or_false] at ha
      rcases ha with rfl | rfl | rfl <;> exact absurd hname (by decide)
    · simp only [List.mem_cons, List.not_mem_nil, or_false] at ha
      rcases ha with rfl | rfl | rfl
      · exact absurd hname (by decide)
      · obtain rfl := Json.object.inj (Option.some.inj (hread.symm.trans hmembers))
        contradiction
      · exact absurd hname (by decide)

/-- Of a declared property nothing is read where no arrival was relevant for it. Otherwise the value
    that is read carries the schema of the property if and only if the last relevant arrival came in
    a batch, or there is no event of the name with another schema. Where the property is an object
    and something else came alone, the value is marked if and only if it could not be decoded, or
    there is no event of the name that expects something else. -/
theorem carries_schema_iff : ∃ s' c', (receiveAll call i arrivals).run s = some (.unit, s') ∧
    s'.consumed.get? i = some c' ∧
    ∀ p schema, d.propertySchema? p = some schema →
      ((∀ value, c'.read d p ≠ .ok value) ∧ ∀ a ∈ arrivals, ¬ a.Relevant d p) ∨
      ∃ before a after value, arrivals = before ++ a :: after ∧
        a.Relevant d p ∧ (∀ b ∈ after, ¬ b.Relevant d p) ∧ c'.read d p = .ok value ∧
        (value.schema = some schema ↔
          ∀ e, a.name = p → d.events.get? p = some e → e.data = schema) ∧
        (a.name = p → schema.dataType = some .object →
          (∀ members, Json.read? a.payload ≠ some (.object members)) →
          (value.clean = false ↔ ∀ e, d.events.get? p = some e →
            ∀ v, Json.read? a.payload = some v → e.data.dataType = some .object)) := by
  obtain ⟨s', hrun, hget, -⟩ := exists_run_receiveAll hc hd spared arrivals
  refine ⟨s', _, hrun, hget, fun p schema hschema => ?_⟩
  rcases ConsumedThing.not_relevant_or_last d p arrivals with
    hnone | ⟨before, a, after, value, rfl, hbrings, hafter⟩
  · refine .inl ⟨fun value hread => ?_, hnone⟩
    rw [ConsumedThing.read_eq_ok_iff, ConsumedThing.get?_heard_of_not_relevant hnone,
      hvalues] at hread
    contradiction
  · exact .inr ⟨before, a, after, value, rfl, Arrival.relevant_iff.2 ⟨value, hbrings⟩, hafter,
      ConsumedThing.read_eq_ok_iff.2 (ConsumedThing.get?_heard_of_last hbrings hafter),
      hbrings.schema_iff hschema, hbrings.clean_iff hschema⟩

end

/-- A lamp whose level is an object, with events. -/
def lampWith (events : NameMap Event) : ThingDescription :=
  { context := [], id := "lamp"
    properties := ⟨[("level", { schema := { dataType := some .object } })]⟩
    events }

/-- A level that came alone and is no object carries the schema of the level, and is marked. -/
theorem carries_schema_iff_lamp : ∃ s' c' value,
    (receiveAll (calls 1) 0 [⟨"level", (Json.bool true).compact⟩]).run
      (Link.watched (lampWith {})) = some (.unit, s') ∧
    s'.consumed.get? 0 = some c' ∧ c'.read (lampWith {}) "level" = .ok value ∧
    value.schema = some { dataType := some .object } ∧ value.clean = false := by
  obtain ⟨c, hc, hd, hvalues, spared⟩ := Link.exists_spared_watched (d := lampWith {}) rfl
  have hread : Json.read? (Json.bool true).compact = some (.bool true) := by cbv
  obtain ⟨s', c', hrun, hget, hcarries⟩ := carries_schema_iff hc hd hvalues spared
    [⟨"level", (Json.bool true).compact⟩]
  rcases hcarries "level" _ rfl with
    ⟨-, hnone⟩ | ⟨before, a, after, value, hsplit, -, -, hvalue, hschema, hclean⟩
  · exact absurd (.inl ⟨rfl, .inl rfl⟩) (hnone _ List.mem_cons_self)
  · obtain rfl : a = ⟨"level", (Json.bool true).compact⟩ := by
      have hmem : a ∈ before ++ a :: after := by simp
      rw [← hsplit] at hmem
      exact List.mem_singleton.1 hmem
    have hevent : (lampWith {}).events.get? "level" = none := rfl
    exact ⟨s', c', value, hrun, hget, hvalue, hschema.2 (by simp [hevent]),
      (hclean rfl rfl (by simp [hread])).2 (by simp [hevent])⟩

/-- An event that has the name of the level, and a truth value. -/
def levelEvent : NameMap Event := ⟨[("level", { data := { dataType := some .boolean } })]⟩

/-- An event of the name of the level has another schema. A level that comes alone carries that
    schema then, and though it is no object it is not marked. -/
theorem carries_schema_of_event : ∃ s' c' value,
    (receiveAll (calls 1) 0 [⟨"level", (Json.bool true).compact⟩]).run
      (Link.watched (lampWith levelEvent)) = some (.unit, s') ∧
    s'.consumed.get? 0 = some c' ∧ c'.read (lampWith levelEvent) "level" = .ok value ∧
    value.schema ≠ some { dataType := some .object } ∧ value.clean = true := by
  obtain ⟨c, hc, hd, -, spared⟩ := Link.exists_spared_watched (d := lampWith levelEvent) rfl
  have hread : Json.read? (Json.bool true).compact = some (.bool true) := by cbv
  have hevent : (lampWith levelEvent).events.get? "level" =
      some { data := { dataType := some .boolean } } := rfl
  have hbrings := Arrival.Brings.event (a := ⟨"level", (Json.bool true).compact⟩) rfl hevent
  have hlevel := ConsumedThing.get?_keepAll_of_brings (c := c) hbrings
  rw [← ConsumedThing.heard_singleton] at hlevel
  obtain ⟨s', hrun, hget, -⟩ := exists_run_receiveAll hc hd spared
    [⟨"level", (Json.bool true).compact⟩]
  refine ⟨s', _, _, hrun, hget, ConsumedThing.read_eq_ok_iff.2 hlevel, ?_, ?_⟩
  · rw [Snapshot.schema_ofWire]
    simp
  · simp [Snapshot.ofWire, hread]

end WebOfThings
