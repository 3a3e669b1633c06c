import Mathlib
import WebOfThings.Proofs.Latest

/-!
# Values alone and in batches

The new value of a property comes alone, under the name of the property, or in a batch, as the entry
of that name. Either way a consumed thing makes one delivery of it, for the same observer
(`Arrival.made_alone`, `Arrival.made_batched`). But what comes alone is held against the schema of
the property, and an entry of a batch is not: the deliveries are the same except for the mark of a
value that is no object though the schema expects one.

* `receive_alone_iff_batched`: so a value means the same either way if and only if it suits the
  schema.
-/

namespace WebOfThings

open Run

/-- A value is an object, if a schema expects one. -/
def DataSchema.suits (schema : DataSchema) (v : Json) : Bool :=
  schema.dataType ≠ some .object || v.isObject

theorem DataSchema.suits_iff {schema : DataSchema} {v : Json} :
    schema.suits v = true ↔ (schema.dataType = some .object → v.isObject = true) := by
  rw [suits, Bool.or_eq_true, decide_eq_true_iff, ← imp_iff_not_or]

namespace Snapshot

variable {v : Json} (hv : Json.read? v.compact = some v)
include hv

/-- What comes and reads back is marked unless it suits the schema. -/
theorem ofWire_of_readsBack (schema : DataSchema) :
    ofWire v.compact (some schema) = ⟨some schema, v.compact, v, schema.suits v⟩ := by
  rw [ofWire, hv]
  rfl

/-- A value at hand that reads back is not marked. -/
theorem ofNative_of_readsBack (schema : DataSchema) :
    ofNative v (some schema) = ⟨some schema, v.compact, v, true⟩ := by
  rw [ofNative, ofEncoding, hv]

end Snapshot

namespace Arrival

variable {d : ThingDescription} {p : String} {v : Json} {schema : DataSchema}
  (hschema : d.propertySchema? p = some schema)

/-- The value of a property, alone. -/
def alone (p : String) (v : Json) : Arrival := ⟨p, v.compact⟩

/-- The value of a property, in a batch of its own. -/
def batched (p : String) (v : Json) : Arrival := ⟨Topic.batchName, (Json.object [(p, v)]).compact⟩

include hschema

/-- Of a value alone one delivery is made, if no event has the name. -/
theorem made_alone (hv : Json.read? v.compact = some v) (hevent : d.events.get? p = none) :
    ConsumedThing.made d (alone p v) =
      [⟨.property, p, ⟨some schema, v.compact, v, schema.suits v⟩⟩] := by
  rw [ConsumedThing.made, ConsumedThing.deliveries, alone,
    ConsumedThing.propertyDeliveries_of_declared hschema, Snapshot.ofWire_of_readsBack hv,
    ConsumedThing.eventDeliveries, hevent]
  rfl

/-- Of a value in a batch one delivery is made, if nothing has the name of batches. -/
theorem made_batched (hv : Json.read? v.compact = some v)
    (hbatch : Json.read? (Json.object [(p, v)]).compact = some (.object [(p, v)]))
    (hproperty : d.propertySchema? Topic.batchName = none)
    (hevent : d.events.get? Topic.batchName = none) :
    ConsumedThing.made d (batched p v) =
      [⟨.property, p, ⟨some schema, v.compact, v, true⟩⟩] := by
  rw [ConsumedThing.made, ConsumedThing.deliveries, batched, ConsumedThing.propertyDeliveries,
    hproperty, ConsumedThing.eventDeliveries, hevent]
  simp [ConsumedThing.batchDeliveries, hbatch, Json.members, hschema,
    Snapshot.ofNative_of_readsBack hv]

end Arrival

namespace Run

variable {i : ConsumedRef} {s : Site} {c : ConsumedThing} {d : ThingDescription}
  (hc : s.consumed.get? i = some c)
include hc

/-- What one delivery is made of is received by delivering that. -/
theorem run_receive_of_made (hd : s.catalogue.get? c.description = some d) {a : Arrival}
    {x : Delivery} (h : ConsumedThing.made d a = [x]) (call : Call) :
    (receive call i a.name a.payload).run s = (deliver call i x).run s := by
  rw [receive, run_of_consumed hc hd, show ConsumedThing.deliveries d a.name a.payload = [x] from h,
    List.forM_eq_forM, List.forM_cons]
  exact congrArg (fun m : Run Unit => m.run s) (bind_pure _)

/-- Two deliveries for which the same is done, whatever handlers do, have the same value. -/
theorem value_eq_of_run_deliver {x y : Delivery} (hname : x.name = y.name)
    (h : ∀ call, (deliver call i x).run s = (deliver call i y).run s) : x.value = y.value := by
  -- handlers that do nothing show what is kept
  have spared : c.Spared (fun _ _ => pure .done) i := fun _ _ _ _ s => ⟨_, s, rfl, rfl, rfl⟩
  obtain ⟨s₁, hrun₁, hget₁, -⟩ := exists_run_deliver hc spared x
  obtain ⟨s₂, hrun₂, hget₂, -⟩ := exists_run_deliver hc spared y
  obtain rfl : s₁ = s₂ := by simpa [h, hrun₂] using hrun₁.symm
  have hkeep : c.keep x = c.keep y := Option.some.inj (hget₁.symm.trans hget₂)
  simpa [ConsumedThing.keep, NameMap.get?_insert, hname] using
    congrArg (fun c => c.values.get? x.name) hkeep

end Run

/-- A property that is not an event has a value that reads back, alone and in a batch, and nothing
    has the name of batches. Then the value alone and the batch are each one delivery for the
    observer of the property, with the same bytes, value and schema; in the batch the value is not
    marked, and alone it is marked unless it suits the schema. So the two are the same, whatever
    handlers do, if and only if the value is an object or none is expected. -/
theorem receive_alone_iff_batched {i : ConsumedRef} {s : Site} {c : ConsumedThing}
    {d : ThingDescription} {p : String} {v : Json} {schema : DataSchema}
    (hc : s.consumed.get? i = some c) (hd : s.catalogue.get? c.description = some d)
    (hschema : d.propertySchema? p = some schema) (hevent : d.events.get? p = none)
    (hproperties : d.propertySchema? Topic.batchName = none)
    (hevents : d.events.get? Topic.batchName = none) (hv : Json.read? v.compact = some v)
    (hbatch : Json.read? (Json.object [(p, v)]).compact = some (.object [(p, v)])) :
    (∀ call, (receive call i p v.compact).run s =
      (deliver call i ⟨.property, p, ⟨some schema, v.compact, v, schema.suits v⟩⟩).run s) ∧
    (∀ call, (receive call i Topic.batchName (Json.object [(p, v)]).compact).run s =
      (deliver call i ⟨.property, p, ⟨some schema, v.compact, v, true⟩⟩).run s) ∧
    ((∀ call, (receive call i p v.compact).run s =
        (receive call i Topic.batchName (Json.object [(p, v)]).compact).run s) ↔
      (schema.dataType = some .object → v.isObject = true)) := by
  have halone := run_receive_of_made hc hd (Arrival.made_alone hschema hv hevent)
  have hbatched := run_receive_of_made hc hd
    (Arrival.made_batched hschema hv hbatch hproperties hevents)
  refine ⟨halone, hbatched, ?_⟩
  rw [← DataSchema.suits_iff]
  constructor
  · intro h
    exact congrArg Snapshot.clean (value_eq_of_run_deliver hc
      (x := ⟨.property, p, ⟨some schema, v.compact, v, schema.suits v⟩⟩)
      (y := ⟨.property, p, ⟨some schema, v.compact, v, true⟩⟩) rfl fun call =>
        (halone call).symm.trans ((h call).trans (hbatched call)))
  · intro hsuits call
    rw [hsuits] at halone
    exact (halone call).trans (hbatched call).symm

/-- A level that is an object, as it should be, means the same alone and in a batch. -/
theorem receive_alone_iff_batched_lamp :
    (receive (calls 1) 0 "level" (Json.object [("on", .bool true)]).compact).run
        (Link.watched (lampWith {})) =
      (receive (calls 1) 0 Topic.batchName
        (Json.object [("level", .object [("on", .bool true)])]).compact).run
          (Link.watched (lampWith {})) := by
  obtain ⟨c, hc, hd, -⟩ := Link.exists_spared_watched (d := lampWith {}) rfl
  exact (receive_alone_iff_batched hc hd (p := "level") rfl rfl rfl rfl (by cbv) (by cbv)).2.2.2
    (fun _ => rfl) (calls 1)

/-- A level that is no object is marked if it comes alone, and not if it comes in a batch. -/
theorem marked_only_alone : ∃ s₁ s₂ c₁ c₂ x y,
    (receive (calls 1) 0 "level" (Json.bool true).compact).run (Link.watched (lampWith {})) =
      some (.unit, s₁) ∧
    (receive (calls 1) 0 Topic.batchName (Json.object [("level", .bool true)]).compact).run
      (Link.watched (lampWith {})) = some (.unit, s₂) ∧
    s₁.consumed.get? 0 = some c₁ ∧ s₂.consumed.get? 0 = some c₂ ∧
    c₁.values.get? "level" = some x ∧ c₂.values.get? "level" = some y ∧
    x.clean = false ∧ y.clean = true := by
  obtain ⟨c, hc, hd, -, spared⟩ := Link.exists_spared_watched (d := lampWith {}) rfl
  have hv : Json.read? (Json.bool true).compact = some (.bool true) := by cbv
  have hschema : (lampWith {}).propertySchema? "level" = some { dataType := some .object } := rfl
  have halone := run_receive_of_made hc hd (Arrival.made_alone hschema hv rfl) (calls 1)
  have hbatched := run_receive_of_made hc hd
    (Arrival.made_batched hschema hv (by cbv) rfl rfl) (calls 1)
  obtain ⟨s₁, hrun₁, hget₁, -⟩ := exists_run_deliver hc spared _
  obtain ⟨s₂, hrun₂, hget₂, -⟩ := exists_run_deliver hc spared _
  refine ⟨s₁, s₂, _, _, _, _, halone.trans hrun₁, hbatched.trans hrun₂, hget₁, hget₂,
    by rw [ConsumedThing.keep, NameMap.get?_insert, if_pos rfl],
    by rw [ConsumedThing.keep, NameMap.get?_insert, if_pos rfl], rfl, rfl⟩

end WebOfThings
