import WebOfThings.Proofs.Dispatch
import WebOfThings.Proofs.Moments

/-!
# Destroyed for good

An exposed thing that was destroyed has no handlers, and is given none afterwards. So it passes over
every request, whoever makes it and under whatever name, and so it stays (`Site.Change.destroyed`):
it does not matter what is set, emitted, described or published later, or that its subscription may
not have been ended.
-/

namespace WebOfThings

open Run

namespace ExposedThing

variable {t : ExposedThing} {d : ThingDescription} {name : String} {payload : Bytes}

theorem writeRequest_of_isDestroyed (ht : t.isDestroyed = true) :
    t.writeRequest d name payload = .pass := by
  have hnone : t.handlers = none := Option.isNone_iff_eq_none.1 ht
  simp only [writeRequest, hnone]

/-- A thing that was destroyed passes over requests of all names, declared or not. -/
theorem request_of_isDestroyed (ht : t.isDestroyed = true) :
    t.request d name payload = .pass := by
  have hnone : t.handlers = none := Option.isNone_iff_eq_none.1 ht
  simp only [request, hnone]
  split
  · exact writeRequest_of_isDestroyed ht
  · rfl

end ExposedThing

/-- An exposed thing is there, with its description, and was destroyed. -/
def Site.Destroyed (s : Site) (i : ExposedRef) : Prop :=
  ∃ t d, s.exposed.get? i = some t ∧ s.catalogue.get? t.description = some d ∧
    t.isDestroyed = true

section

variable {s s' : Site} {i : ExposedRef}

namespace Site.Destroyed

theorem of_same (h : s.Destroyed i) (he : s'.exposed = s.exposed)
    (hc : s'.catalogue = s.catalogue) : s'.Destroyed i := by
  obtain ⟨t, d, ht, hd, hdestroyed⟩ := h
  exact ⟨t, d, he ▸ ht, hc ▸ hd, hdestroyed⟩

/-- An exposed thing changes, and if it was destroyed it stays so. -/
theorem updateExposed (h : s.Destroyed i) (k : ExposedRef) (change : ExposedThing → ExposedThing)
    (hdescription : ∀ t, (change t).description = t.description)
    (hdestroyed : ∀ t, t.isDestroyed = true → (change t).isDestroyed = true) :
    Site.Destroyed { s with exposed := s.exposed.update k change } i := by
  obtain ⟨t, d, ht, hd, hdestroyed'⟩ := h
  simp only [Site.Destroyed, Table.get?_update, ht, Option.map_some]
  split
  · exact ⟨_, d, rfl, (hdescription t).symm ▸ hd, hdestroyed t hdestroyed'⟩
  · exact ⟨t, d, rfl, hd, hdestroyed'⟩

/-- No act gives a destroyed thing handlers. -/
theorem changed (h : s.Destroyed i) (o : Occasion) (a : Act) : (a.changed o s).Destroyed i := by
  cases a with
  | handleAction k | handleWrite k =>
    refine h.updateExposed k _ (fun _ => rfl) fun t ht => ?_
    simpa [ExposedThing.isDestroyed, ExposedThing.setActionHandler,
      ExposedThing.setWriteHandler] using ht
  | destroy k => exact h.updateExposed k _ (fun _ => rfl) fun _ _ => rfl
  | dismiss k =>
    simp only [Act.changed]
    split
    · next id _ =>
      refine h.of_same ?_ ?_ <;> simp only [Role.empty, Role.drop] <;> split <;> rfl
    · exact h
  | _ => exact h.of_same rfl rfl

end Site.Destroyed

/-- Nothing undoes that a thing was destroyed. -/
theorem Site.Change.destroyed {allowed : Occasion → Act → Prop} {told : ConsumedRef → Prop}
    (h : s.Change allowed told s') (hs : s.Destroyed i) : s'.Destroyed i := by
  cases h with
  | note | take | keep | bus => exact hs.of_same rfl rfl
  | remember k changes =>
    have hremembered := hs.updateExposed k (·.remember changes) (fun _ => rfl) fun _ ht => ht
    exact hremembered.of_same rfl rfl
  | act => exact hs.changed _ _
  | add role device ref id =>
    cases role with
    | consumed => exact hs.of_same rfl rfl
    | exposed =>
      obtain ⟨t, d, ht, hd, hdestroyed⟩ := hs
      exact ⟨t, d, Table.get?_add_of_get? ht _, hd, hdestroyed⟩
  | hold role k held =>
    cases role with
    | exposed => exact hs.updateExposed k _ (fun _ => rfl) fun _ ht => ht
    | consumed => exact hs.of_same rfl rfl
  | learn role => cases role <;> exact hs.of_same rfl rfl
  | drop role id =>
    refine hs.of_same ?_ ?_ <;> simp only [Role.drop] <;> split <;> cases role <;> rfl
  | empty role k =>
    cases role with
    | exposed => exact hs.updateExposed k _ (fun _ => rfl) fun _ _ => rfl
    | consumed => exact hs.of_same rfl rfl
  | describe ref change =>
    obtain ⟨t, d, ht, hd, hdestroyed⟩ := hs
    have hd' : ∃ d', (s.catalogue.update ref change).get? t.description = some d' := by
      rw [Table.get?_update, hd]
      split <;> exact ⟨_, rfl⟩
    obtain ⟨d', hd'⟩ := hd'
    exact ⟨t, d', ht, hd', hdestroyed⟩

/-- A thing is destroyed by dropping what it has, whether its factory does so or not. -/
theorem Site.Destroyed.of_empty {d : ThingDescription}
    (hd : Role.exposed.description? s i = some d) : (Role.exposed.empty i s).Destroyed i := by
  obtain ⟨t, ht, hd⟩ := Role.description?_exposed.1 hd
  exact ⟨t.destroy, d, by simp [Role.empty, Table.get?_update, ht], hd, rfl⟩

/-- Requests to a destroyed thing change nothing and call no handler. -/
theorem Site.Destroyed.run_request (h : s.Destroyed i) (call : Call) (name : String)
    (payload : Bytes) :
    (request call i name payload).run s = some (.done, s) ∧
      (writeRequest call i name payload).run s = some (.done, s) := by
  obtain ⟨t, d, ht, hd, hdestroyed⟩ := h
  constructor
  · rw [Run.run_request call name payload ht hd, ExposedThing.request_of_isDestroyed hdestroyed]
    rfl
  · rw [writeRequest, run_of_exposed ht hd, ExposedThing.writeRequest_of_isDestroyed hdestroyed]
    rfl

/-- Nor do messages that still reach it. -/
theorem Site.Destroyed.run_accept (h : s.Destroyed i) (call : Call) (m : Message) :
    (accept call m (.requests i)).run s = some (.unit, s) := by
  have hget : (get : Run Site).run s = some (s, s) := rfl
  rw [accept, run_bind_of_run hget]
  split
  · split
    · split
      · rw [run_discard_eq_some]
        exact ⟨_, (h.run_request call _ _).1⟩
      · rfl
    · rfl
  · rfl

end

/-- Once an exposed thing was destroyed, by itself or by its factory, then ever after, whatever is
    done and whoever is told of what: a request of any name and payload ends well and changes
    nothing, and a message that still reaches the thing changes nothing. So no handler is called,
    however handlers are called. -/
theorem destroyed_for_good {s s₁ : Site} {i : ExposedRef} {d : ThingDescription}
    (hd : Role.exposed.description? s i = some d) {u : Unit}
    (h : (updateExposed i (·.destroy)).run s = some (u, s₁) ∨ (retire i).run s = some (u, s₁)) :
    s₁.EverAfter (fun _ _ => True) (fun _ => True) fun s' => ∀ call : Call,
      (∀ name payload, (request call i name payload).run s' = some (.done, s') ∧
        (writeRequest call i name payload).run s' = some (.done, s')) ∧
      ∀ m, (accept call m (.requests i)).run s' = some (.unit, s') := by
  have hdestroyed : s₁.Destroyed i := by
    rcases h with h | h
    · obtain ⟨-, rfl⟩ := Prod.mk.inj (Option.some.inj h)
      exact .of_empty hd
    · obtain rfl := Role.eq_of_run_destroy (Role.id?_eq_some.2 ⟨d, hd, rfl⟩)
        (show (Role.exposed.destroy i).run s = some (u, s₁) from h)
      exact .of_empty (by rw [Role.description?_drop, hd])
  have hafter : s₁.EverAfter (fun _ _ => True) (fun _ => True) (Site.Destroyed · i) :=
    .of_change s₁.confined_true (fun _ _ _ _ _ => trivial) hdestroyed
      fun _ _ hchange hs => hchange.destroyed hs
  exact hafter.imp fun s' hs' call => ⟨hs'.run_request call, hs'.run_accept call⟩

/-- The lamp is exposed on a bus that does not let go of it. -/
def stuckLamp : Site :=
  { lampSite with
    device := { things := ⟨[("lamp", 0)]⟩ }
    buses := ⟨[{ medium := .process lampBus, faults := { unsubscribe := true } }]⟩ }

/-- Its factory destroys the lamp, but requests still reach it. It is given a handler of all writes,
    and asked to write its level: nothing comes of either. -/
theorem destroyed_for_good_lamp :
    ∃ s₁ s', (retire 0).run stuckLamp = some (.unit, s₁) ∧
      (([.operation (.carryOut "" (.request "" default) [.handleWrite 0 none "dim" []]),
          .publish 0 ⟨Topic.action "lamp" "level", Bytes.ofString "null"⟩] :
        List Happening).forM (·.run (calls 1))).run s₁ = some (.unit, s') ∧
      (s'.buses.get? 0).map Bus.subscriptions = some lampBus.subscriptions ∧
      (request (calls 1) 0 "level" (Bytes.ofString "null")).run s' = some (.done, s') ∧
      (accept (calls 1) ⟨Topic.action "lamp" "level", Bytes.ofString "null"⟩ (.requests 0)).run s' =
        some (.unit, s') := by
  obtain ⟨s₁, s', hretire, hrun, hsubs⟩ : ∃ s₁ s', (retire 0).run stuckLamp = some (.unit, s₁) ∧
      (([.operation (.carryOut "" (.request "" default) [.handleWrite 0 none "dim" []]),
          .publish 0 ⟨Topic.action "lamp" "level", Bytes.ofString "null"⟩] :
        List Happening).forM (·.run (calls 1))).run s₁ = some (.unit, s') ∧
      (s'.buses.get? 0).map Bus.subscriptions = some lampBus.subscriptions :=
    ⟨_, _, rfl, rfl, rfl⟩
  have hd : Role.exposed.description? stuckLamp 0 = some .lamp := rfl
  have hafter := destroyed_for_good hd (.inr hretire)
  have hlater := hafter.later 1 _ _ _ (fun _ _ _ _ => trivial) hrun
    fun _ _ _ _ _ _ _ _ _ => trivial
  obtain ⟨hrequest, haccept⟩ := hafter.holds s' hlater (calls 1)
  exact ⟨s₁, s', hretire, hrun, hsubs, (hrequest _ _).1, haccept _⟩

end WebOfThings
