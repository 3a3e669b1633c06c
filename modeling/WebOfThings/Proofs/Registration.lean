import Mathlib
import WebOfThings.Proofs.Latest

/-!
# Who is told

A consumed thing has at most one subscriber of an event and one observer of a property. Which one it
is follows from what was done with the thing so far: it is the one that was set last with success,
if neither it was taken away since nor the thing was stopped (`Registered`). To set one succeeds
only where none is registered, so the first one stays.

What one dealing does to the registers of a thing (`ConsumedThing.deal`) keeps them in step with its
dealings so far (`ConsumedThing.Holds.deal`), and so does every run of dealings.

* `registered_are_told`: after any run of dealings, a handler is refused if and only if there is one
  already, and one is taken away if and only if there is one. Each delivery is kept and then told to
  the handler that is registered for it, and to no other. Dealings of one kind of notice make no
  difference to those of the other.
-/

namespace WebOfThings

open Run

/-! ## Dealings -/

/-- What somebody does with a consumed thing at a time. -/
inductive Dealing
  /-- A handler is set. -/
  | subscribe (kind : NoticeKind) (name : String) (handler : Handler)
  /-- A handler is taken away. -/
  | unsubscribe (kind : NoticeKind) (name : String)
  /-- The thing is stopped. -/
  | stop
  /-- Something is handed to the thing. -/
  | receive (arrival : Arrival)

namespace Dealing

/-- Deals with a thing. -/
def run (call : Call) (i : ConsumedRef) : Dealing → Run ActResult
  | subscribe kind name h => .outcome <$> addHandler i kind name h
  | unsubscribe kind name => .found <$> removeHandler i kind name
  | stop => do
    updateConsumed i (·.stop)
    pure .silent
  | receive a => do
    Run.receive call i a.name a.payload
    pure .silent

/-- A dealing leaves a name without a handler. -/
def Undoes (kind : NoticeKind) (name : String) : Dealing → Prop
  | unsubscribe kind' name' => kind' = kind ∧ name' = name
  | stop => True
  | subscribe .. | receive _ => False

/-- Whether a dealing is about the handlers of a kind of notice, maybe among others. -/
def concerns (kind : NoticeKind) : Dealing → Bool
  | subscribe kind' .. | unsubscribe kind' _ => kind' = kind
  | stop | receive _ => true

end Dealing

/-- Dealings with a thing and what came of them, the first one first. -/
abbrev Dealings := List (Dealing × ActResult)

/-- Deals with a thing again and again, and tells what came of it. -/
def Run.dealAll (call : Call) (i : ConsumedRef) : List Dealing → Run Dealings
  | [] => pure []
  | u :: rest => do
    let result ← u.run call i
    let dealings ← dealAll call i rest
    pure ((u, result) :: dealings)

/-- A handler is registered: it was set with success, and no dealing since then undid that. -/
def Registered (dealings : Dealings) (kind : NoticeKind) (name : String) (h : Handler) : Prop :=
  ∃ before after, dealings = before ++ (.subscribe kind name h, .outcome .done) :: after ∧
    ∀ u ∈ after, ¬ u.1.Undoes kind name

section

variable {dealings : Dealings} {kind : NoticeKind} {name : String} {h : Handler}

@[simp] theorem not_registered_nil : ¬ Registered [] kind name h := by
  rintro ⟨before, after, heq, -⟩
  simp at heq

/-- After one more dealing a handler is registered if that set it, or it was registered before and
    that did not undo it. -/
theorem registered_append {u : Dealing × ActResult} : Registered (dealings ++ [u]) kind name h ↔
    u = (.subscribe kind name h, .outcome .done) ∨
      Registered dealings kind name h ∧ ¬ u.1.Undoes kind name := by
  constructor
  · rintro ⟨before, after, heq, hafter⟩
    induction after using List.reverseRecOn with
    | nil => exact .inl (List.singleton_inj.1 (List.append_inj' heq rfl).2)
    | append_singleton after v _ =>
      rw [← List.cons_append, ← List.append_assoc] at heq
      obtain ⟨huses, hu⟩ := List.append_inj' heq rfl
      obtain rfl := List.singleton_inj.1 hu
      exact .inr ⟨⟨before, after, huses, fun w hw => hafter w (List.mem_append_left _ hw)⟩,
        hafter u (List.mem_append_right _ List.mem_cons_self)⟩
  · rintro (rfl | ⟨⟨before, after, rfl, hafter⟩, hu⟩)
    · exact ⟨dealings, [], rfl, fun _ hw => absurd hw List.not_mem_nil⟩
    · refine ⟨before, after ++ [u], by simp, fun w hw => ?_⟩
      rcases List.mem_append.1 hw with hw | hw
      · exact hafter w hw
      · exact List.mem_singleton.1 hw ▸ hu

end

/-! ## The registers of a thing -/

namespace ConsumedThing

variable {c c' : ConsumedThing} {d : ThingDescription} {dealings : Dealings} {kind : NoticeKind}

/-- What a dealing gives back, and what it makes of a thing of a description. -/
def deal (d : ThingDescription) : Dealing → ConsumedThing → ActResult × ConsumedThing
  | .subscribe kind name h, c => (.outcome (c.subscribe kind name h).1, (c.subscribe kind name h).2)
  | .unsubscribe kind name, c => (.found (c.unsubscribe kind name).1, (c.unsubscribe kind name).2)
  | .stop, c => (.silent, c.stop)
  | .receive a, c => (.silent, c.keepAll (made d a))

/-- What dealings one after another give back, and what they make of a thing. -/
def dealAll (d : ThingDescription) : List Dealing → ConsumedThing → Dealings × ConsumedThing
  | [], c => ([], c)
  | u :: rest, c =>
    ((u, (c.deal d u).1) :: (dealAll d rest (c.deal d u).2).1, (dealAll d rest (c.deal d u).2).2)

theorem map_fst_dealAll (d : ThingDescription) (l : List Dealing) (c : ConsumedThing) :
    (c.dealAll d l).1.map (·.1) = l := by
  induction l generalizing c with
  | nil => rfl
  | cons u l ih => simp [dealAll, ih]

@[simp] theorem handlers_keepAll (kind : NoticeKind) (l : List Delivery) (c : ConsumedThing) :
    (c.keepAll l).handlers kind = c.handlers kind := by
  cases kind <;> rfl

@[simp] theorem description_deal (d : ThingDescription) (u : Dealing) (c : ConsumedThing) :
    (c.deal d u).2.description = c.description := by
  cases u with
  | subscribe kind name h => simp only [deal, subscribe]; split <;> simp
  | unsubscribe kind name => simp [deal, unsubscribe]
  | stop | receive a => rfl

/-- The registers of a thing hold what is registered. -/
def Holds (dealings : Dealings) (c : ConsumedThing) : Prop :=
  ∀ kind name h, (c.handlers kind).get? name = some h ↔ Registered dealings kind name h

theorem Holds.contains_iff (holds : c.Holds dealings) (kind : NoticeKind) (name : String) :
    (c.handlers kind).contains name = true ↔ ∃ h, Registered dealings kind name h := by
  simp only [NameMap.contains, Option.isSome_iff_exists, holds kind name]

/-- One dealing keeps the registers in step. -/
theorem Holds.deal (holds : c.Holds dealings) (d : ThingDescription) (u : Dealing) :
    (c.deal d u).2.Holds (dealings ++ [(u, (c.deal d u).1)]) := by
  intro kind name h
  rw [registered_append, ← holds kind name h]
  cases u with
  | subscribe kind' name' g =>
    simp only [ConsumedThing.deal, subscribe]
    split
    · -- the handler is refused, and all stays as it is
      simp [Dealing.Undoes]
    · next hnew =>
      rw [handlers_updateHandlers]
      by_cases hkind : kind' = kind
      · subst hkind
        by_cases hname : name = name'
        · subst hname
          have hnone : (c.handlers kind').get? name = none := by
            simpa [NameMap.contains] using hnew
          simp [NameMap.get?_insert, Dealing.Undoes, hnone]
        · simp [NameMap.get?_insert, Dealing.Undoes, hname, Ne.symm hname]
      · simp [Dealing.Undoes, hkind, Ne.symm hkind]
  | unsubscribe kind' name' =>
    rw [ConsumedThing.deal, unsubscribe, handlers_updateHandlers]
    by_cases hkind : kind' = kind
    · by_cases hname : name = name'
      · simp [NameMap.get?_erase, Dealing.Undoes, hkind, hname]
      · simp [NameMap.get?_erase, Dealing.Undoes, hkind, hname, Ne.symm hname]
    · simp [Dealing.Undoes, hkind, Ne.symm hkind]
  | stop =>
    have hnone : ({} : NameMap Handler).get? name = none := rfl
    simp [ConsumedThing.deal, handlers_stop, Dealing.Undoes, hnone]
  | receive a => simp [ConsumedThing.deal, Dealing.Undoes]

/-- So does every run of dealings. -/
theorem Holds.dealAll (holds : c.Holds dealings) (d : ThingDescription) (l : List Dealing) :
    (c.dealAll d l).2.Holds (dealings ++ (c.dealAll d l).1) := by
  induction l generalizing dealings c with
  | nil => simpa [ConsumedThing.dealAll] using holds
  | cons u l ih => simpa [ConsumedThing.dealAll] using ih (holds.deal d u)

/-- What a dealing gives back depends only on the handlers of the kind that it is about, and so do
    those that it leaves. -/
theorem deal_of_handlers_eq (h : c.handlers kind = c'.handlers kind) {u : Dealing}
    (hu : u.concerns kind = true) : (c.deal d u).1 = (c'.deal d u).1 ∧
      (c.deal d u).2.handlers kind = (c'.deal d u).2.handlers kind := by
  cases u with
  | subscribe kind' name g =>
    obtain rfl : kind' = kind := of_decide_eq_true hu
    simp only [deal, subscribe, h]
    split <;> simp [handlers_updateHandlers, h]
  | unsubscribe kind' name =>
    obtain rfl : kind' = kind := of_decide_eq_true hu
    simp [deal, unsubscribe, handlers_updateHandlers, h]
  | stop => simp [deal, handlers_stop]
  | receive a => simp [deal, h]

/-- A dealing that is not about a kind of notice leaves its handlers as they are. -/
theorem handlers_deal_of_not_concerns {u : Dealing} (hu : u.concerns kind = false) :
    (c.deal d u).2.handlers kind = c.handlers kind := by
  cases u with
  | subscribe kind' name g =>
    have hkind : kind' ≠ kind := of_decide_eq_false hu
    simp only [deal, subscribe]
    split <;> simp [handlers_updateHandlers, hkind.symm]
  | unsubscribe kind' name =>
    have hkind : kind' ≠ kind := of_decide_eq_false hu
    simp [deal, unsubscribe, handlers_updateHandlers, hkind.symm]
  | stop | receive a => contradiction

/-- Dealings give back the same without those that are about the other kind of notice. -/
theorem dealAll_filter_concerns (h : c.handlers kind = c'.handlers kind) (l : List Dealing) :
    (c'.dealAll d (l.filter (·.concerns kind))).1 =
      (c.dealAll d l).1.filter (·.1.concerns kind) := by
  induction l generalizing c c' with
  | nil => rfl
  | cons u l ih =>
    cases hu : u.concerns kind with
    | true =>
      obtain ⟨hresult, hhandlers⟩ := deal_of_handlers_eq (d := d) h hu
      simp [dealAll, hu, hresult, ih hhandlers]
    | false => simpa [dealAll, hu] using ih ((handlers_deal_of_not_concerns hu).trans h)

end ConsumedThing

/-! ## What a thing tells -/

/-- What is made of an arrival: first for properties, then for events. -/
structure Arrival.Made (d : ThingDescription) (a : Arrival) (first second : List Delivery) :
    Prop where
  /-- A declared property of the name gets a value. -/
  property : ∀ schema, d.propertySchema? a.name = some schema →
    first = [⟨.property, a.name, .ofWire a.payload (some schema)⟩]
  /-- Without one, in a batch each declared property does that has an entry, once. -/
  batch : d.propertySchema? a.name = none → a.name = Topic.batchName →
    (first.map (·.name)).Nodup ∧ ∀ x, x ∈ first ↔ ∃ v schema, a.HasEntry d x.name v ∧
      d.propertySchema? x.name = some schema ∧ x = ⟨.property, x.name, .ofNative v (some schema)⟩
  /-- Otherwise no property does. -/
  undeclared : d.propertySchema? a.name = none → a.name ≠ Topic.batchName → first = []
  /-- A declared event of the name gets its data. -/
  event : ∀ e, d.events.get? a.name = some e →
    second = [⟨.event, a.name, .ofWire a.payload (some e.data)⟩]
  /-- Otherwise no event does. -/
  silent : d.events.get? a.name = none → second = []

namespace ConsumedThing

variable {d : ThingDescription} {a : Arrival} {x : Delivery}

/-- A batch makes a delivery of each declared property that has an entry in it. -/
theorem mem_batchDeliveries (hname : a.name = Topic.batchName)
    (hfree : d.propertySchema? Topic.batchName = none) :
    x ∈ batchDeliveries d a.payload ↔ ∃ v schema, a.HasEntry d x.name v ∧
      d.propertySchema? x.name = some schema ∧
      x = ⟨.property, x.name, .ofNative v (some schema)⟩ := by
  simp only [batchDeliveries, List.mem_filterMap, Option.map_eq_some_iff, Prod.exists]
  constructor
  · rintro ⟨name, v, hmem, schema, hschema, rfl⟩
    cases hread : Json.read? a.payload with
    | none => simp [hread] at hmem
    | some w =>
      cases w with
      | object members =>
        have hget := Members.get?_eq_some_of_mem (Json.sorted_of_read? hread).nodup
          (show (name, v) ∈ members by simpa [hread, Json.members] using hmem)
        exact ⟨v, schema, ⟨hname, hfree, members, hread, hget⟩, hschema, rfl⟩
      | _ => simp [hread, Json.members] at hmem
  · rintro ⟨v, schema, ⟨-, -, members, hread, hget⟩, hschema, hx⟩
    exact ⟨x.name, v, by simpa [hread, Json.members] using Members.mem_of_get? hget, schema,
      hschema, hx.symm⟩

theorem made_spec (d : ThingDescription) (a : Arrival) :
    a.Made d (propertyDeliveries d a.name a.payload) (eventDeliveries d a.name a.payload) where
  property schema h := propertyDeliveries_of_declared h
  batch hnone hname := by
    have hbatch : propertyDeliveries d a.name a.payload = batchDeliveries d a.payload := by
      rw [propertyDeliveries, hnone]
      exact if_pos hname
    rw [hbatch]
    exact ⟨nodup_batchDeliveries, fun x => mem_batchDeliveries hname (hname ▸ hnone)⟩
  undeclared hnone hname := by simp [propertyDeliveries, hnone, hname]
  event e he := by simp [eventDeliveries, he]
  silent hnone := by simp [eventDeliveries, hnone]

end ConsumedThing

/-- Deliveries reach a thing one after another. Each is kept. Then the handler that is registered
    for it, if there is one, is called once with what is kept now, and that is all. -/
inductive Told (call : Call) (i : ConsumedRef) (dealings : Dealings) :
    List Delivery → Site → Site → Prop
  /-- There is no delivery. -/
  | nil (s : Site) : Told call i dealings [] s s
  /-- No handler is registered for the first delivery. -/
  | unheard {x : Delivery} {l : List Delivery} {s s' : Site}
    (unregistered : ∀ h, ¬ Registered dealings x.kind x.name h)
    (rest : Told call i dealings l (s.keep i x) s') : Told call i dealings (x :: l) s s'
  /-- A handler is registered for the first delivery. -/
  | heard {x : Delivery} {l : List Delivery} {s s₁ s' : Site} {h : Handler} {c : ConsumedThing}
    {outcome : Outcome} (registered : Registered dealings x.kind x.name h)
    (kept : (s.keep i x).consumed.get? i = some c ∧ c.values.get? x.name = some x.value)
    (called : (call h (.notice x.name x.value)).run (s.keep i x) = some (outcome, s₁))
    (rest : Told call i dealings l s₁ s') : Told call i dealings (x :: l) s s'

section

variable {call : Call} {i : ConsumedRef} {s : Site} {c : ConsumedThing} {d : ThingDescription}
  {dealings : Dealings}

namespace Run

/-- Where the registers hold what is registered and the handlers leave the thing alone, deliveries
    are told to the handlers that are registered. -/
theorem exists_told (hc : s.consumed.get? i = some c) (spared : c.Spared call i)
    (holds : c.Holds dealings) (l : List Delivery) :
    ∃ s', (l.forM (deliver call i)).run s = some (.unit, s') ∧ Told call i dealings l s s' ∧
      s'.consumed.get? i = some (c.keepAll l) ∧ s'.catalogue = s.catalogue := by
  induction l generalizing s c with
  | nil => exact ⟨s, rfl, .nil s, hc, rfl⟩
  | cons x l ih =>
    have hget : (s.keep i x).consumed.get? i = some (c.keep x) := by
      simp [Site.keep, Table.get?_update, hc]
    have hkept : (consumed i).run (s.keep i x) = some (c.keep x, s.keep i x) := by simp [hget]
    have hdeliver := run_deliver_eq call i x s
    rw [run_bind_of_run hkept, show (c.keep x).handler? x = c.handler? x from rfl] at hdeliver
    rw [List.forM_eq_forM, List.forM_cons]
    cases hh : c.handler? x with
    | none =>
      rw [hh] at hdeliver
      obtain ⟨s', hrun, htold, hthing, hcatalogue⟩ := ih hget spared holds
      refine ⟨s', ?_, .unheard (fun h hr => ?_) htold, hthing, hcatalogue⟩
      · rw [run_bind_of_run hdeliver]
        exact hrun
      · rw [show c.handler? x = some h from (holds _ _ _).2 hr] at hh
        contradiction
    | some h =>
      obtain ⟨outcome, s₁, hcall, hspared⟩ := spared x h hh (.notice x.name x.value) (s.keep i x)
      rw [hh] at hdeliver
      rw [run_discard_eq_some.2 ⟨outcome, hcall⟩] at hdeliver
      obtain ⟨s', hrun, htold, hthing, hcatalogue⟩ :=
        ih (hspared.thing.trans hget) spared holds
      refine ⟨s', ?_, .heard ((holds _ _ _).1 hh) ⟨hget, ?_⟩ hcall htold, hthing,
        hcatalogue.trans hspared.catalogue⟩
      · rw [run_bind_of_run hdeliver]
        exact hrun
      · simp [ConsumedThing.keep, NameMap.get?_insert]

end Run

/-- The handler that a dealing sets, if it sets one, leaves a thing alone. -/
def Dealing.Spares (call : Call) (i : ConsumedRef) (u : Dealing) : Prop :=
  ∀ kind name h, u = .subscribe kind name h → call.Spares i h

/-- One dealing keeps it so that the handlers of a thing leave it alone. -/
theorem ConsumedThing.Spared.deal (spared : c.Spared call i) (d : ThingDescription) {u : Dealing}
    (hu : u.Spares call i) : (c.deal d u).2.Spared call i := by
  intro x h hh
  cases u with
  | subscribe kind name g =>
    simp only [ConsumedThing.deal, ConsumedThing.subscribe] at hh
    split at hh
    · exact spared x h hh
    · rw [handler?, handlers_updateHandlers] at hh
      split at hh
      · rw [NameMap.get?_insert] at hh
        split at hh
        · exact Option.some.inj hh ▸ hu kind name g rfl
        · exact spared x h hh
      · exact spared x h hh
  | unsubscribe kind name =>
    rw [ConsumedThing.deal, ConsumedThing.unsubscribe, handler?, handlers_updateHandlers] at hh
    split at hh
    · rw [NameMap.get?_erase] at hh
      split at hh
      · contradiction
      · exact spared x h hh
    · exact spared x h hh
  | stop =>
    rw [ConsumedThing.deal, handler?, handlers_stop] at hh
    contradiction
  | receive a => exact spared x h (by simpa [ConsumedThing.deal, handler?] using hh)

namespace Run

/-- A dealing with a thing whose handlers leave it alone. -/
theorem exists_run_deal (hc : s.consumed.get? i = some c)
    (hd : s.catalogue.get? c.description = some d) (spared : c.Spared call i) (u : Dealing) :
    ∃ s', (u.run call i).run s = some ((c.deal d u).1, s') ∧
      s'.consumed.get? i = some (c.deal d u).2 ∧ s'.catalogue = s.catalogue := by
  cases u with
  | subscribe kind name h =>
    have hadd := run_addHandler i kind name h s
    rw [hc, Option.map_some] at hadd
    exact ⟨_, run_map_eq_some.2 ⟨_, hadd, rfl⟩, by simp [Table.get?_update, hc, ConsumedThing.deal],
      rfl⟩
  | unsubscribe kind name =>
    have hremove := run_removeHandler i kind name s
    rw [hc, Option.map_some] at hremove
    exact ⟨_, run_map_eq_some.2 ⟨_, hremove, rfl⟩,
      by simp [Table.get?_update, hc, ConsumedThing.deal], rfl⟩
  | stop => exact ⟨_, rfl, by simp [Table.get?_update, hc, ConsumedThing.deal], rfl⟩
  | receive a =>
    obtain ⟨s', hrun, hget, hcatalogue⟩ :=
      exists_run_forM_deliver hc spared (ConsumedThing.made d a)
    have hreceive : (receive call i a.name a.payload).run s = some (.unit, s') := by
      rw [receive, run_of_consumed hc hd]
      exact hrun
    exact ⟨s', by rw [Dealing.run, run_bind_of_run hreceive]; rfl, hget, hcatalogue⟩

/-- Dealings, one after another, with a thing whose handlers leave it alone. -/
theorem exists_run_dealAll (hc : s.consumed.get? i = some c)
    (hd : s.catalogue.get? c.description = some d) (spared : c.Spared call i) {l : List Dealing}
    (hl : ∀ u ∈ l, u.Spares call i) :
    ∃ s', (dealAll call i l).run s = some ((c.dealAll d l).1, s') ∧
      s'.consumed.get? i = some (c.dealAll d l).2 ∧ (c.dealAll d l).2.Spared call i ∧
      s'.catalogue.get? (c.dealAll d l).2.description = some d := by
  induction l generalizing s c with
  | nil => exact ⟨s, rfl, hc, spared, hd⟩
  | cons u l ih =>
    obtain ⟨s₁, hrun, hget, hcatalogue⟩ := exists_run_deal hc hd spared u
    obtain ⟨s₂, hruns, hgets, hspared, hds⟩ := ih hget (by simpa [hcatalogue] using hd)
      (spared.deal d (hl u List.mem_cons_self)) fun v hv => hl v (List.mem_cons_of_mem _ hv)
    refine ⟨s₂, ?_, hgets, hspared, hds⟩
    rw [dealAll, run_bind_of_run hrun, run_bind_of_run hruns]
    rfl

end Run

end

/-! ## Runs -/

/-- What a thing does next, after some dealings with it. -/
structure Site.Heeds (call : Call) (i : ConsumedRef) (d : ThingDescription) (dealings : Dealings)
    (s : Site) : Prop where
  /-- No more than one handler is registered. -/
  unique : ∀ kind name h h', Registered dealings kind name h →
    Registered dealings kind name h' → h = h'
  /-- A handler is refused if and only if one is registered, and then nothing changes. -/
  subscribe : ∀ kind name h, ∃ outcome s', (addHandler i kind name h).run s = some (outcome, s') ∧
    ((∃ info, outcome = .error ⟨.notAllowed, info⟩) ↔ ∃ h', Registered dealings kind name h') ∧
    (outcome = .done ∨ (∃ info, outcome = .error ⟨.notAllowed, info⟩) ∧ s' = s)
  /-- A handler is taken away if and only if one is registered. -/
  unsubscribe : ∀ kind name, ∃ found s', (removeHandler i kind name).run s = some (found, s') ∧
    (found = true ↔ ∃ h, Registered dealings kind name h)
  /-- The handlers that are registered are told of what arrives, and only they. -/
  receive : ∀ a : Arrival, ∃ first second s',
    (Run.receive call i a.name a.payload).run s = some (.unit, s') ∧
    a.Made d first second ∧ Told call i dealings (first ++ second) s s'

section

variable {call : Call} {i : ConsumedRef} {s : Site} {c : ConsumedThing} {d : ThingDescription}

/-- A thing does so if its registers hold what is registered. -/
theorem ConsumedThing.Holds.heeds {dealings : Dealings} (holds : c.Holds dealings)
    (hc : s.consumed.get? i = some c) (hd : s.catalogue.get? c.description = some d)
    (spared : c.Spared call i) : s.Heeds call i d dealings where
  unique kind name h h' hr hr' := by
    rw [← holds] at hr hr'
    exact Option.some.inj (hr.symm.trans hr')
  subscribe kind name h := by
    have hadd := run_addHandler i kind name h s
    rw [hc, Option.map_some] at hadd
    rw [← holds.contains_iff kind name]
    cases hcontains : (c.handlers kind).contains name with
    | true =>
      have hsame : (c.subscribe kind name h).2 = c := by simp [ConsumedThing.subscribe, hcontains]
      rw [Table.update_eq_self hc hsame] at hadd
      exact ⟨_, s, hadd, by simp [ConsumedThing.subscribe, hcontains]⟩
    | false => exact ⟨_, _, hadd, by simp [ConsumedThing.subscribe, hcontains]⟩
  unsubscribe kind name := by
    have hremove := run_removeHandler i kind name s
    rw [hc, Option.map_some] at hremove
    exact ⟨_, _, hremove, holds.contains_iff kind name⟩
  receive a := by
    obtain ⟨s', hrun, htold, -⟩ := exists_told hc spared holds (ConsumedThing.made d a)
    refine ⟨_, _, s', ?_, ConsumedThing.made_spec d a, htold⟩
    rw [Run.receive, run_of_consumed hc hd]
    exact hrun

/-- There are any dealings with a thing without handlers, and the handlers that they set leave it
    alone. Then what they registered and did not undo since decides who is refused, who is taken
    away and who is told of what arrives. Those about one kind of notice give back what they would
    without those about the other. -/
theorem registered_are_told (hc : s.consumed.get? i = some c)
    (hd : s.catalogue.get? c.description = some d) (new : ∀ kind, c.handlers kind = {})
    {l : List Dealing} (hl : ∀ u ∈ l, u.Spares call i) :
    ∃ dealings s', (dealAll call i l).run s = some (dealings, s') ∧ dealings.map (·.1) = l ∧
      s'.Heeds call i d dealings ∧
      ∀ kind, ∃ s'', (dealAll call i (l.filter (·.concerns kind))).run s =
        some (dealings.filter (·.1.concerns kind), s'') := by
  have hnone : ∀ kind name, (c.handlers kind).get? name = none := fun kind name => by
    rw [new]
    rfl
  have spared : c.Spared call i := fun x h hh => by
    rw [ConsumedThing.handler?, hnone] at hh
    contradiction
  have holds : c.Holds [] := fun kind name h => by simp [hnone]
  obtain ⟨s', hrun, hget, hspared, hds⟩ := exists_run_dealAll hc hd spared hl
  have hafter := holds.dealAll d l
  rw [List.nil_append] at hafter
  refine ⟨_, s', hrun, ConsumedThing.map_fst_dealAll d l c, hafter.heeds hget hds hspared,
    fun kind => ?_⟩
  obtain ⟨s'', hfiltered, -⟩ := exists_run_dealAll hc hd spared
    fun u hu => hl u (List.mem_filter.1 hu).1
  rw [ConsumedThing.dealAll_filter_concerns rfl l] at hfiltered
  exact ⟨s'', hfiltered⟩

end

/-- Two that would like to observe the level of the lamp, and one that subscribes to an event of the
    same name. -/
def levelDealings : List Dealing :=
  [.subscribe .property "level" { label := "first" },
    .subscribe .event "level" { label := "other" },
    .subscribe .property "level" { label := "second" }]

/-- The second observer of the level is refused, and the first one is told of it when it comes. -/
theorem registered_are_told_lamp : ∃ dealings s' s'',
    (dealAll (calls 1) 0 levelDealings).run (Link.lampSite {} {}) = some (dealings, s') ∧
    (∃ info, dealings.map (·.2) =
      [.outcome .done, .outcome .done, .outcome (.error ⟨.notAllowed, info⟩)]) ∧
    Registered dealings .property "level" { label := "first" } ∧
    ¬ Registered dealings .property "level" { label := "second" } ∧
    (receive (calls 1) 0 "level" (Json.bool true).compact).run s' = some (.unit, s'') ∧
    Told (calls 1) 0 dealings
      [⟨.property, "level", .ofWire (Json.bool true).compact (some {})⟩] s' s'' := by
  obtain ⟨dealings, s', hrun, -, hheeds, -⟩ := @registered_are_told (calls 1) 0
    (Link.lampSite {} {}) _ .lamp rfl rfl (fun kind => by cases kind <;> rfl) levelDealings
    (fun u hu kind name h he => calls_spares (by
      simp only [levelDealings, List.mem_cons, List.not_mem_nil, or_false] at hu
      rcases hu with rfl | rfl | rfl <;> cases he <;> rfl) 0 0)
  obtain ⟨first, second, s'', hreceive, hmade, htold⟩ :=
    hheeds.receive ⟨"level", (Json.bool true).compact⟩
  rw [hmade.property {} rfl, hmade.silent rfl] at htold
  have hdone : ((dealAll (calls 1) 0 levelDealings).run (Link.lampSite {} {})).map (·.1) =
      some (levelDealings.zip [.outcome .done, .outcome .done, .outcome
        (.error ⟨.notAllowed, "A handler is already subscribed to property `level`"⟩)]) := rfl
  rw [hrun] at hdone
  obtain rfl := Option.some.inj hdone
  have hfirst : Registered (levelDealings.zip [.outcome .done, .outcome .done, .outcome
      (.error ⟨.notAllowed, "A handler is already subscribed to property `level`"⟩)])
      .property "level" { label := "first" } :=
    ⟨[], _, rfl, List.forall_mem_cons.2 ⟨id, List.forall_mem_cons.2 ⟨id, List.forall_mem_nil _⟩⟩⟩
  refine ⟨_, s', s'', hrun, ⟨_, rfl⟩, hfirst, fun hsecond => ?_, hreceive, htold⟩
  exact absurd (congrArg Handler.label (hheeds.unique _ _ _ _ hfirst hsecond)) (by decide)

end WebOfThings
