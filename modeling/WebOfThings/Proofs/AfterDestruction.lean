import Mathlib
import WebOfThings.Proofs.Destruction
import WebOfThings.Proofs.Emission
import WebOfThings.Proofs.Extension

/-!
# Uses of a destroyed thing

An exposed thing that is destroyed drops its handlers and its values, but not its output, and
emitting looks at the output alone. So it is as if nothing could be read of the thing any more, and
as if it were silent, only until it emits again. What is done with the thing from then on
(`Use`) either changes nothing or is taken by the output (`Use.eq_or_took`):

* requests, handlers and emissions of what is not declared change nothing, and neither does what the
  output does not take;
* any other emission is published, and if it is one of property changes its values can be read.

`silent_iff_unheard` says this of all sequences of uses after a destruction. What can be read at a
later moment was sent since the destruction, whatever else is done (`Site.ReadsSince`).
-/

namespace WebOfThings

open Run

/-- What may be done with an exposed thing. -/
inductive Use
  /-- It emits an event. -/
  | emitEvent (name : String) (data : Json)
  /-- It emits property changes. -/
  | emit (emission : Emission)
  /-- It is asked for something. -/
  | request (name : String) (payload : Bytes)
  /-- It is asked to write a property. -/
  | writeRequest (name : String) (payload : Bytes)
  /-- It is given the handler of an action. -/
  | handleAction (name : String) (handler : Handler)
  /-- It is given the handler of the writes of a property. -/
  | handleWrite (name : String) (handler : Handler)
  /-- It is destroyed again. -/
  | destroy

namespace Use

/-- Does it. -/
def run (call : Call) (i : ExposedRef) : Use → Run Outcome
  | emitEvent name data => Run.emitEvent call i name data
  | emit e => e.run call i
  | request name payload => Run.request call i name payload
  | writeRequest name payload => Run.writeRequest call i name payload
  | handleAction name handler => do
    updateExposed i (·.setActionHandler name handler)
    pure .done
  | handleWrite name handler => do
    updateExposed i (·.setWriteHandler name handler)
    pure .done
  | destroy => do
    updateExposed i (·.destroy)
    pure .done

/-- Whether a thing without values has anything to send: an event that is declared, or a change of a
    property that is. -/
def speaks (d : ThingDescription) : Use → Bool
  | emitEvent name _ => d.events.contains name
  | emit e => e.members.any fun entry => (d.propertySchema? entry.1).isSome
  | _ => false

/-- A use was an emission of something that is declared, and it ended well. -/
def Heard (d : ThingDescription) (use : Use) (outcome : Outcome) : Prop :=
  use.speaks d = true ∧ outcome = .done

end Use

/-- Uses of a thing one after another, and how each of them ended. -/
inductive Used (call : Call) (i : ExposedRef) : List (Use × Outcome) → Site → Site → Prop
  /-- Nothing was done. -/
  | nil {s : Site} : Used call i [] s s
  /-- Something was done, and then more. -/
  | cons {use : Use} {outcome : Outcome} {rest : List (Use × Outcome)} {s s' s'' : Site}
      (run : (use.run call i).run s = some (outcome, s')) (used : Used call i rest s' s'') :
      Used call i ((use, outcome) :: rest) s s''

/-- A message of a thing was taken by its output meanwhile: the bus published it on a topic of the
    thing, or the recorder noted it. -/
def Output.Took (output : Output) (s s' : Site) : Prop :=
  match output with
  | .nowhere => False
  | .bus k id => ∃ moments, s'.timeline = moments ++ s.timeline ∧
      ∃ subject payload, .published k ⟨Topic.event id subject, payload⟩ ∈ moments
  | .recorder _ => ∃ entries, s'.journal = entries ++ s.journal ∧
      ∃ e ∈ entries, (∃ name data, e = .emitted name data) ∨ ∃ properties, e = .changed properties

/-! ## What outputs take -/

section

variable {s s' s'' : Site} {output : Output}

theorem Output.not_took_self (output : Output) (s : Site) : ¬ output.Took s s := by
  cases output with
  | nowhere => exact id
  | bus k id =>
    rintro ⟨moments, hm, _, _, hmem⟩
    obtain rfl : moments = [] := by simpa using hm
    contradiction
  | recorder refuses =>
    rintro ⟨entries, hj, _, hmem, -⟩
    obtain rfl : entries = [] := by simpa using hj
    contradiction

/-- What was taken is not taken back. -/
theorem Output.Took.grows (h : output.Took s s') (hgrows : s'.Grows s'') : output.Took s s'' := by
  obtain ⟨more, later, hextends⟩ := hgrows
  cases output with
  | nowhere => exact h
  | bus k id =>
    obtain ⟨moments, hm, subject, payload, hmem⟩ := h
    exact ⟨later ++ moments, by rw [hextends.timeline, hm, List.append_assoc], subject, payload,
      List.mem_append_right _ hmem⟩
  | recorder refuses =>
    obtain ⟨entries, hj, e, hmem, he⟩ := h
    exact ⟨more ++ entries, by rw [hextends.journal, hj, List.append_assoc], e,
      List.mem_append_right _ hmem, he⟩

end

namespace Run

variable {call : Call} (hcall : ∀ h o, Relates Site.Grows (call h o)) {s s' : Site}
  {outcome : Outcome} {d : ThingDescription} {output : Output}

/-- Gives an output what a thing sends. -/
def give (call : Call) (d : ThingDescription) (output : Output) (subject : String) (value : Json)
    (noted : Entry) : Run Outcome :=
  match output with
  | .nowhere => pure (.error (ExposedThing.noOutput d))
  | .bus i id => publishValue call i (Topic.event id subject) value
  | .recorder refuses => record refuses noted

theorem sendEvent_eq_give (name : String) (data : Json) :
    sendEvent call d output name data = give call d output name data (.emitted name data) := by
  cases output <;> rfl

theorem sendChanges_eq_give (changes : Json) :
    sendChanges call d output changes =
      give call d output "properties" changes (.changed changes) := by
  cases output <;> rfl

include hcall

/-- A bus publishes a message or changes nothing. -/
theorem eq_or_published {k : BusRef} {m : Message}
    (h : (publish call k m).run s = some (outcome, s')) :
    (outcome ≠ .done ∧ s' = s) ∨ (outcome = .done ∧
      ∃ moments, s'.timeline = moments ++ s.timeline ∧ .published k m ∈ moments) := by
  obtain ⟨b, -, ⟨e, -, rfl, rfl⟩ | ⟨b', receivers, -, rfl, hreceived⟩⟩ := run_publish_eq_some.1 h
  · exact .inl ⟨by rintro ⟨⟩, rfl⟩
  · obtain ⟨_, moments, hextends⟩ := relates_forM Site.composes_grows
      (fun r _ => relates_accept_of_keeps keeps_grows hcall m r) _ _ _ hreceived
    exact .inr ⟨rfl, moments ++ [.published k m], by rw [hextends.timeline]; simp, by simp⟩

/-- An output takes what it is given or changes nothing. -/
theorem eq_or_took_of_give {subject : String} {value : Json} {noted : Entry}
    (hnoted : (∃ name data, noted = .emitted name data) ∨ ∃ properties, noted = .changed properties)
    (h : (give call d output subject value noted).run s = some (outcome, s')) :
    (outcome ≠ .done ∧ s' = s) ∨ (outcome = .done ∧ output.Took s s') := by
  cases output with
  | nowhere =>
    obtain ⟨rfl, rfl⟩ := Prod.mk.inj (Option.some.inj h)
    exact .inl ⟨by rintro ⟨⟩, rfl⟩
  | recorder refuses =>
    cases refuses <;> obtain ⟨rfl, rfl⟩ := Prod.mk.inj (Option.some.inj h)
    · exact .inr ⟨rfl, [noted], rfl, noted, by simp, hnoted⟩
    · exact .inl ⟨by rintro ⟨⟩, rfl⟩
  | bus k id =>
    rcases eq_or_published hcall h with hsame | ⟨hdone, moments, hm, hmem⟩
    · exact .inl hsame
    · exact .inr ⟨hdone, moments, hm, subject, value.compact, hmem⟩

end Run

/-! ## Uses of a destroyed thing -/

namespace ExposedThing

variable {d : ThingDescription} {t : ExposedThing} {onlyChanges : Bool} {batch : Members Json}

/-- A thing without values sends whatever is declared. -/
theorem changes_destroy_isEmpty :
    (t.destroy.changes d onlyChanges batch).isEmpty =
      !batch.any fun entry => (d.propertySchema? entry.1).isSome := by
  have hnone (name : String) (value : Json) : t.destroy.isRemembered name value = false := rfl
  induction batch with
  | nil => rfl
  | cons entry batch ih =>
    simp only [changes, List.filterMap_cons, List.any_cons] at ih ⊢
    cases hs : d.propertySchema? entry.1 with
    | none => simpa [change?, hs] using ih
    | some schema => simp [change?, hs, hnone]

end ExposedThing

section

variable {s s' : Site} {i : ExposedRef} {t : ExposedThing} {d : ThingDescription}

theorem Site.Destroyed.of_destroy (ht : s.exposed.get? i = some t.destroy)
    (hd : s.catalogue.get? t.description = some d) : s.Destroyed i :=
  ⟨t.destroy, d, ht, hd, rfl⟩

/-- What is done with a thing that was destroyed and sent nothing since is taken by its output, if
    there is something to send and it ends well. Otherwise it changes nothing. -/
theorem Use.eq_or_took {call : Call} (hcall : ∀ h o, Relates Site.Grows (call h o)) {use : Use}
    {outcome : Outcome} (ht : s.exposed.get? i = some t.destroy)
    (hd : s.catalogue.get? t.description = some d)
    (h : (use.run call i).run s = some (outcome, s')) :
    (¬ use.Heard d outcome ∧ s' = s) ∨ (use.Heard d outcome ∧ t.output.Took s s') := by
  have hdestroyed := Site.Destroyed.of_destroy ht hd
  have hunchanged (change : ExposedThing → ExposedThing) (hc : change t.destroy = t.destroy)
      (hrun : (do updateExposed i change; pure .done : Run Outcome).run s = some (outcome, s')) :
      s' = s := by
    have hs : { s with exposed := s.exposed.update i change } = s' :=
      (Prod.mk.inj (Option.some.inj hrun)).2
    rw [← hs, Table.update_eq_self ht hc]
  cases use with
  | emitEvent name data =>
    rw [Use.run, Run.emitEvent, run_of_exposed ht hd] at h
    split at h
    · next hdeclared =>
      rw [sendEvent_eq_give] at h
      rcases eq_or_took_of_give hcall (.inl ⟨_, _, rfl⟩) h with ⟨hne, hs⟩ | ⟨hdone, htook⟩
      · exact .inl ⟨fun hheard => hne hheard.2, hs⟩
      · exact .inr ⟨⟨hdeclared, hdone⟩, htook⟩
    · next hundeclared =>
      obtain ⟨rfl, rfl⟩ := Prod.mk.inj (Option.some.inj h)
      exact .inl ⟨fun hheard => hundeclared hheard.1, rfl⟩
  | emit e =>
    rcases (Emission.run_eq_some ht hd).1 h with ⟨hempty, -, rfl⟩ | ⟨hne, s₁, hgives, rfl⟩
    · simp only [ExposedThing.changes_destroy_isEmpty, Bool.not_eq_true'] at hempty
      exact .inl ⟨fun hheard => Bool.false_ne_true (hempty.symm.trans hheard.1), rfl⟩
    · rw [ExposedThing.changes_destroy_isEmpty, Bool.not_eq_false'] at hne
      have hgiven := sendChanges_eq_some.2 hgives
      rw [sendChanges_eq_give] at hgiven
      rcases eq_or_took_of_give hcall (.inr ⟨_, rfl⟩) hgiven with ⟨hfailed, rfl⟩ | ⟨rfl, htook⟩
      · refine .inl ⟨fun hheard => hfailed hheard.2, ?_⟩
        cases outcome with
        | ok u => exact absurd rfl hfailed
        | error e => rfl
      · exact .inr ⟨⟨hne, rfl⟩, htook.grows (keeps_grows.lasts.remember _ i _)⟩
  | request name payload =>
    obtain ⟨-, rfl⟩ :=
      Prod.mk.inj (Option.some.inj ((hdestroyed.run_request call name payload).1.symm.trans h))
    exact .inl ⟨fun hheard => Bool.false_ne_true hheard.1, rfl⟩
  | writeRequest name payload =>
    obtain ⟨-, rfl⟩ :=
      Prod.mk.inj (Option.some.inj ((hdestroyed.run_request call name payload).2.symm.trans h))
    exact .inl ⟨fun hheard => Bool.false_ne_true hheard.1, rfl⟩
  | handleAction name handler =>
    exact .inl ⟨fun hheard => Bool.false_ne_true hheard.1,
      hunchanged (·.setActionHandler name handler) rfl h⟩
  | handleWrite name handler =>
    exact .inl ⟨fun hheard => Bool.false_ne_true hheard.1,
      hunchanged (·.setWriteHandler name handler) rfl h⟩
  | destroy =>
    exact .inl ⟨fun hheard => Bool.false_ne_true hheard.1, hunchanged (·.destroy) rfl h⟩

theorem Use.relates_grows {call : Call} (hcall : ∀ h o, Relates Site.Grows (call h o))
    (use : Use) : Relates Site.Grows (use.run call i) := by
  have hlasts := keeps_grows.lasts
  have hpublish := relates_publish keeps_grows hcall
  have hchange (change : ExposedThing → ExposedThing)
      (halike : ∀ t, ExposedThing.Alike t (change t)) :
      Relates Site.Grows (do updateExposed i change; pure .done : Run Outcome) :=
    relates_bind_pure
      (relates_of_run (run_updateExposed i change) fun s => keeps_grows.exposed s i change halike) _
  cases use with
  | emitEvent name data => exact relates_emitEvent hlasts hpublish i name data
  | emit e =>
    cases e with
    | property name value => exact relates_emitProperty hlasts hpublish i name value
    | batch members onlyChanges => exact relates_emitChanges hlasts hpublish i members onlyChanges
  | request name payload => exact relates_request Site.composes_grows hcall i name payload
  | writeRequest name payload => exact relates_writeRequest Site.composes_grows hcall i name payload
  | handleAction name handler =>
    exact hchange (·.setActionHandler name handler) fun _ => ⟨rfl, rfl, rfl⟩
  | handleWrite name handler =>
    exact hchange (·.setWriteHandler name handler) fun _ => ⟨rfl, rfl, rfl⟩
  | destroy => exact hchange (·.destroy) fun _ => ⟨rfl, rfl, rfl⟩

namespace Used

variable {call : Call} {uses : List (Use × Outcome)}

theorem grows (hcall : ∀ h o, Relates Site.Grows (call h o)) (h : Used call i uses s s') :
    s.Grows s' := by
  induction h with
  | nil => exact Site.composes_grows.refl _
  | cons run _ ih => exact Site.composes_grows.trans (Use.relates_grows hcall _ _ _ _ run) ih

/-- Uses of a destroyed thing change nothing up to the first of them that the output takes. -/
theorem eq_or_took (hcall : ∀ h o, Relates Site.Grows (call h o)) (h : Used call i uses s s')
    (ht : s.exposed.get? i = some t.destroy) (hd : s.catalogue.get? t.description = some d) :
    ((∀ use ∈ uses, ¬ use.1.Heard d use.2) ∧ s' = s) ∨
      ((∃ use ∈ uses, use.1.Heard d use.2) ∧ t.output.Took s s') := by
  induction h with
  | nil => exact .inl ⟨by simp, rfl⟩
  | cons run used ih =>
    rcases Use.eq_or_took hcall ht hd run with ⟨hunheard, rfl⟩ | ⟨hheard, htook⟩
    · refine (ih ht hd).imp (fun ⟨hrest, hs⟩ => ⟨?_, hs⟩) fun ⟨hrest, htook⟩ => ⟨?_, htook⟩
      · simpa [hunheard] using hrest
      · simpa [hunheard] using hrest
    · exact .inr ⟨⟨_, List.mem_cons_self, hheard⟩, htook.grows (used.grows hcall)⟩

end Used

end

/-! ## What can be read later -/

/-- All that can be read of an exposed thing was sent by it since a moment. -/
def Site.ReadsSince (s₁ : Site) (i : ExposedRef) (s' : Site) : Prop :=
  ∃ t moments, s'.exposed.get? i = some t ∧ s'.timeline = moments ++ s₁.timeline ∧
    ∀ name v, t.values.get? name = some v → ∃ changes, .remembered i changes ∈ moments ∧
      ∃ c ∈ changes, c.name = name ∧ c.snapshot = v

namespace ExposedThing

/-- What is kept after changes were sent is of one of them, or was kept before. -/
theorem get?_values_remember {t : ExposedThing} {changes : List Change} {name : String}
    {v : Snapshot} (h : (t.remember changes).values.get? name = some v) :
    (∃ c ∈ changes, c.name = name ∧ c.snapshot = v) ∨ t.values.get? name = some v := by
  simp only [remember] at h
  generalize t.values = values at h ⊢
  induction changes generalizing values with
  | nil => exact .inr h
  | cons c changes ih =>
    rcases ih _ h with ⟨c', hmem, hc'⟩ | hkept
    · exact .inl ⟨c', List.mem_cons_of_mem _ hmem, hc'⟩
    · rw [NameMap.get?_insert] at hkept
      split at hkept
      · next hname => exact .inl ⟨c, List.mem_cons_self, hname.symm, Option.some.inj hkept⟩
      · exact .inr hkept

end ExposedThing

section

variable {s₁ s s' : Site} {i : ExposedRef}

namespace Site.ReadsSince

theorem of_same (h : s₁.ReadsSince i s) (he : s'.exposed = s.exposed)
    (ht : s'.timeline = s.timeline) : s₁.ReadsSince i s' := by
  obtain ⟨t, moments, hget, hm, hvalues⟩ := h
  exact ⟨t, moments, he ▸ hget, ht ▸ hm, hvalues⟩

/-- The timeline goes on. -/
theorem mark (h : s₁.ReadsSince i s) (m : Moment) (he : s'.exposed = s.exposed)
    (ht : s'.timeline = m :: s.timeline) : s₁.ReadsSince i s' := by
  obtain ⟨t, moments, hget, hm, hvalues⟩ := h
  refine ⟨t, m :: moments, he ▸ hget, by rw [ht, hm, List.cons_append], fun name v hv => ?_⟩
  obtain ⟨changes, hmem, hc⟩ := hvalues name v hv
  exact ⟨changes, List.mem_cons_of_mem _ hmem, hc⟩

/-- An exposed thing changes, but keeps no value that it had not. -/
theorem updateExposed (h : s₁.ReadsSince i s) (k : ExposedRef)
    {change : ExposedThing → ExposedThing} (hchange : ∀ t name v,
      (change t).values.get? name = some v → t.values.get? name = some v) :
    s₁.ReadsSince i { s with exposed := s.exposed.update k change } := by
  obtain ⟨t, moments, hget, hm, hvalues⟩ := h
  simp only [Site.ReadsSince, Table.get?_update, hget, Option.map_some]
  split
  · exact ⟨_, moments, rfl, hm, fun name v hv => hvalues name v (hchange t name v hv)⟩
  · exact ⟨t, moments, rfl, hm, hvalues⟩

theorem remember (h : s₁.ReadsSince i s) (k : ExposedRef) (changes : List WebOfThings.Change) :
    s₁.ReadsSince i (s.remember k changes) := by
  obtain ⟨t, moments, hget, hm, hvalues⟩ := h
  simp only [Site.ReadsSince, Site.remember, Table.get?_update, hget, Option.map_some, hm]
  split
  · next hk =>
    subst hk
    refine ⟨_, .remembered k changes :: moments, rfl, rfl, fun name v hv => ?_⟩
    rcases ExposedThing.get?_values_remember hv with hsent | hkept
    · exact ⟨changes, List.mem_cons_self, hsent⟩
    · obtain ⟨earlier, hmem, hc⟩ := hvalues name v hkept
      exact ⟨earlier, List.mem_cons_of_mem _ hmem, hc⟩
  · refine ⟨t, .remembered k changes :: moments, rfl, rfl, fun name v hv => ?_⟩
    obtain ⟨earlier, hmem, hc⟩ := hvalues name v hv
    exact ⟨earlier, List.mem_cons_of_mem _ hmem, hc⟩

theorem drop (h : s₁.ReadsSince i s) (role : Role) (id : String) :
    s₁.ReadsSince i (role.drop id s) :=
  h.of_same (role.exposed_drop s id) (role.timeline_drop s id)

theorem changed (h : s₁.ReadsSince i s) (o : Occasion) (a : Act) :
    s₁.ReadsSince i (a.changed o s) := by
  cases a with
  | handleAction k | handleWrite k => exact h.updateExposed k fun _ _ _ hv => hv
  | destroy k => exact h.updateExposed k fun _ _ _ hv => nomatch hv
  | dismiss k =>
    simp only [Act.changed]
    split
    · next id _ => exact (h.drop .consumed id).of_same rfl rfl
    · exact h
  | _ => exact h.of_same rfl rfl

end Site.ReadsSince

/-- Nothing but sending makes anything readable of an exposed thing. -/
theorem Site.Change.readsSince {allowed : Occasion → Act → Prop} {told : ConsumedRef → Prop}
    (hchange : s.Change allowed told s') (h : s₁.ReadsSince i s) : s₁.ReadsSince i s' := by
  cases hchange with
  | note | bus | describe => exact h.of_same rfl rfl
  | take => exact h.mark _ rfl rfl
  | keep => exact h.mark _ rfl rfl
  | remember k changes => exact h.remember k changes
  | act => exact h.changed _ _
  | add role device ref id =>
    cases role with
    | consumed => exact h.of_same rfl rfl
    | exposed =>
      obtain ⟨t, moments, hget, hm, hvalues⟩ := h
      exact ⟨t, moments, Table.get?_add_of_get? hget _, hm, hvalues⟩
  | hold role k held =>
    cases role with
    | exposed => exact h.updateExposed k fun _ _ _ hv => hv
    | consumed => exact h.of_same rfl rfl
  | learn role => cases role <;> exact h.of_same rfl rfl
  | drop role id => exact h.drop role id
  | empty role k =>
    cases role with
    | exposed => exact h.updateExposed k fun _ _ _ hv => nomatch hv
    | consumed => exact h.of_same rfl rfl

end

/-! ## Silence -/

/-- After an exposed thing was destroyed, by itself or by its factory, all that can be read of it at
    any later moment was sent by it since. Whatever is done with the thing after the destruction, it
    is silent, and nothing can be read of it, if and only if nothing that is declared was emitted
    and taken by its output; and then nothing at all has changed. -/
theorem silent_iff_unheard {s s₁ : Site} {i : ExposedRef} {t : ExposedThing} {d : ThingDescription}
    (ht : s.exposed.get? i = some t) (hd : s.catalogue.get? t.description = some d) {u : Unit}
    (h : (updateExposed i (·.destroy)).run s = some (u, s₁) ∨ (retire i).run s = some (u, s₁)) :
    s₁.EverAfter (fun _ _ => True) (fun _ => True) (s₁.ReadsSince i) ∧
      ∀ depth uses s', Used (calls depth) i uses s₁ s' →
        ((¬ t.output.Took s₁ s' ∧ ∃ t', s'.exposed.get? i = some t' ∧
            ∀ name, t'.values.get? name = none) ↔ ∀ use ∈ uses, ¬ use.1.Heard d use.2) ∧
        ((∀ use ∈ uses, ¬ use.1.Heard d use.2) → s' = s₁) := by
  obtain ⟨ht₁, hd₁⟩ : s₁.exposed.get? i = some t.destroy ∧
      s₁.catalogue.get? t.description = some d := by
    rcases h with h | h
    · obtain ⟨-, rfl⟩ := Prod.mk.inj (Option.some.inj h)
      exact ⟨by simp [Table.get?_update, ht], hd⟩
    · have hid := Role.id?_eq_some.2 ⟨d, Role.description?_exposed.2 ⟨t, ht, hd⟩, rfl⟩
      obtain rfl := Role.eq_of_run_destroy hid
        (show (Role.exposed.destroy i).run s = some (u, s₁) from h)
      simp [Role.empty, Table.get?_update, ht, hd]
  have hempty (name : String) : t.destroy.values.get? name = none := rfl
  have hreads : s₁.ReadsSince i s₁ := ⟨t.destroy, [], ht₁, rfl, fun name v hv => by
    rw [hempty] at hv
    contradiction⟩
  refine ⟨.of_change s₁.confined_true (fun _ _ _ _ _ => trivial) hreads
    fun _ _ hchange => hchange.readsSince, fun depth uses s' hused => ?_⟩
  rcases hused.eq_or_took (relates_grows_calls depth) ht₁ hd₁ with
    ⟨hunheard, rfl⟩ | ⟨⟨use, hmem, hheard⟩, htook⟩
  · exact ⟨iff_of_true ⟨t.output.not_took_self _, _, ht₁, hempty⟩ hunheard, fun _ => rfl⟩
  · exact ⟨iff_of_false (fun hsilent => hsilent.1 htook) fun hunheard => hunheard use hmem hheard,
      fun hunheard => absurd hheard (hunheard use hmem)⟩

/-- The lamp is exposed on a bus that keeps what is published, and its factory knows it. -/
def emittingLamp : Site :=
  { lampSite with
    exposed := ⟨[{ lampThing with output := .bus 0 "lamp" }]⟩
    buses := ⟨[.ofLocal { lampBus with history := some [] }]⟩
    device := { things := ⟨[("lamp", 0)]⟩ } }

/-- After its factory destroyed it, the lamp is given a handler and fails to emit an event that is
    not declared: it is silent. Then it emits its level, and is not silent. -/
theorem silent_iff_unheard_lamp :
    ∃ s₁ s₂ s₃, (retire 0).run emittingLamp = some (.unit, s₁) ∧
      Used (calls 1) 0 [(.handleWrite "level" ⟨"dim", []⟩, .done),
        (.emitEvent "level" .null, .error (ThingDescription.lamp.noEvent "level"))] s₁ s₂ ∧
      (¬ Output.Took (.bus 0 "lamp") s₁ s₂ ∧ ∃ t, s₂.exposed.get? 0 = some t ∧
        ∀ name, t.values.get? name = none) ∧
      Used (calls 1) 0 [(.emit (.property "level" (.bool true)), .done)] s₁ s₃ ∧
      ¬ (¬ Output.Took (.bus 0 "lamp") s₁ s₃ ∧ ∃ t, s₃.exposed.get? 0 = some t ∧
        ∀ name, t.values.get? name = none) := by
  obtain ⟨s₁, s₂, s₃, hretire, hquiet, hloud⟩ :
      ∃ s₁ s₂ s₃, (retire 0).run emittingLamp = some (.unit, s₁) ∧
      Used (calls 1) 0 [(.handleWrite "level" ⟨"dim", []⟩, .done),
        (.emitEvent "level" .null, .error (ThingDescription.lamp.noEvent "level"))] s₁ s₂ ∧
      Used (calls 1) 0 [(.emit (.property "level" (.bool true)), .done)] s₁ s₃ :=
    ⟨_, _, _, rfl, .cons rfl (.cons rfl .nil), .cons rfl .nil⟩
  obtain ⟨-, hiff⟩ := silent_iff_unheard (s := emittingLamp) (i := 0) rfl rfl (.inr hretire)
  refine ⟨s₁, s₂, s₃, hretire, hquiet, (hiff 1 _ _ hquiet).1.2 ?_, hloud,
    fun hsilent => (hiff 1 _ _ hloud).1.1 hsilent _ List.mem_cons_self ⟨rfl, rfl⟩⟩
  simp [Use.Heard, Use.speaks]

/-- The factory of the lamp destroys it, and nothing can be read of it then. But the lamp emits its
    level, which is published, and can be read. -/
theorem destroyed_heard :
    ((do
      retire 0
      let before := (← exposed 0).values.get? "level"
      let _ ← emitProperty (calls 1) 0 "level" (.bool true)
      let after := (← exposed 0).values.get? "level"
      pure (before.isSome, (← bus 0).published.map (·.topic), after.isSome) :
        Run (Bool × List String × Bool)).run emittingLamp).map (·.1) =
      some (false, ["things/lamp/event/properties"], true) := by cbv

-- whoever is told of the level destroys the lamp, which keeps the level all the same
example :
    ((do
      let _ ← subscribe 0 (Topic.events "lamp") (.handler ⟨"end", [.destroy 0]⟩)
      let _ ← emitProperty (calls 1) 0 "level" (.bool true)
      pure ((← exposed 0).isDestroyed, ((← exposed 0).values.get? "level").isSome) :
        Run (Bool × Bool)).run emittingLamp).map (·.1) = some (true, true) := by cbv

end WebOfThings
