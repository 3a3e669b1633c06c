import WebOfThings.Proofs.Passage

/-!
# Silent passages of a link

Whatever a handler does that spares a link and does not emit property changes of its exposed thing
is a silent passage, if the handlers are that it leads to in turn (`passage_perform`): messages on
other topics, requests, and events of the exposed thing, which may reach the consumed thing but
bring no value of the property.
-/

namespace WebOfThings

open Run

namespace Link

/-- A property whose values arrive in batches only: it is no event, and nothing that is declared
    has the name of batches. The identifier of the thing is one level of a topic. -/
structure Apt (L : Link) (p : String) : Prop where
  /-- The identifier has no slash. -/
  level : Topic.IsLevel L.description.id
  /-- The identifier is no wildcard of many levels. -/
  hash : L.description.id ≠ "#"
  /-- There is no event of the name. -/
  noEvent : L.description.events.get? p = none
  /-- There is no property of the name of batches. -/
  batchNoProperty : L.description.propertySchema? Topic.batchName = none
  /-- There is no event of the name of batches. -/
  batchNoEvent : L.description.events.get? Topic.batchName = none

theorem apt_lamp (p : String) : lamp.Apt p :=
  ⟨by decide, by decide, rfl, rfl, rfl⟩

/-- A message brings the consumed thing no value of a property. -/
def Harmless (L : Link) (p : String) (m : Message) : Prop :=
  ∀ parts, Topic.split? m.topic = some parts → parts.kind = Topic.eventKind →
    ∀ delivery ∈ ConsumedThing.deliveries L.description parts.name m.payload, delivery.name ≠ p

variable {L : Link} {p : String} {s s' : Site}

theorem Apt.matches_topic (hp : L.Apt p) : Topic.matches L.filter L.topic = true :=
  Topic.matches_events hp.level hp.hash _

/-- Events bring no value of the property. -/
theorem Apt.harmless_event (hp : L.Apt p) {name : String}
    (declared : L.description.events.contains name = true) (payload : Bytes) :
    L.Harmless p ⟨Topic.event L.description.id name, payload⟩ := by
  intro parts hparts _ delivery hmem
  obtain rfl := Option.some.inj ((Topic.split?_event hp.level name).symm.trans hparts)
  have hname : name ≠ p := by
    rintro rfl
    simp [NameMap.contains, hp.noEvent] at declared
  have hbatch : name ≠ Topic.batchName := by
    rintro rfl
    simp [NameMap.contains, hp.batchNoEvent] at declared
  simp only [ConsumedThing.deliveries, List.mem_append] at hmem
  rcases hmem with hmem | hmem
  · simp only [ConsumedThing.propertyDeliveries, hbatch, if_false] at hmem
    split at hmem
    · obtain rfl := List.mem_singleton.1 hmem
      exact hname
    · simp at hmem
  · simp only [ConsumedThing.eventDeliveries] at hmem
    split at hmem
    · obtain rfl := List.mem_singleton.1 hmem
      exact hname
    · simp at hmem

theorem composes_silent : Composes (L.Passage p Silent) where
  refl s := ⟨[], [], .refl s, fun hb _ _ => ⟨⟨hb, rfl, rfl⟩, .none, rfl, fun _ => rfl⟩⟩
  trans h h' := by
    refine h.trans h' fun hq hq' hm hm' => ?_
    obtain ⟨n, rfl, hn⟩ := hm
    obtain ⟨n', rfl, hn'⟩ := hm'
    refine ⟨n.append n', n.marks_append n', fun h => ?_⟩
    rw [hn (hq h), hn' (hq' h), Nest.append]

/-! ## Single changes -/

theorem Passage.silent (entries : List Entry) (moments : List Moment)
    (hs : s.Extends s' entries moments)
    (h : L.Bound s → L.Bound s' ∧ L.emitted p s' = L.emitted p s ∧
      L.received p s' = L.received p s ∧ L.marks p moments = []) :
    L.Passage p Silent s s' := by
  refine ⟨entries, moments, hs, fun hb _ _ => ?_⟩
  obtain ⟨hb', hemitted, hreceived, hmarks⟩ := h hb
  rw [hmarks]
  exact ⟨⟨hb', hemitted, hreceived⟩, .none, rfl, fun _ => rfl⟩

theorem emitted_updateExposed {i : ExposedRef} {change : ExposedThing → ExposedThing}
    (hv : i = L.exposed → ∀ t, (change t).values.get? p = t.values.get? p) :
    L.emitted p { s with exposed := s.exposed.update i change } = L.emitted p s := by
  simp only [emitted, Table.get?_update]
  split
  · next hi =>
    cases s.exposed.get? L.exposed with
    | none => rfl
    | some t => simp [hv hi t]
  · rfl

theorem received_updateConsumed {i : ConsumedRef} {change : ConsumedThing → ConsumedThing}
    (hv : i = L.consumed → ∀ c, (change c).values.get? p = c.values.get? p) :
    L.received p { s with consumed := s.consumed.update i change } = L.received p s := by
  simp only [received, Table.get?_update]
  split
  · next hi =>
    cases s.consumed.get? L.consumed with
    | none => rfl
    | some c => simp [hv hi c]
  · rfl

theorem relates_silent_note (e : Entry) : Relates (L.Passage p Silent) (note e) :=
  relates_of_run (run_note e) fun _ =>
    .silent [e] [] ⟨rfl, rfl, rfl, fun _ => rfl⟩ fun hb =>
      ⟨hb.note _, rfl, rfl, rfl⟩

theorem relates_silent_mark {m : Moment} (hm : L.mark? p m = none) :
    Relates (L.Passage p Silent) (mark m) :=
  relates_of_run (run_mark m) fun _ =>
    .silent [] [m] ⟨rfl, rfl, rfl, fun _ => rfl⟩ fun hb =>
      ⟨hb.mark _, rfl, rfl, by simp [marks, hm]⟩

theorem relates_silent_updateExposed (i : ExposedRef) (change : ExposedThing → ExposedThing)
    (hd : ∀ t, (change t).description = t.description) (ho : ∀ t, (change t).output = t.output)
    (hv : i = L.exposed → ∀ t, (change t).values.get? p = t.values.get? p) :
    Relates (L.Passage p Silent) (updateExposed i change) :=
  relates_of_run (run_updateExposed i change) fun _ =>
    .silent [] [] ⟨rfl, rfl, rfl, fun _ => rfl⟩ fun hb =>
      ⟨hb.updateExposed i change hd ho, emitted_updateExposed hv, rfl, rfl⟩

theorem relates_silent_updateConsumed (i : ConsumedRef)
    (change : ConsumedThing → ConsumedThing)
    (hd : ∀ c, (change c).description = c.description)
    (hi : ∀ c, (change c).interaction = c.interaction) (hh : ∀ c, (change c).held = c.held)
    (hv : i = L.consumed → ∀ c, (change c).values.get? p = c.values.get? p) :
    Relates (L.Passage p Silent) (updateConsumed i change) :=
  relates_of_run (run_updateConsumed i change) fun _ =>
    .silent [] [] ⟨rfl, rfl, rfl, descriptions_update i hd⟩ fun hb =>
      ⟨hb.updateConsumed i change hd hi hh, rfl, received_updateConsumed hv, rfl⟩

/-! ## Messages -/

section

variable {call : Call} (hcall : ∀ h o, Relates (L.Passage p Silent) (call h o))
include hcall

omit hcall in
theorem relates_grows_of_silent (hcall : ∀ h o, Relates (L.Passage p Silent) (call h o))
    (h : Handler) (o : Occasion) : Relates Site.Grows (call h o) :=
  fun _ _ _ hr => (hcall h o _ _ _ hr).grows

theorem relates_silent_deliver {i : ConsumedRef} {delivery : Delivery}
    (hne : i = L.consumed → delivery.name ≠ p) :
    Relates (L.Passage p Silent) (deliver call i delivery) := by
  refine relates_bind composes_silent ?_ fun _ => ?_
  · refine relates_silent_updateConsumed i (·.keep delivery) (fun _ => rfl) (fun _ => rfl)
      (fun _ => rfl) ?_
    intro hi c
    simp [ConsumedThing.keep, NameMap.get?_insert, (hne hi).symm]
  refine relates_bind composes_silent (relates_silent_mark ?_) fun _ => ?_
  · simpa [mark?] using hne
  refine relates_bind composes_silent (relates_consumed composes_silent i) fun c => ?_
  cases c.handler? delivery with
  | none => exact relates_pure composes_silent _
  | some h => exact relates_discard (hcall h _)

theorem relates_silent_receive {i : ConsumedRef} {name : String} {payload : Bytes}
    (hne : i = L.consumed → ∀ delivery ∈ ConsumedThing.deliveries L.description name payload,
      delivery.name ≠ p) :
    Relates (L.Passage p Silent) (receive call i name payload) := by
  intro s a s' h
  by_cases hb : L.Bound s
  · obtain ⟨c, d, hget, hdget, h⟩ := run_with_consumed.1 h
    -- the hypothesis is about the description of the link, which the thing has if it is that one
    refine relates_forM composes_silent (fun delivery hmem => ?_) _ _ _ h
    refine relates_silent_deliver hcall fun hi => ?_
    obtain ⟨c', hc', hcd, -⟩ := hb.consumed
    obtain rfl : c' = c := by rw [← hi, hget] at hc'; exact (Option.some.inj hc').symm
    obtain rfl : d = L.description := Option.some.inj (hdget.symm.trans hcd)
    exact hne hi delivery hmem
  · exact .of_not_bound
      (relates_receive keeps_grows (relates_grows_of_silent hcall) i _ _ _ _ _ h) hb

theorem relates_silent_accept {m : Message} {r : Receiver}
    (hr : r = .events L.consumed → L.Harmless p m) :
    Relates (L.Passage p Silent) (accept call m r) := by
  refine relates_accept composes_silent hcall fun i parts he hparts hkind => ?_
  refine relates_silent_receive hcall fun hi => ?_
  subst hi
  exact hr he parts hparts hkind

/-- A message passes the link by if it is published on another bus, or brings no value. -/
theorem passage_publish {i : BusRef} {m : Message}
    (hm : L.Bound s → i = L.bus →
      m.topic ≠ L.topic ∧ (Topic.matches L.filter m.topic = true → L.Harmless p m))
    {outcome : Outcome} (h : (publish call i m).run s = some (outcome, s')) :
    L.Passage p Silent s s' := by
  by_cases hb : L.Bound s
  · refine rel_of_run_publish composes_silent h fun b b' receivers hget hsent => ⟨?_, ?_⟩
    · -- first the bus takes the message
      refine .silent [] [.published i m] ⟨rfl, rfl, rfl, fun _ => rfl⟩
        fun _ => ⟨(hb.updateBus fun b₁ hb₁ hfits => ?_).mark _, rfl, rfl, ?_⟩
      · obtain rfl : b = b₁ := Option.some.inj (hget.symm.trans hb₁)
        exact hfits.publish hsent
      · have hnot : ¬ (i = L.bus ∧ m.topic = L.topic) := by
          rintro ⟨hi, ht⟩
          exact (hm hb hi).1 ht
        simp [marks, mark?, hnot]
    · -- then it hands it to those who listened at that moment; the consumed thing is among them
      -- only on the bus of the link, and if its filter matches
      refine relates_forM composes_silent fun r hr => relates_silent_accept hcall fun he => ?_
      obtain ⟨hi, hmatch⟩ := (hb.fits i b hget).of_mem_receivers hsent (he ▸ hr)
      exact (hm hb hi).2 hmatch
  · exact .of_not_bound (relates_publish keeps_grows (relates_grows_of_silent hcall) i m _ _ _ h) hb

theorem passage_publish_of_not_matches (hp : L.Apt p) {i : BusRef} {m : Message}
    (hm : L.Bound s → i = L.bus → Topic.matches L.filter m.topic = false) {outcome : Outcome}
    (h : (publish call i m).run s = some (outcome, s')) : L.Passage p Silent s s' := by
  refine passage_publish hcall (fun hb hi => ?_) h
  have hnot := hm hb hi
  refine ⟨fun ht => ?_, fun hyes => ?_⟩
  · rw [ht, hp.matches_topic] at hnot
    contradiction
  · rw [hyes] at hnot
    contradiction

omit hcall in
theorem relates_silent_record (refuses : Bool) (e : Entry) :
    Relates (L.Passage p Silent) (record refuses e) := by
  cases refuses with
  | true => exact relates_pure composes_silent _
  | false => exact relates_bind_pure (relates_silent_note e) _

/-! ## Things that send -/

theorem relates_silent_emitEvent (hp : L.Apt p) (i : ExposedRef) (name : String) (data : Json) :
    Relates (L.Passage p Silent) (emitEvent call i name data) := by
  intro s outcome s' h
  obtain ⟨t, d, hget, hdget, h⟩ := run_with_exposed.1 h
  split at h
  · next declared =>
    cases hout : t.output with
    | nowhere => exact relates_pure composes_silent _ _ _ _ (hout ▸ h)
    | recorder refuses => exact relates_silent_record refuses _ _ _ _ (hout ▸ h)
    | bus b id =>
      rw [hout] at h
      by_cases hi : i = L.exposed
      · -- an event of the thing itself may reach the consumed thing
        refine passage_publish hcall (fun hb _ => ?_) h
        obtain ⟨t', ht', hdesc, hout'⟩ := hb.exposed
        obtain rfl : t = t' := by rw [← hi, hget] at ht'; exact Option.some.inj ht'
        obtain rfl : d = L.description := Option.some.inj (hdget.symm.trans hdesc)
        obtain ⟨-, rfl⟩ := Output.bus.inj (hout.symm.trans hout')
        refine ⟨fun htopic => ?_, fun _ => hp.harmless_event declared _⟩
        obtain rfl : name = Topic.batchName := Topic.event_inj htopic
        simp [NameMap.contains, hp.batchNoEvent] at declared
      · refine passage_publish_of_not_matches hcall hp (fun hb hbus => ?_) h
        subst hbus
        exact hb.outputs i t hget hi id hout name
  · exact relates_pure composes_silent _ _ _ _ h

/-- Another exposed thing may send property changes. -/
theorem relates_silent_emitChanges (hp : L.Apt p) {i : ExposedRef} (hi : i ≠ L.exposed)
    (batch : Members Json) (onlyChanges : Bool) :
    Relates (L.Passage p Silent) (emitChanges call i batch onlyChanges) := by
  intro s outcome s' h
  obtain ⟨t, d, hget, hdget, -⟩ := run_with_exposed.1 h
  rcases (run_emitChanges_eq_some hget hdget).1 h with ⟨-, -, rfl⟩ | ⟨-, s₁, hsend, rfl⟩
  · exact composes_silent.refl _
  -- what another thing sends is published on its own topics
  have hsent : L.Passage p Silent s s₁ := by
    cases hout : t.output with
    | nowhere => exact relates_pure composes_silent _ _ _ _ (hout ▸ hsend)
    | recorder refuses => exact relates_silent_record refuses _ _ _ _ (hout ▸ hsend)
    | bus b id =>
      rw [hout] at hsend
      refine passage_publish_of_not_matches hcall hp (fun hb hbus => ?_) hsend
      subst hbus
      exact hb.outputs i t hget hi id hout _
  cases outcome with
  | error e => exact hsent
  | ok u =>
    -- and what it remembers is no value of the thing of the link
    refine composes_silent.trans hsent (.silent []
      [.remembered i (t.changes d onlyChanges batch)] ⟨rfl, rfl, rfl, fun _ => rfl⟩
      fun hb => ⟨hb.remember i _, emitted_updateExposed fun he => absurd he hi, rfl, ?_⟩)
    simp [marks, mark?, hi]

theorem relates_silent_emitProperty (hp : L.Apt p) {i : ExposedRef} (hi : i ≠ L.exposed)
    (name : String) (value : Json) :
    Relates (L.Passage p Silent) (emitProperty call i name value) := by
  refine relates_with_exposed composes_silent i fun t d => ?_
  split
  · exact relates_silent_emitChanges hcall hp hi _ _
  · exact relates_pure composes_silent _

/-- A request is published on a topic that the filter of the link does not match. -/
theorem passage_sendRequest (hp : L.Apt p) {i : ConsumedRef} {c : ConsumedThing}
    (hc : s.consumed.get? i = some c) {d : ThingDescription} {name : String} {value : Json}
    {noted : Entry} {outcome : Outcome}
    (h : (sendRequest call d c.interaction name value noted).run s = some (outcome, s')) :
    L.Passage p Silent s s' := by
  cases hinter : c.interaction with
  | nowhere => exact relates_pure composes_silent _ _ _ _ (hinter ▸ h)
  | recorder refuses refused => exact relates_silent_record _ _ _ _ _ (hinter ▸ h)
  | bus b id =>
    rw [hinter] at h
    refine passage_publish_of_not_matches hcall hp (fun hb hbus => ?_) h
    subst hbus
    exact hb.interactions i c hc id hinter name

theorem relates_silent_invoke (hp : L.Apt p) (i : ConsumedRef) (name : String) (data : Json) :
    Relates (L.Passage p Silent) (invoke call i name data) := by
  intro s outcome s' h
  obtain ⟨c, d, hget, hdget, h⟩ := run_with_consumed.1 h
  split at h
  · exact passage_sendRequest hcall hp hget h
  · exact relates_pure composes_silent _ _ _ _ h

theorem relates_silent_write (hp : L.Apt p) (i : ConsumedRef) (name : String) (value : Json) :
    Relates (L.Passage p Silent) (write call i name value) := by
  intro s outcome s' h
  obtain ⟨c, d, hget, hdget, h⟩ := run_with_consumed.1 h
  split at h
  · exact passage_sendRequest hcall hp hget h
  · exact relates_pure composes_silent _ _ _ _ h

omit hcall

/-! ## Things and buses that are changed -/

theorem relates_silent_addHandler (i : ConsumedRef) (kind : NoticeKind) (name : String)
    (h : Handler) : Relates (L.Passage p Silent) (addHandler i kind name h) := by
  refine relates_of_run_map (run_addHandler i kind name h) fun s c _ => ?_
  have hsame (c : ConsumedThing) : ∃ change, (c.subscribe kind name h).2 =
    c.updateHandlers kind change := c.subscribe_eq_updateHandlers kind name h
  refine .silent [] [] ⟨rfl, rfl, rfl, descriptions_update i fun c => ?_⟩ fun hb =>
    ⟨hb.updateConsumed i _ (fun c => ?_) (fun c => ?_) (fun c => ?_), rfl,
      received_updateConsumed fun _ c => ?_, rfl⟩
  all_goals
    obtain ⟨change, he⟩ := hsame c
    simp [he]

theorem relates_silent_removeHandler (i : ConsumedRef) (kind : NoticeKind) (name : String) :
    Relates (L.Passage p Silent) (removeHandler i kind name) := by
  refine relates_of_run_map (run_removeHandler i kind name) fun s c _ => ?_
  refine .silent [] [] ⟨rfl, rfl, rfl, descriptions_update i fun c => ?_⟩ fun hb =>
    ⟨hb.updateConsumed i _ (fun c => ?_) (fun c => ?_) (fun c => ?_), rfl,
      received_updateConsumed fun _ c => ?_, rfl⟩
  all_goals simp [ConsumedThing.unsubscribe]

theorem relates_silent_stop {i : ConsumedRef} (hi : i ≠ L.consumed) :
    Relates (L.Passage p Silent) (updateConsumed i (·.stop)) :=
  relates_silent_updateConsumed i (·.stop) (fun _ => rfl) (fun _ => rfl) (fun _ => rfl) fun he =>
    absurd he hi

theorem relates_silent_listen {i : BusRef} {filter : String}
    (hf : i = L.bus → filter ≠ L.filter) (h : Handler) :
    Relates (L.Passage p Silent) (subscribe i filter (.handler h)) :=
  relates_of_run_map (run_subscribe i filter _) fun _ _ _ =>
    .silent [] [] ⟨rfl, rfl, rfl, fun _ => rfl⟩ fun hb =>
      ⟨hb.updateBus fun _ _ hfits => hfits.subscribe hf h, rfl, rfl, rfl⟩

theorem relates_silent_unlisten {i : BusRef} {filter : String}
    (hf : i = L.bus → filter ≠ L.filter) :
    Relates (L.Passage p Silent) (unsubscribe i filter) :=
  relates_of_run_map (run_unsubscribe i filter) fun _ _ _ =>
    .silent [] [] ⟨rfl, rfl, rfl, fun _ => rfl⟩ fun hb =>
      ⟨hb.updateBus fun _ _ hfits => hfits.unsubscribe hf, rfl, rfl, rfl⟩

theorem relates_silent_disconnect {i : BusRef} (hi : i ≠ L.bus) :
    Relates (L.Passage p Silent) (updateBus i (·.disconnect)) :=
  relates_of_run (run_updateBus i _) fun _ =>
    .silent [] [] ⟨rfl, rfl, rfl, fun _ => rfl⟩ fun hb =>
      ⟨hb.updateBus fun _ _ hfits => hfits.disconnect hi, rfl, rfl, rfl⟩

/-- The factory may destroy a thing of another identifier. -/
theorem passage_dismiss {i : ConsumedRef} (hi : ¬ L.Twin s i) {u : Unit}
    (h : (dismiss i).run s = some (u, s')) : L.Passage p Silent s s' := by
  obtain ⟨c, d, hc, hd, h⟩ := run_with_consumed.1 h
  have hid : d.id ≠ L.description.id := fun he => hi ⟨c, d, hc, hd, he⟩
  by_cases hb : L.Bound s
  · -- on a bound link the consumed thing itself has the identifier
    have hne : i ≠ L.consumed := by
      rintro rfl
      obtain ⟨c', hc', hd', -⟩ := hb.consumed
      exact hi ⟨c', _, hc', hd', rfl⟩
    refine relates_bind composes_silent (relates_get composes_silent) (fun site => ?_) _ _ _ h
    dsimp only
    split
    · refine relates_bind composes_silent (relates_of_run (fun _ => rfl) fun _ =>
        .silent [] [] ⟨rfl, rfl, rfl, fun _ => rfl⟩ fun hb => ⟨hb.forget hid, rfl, rfl, rfl⟩)
        fun _ => ?_
      exact relates_bind composes_silent (relates_discard (relates_silent_unlisten fun _ he =>
        hid (Topic.events_inj he))) fun _ => relates_silent_stop hne
    · exact relates_silent_stop hne
  · exact .of_not_bound (relates_grows_dismiss i _ _ _ (run_with_consumed.2 ⟨c, d, hc, hd, h⟩)) hb

include hcall

/-- An act that spares the link, and emits no property changes of its exposed thing, passes the
    link by. -/
theorem passage_perform (hp : L.Apt p) {o : Occasion} {a : Act} (hspares : L.Spares s o a)
    (hquiet : ¬ L.Emits a) {result : ActResult}
    (h : (perform call o a).run s = some (result, s')) : L.Passage p Silent s s' := by
  cases a with
  | emitEvent i _ _ => exact relates_map (relates_silent_emitEvent hcall hp i _ _) _ _ _ _ h
  | emitProperty i _ _ =>
    exact relates_map (relates_silent_emitProperty hcall hp hquiet _ _) _ _ _ _ h
  | emitChanges i _ onlyChanges =>
    exact relates_map (relates_silent_emitChanges hcall hp hquiet _ _) _ _ _ _ h
  | request i _ _ => exact relates_map (relates_request composes_silent hcall i _ _) _ _ _ _ h
  | lookUp i _ =>
    exact relates_bind_pure (relates_exposed composes_silent i) _ _ _ _ h
  | handleAction i _ label acts =>
    exact relates_bind_pure (relates_silent_updateExposed i (·.setActionHandler _ { label, acts })
      (fun _ => rfl) (fun _ => rfl) fun _ _ => rfl) _ _ _ _ h
  | handleWrite i _ label acts =>
    exact relates_bind_pure (relates_silent_updateExposed i (·.setWriteHandler _ { label, acts })
      (fun _ => rfl) (fun _ => rfl) fun _ _ => rfl) _ _ _ _ h
  | destroy i =>
    -- its values are gone, but it is not the thing of the link
    exact relates_bind_pure (relates_silent_updateExposed i (·.destroy) (fun _ => rfl)
      (fun _ => rfl) fun he => absurd he hspares) _ _ _ _ h
  | refuse e => exact relates_pure composes_silent _ _ _ _ h
  | invoke i _ _ => exact relates_map (relates_silent_invoke hcall hp i _ _) _ _ _ _ h
  | write i _ _ => exact relates_map (relates_silent_write hcall hp i _ _) _ _ _ _ h
  | receive i _ _ =>
    exact relates_bind_pure (relates_silent_receive hcall fun he => absurd he hspares) _ _ _ _ h
  | read i _ =>
    exact relates_with_consumed composes_silent i
      (fun _ _ => relates_pure composes_silent _) _ _ _ h
  | subscribe i _ _ _ | observe i _ _ _ =>
    exact relates_map (relates_silent_addHandler i _ _ _) _ _ _ _ h
  | unsubscribe i _ | unobserve i _ =>
    exact relates_map (relates_silent_removeHandler i _ _) _ _ _ _ h
  | stop i => exact relates_bind_pure (relates_silent_stop hspares) _ _ _ _ h
  | dismiss i =>
    obtain ⟨u, s₁, hd, h⟩ := run_bind_eq_some.1 h
    obtain ⟨-, rfl⟩ := Prod.mk.inj (Option.some.inj h)
    exact passage_dismiss hspares hd
  | publish b _ _ =>
    obtain ⟨outcome, h, -⟩ := run_map_eq_some.1 h
    refine passage_publish_of_not_matches hcall hp (fun _ hbus => ?_) h
    exact hspares hbus
  | listen b _ _ _ => exact relates_map (relates_silent_listen hspares _) _ _ _ _ h
  | unlisten b _ => exact relates_map (relates_silent_unlisten hspares) _ _ _ _ h
  | disconnect b => exact relates_bind_pure (relates_silent_disconnect hspares) _ _ _ _ h

end

end Link

end WebOfThings
