import WebOfThings.Proofs.Emission
import WebOfThings.Proofs.SilentPassage

/-!
# How a batch passes a link

A batch that the exposed thing of a link sends is published (`passage_take`), its values arrive at
the consumed thing one after another (`relates_arrives`), and it is remembered
(`passage_remember`). Others receive it before the consumed thing and after, and handlers that are
told of values may do anything that spares the link, so other emissions may come in between. In all
the emission is one of a nest (`relates_level_emitChanges`).
-/

namespace WebOfThings

open Run

/-- The delivery that a change becomes. -/
def Change.delivery (c : Change) : Delivery := ⟨.property, c.name, c.snapshot⟩

namespace Link

variable {L : Link} {p : String} {s s' : Site} {changes : List Change}

/-- The changes are declared, and their snapshots are those of their values. -/
def Declares (L : Link) (changes : List Change) : Prop :=
  ∀ c ∈ changes, ∃ schema, L.description.propertySchema? c.name = some schema ∧
    c.snapshot = Snapshot.ofNative c.value (some schema)

/-- What the consumed thing makes of a batch is the changes that it was made of, if no property has
    the name of batches. -/
theorem propertyDeliveries_batch (hname : L.description.propertySchema? Topic.batchName = none)
    (hd : L.Declares changes)
    (hreads : Json.read? (ExposedThing.batchValue changes).compact =
      some (ExposedThing.batchValue changes)) :
    ConsumedThing.propertyDeliveries L.description Topic.batchName
        (ExposedThing.batchValue changes).compact = changes.map Change.delivery := by
  rw [ConsumedThing.propertyDeliveries, hname]
  rw [if_pos rfl, ConsumedThing.batchDeliveries, hreads]
  simp only [ExposedThing.batchValue, Option.map_some, Option.getD_some, Json.members]
  -- what is left is about each entry apart, so the batch as a whole is forgotten
  clear hreads
  induction changes with
  | nil => rfl
  | cons c changes ih =>
    obtain ⟨schema, hs, hsnap⟩ := hd c List.mem_cons_self
    simp [hs, Change.delivery, hsnap, ih fun c' hc' => hd c' (List.mem_cons_of_mem _ hc')]

theorem Apt.deliveries_batch (hp : L.Apt p) (hd : L.Declares changes)
    (hreads : Json.read? (ExposedThing.batchValue changes).compact =
      some (ExposedThing.batchValue changes)) :
    ConsumedThing.deliveries L.description Topic.batchName
        (ExposedThing.batchValue changes).compact = changes.map Change.delivery := by
  have hevents : ConsumedThing.eventDeliveries L.description Topic.batchName
      (ExposedThing.batchValue changes).compact = [] := by
    simp [ConsumedThing.eventDeliveries, hp.batchNoEvent]
  rw [ConsumedThing.deliveries, hevents, List.append_nil,
    propertyDeliveries_batch hp.batchNoProperty hd hreads]

theorem nodup_of_readsBack (hreads : Json.read? (ExposedThing.batchValue changes).compact =
    some (ExposedThing.batchValue changes)) : (changes.map (·.name)).Nodup := by
  have h := (Json.sorted_of_read? hreads).nodup
  rwa [List.map_map] at h

/-! ## Published and remembered -/

/-- What a batch is to the values of a property when it is published. -/
def publishedMark (p : String) (changes : List Change) : List Mark :=
  ((changes.find? (·.name = p)).map fun c => Mark.published c.value).toList

/-- What a batch is to the values of a property when it is remembered. -/
def rememberedMark (p : String) (changes : List Change) : List Mark :=
  ((changes.find? (·.name = p)).map fun c => Mark.remembered c.snapshot.value).toList

theorem passage_take (hreads : Json.read? (ExposedThing.batchValue changes).compact =
    some (ExposedThing.batchValue changes)) :
    L.Passage p (fun _ marks => marks = publishedMark p changes) s
      (s.take L.bus ⟨L.topic, (ExposedThing.batchValue changes).compact⟩) := by
  refine ⟨[], [.published L.bus ⟨L.topic, (ExposedThing.batchValue changes).compact⟩],
    ⟨rfl, rfl, rfl, fun _ => rfl⟩, fun hb _ _ => ?_⟩
  -- the payload reads back, so it shows the value of the property in the batch
  have hget : Json.get? p (ExposedThing.batchValue changes) =
      (changes.find? (·.name = p)).map (·.value) := ExposedThing.get?_batch changes p
  have hmarks : L.marks p [.published L.bus ⟨L.topic, (ExposedThing.batchValue changes).compact⟩] =
      publishedMark p changes := by
    cases hfind : changes.find? (·.name = p) <;>
      simp [marks, mark?, hreads, hget, publishedMark, hfind]
  rw [hmarks]
  -- neither thing has learnt of it yet
  refine ⟨⟨hb.take _ _, ?_, ?_⟩, rfl⟩
  all_goals
    unfold publishedMark
    cases changes.find? (·.name = p) <;> rfl

theorem passage_remember :
    L.Passage p (fun _ marks => marks = rememberedMark p changes) s
      (s.remember L.exposed changes) := by
  refine ⟨[], [.remembered L.exposed changes], ⟨rfl, rfl, rfl, fun _ => rfl⟩,
    fun hb _ hreads => ?_⟩
  -- a batch that reads back has no name twice, so what it says of the property is remembered
  have hnodup := nodup_of_readsBack (hreads _ List.mem_cons_self changes rfl).1
  have hmarks : L.marks p [.remembered L.exposed changes] = rememberedMark p changes := by
    cases hfind : changes.find? (·.name = p) <;> simp [marks, mark?, rememberedMark, hfind]
  obtain ⟨t, ht, -⟩ := hb.exposed
  rw [hmarks]
  refine ⟨⟨hb.remember _ _, ?_, ?_⟩, rfl⟩
  · have hget : (s.remember L.exposed changes).exposed.get? L.exposed =
        some (t.remember changes) := by simp [Site.remember, Table.get?_update, ht]
    simp only [emitted, hget, ht, Option.bind_some, ExposedThing.get?_remember hnodup,
      rememberedMark]
    cases changes.find? (·.name = p) <;> rfl
  · unfold rememberedMark
    cases changes.find? (·.name = p) <;> rfl

/-! ## Arrival -/

/-- What comes of a batch that arrives: its value of the property, if it has one, between
    emissions. -/
def Arrives (p : String) (changes : List Change) : Shape :=
  match changes.find? (·.name = p) with
  | none => Silent
  | some c => Around c.snapshot.value

theorem Arrives.imp {quiet quiet' : Prop} {marks : List Mark} (hq : quiet' → quiet)
    (h : Arrives p changes quiet marks) : Arrives p changes quiet' marks := by
  unfold Arrives at *
  cases hfind : changes.find? (·.name = p) with
  | none =>
    rw [hfind] at h
    obtain ⟨n, hm, hn⟩ := h
    exact ⟨n, hm, fun h => hn (hq h)⟩
  | some c =>
    rw [hfind] at h
    obtain ⟨before, after, hm, hba⟩ := h
    exact ⟨before, after, hm, fun h => hba (hq h)⟩

theorem Silent.around {quiet quiet' quiet'' : Prop} {marks marks' : List Mark} {value : Json}
    (hq : quiet'' → quiet) (hq' : quiet'' → quiet') (h : Silent quiet marks)
    (h' : Around value quiet' marks') : Around value quiet'' (marks' ++ marks) := by
  obtain ⟨n, rfl, hn⟩ := h
  obtain ⟨before, after, rfl, hba⟩ := h'
  refine ⟨n.append before, after, by simp [Nest.marks_append], fun h => ?_⟩
  obtain ⟨rfl, rfl⟩ := hba (hq' h)
  exact ⟨hn (hq h), rfl⟩

theorem Around.silent {quiet quiet' quiet'' : Prop} {marks marks' : List Mark} {value : Json}
    (hq : quiet'' → quiet) (hq' : quiet'' → quiet') (h : Around value quiet marks)
    (h' : Silent quiet' marks') : Around value quiet'' (marks' ++ marks) := by
  obtain ⟨before, after, rfl, hba⟩ := h
  obtain ⟨n, rfl, hn⟩ := h'
  refine ⟨before, after.append n, by simp [Nest.marks_append], fun h => ?_⟩
  obtain ⟨rfl, rfl⟩ := hba (hq h)
  exact ⟨rfl, by rw [hn (hq' h), Nest.append]⟩

/-- Silent passages may come before a batch arrives, and after. -/
theorem passage_arrives_of_silent {s₁ s₂ s₃ : Site} (h₁ : L.Passage p Silent s s₁)
    (h₂ : L.Passage p (Arrives p changes) s₁ s₂) (h₃ : L.Passage p Silent s₂ s₃) :
    L.Passage p (Arrives p changes) s s₃ := by
  unfold Arrives at *
  split at h₂
  · -- a batch without the property is itself silent
    exact composes_silent.trans (composes_silent.trans h₁ h₂) h₃
  · exact (h₁.trans h₂ Silent.around).trans h₃ Around.silent

section

variable {call : Call} (hcall : ∀ h o, Relates (L.Passage p Silent) (call h o))
include hcall

/-- A value of the property arrives, and its observer is told. -/
theorem relates_around_deliver {delivery : Delivery} (hname : delivery.name = p) :
    Relates (L.Passage p (Around delivery.value.value)) (deliver call L.consumed delivery) := by
  intro s _ s' h
  simp only [deliver, run_bind_eq_some, run_updateConsumed, run_mark] at h
  obtain ⟨_, s₁, hu, _, s₂, hmark, h⟩ := h
  obtain ⟨-, rfl⟩ := Prod.mk.inj (Option.some.inj hu)
  obtain ⟨-, rfl⟩ := Prod.mk.inj (Option.some.inj hmark)
  -- the value is kept before its observer is told, and whatever that does comes after it
  have hkeep : L.Passage p (Around delivery.value.value) s { s with
      consumed := s.consumed.update L.consumed (·.keep delivery)
      timeline := .kept L.consumed delivery :: s.timeline } := by
    refine ⟨[], [.kept L.consumed delivery], ⟨rfl, rfl, rfl, descriptions_update _ fun _ => rfl⟩,
      fun hb _ _ => ?_⟩
    have hmarks : L.marks p [.kept L.consumed delivery] = [.kept delivery.value.value] := by
      simp [marks, mark?, hname]
    obtain ⟨c, hc, -⟩ := hb.consumed
    rw [hmarks]
    refine ⟨⟨(hb.updateConsumed _ (·.keep delivery) (fun _ => rfl) (fun _ => rfl)
      fun _ => rfl).mark _, rfl, ?_⟩, .none, .none, rfl, fun _ => ⟨rfl, rfl⟩⟩
    simp [received, Table.get?_update, hc, ConsumedThing.keep, NameMap.get?_insert, hname,
      Mark.kept?]
  refine hkeep.trans ?_ Around.silent
  obtain ⟨c, s₃, hc, h⟩ := h
  refine composes_silent.trans (relates_consumed composes_silent _ _ _ _ hc) ?_
  cases hh : c.handler? delivery with
  | none => exact relates_pure composes_silent _ _ _ _ (by rwa [hh] at h)
  | some handler => exact relates_discard (hcall handler _) _ _ _ (by rwa [hh] at h)

/-- The deliveries of a batch: those of other properties, and that of the property among them. -/
theorem relates_arrives (hnodup : (changes.map (·.name)).Nodup) :
    Relates (L.Passage p (Arrives p changes))
      ((changes.map Change.delivery).forM (deliver call L.consumed)) := by
  have hothers : ∀ l : List Change, (∀ c ∈ l, c.name ≠ p) →
      Relates (L.Passage p Silent) ((l.map Change.delivery).forM (deliver call L.consumed)) := by
    intro l hl
    refine relates_forM composes_silent fun delivery hmem => ?_
    obtain ⟨c, hc, rfl⟩ := List.mem_map.1 hmem
    exact relates_silent_deliver hcall fun _ => hl c hc
  unfold Arrives
  cases hfind : changes.find? (·.name = p) with
  | none => exact hothers changes fun c hc => by simpa using List.find?_eq_none.1 hfind c hc
  | some c =>
    -- the changes before it and after it are of other properties: no name comes twice
    obtain ⟨hname, l₁, l₂, rfl, h₁⟩ := List.find?_eq_some_iff_append.1 hfind
    have hname : c.name = p := by simpa using hname
    have h₂ : ∀ c' ∈ l₂, c'.name ≠ p := by
      intro c' hc' he
      rw [List.map_append, List.map_cons, List.nodup_append] at hnodup
      exact (List.nodup_cons.1 hnodup.2.1).1 (List.mem_map.2 ⟨c', hc', he.trans hname.symm⟩)
    intro s u s' h
    simp only [List.map_append, List.map_cons, List.forM_eq_forM, List.forM_append,
      List.forM_cons, run_bind_eq_some] at h
    obtain ⟨_, s₁, hbefore, _, s₂, hdeliver, hafter⟩ := h
    exact ((hothers l₁ (fun c hc => by simpa using h₁ c hc) _ _ _ hbefore).trans
      (relates_around_deliver hcall hname _ _ _ hdeliver) Silent.around).trans
      (hothers l₂ h₂ _ _ _ hafter) Around.silent

/-- The consumed thing of a link accepts a batch. -/
theorem relates_accept_batch (hp : L.Apt p) (hd : L.Declares changes)
    (hreads : Json.read? (ExposedThing.batchValue changes).compact =
      some (ExposedThing.batchValue changes)) :
    Relates (L.Passage p (Arrives p changes))
      (accept call ⟨L.topic, (ExposedThing.batchValue changes).compact⟩
        (.events L.consumed)) := by
  intro s u s' h
  by_cases hb : L.Bound s
  · have hsplit : Topic.split? L.topic = some ⟨_, Topic.eventKind, Topic.batchName⟩ :=
      Topic.split?_event hp.level _
    obtain ⟨site, s₁, hget, h⟩ := run_bind_eq_some.1 h
    obtain ⟨rfl, rfl⟩ := Prod.mk.inj (Option.some.inj hget)
    rw [if_pos hb.alive] at h
    simp only [hsplit, if_true] at h
    -- the thing has the description of the link, by which the payload was encoded
    obtain ⟨c, d, hc, hdesc, h⟩ := run_with_consumed.1 h
    obtain ⟨c', hc', hdesc', -⟩ := hb.consumed
    obtain rfl := Option.some.inj (hc.symm.trans hc')
    obtain rfl := Option.some.inj (hdesc.symm.trans hdesc')
    rw [hp.deliveries_batch hd hreads] at h
    exact relates_arrives hcall (nodup_of_readsBack hreads) _ _ _ h
  · exact .of_not_bound
      (relates_accept_of_keeps keeps_grows (relates_grows_of_silent hcall) _ _ _ _ _ h) hb

omit hcall in
theorem declares_changes {t : ExposedThing} {batch : Members Json} {onlyChanges : Bool} :
    L.Declares (t.changes L.description onlyChanges batch) :=
  fun _ hc => (ExposedThing.mem_changes hc).2

/-- Publishing a batch of the exposed thing: the bus takes it, and it arrives. -/
theorem passage_publish_batch (hp : L.Apt p) (hd : L.Declares changes)
    (hreads : Json.read? (ExposedThing.batchValue changes).compact =
      some (ExposedThing.batchValue changes)) (hb : L.Bound s) {outcome : Outcome}
    (h : (publish call L.bus ⟨L.topic, (ExposedThing.batchValue changes).compact⟩).run s =
      some (outcome, s')) :
    ∃ s₁, L.Passage p (fun _ marks => marks = publishedMark p changes) s s₁ ∧
      L.Passage p (Arrives p changes) s₁ s' := by
  -- the bus leads to the consumed thing once, among receivers that come before and after
  obtain ⟨bus, hcarries, hleads⟩ := hb.carries
  obtain ⟨before, after, hr, hn⟩ := hleads.receivers_eq hp.matches_topic
  rw [run_publish hcarries, hr] at h
  simp only [List.forM_eq_forM, List.forM_append, List.forM_cons, bind_assoc,
    run_bind_eq_some] at h
  obtain ⟨_, s₁, hbefore, _, s₂, haccept, _, s₃, hafter, hdone⟩ := h
  obtain ⟨-, rfl⟩ := Prod.mk.inj (Option.some.inj hdone)
  have hothers : ∀ l : List Receiver, .events L.consumed ∉ l →
      Relates (L.Passage p Silent)
        (l.forM (accept call ⟨L.topic, (ExposedThing.batchValue changes).compact⟩)) :=
    fun l hl => relates_forM composes_silent fun r hr =>
      relates_silent_accept hcall fun he => absurd (he ▸ hr) hl
  rw [List.mem_append, not_or] at hn
  exact ⟨_, passage_take hreads, passage_arrives_of_silent (hothers before hn.1 _ _ _ hbefore)
    (relates_accept_batch hcall hp hd hreads _ _ _ haccept) (hothers after hn.2 _ _ _ hafter)⟩

omit hcall in
/-- A batch that is published, arrives and is remembered is one emission of a nest, with those
    within it. -/
theorem level_of_marks {quiet : Prop} {marks : List Mark} (harrives : Arrives p changes quiet marks)
    (hd : L.Declares changes) (hreads : ∀ c ∈ changes, Json.read? c.value.compact = some c.value) :
    Level quiet (rememberedMark p changes ++ (marks ++ publishedMark p changes)) := by
  unfold Arrives at harrives
  unfold rememberedMark publishedMark
  cases hfind : changes.find? (·.name = p) with
  | none =>
    rw [hfind] at harrives
    obtain ⟨n, rfl, hn⟩ := harrives
    exact ⟨n, by simp, fun h => by rw [hn h]; trivial⟩
  | some c =>
    rw [hfind] at harrives
    obtain ⟨before, after, rfl, hba⟩ := harrives
    -- what arrives and what is remembered is the value that was published, since it reads back
    have hmem := List.mem_of_find?_eq_some hfind
    obtain ⟨schema, -, hsnap⟩ := hd c hmem
    have hvalue : c.snapshot.value = c.value := by
      rw [hsnap, Snapshot.value_ofNative (hreads c hmem)]
    refine ⟨.emit .none c.value before after, by simp [Nest.marks, hvalue], fun h => ?_⟩
    obtain ⟨rfl, rfl⟩ := hba h
    exact ⟨trivial, rfl, rfl⟩

omit hcall in
/-- What is published on the bus of a bound link is published. -/
theorem Bound.eq_done_of_publish (hb : L.Bound s) {m : Message} {outcome : Outcome}
    (h : (publish call L.bus m).run s = some (outcome, s')) : outcome = .done := by
  obtain ⟨bus, hcarries, -⟩ := hb.carries
  rw [run_publish hcarries, run_bind_eq_some] at h
  obtain ⟨_, _, -, hdone⟩ := h
  exact (Prod.mk.inj (Option.some.inj hdone)).1.symm

omit hcall in
theorem Silent.level {quiet : Prop} {marks : List Mark} (h : Silent quiet marks) :
    Level quiet marks := by
  obtain ⟨n, hm, hn⟩ := h
  exact ⟨n, hm, fun h => by rw [hn h]; trivial⟩

/-- The exposed thing sends property changes. -/
theorem relates_level_emitChanges (hp : L.Apt p) (batch : Members Json) (onlyChanges : Bool) :
    Relates (L.Passage p Level) (emitChanges call L.exposed batch onlyChanges) := by
  intro s outcome s' h
  by_cases hb : L.Bound s
  case neg =>
    exact .of_not_bound
      (relates_emitChanges keeps_grows.lasts
        (relates_publish keeps_grows (relates_grows_of_silent hcall)) _ _ _ _ _ _ h) hb
  obtain ⟨t, ht, hdesc, hout⟩ := hb.exposed
  rcases (run_emitChanges_eq_some ht hdesc).1 h with ⟨-, -, rfl⟩ | ⟨-, s₁, hsend, rfl⟩
  · exact (composes_silent.refl _).mono Silent.level
  rw [hout] at hsend
  -- on the bus of a bound link publishing does not fail, so the batch is remembered
  obtain rfl := hb.eq_done_of_publish hsend
  change L.Passage p Level s
    (s₁.remember L.exposed (t.changes L.description onlyChanges batch))
  by_cases hreads : L.ReadsBack
    (.remembered L.exposed (t.changes L.description onlyChanges batch))
  · -- published, arrived, remembered: one emission around what came meanwhile
    obtain ⟨hbatch, hvalues⟩ := hreads _ rfl
    obtain ⟨s₂, htake, harrives⟩ :=
      passage_publish_batch hcall hp declares_changes hbatch hb hsend
    have hsent : L.Passage p (fun quiet marks => ∃ marks',
        marks = marks' ++ publishedMark p (t.changes L.description onlyChanges batch) ∧
        Arrives p (t.changes L.description onlyChanges batch) quiet marks') s s₁ :=
      htake.trans harrives fun _ hq hm ha => ⟨_, by rw [hm], ha.imp hq⟩
    refine hsent.trans passage_remember fun hq _ ⟨marks, hm, ha⟩ hr => ?_
    rw [hr, hm]
    exact level_of_marks (ha.imp hq) declares_changes hvalues
  · -- the timeline shows that something did not read back, which was excluded
    obtain ⟨entries, moments, hs⟩ :=
      relates_publish keeps_grows (relates_grows_of_silent hcall) _ _ _ _ _ hsend
    have hremember : s₁.Extends
        (s₁.remember L.exposed (t.changes L.description onlyChanges batch)) []
        [.remembered L.exposed (t.changes L.description onlyChanges batch)] :=
      ⟨rfl, rfl, rfl, fun _ => rfl⟩
    exact ⟨_, _, hs.trans hremember, fun _ _ h =>
      absurd (h _ (List.mem_append_left _ List.mem_cons_self)) hreads⟩

end

end Link

end WebOfThings
