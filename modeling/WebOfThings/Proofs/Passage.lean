import WebOfThings.Proofs.Extension
import WebOfThings.Proofs.Link

/-!
# What happens on a link

Whatever runs on a site adds to its journal and to its timeline (`Site.Extends`). A handler may do
anything to other things and other buses; it spares a link (`Link.Spares`) if it does not empty
its things, cut its bus, or publish on its topics itself.

`Link.Passage` is what happens on a bound link meanwhile, if what the handlers did spares it and
what it sent reads back: it stays bound, the values of a property that its things have are those
that the timeline shows (`Link.Moves`), and the marks that the timeline shows of the property have
a shape. The shapes are nests of emissions (`Silent`, `Level`), and what comes of a value that
arrives (`Around`). Passages follow one another, and their shapes with them (`Passage.trans`).
-/

namespace WebOfThings

namespace Link

variable (L : Link)

/-- The value of a property that is read from the exposed thing. -/
def emitted (p : String) (s : Site) : Option Json :=
  (s.exposed.get? L.exposed).bind fun t => (t.values.get? p).map (·.value)

/-- The value of a property that is read from the consumed thing. -/
def received (p : String) (s : Site) : Option Json :=
  (s.consumed.get? L.consumed).bind fun c =>
    (c.read L.description p).toOption.map (·.value)

/-- What a moment is to the values of a property. -/
def mark? (p : String) : Moment → Option Mark
  | .published i m =>
    if i = L.bus ∧ m.topic = L.topic then
      ((Json.read? m.payload).bind (Json.get? p)).map .published
    else none
  | .kept i delivery =>
    if i = L.consumed ∧ delivery.name = p then some (.kept delivery.value.value) else none
  | .remembered i changes =>
    if i = L.exposed then
      (changes.find? (·.name = p)).map fun c => .remembered c.snapshot.value
    else none

/-- What a part of the timeline is to the values of a property. -/
def marks (p : String) (moments : List Moment) : List Mark := moments.filterMap (L.mark? p)

/-- A consumed thing has the identifier of the link. -/
def Twin (s : Site) (i : ConsumedRef) : Prop :=
  ∃ c d, s.consumed.get? i = some c ∧ s.catalogue.get? c.description = some d ∧
    d.id = L.description.id

/-- What a handler does leaves the link alone. Anything may be done to other things and buses, and
    the things of the link may be used, but neither is emptied, the consumed one is handed nothing
    past the bus, and on the bus nobody else publishes on the topics of the events, or takes their
    filter. -/
def Spares (s : Site) (o : Occasion) (a : Act) : Prop :=
  match a with
  | .destroy i => i ≠ L.exposed
  | .receive i _ _ | .stop i => i ≠ L.consumed
  | .dismiss i => ¬ L.Twin s i
  | .publish i _ _ => i = L.bus → Topic.matches L.filter (a.subject o) = false
  | .listen i _ _ _ | .unlisten i _ => i = L.bus → a.subject o ≠ L.filter
  | .disconnect i => i ≠ L.bus
  | _ => True

/-- What was noted, where it is the act of a handler, leaves the link alone. -/
def SparedBy (s : Site) (e : Entry) : Prop :=
  ∀ label o a result, e = .acted label o a result → L.Spares s o a

/-- An act emits property changes of the exposed thing. -/
def Emits : Act → Prop
  | .emitProperty i _ _ | .emitChanges i _ _ => i = L.exposed
  | _ => False

/-- What was noted is not that property changes of the exposed thing were emitted. -/
def Quiet (e : Entry) : Prop := ∀ label o a result, e = .acted label o a result → ¬ L.Emits a

/-- What the exposed thing sent reads back: the batch, and each value in it. -/
def ReadsBack (m : Moment) : Prop :=
  ∀ changes, m = .remembered L.exposed changes →
    Json.read? (ExposedThing.batchValue changes).compact =
      some (ExposedThing.batchValue changes) ∧
    ∀ c ∈ changes, Json.read? c.value.compact = some c.value

variable {L} {p : String} {s s' s'' : Site}

theorem readsBack_published (i : BusRef) (m : Message) : L.ReadsBack (.published i m) := by
  intro changes h
  contradiction

theorem readsBack_kept (i : ConsumedRef) (delivery : Delivery) :
    L.ReadsBack (.kept i delivery) := by
  intro changes h
  contradiction

theorem marks_append (moments moments' : List Moment) :
    L.marks p (moments ++ moments') = L.marks p moments ++ L.marks p moments' :=
  List.filterMap_append

theorem Twin.of_extends {entries : List Entry} {moments : List Moment} {i : ConsumedRef}
    (hs : s.Extends s' entries moments) (h : L.Twin s' i) : L.Twin s i := by
  obtain ⟨c, d, hc, hd, hid⟩ := h
  have hc' := hs.descriptions i
  rw [hc] at hc'
  obtain ⟨c', hget, he⟩ := Option.map_eq_some_iff.1 hc'.symm
  exact ⟨c', d, hget, by rw [← hs.catalogue, he, hd], hid⟩

theorem SparedBy.of_extends {entries : List Entry} {moments : List Moment} {e : Entry}
    (hs : s.Extends s' entries moments) (h : L.SparedBy s e) : L.SparedBy s' e := by
  intro label o a result he
  have := h label o a result he
  cases a with
  | dismiss i => exact fun ht => this (ht.of_extends hs)
  | _ => exact this

/-- A link stays bound, and its things have the values that some marks show. -/
structure Moves (L : Link) (p : String) (marks : List Mark) (s s' : Site) : Prop where
  /-- The link is bound. -/
  bound : L.Bound s'
  /-- The exposed thing has the value that was remembered last. -/
  emitted : L.emitted p s' = (marks.findSome? Mark.remembered?).or (L.emitted p s)
  /-- The consumed thing has the value that was kept last. -/
  received : L.received p s' = (marks.findSome? Mark.kept?).or (L.received p s)

theorem Moves.trans {marks marks' : List Mark} (h : L.Moves p marks s s')
    (h' : L.Moves p marks' s' s'') : L.Moves p (marks' ++ marks) s s'' where
  bound := h'.bound
  emitted := by rw [h'.emitted, h.emitted, List.findSome?_append, Option.or_assoc]
  received := by rw [h'.received, h.received, List.findSome?_append, Option.or_assoc]

/-- The shape of marks, given whether nobody was noted to emit in between. -/
abbrev Shape := (quiet : Prop) → List Mark → Prop

/-- Emissions one after another; none, if nobody was noted to emit. -/
def Silent : Shape := fun quiet marks => ∃ n : Nest, n.marks = marks ∧ (quiet → n = .none)

/-- Emissions one after another; none within another, if nobody was noted to emit. -/
def Level : Shape := fun quiet marks => ∃ n : Nest, n.marks = marks ∧ (quiet → n.Flat)

/-- The value that arrives, between emissions. -/
def Around (value : Json) : Shape := fun quiet marks => ∃ before after : Nest,
  marks = after.marks ++ .kept value :: before.marks ∧ (quiet → before = .none ∧ after = .none)

/-- What happens on a link: if it is bound, was spared, and what it sent reads back, then it moves
    by marks of a shape. -/
def Passage (L : Link) (p : String) (shape : Shape) (s s' : Site) : Prop :=
  ∃ entries moments, s.Extends s' entries moments ∧
    (L.Bound s → (∀ e ∈ entries, L.SparedBy s e) → (∀ m ∈ moments, L.ReadsBack m) →
      L.Moves p (L.marks p moments) s s' ∧
        shape (∀ e ∈ entries, L.Quiet e) (L.marks p moments))

namespace Passage

variable {shape shape' shape'' : Shape}

theorem grows (h : L.Passage p shape s s') : s.Grows s' :=
  let ⟨entries, moments, hs, _⟩ := h
  ⟨entries, moments, hs⟩

/-- On a link that is not bound anything may happen. -/
theorem of_not_bound (hs : s.Grows s') (h : ¬ L.Bound s) : L.Passage p shape s s' := by
  obtain ⟨entries, moments, hs⟩ := hs
  exact ⟨entries, moments, hs, fun hb => absurd hb h⟩

/-- One passage after another. -/
theorem trans (h : L.Passage p shape s s') (h' : L.Passage p shape' s' s'')
    (hshape : ∀ {quiet quiet' quiet'' : Prop} {marks marks'}, (quiet'' → quiet) →
      (quiet'' → quiet') → shape quiet marks → shape' quiet' marks' →
      shape'' quiet'' (marks' ++ marks)) : L.Passage p shape'' s s'' := by
  obtain ⟨entries, moments, hs, hm⟩ := h
  obtain ⟨entries', moments', hs', hm'⟩ := h'
  refine ⟨_, _, hs.trans hs', fun hb hspared hreads => ?_⟩
  obtain ⟨hmoves, hsh⟩ := hm hb (fun e he => hspared e (List.mem_append_right _ he))
    fun m hmem => hreads m (List.mem_append_right _ hmem)
  obtain ⟨hmoves', hsh'⟩ := hm' hmoves.bound
    (fun e he => (hspared e (List.mem_append_left _ he)).of_extends hs)
    fun m hmem => hreads m (List.mem_append_left _ hmem)
  rw [marks_append]
  exact ⟨hmoves.trans hmoves', hshape (fun h e he => h e (List.mem_append_right _ he))
    (fun h e he => h e (List.mem_append_left _ he)) hsh hsh'⟩

theorem mono (h : L.Passage p shape s s')
    (hshape : ∀ {quiet marks}, shape quiet marks → shape' quiet marks) :
    L.Passage p shape' s s' := by
  obtain ⟨entries, moments, hs, hm⟩ := h
  exact ⟨entries, moments, hs, fun hb hspared hreads =>
    let ⟨hmoves, hsh⟩ := hm hb hspared hreads
    ⟨hmoves, hshape hsh⟩⟩

end Passage

end Link

end WebOfThings
