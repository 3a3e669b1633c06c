import WebOfThings.Proofs.Link

/-!
# What a message brings

A message on the topic of an event is handed to all who receive it, and each consumed thing among
them makes deliveries of it: it keeps their values and tells its handlers. If those handlers do
not act (`Site.Passive`), that is all that happens: consumed things are what they were but for their
values (`Site.Stays`), and what a receiver is told does not depend on who was told before.

So `Joined.exists_run_publish` can say what becomes of a message that reaches the consumed thing of
a link: the thing keeps what it makes of it, and its handlers are told once, among all others who
are.
-/

namespace WebOfThings

open Run

/-! ## Deliveries -/

namespace ConsumedThing

variable {c : ConsumedThing} {l : List Delivery} {p : String}

/-- Keeps the values of deliveries, one after another. -/
def keepAll (l : List Delivery) (c : ConsumedThing) : ConsumedThing :=
  { c with values := l.foldl (fun values x => values.insert x.name x.value) c.values }

/-- What the handlers of a thing are told of deliveries: one that there is for a delivery is called
    once. -/
def told (l : List Delivery) (c : ConsumedThing) : List Entry :=
  l.filterMap fun x => (c.handler? x).map fun h => .called h.label (.notice x.name x.value)

/-- The handlers of a thing do not act. -/
def Passive (c : ConsumedThing) : Prop := ∀ x h, c.handler? x = some h → h.acts = []

/-- A thing but for its values. -/
def bare (c : ConsumedThing) : ConsumedThing := { c with values := {} }

/-- A value that none of the deliveries is about stays. -/
theorem get?_keepAll_of_ne (h : ∀ x ∈ l, x.name ≠ p) :
    (c.keepAll l).values.get? p = c.values.get? p := by
  unfold keepAll
  generalize c.values = values
  induction l generalizing values with
  | nil => rfl
  | cons x l ih =>
    rw [List.foldl_cons, ih (fun y hy => h y (List.mem_cons_of_mem _ hy)), NameMap.get?_insert,
      if_neg (Ne.symm (h x List.mem_cons_self))]

theorem keepAll_append (l l' : List Delivery) : c.keepAll (l ++ l') = (c.keepAll l).keepAll l' := by
  simp [keepAll, List.foldl_append]

/-- Of deliveries of different names each is kept. -/
theorem get?_keepAll (h : (l.map (·.name)).Nodup) (p : String) :
    (c.keepAll l).values.get? p =
      ((l.find? (·.name = p)).map (·.value)).or (c.values.get? p) :=
  NameMap.get?_foldl_insert h c.values p

end ConsumedThing

/-- A site after values arrived at a thing, and its handlers were told. -/
def Site.receive (s : Site) (i : ConsumedRef) (c : ConsumedThing) (l : List Delivery) : Site :=
  { s with
    consumed := s.consumed.update i (·.keepAll l)
    journal := (c.told l).reverse ++ s.journal
    timeline := (l.map (.kept i)).reverse ++ s.timeline }

/-- A handler that does not act is called, and nothing else happens. -/
theorem Run.run_calls_of_passive {h : Handler} (passive : h.acts = []) (depth : Nat) (o : Occasion)
    (s : Site) : (calls (depth + 1) h o).run s =
      some (.done, { s with journal := .called h.label o :: s.journal }) := by
  simp [calls, passive, performAll]

section

variable {s : Site} {i : ConsumedRef} {c : ConsumedThing} (hc : s.consumed.get? i = some c)
include hc

theorem Site.receive_nil : s.receive i c [] = s := by
  have hsame : s.consumed.update i (·.keepAll []) = s.consumed := Table.update_eq_self hc rfl
  simp [Site.receive, hsame, ConsumedThing.told]

theorem Site.get?_receive (l : List Delivery) :
    (s.receive i c l).consumed.get? i = some (c.keepAll l) := by
  simp [Site.receive, Table.get?_update, hc]

omit hc in
theorem Site.receive_cons (x : Delivery) (l : List Delivery) :
    (s.receive i c [x]).receive i (c.keepAll [x]) l = s.receive i c (x :: l) := by
  have htold : c.told (x :: l) = c.told [x] ++ (c.keepAll [x]).told l := by
    rw [show x :: l = [x] ++ l from rfl, ConsumedThing.told, List.filterMap_append]
    rfl
  simp only [Site.receive, Table.update_update, htold, List.reverse_append, List.append_assoc,
    List.map_cons, List.map_nil, List.reverse_cons, List.reverse_nil, List.nil_append]
  rfl

theorem Run.run_deliver (passive : c.Passive) (depth : Nat) (x : Delivery) :
    (deliver (calls (depth + 1)) i x).run s = some (.unit, s.receive i c [x]) := by
  have hkept : (consumed i).run { s with
      consumed := s.consumed.update i (·.keep x), timeline := .kept i x :: s.timeline } =
      some (c.keep x, { s with
        consumed := s.consumed.update i (·.keep x), timeline := .kept i x :: s.timeline }) := by
    simp [Table.get?_update, hc]
  rw [deliver, run_bind_of_run (run_updateConsumed i _ s), run_bind_of_run (run_mark _ _),
    run_bind_of_run hkept, show (c.keep x).handler? x = c.handler? x from rfl]
  cases hh : c.handler? x with
  | none =>
    have htold : c.told [x] = [] := by simp [ConsumedThing.told, hh]
    rw [Site.receive, htold]
    rfl
  | some h =>
    have htold : c.told [x] = [.called h.label (.notice x.name x.value)] := by
      simp [ConsumedThing.told, hh]
    rw [Site.receive, htold]
    simp only [run_discard, run_calls_of_passive (passive x h hh), Option.map_some]
    rfl

/-- Deliveries are kept, and the handlers are told, one after another. -/
theorem Run.run_forM_deliver (passive : c.Passive) (depth : Nat) (l : List Delivery) :
    (l.forM (deliver (calls (depth + 1)) i)).run s = some (.unit, s.receive i c l) := by
  induction l generalizing s c with
  | nil => rw [Site.receive_nil hc]; rfl
  | cons x l ih =>
    rw [List.forM_eq_forM, List.forM_cons, run_bind_of_run (run_deliver hc passive depth x),
      ← Site.receive_cons x l]
    exact ih (Site.get?_receive hc [x]) passive

end

/-! ## Receivers -/

/-- A receiver does not act: it is a handler that does not, or a thing whose handlers do not. -/
def Site.Passive (s : Site) : Receiver → Prop
  | .requests _ => True
  | .events i => s.consumedIsAlive i = true → ∃ c d, s.consumed.get? i = some c ∧
      s.catalogue.get? c.description = some d ∧ c.Passive
  | .handler h => h.acts = []

/-- What the handlers of a receiver are told of an event of a name. -/
def Site.told (s : Site) (m : Message) (name : String) : Receiver → List Entry
  | .requests _ => []
  | .events i =>
    if s.consumedIsAlive i then
      ((s.consumed.get? i).bind fun c => (s.catalogue.get? c.description).map fun d =>
        c.told (ConsumedThing.deliveries d name m.payload)).getD []
    else []
  | .handler h => [.called h.label (.message m)]

/-- Consumed things are what they were but for their values. -/
structure Site.Stays (s s' : Site) : Prop where
  /-- They are the same but for their values. -/
  bare : ∀ i, (s'.consumed.get? i).map (·.bare) = (s.consumed.get? i).map (·.bare)
  /-- Their descriptions are the same. -/
  catalogue : s'.catalogue = s.catalogue
  /-- Their factory knows the same of them. -/
  consumer : s'.consumer = s.consumer

namespace Site.Stays

variable {s s' s'' : Site}

theorem refl (s : Site) : s.Stays s := ⟨fun _ => rfl, rfl, rfl⟩

theorem trans (h : s.Stays s') (h' : s'.Stays s'') : s.Stays s'' where
  bare i := (h'.bare i).trans (h.bare i)
  catalogue := h'.catalogue.trans h.catalogue
  consumer := h'.consumer.trans h.consumer

theorem receive (i : ConsumedRef) (c : ConsumedThing) (l : List Delivery) :
    s.Stays (s.receive i c l) where
  bare k := by
    have hbare : ∀ c : ConsumedThing, (c.keepAll l).bare = c.bare := fun _ => rfl
    exact Table.map_get?_update hbare s.consumed i k
  catalogue := rfl
  consumer := rfl

/-- What is asked of a consumed thing but its values has the same answer. -/
theorem bind_bare {α : Type} (h : s.Stays s') {f : ConsumedThing → Option α}
    (hf : ∀ c, f c.bare = f c) (i : ConsumedRef) :
    (s'.consumed.get? i).bind f = (s.consumed.get? i).bind f := by
  have hbare := congrArg (·.bind f) (h.bare i)
  simpa only [Option.bind_map, Function.comp_def, hf] using hbare

theorem consumedIsAlive (h : s.Stays s') (i : ConsumedRef) :
    s'.consumedIsAlive i = s.consumedIsAlive i := by
  have hheld := congrArg (Option.any (·.held)) (h.bare i)
  rw [Option.any_map, Option.any_map] at hheld
  simp only [Site.consumedIsAlive, h.consumer]
  exact congrArg (· || _) hheld

theorem told (h : s.Stays s') (m : Message) (name : String) (r : Receiver) :
    s'.told m name r = s.told m name r := by
  cases r with
  | requests _ | handler _ => rfl
  | events i =>
    simp only [Site.told, h.consumedIsAlive, h.catalogue]
    rw [h.bind_bare fun c => rfl]

theorem passive (h : s.Stays s') {r : Receiver} (hr : s.Passive r) : s'.Passive r := by
  cases r with
  | requests _ => trivial
  | handler _ => exact hr
  | events i =>
    intro alive
    obtain ⟨c, d, hc, hd, hpassive⟩ := hr (h.consumedIsAlive i ▸ alive)
    have hbare := h.bare i
    rw [hc, Option.map_some, Option.map_eq_some_iff] at hbare
    obtain ⟨c', hc', heq⟩ := hbare
    -- it has the description and the handlers that it had
    have hdescription := congrArg (·.description) heq
    refine ⟨c', d, hc', ?_, fun x k hk => hpassive x k ?_⟩
    · rw [h.catalogue, show c'.description = c.description from hdescription, hd]
    · have hhandler := congrArg (·.handler? x) heq
      exact (show c'.handler? x = c.handler? x from hhandler) ▸ hk

end Site.Stays

/-- Handlers were told something, and of the consumed things one is as it was. -/
structure Site.Tells (i : ConsumedRef) (entries : List Entry) (s s' : Site) : Prop extends
    Site.Stays s s' where
  /-- The thing is as it was. -/
  same : s'.consumed.get? i = s.consumed.get? i
  /-- The journal shows what was told. -/
  journal : s'.journal = entries.reverse ++ s.journal

namespace Site.Tells

variable {s s' s'' : Site} {i : ConsumedRef} {entries entries' : List Entry}

theorem refl (s : Site) : s.Tells i [] s := ⟨.refl s, rfl, rfl⟩

theorem trans (h : Site.Tells i entries s s') (h' : Site.Tells i entries' s' s'') :
    Site.Tells i (entries ++ entries') s s'' where
  toStays := h.toStays.trans h'.toStays
  same := h'.same.trans h.same
  journal := by rw [h'.journal, h.journal]; simp

end Site.Tells

section

variable {s : Site} {id : String} (level : Topic.IsLevel id) (name : String) (payload : Bytes)
  (depth : Nat)
include level

/-- What a consumed thing makes of an event arrives there. -/
theorem Run.run_accept_events {k : ConsumedRef} {c : ConsumedThing} {d : ThingDescription}
    (alive : s.consumedIsAlive k = true) (hc : s.consumed.get? k = some c)
    (hd : s.catalogue.get? c.description = some d) (passive : c.Passive) :
    (accept (calls (depth + 1)) ⟨Topic.event id name, payload⟩ (.events k)).run s =
      some (.unit, s.receive k c (ConsumedThing.deliveries d name payload)) := by
  have hget : (get : Run Site).run s = some (s, s) := rfl
  rw [accept, run_bind_of_run hget, if_pos alive]
  simp only [Topic.split?_event level, if_true]
  rw [receive, run_of_consumed hc hd]
  exact run_forM_deliver hc passive depth _

/-- Of an event, a receiver that does not act tells its handlers, and that is all for a consumed
    thing that it does not stand for. -/
theorem Run.exists_run_accept {r : Receiver} (passive : s.Passive r) {i : ConsumedRef}
    (hr : r ≠ .events i) :
    ∃ s', (accept (calls (depth + 1)) ⟨Topic.event id name, payload⟩ r).run s =
        some (.unit, s') ∧ s.Tells i (s.told ⟨Topic.event id name, payload⟩ name r) s' := by
  have hget : (get : Run Site).run s = some (s, s) := rfl
  cases r with
  | requests k =>
    -- an event is no request
    have hkind : Topic.eventKind ≠ Topic.actionKind := by decide
    refine ⟨s, ?_, .refl s⟩
    rw [accept, run_bind_of_run hget, Topic.split?_event level]
    simp only [hkind, if_false, ite_self]
    rfl
  | handler h =>
    refine ⟨{ s with
      journal := .called h.label (.message ⟨Topic.event id name, payload⟩) :: s.journal }, ?_,
      ⟨fun _ => rfl, rfl, rfl⟩, rfl, rfl⟩
    simp [accept, run_discard, run_calls_of_passive passive]
  | events k =>
    cases alive : s.consumedIsAlive k with
    | false =>
      refine ⟨s, ?_, ?_⟩
      · rw [accept, run_bind_of_run hget, if_neg (by simp [alive])]
        rfl
      · simpa [Site.told, alive] using Site.Tells.refl s
    | true =>
      obtain ⟨c, d, hc, hd, hpassive⟩ := passive alive
      have hne : k ≠ i := fun he => hr (he ▸ rfl)
      refine ⟨_, run_accept_events level name payload depth alive hc hd hpassive, .receive k c _,
        ?_, ?_⟩
      · simp [Site.receive, Table.get?_update, hne]
      · simp [Site.receive, Site.told, alive, hc, hd]

/-- So do several of them, one after another. -/
theorem Run.exists_run_forM_accept {l : List Receiver} (passive : ∀ r ∈ l, s.Passive r)
    {i : ConsumedRef} (hl : .events i ∉ l) :
    ∃ s', (l.forM (accept (calls (depth + 1)) ⟨Topic.event id name, payload⟩)).run s =
        some (.unit, s') ∧
      s.Tells i (l.flatMap (s.told ⟨Topic.event id name, payload⟩ name)) s' := by
  induction l generalizing s with
  | nil => exact ⟨s, rfl, .refl s⟩
  | cons r l ih =>
    rw [List.mem_cons, not_or] at hl
    obtain ⟨s₁, hrun, htells⟩ :=
      exists_run_accept level name payload depth (passive r List.mem_cons_self) (Ne.symm hl.1)
    obtain ⟨s₂, hruns, htells'⟩ :=
      ih (fun r' hr' => htells.passive (passive r' (List.mem_cons_of_mem r hr'))) hl.2
    refine ⟨s₂, ?_, ?_⟩
    · rw [List.forM_eq_forM, List.forM_cons, run_bind_of_run hrun]
      exact hruns
    · -- nobody is told something else for what others were told before
      rw [show s₁.told _ name = s.told _ name from funext (htells.told _ name)] at htells'
      rw [List.flatMap_cons]
      exact htells.trans htells'

end

/-! ## The consumed thing of a link -/

namespace Link

/-- What the exposed thing of a link emits is published on the bus, and reaches the consumed
    thing. -/
structure Joined (L : Link) (s : Site) : Prop where
  /-- The exposed thing sends what it emits on the bus, on the topics of its identifier. -/
  exposed : ∃ t, s.exposed.get? L.exposed = some t ∧
    s.catalogue.get? t.description = some L.description ∧ t.output = .bus L.bus L.description.id
  /-- There is the consumed thing. -/
  consumed : ∃ c, s.consumed.get? L.consumed = some c ∧
    s.catalogue.get? c.description = some L.description
  /-- Somebody holds it. -/
  alive : s.consumedIsAlive L.consumed = true
  /-- The bus carries messages and leads the events of the thing to it. -/
  bus : ∃ bus, s.Carries L.bus bus ∧ bus.Leads L.filter (.events L.consumed)

variable {L : Link} {s s' : Site}

/-- Nobody who receives anything on the bus acts. -/
def Passive (L : Link) (s : Site) : Prop :=
  ∀ bus, s.Carries L.bus bus → ∀ entry ∈ bus.subscriptions.entries, s.Passive entry.2

/-- Of a message under a name the handlers of the consumed thing were told something once, and all
    other receivers what they are told of it. -/
def Told (L : Link) (s s' : Site) (m : Message) (name : String) (entries : List Entry) : Prop :=
  ∃ bus before after, s.Carries L.bus bus ∧
    bus.receivers m.topic = before ++ .events L.consumed :: after ∧
    .events L.consumed ∉ before ++ after ∧
    s'.journal = (before.flatMap (s.told m name) ++ entries ++
      after.flatMap (s.told m name)).reverse ++ s.journal

/-- The consumed thing has the description of the link, and its handlers do not act if its receiver
    does not. -/
theorem Joined.passive_consumed (h : L.Joined s) {c : ConsumedThing}
    (hc : s.consumed.get? L.consumed = some c) (passive : s.Passive (.events L.consumed)) :
    c.Passive ∧ s.catalogue.get? c.description = some L.description := by
  obtain ⟨c', d, hc', -, hp⟩ := passive h.alive
  obtain ⟨c'', hc'', hd⟩ := h.consumed
  obtain rfl := Option.some.inj (hc.symm.trans hc')
  obtain rfl := Option.some.inj (hc.symm.trans hc'')
  exact ⟨hp, hd⟩

/-- The consumed thing keeps what it makes of an event that is published, and its handlers are told
    of it. -/
theorem Joined.exists_run_publish (h : L.Joined s) (passive : L.Passive s)
    (level : Topic.IsLevel L.description.id) (hash : L.description.id ≠ "#") {c : ConsumedThing}
    (hc : s.consumed.get? L.consumed = some c) (depth : Nat) (name : String) (payload : Bytes) :
    ∃ s', (publish (calls (depth + 1)) L.bus
        ⟨Topic.event L.description.id name, payload⟩).run s = some (.done, s') ∧
      s'.consumed.get? L.consumed =
        some (c.keepAll (ConsumedThing.deliveries L.description name payload)) ∧
      L.Told s s' ⟨Topic.event L.description.id name, payload⟩ name
        (c.told (ConsumedThing.deliveries L.description name payload)) := by
  obtain ⟨bus, hcarries, hleads⟩ := h.bus
  obtain ⟨before, after, hr, hn⟩ := hleads.receivers_eq (Topic.matches_events level hash name)
  -- those who receive the message do not act, nor does the consumed thing
  have hpassive : ∀ r ∈ before ++ .events L.consumed :: after, s.Passive r := by
    intro r hmem
    rw [← hr] at hmem
    obtain ⟨filter, hentry, -⟩ := LocalBus.exists_of_mem_receiversOf hmem
    exact passive bus hcarries _ hentry
  have hthing := h.passive_consumed hc (hpassive _ (by simp))
  obtain ⟨hnbefore, hnafter⟩ := not_or.1 (mt List.mem_append.2 hn)
  have htake : s.Stays (s.take L.bus ⟨Topic.event L.description.id name, payload⟩) :=
    ⟨fun _ => rfl, rfl, rfl⟩
  obtain ⟨s₁, hbefore, htells⟩ := exists_run_forM_accept level name payload depth
    (fun r hr => htake.passive (hpassive r (List.mem_append_left _ hr))) hnbefore
  have hstays₁ := htake.trans htells.toStays
  have haccept := run_accept_events level name payload depth
    ((hstays₁.consumedIsAlive L.consumed).trans h.alive) (htells.same.trans hc)
    (hstays₁.catalogue ▸ hthing.2) hthing.1
  have hstays₂ := hstays₁.trans (.receive L.consumed c
    (ConsumedThing.deliveries L.description name payload))
  obtain ⟨s₃, hafter, htells'⟩ := exists_run_forM_accept level name payload depth
    (fun r hr => hstays₂.passive (hpassive r (List.mem_append_right _ (List.mem_cons_of_mem _ hr))))
    hnafter
  refine ⟨s₃, ?_, ?_, bus, before, after, hcarries, hr, hn, ?_⟩
  · have hall : ((before ++ .events L.consumed :: after).forM
        (accept (calls (depth + 1)) ⟨Topic.event L.description.id name, payload⟩)).run
          (s.take L.bus ⟨Topic.event L.description.id name, payload⟩) = some (.unit, s₃) := by
      rw [List.forM_eq_forM, List.forM_append, List.forM_cons]
      exact run_bind_eq_some.2 ⟨_, s₁, hbefore, run_bind_eq_some.2 ⟨_, _, haccept, hafter⟩⟩
    rw [run_publish hcarries, hr, run_bind_of_run hall]
    rfl
  · rw [htells'.same, Site.get?_receive (htells.same.trans hc)]
  · -- what one receiver is told is the same whatever others were told before
    have htold := funext (htake.told ⟨Topic.event L.description.id name, payload⟩ name)
    have htold₂ := funext (hstays₂.told ⟨Topic.event L.description.id name, payload⟩ name)
    have hjournal₁ := htells.journal
    have hjournal := htells'.journal
    rw [htold] at hjournal₁
    rw [htold₂] at hjournal
    rw [hjournal, Site.receive, hjournal₁]
    simp [Site.take]

end Link

end WebOfThings
