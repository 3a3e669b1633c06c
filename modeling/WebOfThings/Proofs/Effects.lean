import WebOfThings.Proofs.Role

/-!
# What handlers do to a site

However deep handlers call one another, what becomes of a site is made of small changes: something
is noted, a bus takes a message, a thing gets other handlers or values (`Keeps`), and an act changes
what it is about (`Act.changed`). So a relation between sites that composes and holds of each of
these holds of every call of a handler (`relates_calls`).

Some relations hold only as long as no act does certain things. Since acts are noted once they are
carried out, the journal tells afterwards which ones were: `Guarded` is a relation that holds if all
that was noted is allowed, and `relates_guarded_calls` is that calls of handlers keep to it if the
acts that are allowed do.
-/

namespace WebOfThings

/-- What an act changes by itself, apart from the messages and the handlers that it leads to. -/
def Act.changed (o : Occasion) (s : Site) (a : Act) : Site :=
  let subject := a.subject o
  match a with
  | .handleAction i _ label acts =>
    { s with exposed := s.exposed.update i (·.setActionHandler subject { label, acts }) }
  | .handleWrite i _ label acts =>
    { s with exposed := s.exposed.update i (·.setWriteHandler subject { label, acts }) }
  | .destroy i => Role.exposed.empty i s
  | .subscribe i _ label acts =>
    { s with consumed :=
        s.consumed.update i fun c => (c.subscribe .event subject { label, acts }).2 }
  | .observe i _ label acts =>
    { s with consumed :=
        s.consumed.update i fun c => (c.subscribe .property subject { label, acts }).2 }
  | .unsubscribe i _ =>
    { s with consumed := s.consumed.update i fun c => (c.unsubscribe .event subject).2 }
  | .unobserve i _ =>
    { s with consumed := s.consumed.update i fun c => (c.unsubscribe .property subject).2 }
  | .stop i => Role.consumed.empty i s
  | .dismiss i =>
    match Role.consumed.id? s i with
    | some id => Role.consumed.empty i (Role.consumed.drop id s)
    | none => s
  | .listen k _ label acts =>
    { s with buses := s.buses.update k fun b =>
        (b.subscribe subject (.handler { label, acts })).2 }
  | .unlisten k _ =>
    { s with buses := s.buses.update k fun b => (b.unsubscribe subject).2 }
  | .disconnect k => { s with buses := s.buses.update k (·.disconnect) }
  | _ => s

/-- An exposed thing and another that differs in handlers and values only. -/
structure ExposedThing.Alike (t t' : ExposedThing) : Prop where
  /-- They have the same description. -/
  description : t'.description = t.description
  /-- They send on the same output. -/
  output : t'.output = t.output
  /-- A caller holds both or neither. -/
  held : t'.held = t.held

/-- A consumed thing and another that differs in handlers and values only. -/
structure ConsumedThing.Alike (c c' : ConsumedThing) : Prop where
  /-- They have the same description. -/
  description : c'.description = c.description
  /-- They send by the same interaction. -/
  interaction : c'.interaction = c.interaction
  /-- A caller holds both or neither. -/
  held : c'.held = c.held

theorem ConsumedThing.alike_subscribe (kind : NoticeKind) (name : String) (h : Handler)
    (c : ConsumedThing) : c.Alike (c.subscribe kind name h).2 := by
  obtain ⟨change, he⟩ := c.subscribe_eq_updateHandlers kind name h
  rw [he]
  exact ⟨c.updateHandlers_description .., c.updateHandlers_interaction ..,
    c.updateHandlers_held ..⟩

theorem ConsumedThing.alike_unsubscribe (kind : NoticeKind) (name : String) (c : ConsumedThing) :
    c.Alike (c.unsubscribe kind name).2 :=
  ⟨c.updateHandlers_description .., c.updateHandlers_interaction .., c.updateHandlers_held ..⟩

namespace Run

/-- A relation that composes, and holds of all that happens on a site apart from what acts do to
    buses and factories. -/
structure Keeps (R : Site → Site → Prop) : Prop extends Composes R where
  /-- Something is noted. -/
  note : ∀ s e, R s { s with journal := e :: s.journal }
  /-- Something is put on the timeline. -/
  mark : ∀ s m, R s { s with timeline := m :: s.timeline }
  /-- A bus takes a message. -/
  publish : ∀ {s i b m b' receivers}, s.buses.get? i = some b →
    b.publish? m = .ok (b', receivers) → R s { s with buses := s.buses.update i fun _ => b' }
  /-- An exposed thing gets other handlers or values. -/
  exposed : ∀ s i (change : ExposedThing → ExposedThing), (∀ t, ExposedThing.Alike t (change t)) →
    R s { s with exposed := s.exposed.update i change }
  /-- A consumed thing gets other handlers or values. -/
  consumed : ∀ s i (change : ConsumedThing → ConsumedThing),
    (∀ c, ConsumedThing.Alike c (change c)) →
    R s { s with consumed := s.consumed.update i change }

/-- What an act changes, but for what it does to buses and to the factory of the consumer. -/
theorem Keeps.changed {R : Site → Site → Prop} (hR : Keeps R) {o : Occasion} {a : Act} {s : Site}
    (hlisten : ∀ k name label acts, a = .listen k name label acts →
      R s { s with buses := s.buses.update k fun b =>
        (b.subscribe (a.subject o) (.handler { label, acts })).2 })
    (hunlisten : ∀ k name, a = .unlisten k name →
      R s { s with buses := s.buses.update k fun b => (b.unsubscribe (a.subject o)).2 })
    (hdisconnect : ∀ k, a = .disconnect k →
      R s { s with buses := s.buses.update k (·.disconnect) })
    (hdrop : ∀ i id, a = .dismiss i → Role.consumed.id? s i = some id →
      R s (Role.consumed.drop id s)) :
    R s (a.changed o s) := by
  cases a with
  | handleAction i _ label acts =>
    exact hR.exposed s i (·.setActionHandler _ { label, acts }) fun _ => ⟨rfl, rfl, rfl⟩
  | handleWrite i _ label acts =>
    exact hR.exposed s i (·.setWriteHandler _ { label, acts }) fun _ => ⟨rfl, rfl, rfl⟩
  | destroy i => exact hR.exposed s i (·.destroy) fun _ => ⟨rfl, rfl, rfl⟩
  | subscribe i _ label acts | observe i _ label acts =>
    exact hR.consumed s i _ fun c => c.alike_subscribe _ _ _
  | unsubscribe i _ | unobserve i _ => exact hR.consumed s i _ fun c => c.alike_unsubscribe _ _
  | stop i => exact hR.consumed s i (·.stop) fun _ => ⟨rfl, rfl, rfl⟩
  | dismiss i =>
    simp only [Act.changed]
    split
    · next id hid =>
      exact hR.trans (hdrop i id rfl hid)
        (hR.consumed _ i (·.stop) fun _ => ⟨rfl, rfl, rfl⟩)
    · exact hR.refl s
  | listen k name label acts => exact hlisten k name label acts rfl
  | unlisten k name => exact hunlisten k name rfl
  | disconnect k => exact hdisconnect k rfl
  | _ => exact hR.refl s

end Run

/-- A site after a thing kept a value that arrived. -/
def Site.keep (s : Site) (i : ConsumedRef) (delivery : Delivery) : Site :=
  { s with
    consumed := s.consumed.update i (·.keep delivery)
    timeline := .kept i delivery :: s.timeline }

namespace Run

/-- A relation that composes, and holds where something is noted and where a thing remembers what it
    sent. -/
structure Lasts (R : Site → Site → Prop) : Prop extends Composes R where
  /-- Something is noted. -/
  note : ∀ s e, R s { s with journal := e :: s.journal }
  /-- An exposed thing remembers what it sent. -/
  remember : ∀ s i changes, R s (s.remember i changes)

theorem Keeps.lasts {R : Site → Site → Prop} (hR : Keeps R) : Lasts R where
  toComposes := hR.toComposes
  note := hR.note
  remember s i changes :=
    hR.trans (hR.exposed s i (·.remember changes) fun _ => ⟨rfl, rfl, rfl⟩) (hR.mark _ _)

/-! ## Messages -/

/-- A delivery is kept, and then the handler is told that there is at that moment. -/
theorem run_deliver_eq (call : Call) (i : ConsumedRef) (delivery : Delivery) (s : Site) :
    (deliver call i delivery).run s = (do
      match (← consumed i).handler? delivery with
      | some handler => discard (call handler (.notice delivery.name delivery.value))
      | none => pure () : Run Unit).run (s.keep i delivery) := rfl

section

variable {R : Site → Site → Prop} (hC : Composes R) {call : Call}
  (hcall : ∀ h o, Relates R (call h o))
include hC

include hcall in
/-- A value is kept, and the handler that there is then is told. -/
theorem relates_deliver_of_keep {i : ConsumedRef} {delivery : Delivery}
    (hkeep : ∀ s, R s (s.keep i delivery)) : Relates R (deliver call i delivery) := by
  intro s u s' h
  rw [run_deliver_eq] at h
  refine hC.trans (hkeep s) (relates_bind hC (relates_consumed hC i) (fun c => ?_) _ _ _ h)
  cases c.handler? delivery with
  | none => exact relates_pure hC _
  | some h => exact relates_discard (hcall h _)

/-- Publishing lets the bus take the message before any of those who receive it is handed it. -/
theorem rel_of_run_publish {k : BusRef} {m : Message} {s s' : Site} {outcome : Outcome}
    (h : (publish call k m).run s = some (outcome, s'))
    (htaken : ∀ b b' receivers, s.buses.get? k = some b → b.publish? m = .ok (b', receivers) →
      R s { s with
        buses := s.buses.update k fun _ => b'
        timeline := .published k m :: s.timeline } ∧
      Relates R (receivers.forM (accept call m))) : R s s' := by
  obtain ⟨b, hget, ⟨e, -, rfl, rfl⟩ | ⟨b', receivers, hsent, rfl, hreceived⟩⟩ :=
    run_publish_eq_some.1 h
  · exact hC.refl _
  · obtain ⟨htake, haccept⟩ := htaken b b' receivers hget hsent
    exact hC.trans htake (haccept _ _ _ hreceived)

end

section

variable {R : Site → Site → Prop} (hR : Keeps R) {call : Call}
  (hcall : ∀ h o, Relates R (call h o))
include hR hcall

theorem relates_receive (i : ConsumedRef) (name : String) (payload : Bytes) :
    Relates R (receive call i name payload) :=
  relates_with_consumed hR.toComposes i fun _ _ => relates_forM hR.toComposes fun delivery _ =>
    relates_deliver_of_keep hR.toComposes hcall fun s =>
      hR.trans (hR.consumed s i (·.keep delivery) fun _ => ⟨rfl, rfl, rfl⟩) (hR.mark _ _)

/-- Whoever receives a message. -/
theorem relates_accept_of_keeps (m : Message) (r : Receiver) : Relates R (accept call m r) :=
  relates_accept hR.toComposes hcall fun i _ _ _ _ => relates_receive hR hcall i _ _

theorem relates_publish (i : BusRef) (m : Message) : Relates R (publish call i m) :=
  fun _ _ _ h => rel_of_run_publish hR.toComposes h fun _ _ _ hget hsent =>
    ⟨hR.trans (hR.publish hget hsent) (hR.mark _ (.published i m)),
      relates_forM hR.toComposes fun r _ => relates_accept_of_keeps hR hcall m r⟩

end

/-! ## Things -/

section

variable {R : Site → Site → Prop} (hR : Lasts R)
include hR

theorem relates_note (e : Entry) : Relates R (note e) :=
  relates_of_run (run_note e) fun s => hR.note s e

theorem relates_record (refuses : Bool) (e : Entry) : Relates R (record refuses e) := by
  cases refuses with
  | true => exact relates_pure hR.toComposes _
  | false => exact relates_bind_pure (relates_note hR e) _

variable {call : Call} (hpublish : ∀ k m, Relates R (publish call k m))
include hpublish

theorem relates_emitEvent (i : ExposedRef) (name : String) (data : Json) :
    Relates R (emitEvent call i name data) := by
  refine relates_with_exposed hR.toComposes i fun t d => ?_
  split
  · cases t.output with
    | nowhere => exact relates_pure hR.toComposes _
    | bus b id => exact hpublish b _
    | recorder refuses => exact relates_record hR refuses _
  · exact relates_pure hR.toComposes _

theorem relates_emitChanges (i : ExposedRef) (batch : Members Json) (onlyChanges : Bool) :
    Relates R (emitChanges call i batch onlyChanges) := by
  have hC := hR.toComposes
  refine relates_with_exposed hC i fun t d => ?_
  dsimp only
  split
  · exact relates_pure hC _
  refine relates_bind hC ?_ fun outcome => ?_
  · cases t.output with
    | nowhere => exact relates_pure hC _
    | bus b id => exact hpublish b _
    | recorder refuses => exact relates_record hR refuses _
  · cases outcome with
    | error e => exact relates_pure hC _
    | ok u =>
      exact relates_of_run (f := fun s => (.done, s.remember i (t.changes d onlyChanges batch)))
        (fun _ => rfl) fun s => hR.remember s i _

theorem relates_emitProperty (i : ExposedRef) (name : String) (value : Json) :
    Relates R (emitProperty call i name value) := by
  refine relates_with_exposed hR.toComposes i fun t d => ?_
  split
  · exact relates_emitChanges hR hpublish i _ _
  · exact relates_pure hR.toComposes _

theorem relates_sendRequest (d : ThingDescription) (interaction : Interaction) (name : String)
    (value : Json) (noted : Entry) :
    Relates R (sendRequest call d interaction name value noted) := by
  cases interaction with
  | nowhere => exact relates_pure hR.toComposes _
  | bus b id => exact hpublish b _
  | recorder refuses refused => exact relates_record hR _ _

theorem relates_invoke (i : ConsumedRef) (name : String) (data : Json) :
    Relates R (invoke call i name data) := by
  refine relates_with_consumed hR.toComposes i fun c d => ?_
  split
  · exact relates_sendRequest hR hpublish d _ _ _ _
  · exact relates_pure hR.toComposes _

theorem relates_write (i : ConsumedRef) (name : String) (value : Json) :
    Relates R (write call i name value) := by
  refine relates_with_consumed hR.toComposes i fun c d => ?_
  split
  · exact relates_sendRequest hR hpublish d _ _ _ _
  · exact relates_pure hR.toComposes _

/-! ## Acts -/

/-- An act does what it changes by itself, and what the messages, the requests and the events do
    that it leads to. -/
theorem relates_perform_of_lasts (hcall : ∀ h o, Relates R (call h o)) {o : Occasion} {a : Act}
    (hreceive : ∀ i name value, a = .receive i name value →
      Relates R (receive call i (a.subject o) (a.value o).compact))
    (hact : ∀ s, R s (a.changed o s)) : Relates R (perform call o a) := by
  have hC := hR.toComposes
  cases a with
  | emitEvent i _ _ => exact relates_map (relates_emitEvent hR hpublish i _ _) _
  | emitProperty i _ _ => exact relates_map (relates_emitProperty hR hpublish i _ _) _
  | emitChanges i _ onlyChanges => exact relates_map (relates_emitChanges hR hpublish i _ _) _
  | request i _ _ => exact relates_map (relates_request hC hcall i _ _) _
  | lookUp i _ => exact relates_bind_pure (relates_exposed hC i) _
  | handleAction i _ _ _ | handleWrite i _ _ _ | destroy i =>
    exact relates_bind_pure (relates_of_run (run_updateExposed i _) hact) _
  | refuse e => exact relates_pure hC _
  | invoke i _ _ => exact relates_map (relates_invoke hR hpublish i _ _) _
  | write i _ _ => exact relates_map (relates_write hR hpublish i _ _) _
  | receive i name value => exact relates_bind_pure (hreceive i name value rfl) _
  | read i _ => exact relates_with_consumed hC i fun _ _ => relates_pure hC _
  | subscribe i _ _ _ | observe i _ _ _ =>
    exact relates_map (relates_of_run_map (run_addHandler i _ _ _) fun s _ _ => hact s) _
  | unsubscribe i _ | unobserve i _ =>
    exact relates_map (relates_of_run_map (run_removeHandler i _ _) fun s _ _ => hact s) _
  | stop i => exact relates_bind_pure (relates_of_run (run_updateConsumed i _) hact) _
  | dismiss i =>
    refine relates_bind_pure ?_ _
    intro s u s' h
    change (Role.consumed.destroy i).run s = some (u, s') at h
    obtain ⟨id, hid⟩ := Role.exists_id?_of_run_destroy h
    have hs := hact s
    simp only [Act.changed, hid] at hs
    exact Role.eq_of_run_destroy hid h ▸ hs
  | publish b _ _ => exact relates_map (hpublish b _) _
  | listen b _ _ _ =>
    exact relates_map (relates_of_run_map (run_subscribe b _ _) fun s _ _ => hact s) _
  | unlisten b _ =>
    exact relates_map (relates_of_run_map (run_unsubscribe b _) fun s _ _ => hact s) _
  | disconnect b => exact relates_bind_pure (relates_of_run (run_updateBus b _) hact) _

end

theorem relates_perform {R : Site → Site → Prop} (hR : Keeps R) {call : Call}
    (hcall : ∀ h o, Relates R (call h o)) {o : Occasion} {a : Act}
    (hact : ∀ s, R s (a.changed o s)) : Relates R (perform call o a) :=
  relates_perform_of_lasts hR.lasts (relates_publish hR hcall) hcall
    (fun i _ _ _ => relates_receive hR hcall i _ _) hact

/-! ## Handlers that call one another -/

/-- Acts are carried out and noted one after another. -/
theorem relates_performAll {R : Site → Site → Prop} (hC : Composes R) {call : Call}
    {label : String} {o : Occasion} {acts : List Act}
    (hacted : ∀ a s result s', (perform call o a).run s = some (result, s') →
      R s { s' with journal := .acted label o a result :: s'.journal }) :
    Relates R (performAll call label o acts) := by
  induction acts with
  | nil => exact relates_pure hC _
  | cons a rest ih =>
    intro s outcome s' h
    simp only [performAll, run_bind_eq_some, run_note] at h
    obtain ⟨result, s₁, hperform, _, s₂, hnote, h⟩ := h
    obtain ⟨-, rfl⟩ := Prod.mk.inj (Option.some.inj hnote)
    refine hC.trans (hacted a s result s₁ hperform) ?_
    split at h
    · exact relates_pure hC _ _ _ _ h
    · exact ih _ _ _ h

/-- If acts keep to a relation, given that the handlers do that they lead to, then so do calls of
    handlers, however deep they call one another. -/
theorem relates_calls_of_acted {R : Site → Site → Prop} (hC : Composes R)
    (hnote : ∀ s e, R s { s with journal := e :: s.journal })
    (hacted : ∀ {call : Call}, (∀ h o, Relates R (call h o)) → ∀ label o a s result s',
      (perform call o a).run s = some (result, s') →
        R s { s' with journal := .acted label o a result :: s'.journal })
    (depth : Nat) (h : Handler) (o : Occasion) : Relates R (calls depth h o) := by
  induction depth generalizing h o with
  | zero =>
    -- no handler is called at that depth, so the run has no result
    intro s outcome s' hrun
    contradiction
  | succ depth ih =>
    exact relates_bind hC (relates_of_run (run_note _) fun s => hnote s _) fun _ =>
      relates_performAll hC (hacted ih h.label o)

/-- What happens apart from acts, and what acts change, is all that calls of handlers do. -/
theorem relates_calls {R : Site → Site → Prop} (hR : Keeps R)
    (hact : ∀ o (a : Act) s, R s (a.changed o s)) (depth : Nat) (h : Handler) (o : Occasion) :
    Relates R (calls depth h o) :=
  relates_calls_of_acted hR.toComposes hR.note
    (fun hcall _ o a s result s' hperform =>
      hR.trans (relates_perform hR hcall (hact o a) s result s' hperform) (hR.note _ _))
    depth h o

/-- So it is of acts that a caller carries out. -/
theorem relates_script {R : Site → Site → Prop} (hR : Keeps R)
    (hact : ∀ o (a : Act) s, R s (a.changed o s)) (depth : Nat) (label : String) (o : Occasion)
    (acts : List Act) : Relates R (performAll (calls depth) label o acts) :=
  relates_performAll hR.toComposes fun a s result s' h =>
    hR.trans (relates_perform hR (relates_calls hR hact depth) (hact o a) s result s' h)
      (hR.note _ _)

/-! ## Acts that are allowed -/

/-- What was noted, where it is an act, is allowed. -/
def Allows (allowed : Occasion → Act → Prop) (e : Entry) : Prop :=
  ∀ label o a result, e = .acted label o a result → allowed o a

/-- A relation that holds if all that was noted meanwhile is allowed. -/
def Guarded (allowed : Occasion → Act → Prop) (R : Site → Site → Prop) (s s' : Site) : Prop :=
  ∃ entries, s'.journal = entries ++ s.journal ∧ ((∀ e ∈ entries, Allows allowed e) → R s s')

section

variable {allowed : Occasion → Act → Prop} {R : Site → Site → Prop}

theorem Guarded.of_same_journal {s s' : Site} (hj : s'.journal = s.journal) (h : R s s') :
    Guarded allowed R s s' :=
  ⟨[], hj, fun _ => h⟩

theorem Guarded.trans (hR : Composes R) {s s' s'' : Site} (h : Guarded allowed R s s')
    (h' : Guarded allowed R s' s'') : Guarded allowed R s s'' := by
  obtain ⟨entries, hj, h⟩ := h
  obtain ⟨entries', hj', h'⟩ := h'
  refine ⟨entries' ++ entries, by rw [hj', hj, List.append_assoc], fun hall => ?_⟩
  exact hR.trans (h fun e he => hall e (List.mem_append_right _ he))
    (h' fun e he => hall e (List.mem_append_left _ he))

theorem keeps_guarded (hR : Keeps R) : Keeps (Guarded allowed R) where
  refl s := .of_same_journal rfl (hR.refl s)
  trans h h' := h.trans hR.toComposes h'
  note s e := ⟨[e], rfl, fun _ => hR.note s e⟩
  mark s m := .of_same_journal rfl (hR.mark s m)
  publish hget hsent := .of_same_journal rfl (hR.publish hget hsent)
  exposed s i change hc := .of_same_journal rfl (hR.exposed s i change hc)
  consumed s i change hc := .of_same_journal rfl (hR.consumed s i change hc)

/-- No act takes notes back by itself. -/
theorem journal_changed (o : Occasion) (a : Act) (s : Site) :
    (a.changed o s).journal = s.journal := by
  cases a with
  | dismiss i =>
    simp only [Act.changed]
    split
    · exact Role.journal_drop ..
    · rfl
  | _ => rfl

/-- Whatever keeps to a relation as long as acts are allowed only adds to the journal. -/
theorem Guarded.weaken {s s' : Site} (h : Guarded allowed R s s') :
    Guarded allowed (fun _ _ => True) s s' :=
  h.imp fun _ hg => ⟨hg.1, fun _ => trivial⟩

theorem keeps_guarded_true : Keeps (Guarded allowed fun _ _ => True) :=
  keeps_guarded ⟨⟨fun _ => trivial, fun _ _ => trivial⟩, fun _ _ => trivial, fun _ _ => trivial,
    fun _ _ => trivial, fun _ _ _ _ => trivial, fun _ _ _ _ => trivial⟩

/-- An act that is carried out and noted keeps to a relation if it does so where it is allowed. -/
theorem guarded_acted (hC : Composes R) (hnote : ∀ s e, R s { s with journal := e :: s.journal })
    {call : Call} (hcall : ∀ h o, Relates (Guarded allowed R) (call h o)) {o : Occasion} {a : Act}
    (hperform : allowed o a → Relates (Guarded allowed R) (perform call o a)) (label : String)
    (s : Site) (result : ActResult) (s' : Site) (h : (perform call o a).run s = some (result, s')) :
    Guarded allowed R s { s' with journal := .acted label o a result :: s'.journal } := by
  by_cases ha : allowed o a
  · exact (hperform ha s result s' h).trans hC ⟨[_], rfl, fun _ => hnote _ _⟩
  · -- the note says that what was done is not allowed
    have hacted := relates_perform keeps_guarded_true
      (fun h o s a s' hrun => (hcall h o s a s' hrun).weaken)
      (fun s => .of_same_journal (journal_changed o a s) trivial) s result s' h
    obtain ⟨entries, hj, -⟩ := hacted
    exact ⟨.acted label o a result :: entries, by rw [hj]; rfl, fun hallowed =>
      absurd (hallowed _ List.mem_cons_self _ _ _ _ rfl) ha⟩

/-- Calls of handlers keep to a relation if what they lead to does where it is allowed. -/
theorem relates_guarded_calls_of_perform (hC : Composes R)
    (hnote : ∀ s e, R s { s with journal := e :: s.journal })
    (hperform : ∀ {call : Call}, (∀ h o, Relates (Guarded allowed R) (call h o)) →
      ∀ {o : Occasion} {a : Act}, allowed o a → Relates (Guarded allowed R) (perform call o a))
    (depth : Nat) (h : Handler) (o : Occasion) : Relates (Guarded allowed R) (calls depth h o) :=
  relates_calls_of_acted ⟨fun s => .of_same_journal rfl (hC.refl s), fun h h' => h.trans hC h'⟩
    (fun s e => ⟨[e], rfl, fun _ => hnote s e⟩)
    (fun hcall label _ _ => guarded_acted hC hnote hcall (hperform hcall) label) depth h o

/-- So do acts that a caller carries out. -/
theorem relates_guarded_script_of_perform (hC : Composes R)
    (hnote : ∀ s e, R s { s with journal := e :: s.journal })
    (hperform : ∀ {call : Call}, (∀ h o, Relates (Guarded allowed R) (call h o)) →
      ∀ {o : Occasion} {a : Act}, allowed o a → Relates (Guarded allowed R) (perform call o a))
    (depth : Nat) (label : String) (o : Occasion) (acts : List Act) :
    Relates (Guarded allowed R) (performAll (calls depth) label o acts) := by
  have hcall := relates_guarded_calls_of_perform hC hnote hperform depth
  exact relates_performAll ⟨fun s => .of_same_journal rfl (hC.refl s), fun h h' => h.trans hC h'⟩
    fun _ => guarded_acted hC hnote hcall (hperform hcall) label

/-- An act that is allowed keeps to a relation if what it changes by itself does. -/
theorem relates_guarded_perform (hR : Keeps R)
    (hact : ∀ o (a : Act), allowed o a → ∀ s, R s (a.changed o s)) {call : Call}
    (hcall : ∀ h o, Relates (Guarded allowed R) (call h o)) {o : Occasion} {a : Act}
    (ha : allowed o a) : Relates (Guarded allowed R) (perform call o a) :=
  relates_perform (keeps_guarded hR) hcall fun s =>
    .of_same_journal (journal_changed o a s) (hact o a ha s)

/-- Calls of handlers keep to a relation if all acts do that are allowed, and no other is noted. -/
theorem relates_guarded_calls (hR : Keeps R)
    (hact : ∀ o (a : Act), allowed o a → ∀ s, R s (a.changed o s)) (depth : Nat) (h : Handler)
    (o : Occasion) : Relates (Guarded allowed R) (calls depth h o) :=
  relates_guarded_calls_of_perform hR.toComposes hR.note (relates_guarded_perform hR hact) depth h o

/-- So do acts that a caller carries out. -/
theorem relates_guarded_script (hR : Keeps R)
    (hact : ∀ o (a : Act), allowed o a → ∀ s, R s (a.changed o s)) (depth : Nat) (label : String)
    (o : Occasion) (acts : List Act) :
    Relates (Guarded allowed R) (performAll (calls depth) label o acts) :=
  relates_guarded_script_of_perform hR.toComposes hR.note (relates_guarded_perform hR hact) depth
    label o acts

end

end Run

end WebOfThings
