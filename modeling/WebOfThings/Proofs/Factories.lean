import WebOfThings.Proofs.Effects

/-!
# What a caller does with the factories

A caller obtains things from the factories and destroys them, lets things go, and carries out acts;
meanwhile handlers are called, and operations of the buses may begin to fail (`Operation`).

Whatever is done in whatever order, a site only advances (`Site.Advances`): things keep their
descriptions, a factory learns of no thing that was there before it was asked for one, and a bus
within the process stays one. So factories know things by their own identifiers only
(`Site.Advances.sound`).
-/

namespace WebOfThings

open Run

/-! ## Buses -/

/-- A bus is within the process, and ending a subscription is not made to fail. -/
structure Bus.Releases (b : Bus Receiver) : Prop where
  /-- The bus is within the process. -/
  process : ∃ bus, b.medium = .process bus
  /-- Subscriptions can be ended. -/
  unsubscribe : b.faults.unsubscribe = false

namespace Bus.Releases

variable {b b' : Bus Receiver} {filter : String} {r : Receiver}

theorem subscriptions_eq {bus : LocalBus Receiver} (h : b.medium = .process bus) :
    b.subscriptions = bus.subscriptions := by
  simp only [Bus.subscriptions, h]

/-- Publishing leaves the subscriptions what they are. -/
theorem of_publish? (h : b.Releases) {m : Message} {receivers : List Receiver}
    (hp : b.publish? m = .ok (b', receivers)) :
    b'.Releases ∧ b'.subscriptions = b.subscriptions := by
  obtain ⟨⟨bus, hbus⟩, hf⟩ := h
  simp only [Bus.publish?, hbus, LocalBus.publish?] at hp
  split at hp
  · contradiction
  split at hp
  · obtain ⟨rfl, -⟩ := Prod.mk.inj (Except.ok.inj hp)
    exact ⟨⟨⟨_, rfl⟩, hf⟩, (subscriptions_eq hbus).symm⟩
  · contradiction

/-- Subscribing fails and changes nothing, or makes the receiver the one of the filter. -/
theorem subscribe_eq (h : b.Releases) (filter : String) (r : Receiver) :
    b.subscribe filter r = (.error (Bus.fault "subscribe"), b) ∧ b.faults.subscribe = true ∨
      ∃ b', b.subscribe filter r = (.done, b') ∧ b.faults.subscribe = false ∧ b'.Releases ∧
        b'.subscriptions = b.subscriptions.insert filter r := by
  obtain ⟨⟨bus, hbus⟩, hf⟩ := h
  unfold Bus.subscribe
  split
  · next hs => exact .inl ⟨rfl, hs⟩
  · next hs =>
    simp only [hbus]
    exact .inr ⟨_, rfl, by simpa using hs, ⟨⟨_, rfl⟩, hf⟩, by rw [subscriptions_eq hbus]; rfl⟩

theorem subscribe (h : b.Releases) (filter : String) (r : Receiver) :
    (b.subscribe filter r).2.Releases := by
  rcases h.subscribe_eq filter r with ⟨he, -⟩ | ⟨b', he, -, hb', -⟩
  · rwa [he]
  · rwa [he]

/-- Unsubscribing leaves the filter without a receiver. -/
theorem unsubscribe_eq (h : b.Releases) (filter : String) :
    (b.unsubscribe filter).2.Releases ∧
      (b.unsubscribe filter).2.subscriptions = b.subscriptions.erase filter := by
  obtain ⟨⟨bus, hbus⟩, hf⟩ := h
  have he : b.unsubscribe filter =
      (.done, { b with medium := .process (bus.unsubscribe filter) }) := by
    simp [Bus.unsubscribe, hf, hbus]
  rw [he]
  exact ⟨⟨⟨_, rfl⟩, hf⟩, by rw [subscriptions_eq hbus]; rfl⟩

theorem disconnect_eq (h : b.Releases) :
    b.disconnect.Releases ∧ b.disconnect.subscriptions = b.subscriptions := by
  obtain ⟨⟨bus, hbus⟩, hf⟩ := h
  have he : b.disconnect = { b with medium := .process { bus with connected := false } } := by
    simp [Bus.disconnect, hbus]
  rw [he]
  exact ⟨⟨⟨_, rfl⟩, hf⟩, (subscriptions_eq hbus).symm⟩

end Bus.Releases

/-! ## Operations -/

/-- What a caller does. -/
inductive Operation
  /-- It obtains a thing of a description from a factory. -/
  | obtain (role : Role) (device : String) (ref : DescriptionRef)
  /-- It destroys a thing by its factory. -/
  | destroy (role : Role) (thing : Nat)
  /-- It lets a thing go. -/
  | letGo (role : Role) (thing : Nat)
  /-- It carries out acts. -/
  | carryOut (label : String) (occasion : Occasion) (acts : List Act)
  /-- It makes publishing and subscribing on a bus fail, or not. -/
  | fault (bus : BusRef) (publish subscribe : Bool)

/-- Does what a caller does. -/
def Operation.run (call : Call) : Operation → Run Unit
  | obtain role device ref => discard (role.obtain call device ref)
  | destroy role i => role.destroy i
  | letGo role i => modify (role.hold i false)
  | carryOut label o acts => discard (performAll call label o acts)
  | fault k publish subscribe =>
    updateBus k fun b => { b with faults := { b.faults with publish, subscribe } }

/-- The factories know nothing yet, and their buses are within the process. -/
structure Site.Fresh (s : Site) : Prop where
  /-- The factories know no things. -/
  known : ∀ role id, (Role.known role s).get? id = none
  /-- Subscriptions on their buses can be ended. -/
  releases : ∀ role, ∃ b, s.buses.get? (Role.bus role s) = some b ∧ b.Releases

/-- Factories know things by their own identifiers. -/
def Site.Sound (s : Site) : Prop :=
  ∀ role id i, (Role.known role s).get? id = some i → Role.id? role s i = some id

theorem Site.Fresh.sound {s : Site} (h : s.Fresh) : s.Sound := by
  intro role id i hk
  rw [h.known] at hk
  contradiction

/-- What becomes of a site. -/
structure Site.Advances (s s' : Site) : Prop where
  /-- Factories keep their buses. -/
  bus : ∀ role, Role.bus role s' = role.bus s
  /-- Things keep their descriptions. -/
  described : ∀ role i d, Role.description? role s i = some d → role.description? s' i = some d
  /-- What a factory knows it knew before, or it is a new thing of its identifier. -/
  learnt : ∀ role id i, (Role.known role s').get? id = some i →
    (role.known s).get? id = some i ∨ role.description? s i = none ∧ role.id? s' i = some id
  /-- Subscriptions can be ended where they could before. -/
  releases : ∀ k b, s.buses.get? k = some b → b.Releases →
    ∃ b', s'.buses.get? k = some b' ∧ b'.Releases

namespace Site.Advances

variable {s s' s'' : Site}

theorem id? (h : s.Advances s') {role : Role} {i : Nat} {id : String}
    (hid : role.id? s i = some id) : role.id? s' i = some id := by
  obtain ⟨d, hd, rfl⟩ := Role.id?_eq_some.1 hid
  exact Role.id?_eq_some.2 ⟨d, h.described role i d hd, rfl⟩

theorem refl (s : Site) : s.Advances s :=
  ⟨fun _ => rfl, fun _ _ _ h => h, fun _ _ _ h => .inl h, fun _ b hb h => ⟨b, hb, h⟩⟩

theorem trans (h : s.Advances s') (h' : s'.Advances s'') : s.Advances s'' where
  bus role := (h'.bus role).trans (h.bus role)
  described role i d hd := h'.described role i d (h.described role i d hd)
  learnt role id i hk := by
    rcases h'.learnt role id i hk with hk | ⟨hnew, hid⟩
    · rcases h.learnt role id i hk with hk | ⟨hnew, hid⟩
      · exact .inl hk
      · exact .inr ⟨hnew, h'.id? hid⟩
    · -- a thing that is new later was not there before
      refine .inr ⟨?_, hid⟩
      cases hd : role.description? s i with
      | none => rfl
      | some d =>
        rw [h.described role i d hd] at hnew
        contradiction
  releases k b hb hr := by
    obtain ⟨b', hb', hr'⟩ := h.releases k b hb hr
    exact h'.releases k b' hb' hr'

theorem composes : Composes Site.Advances := ⟨refl, trans⟩

theorem sound (h : s.Advances s') (hs : s.Sound) : s'.Sound := by
  intro role id i hk
  rcases h.learnt role id i hk with hk | ⟨-, hid⟩
  · exact h.id? (hs role id i hk)
  · exact hid

/-! ### Single changes -/

/-- A change of things that leaves their descriptions. -/
theorem of_same (hbus : ∀ role, Role.bus role s' = role.bus s)
    (hd : ∀ role i, Role.description? role s' i = role.description? s i)
    (hk : ∀ role id i, (Role.known role s').get? id = some i → (role.known s).get? id = some i)
    (hb : s'.buses = s.buses) : s.Advances s' where
  bus := hbus
  described role i _ h := (hd role i).trans h
  learnt role id i h := .inl (hk role id i h)
  releases k b hget hr := ⟨b, by rw [hb, hget], hr⟩

theorem updateExposed (i : ExposedRef) (change : ExposedThing → ExposedThing)
    (hd : ∀ t, (change t).description = t.description) :
    s.Advances { s with exposed := s.exposed.update i change } :=
  of_same (fun role => by cases role <;> rfl)
    (fun role k => Role.description?_updateExposed role s k i change hd)
    (fun role _ _ h => by cases role <;> exact h) rfl

theorem updateConsumed (i : ConsumedRef) (change : ConsumedThing → ConsumedThing)
    (hd : ∀ c, (change c).description = c.description) :
    s.Advances { s with consumed := s.consumed.update i change } :=
  of_same (fun role => by cases role <;> rfl)
    (fun role k => Role.description?_updateConsumed role s k i change hd)
    (fun role _ _ h => by cases role <;> exact h) rfl

theorem updateBus {k : BusRef} {change : Bus Receiver → Bus Receiver}
    (hc : ∀ b, s.buses.get? k = some b → b.Releases → (change b).Releases) :
    s.Advances { s with buses := s.buses.update k change } where
  bus role := by cases role <;> rfl
  described role _ _ h := by cases role <;> exact h
  learnt role _ _ h := .inl (by cases role <;> exact h)
  releases j b hget hr := by
    by_cases hj : k = j
    · subst hj
      exact ⟨change b, by simp [Table.get?_update, hget], hc b hget hr⟩
    · exact ⟨b, by simp [Table.get?_update, hj, hget], hr⟩

theorem empty (role : Role) (i : Nat) : s.Advances (role.empty i s) := by
  cases role with
  | exposed => exact updateExposed i (·.destroy) fun _ => rfl
  | consumed => exact updateConsumed i (·.stop) fun _ => rfl

theorem hold (role : Role) (i : Nat) (held : Bool) : s.Advances (role.hold i held s) := by
  cases role with
  | exposed => exact updateExposed i (fun t => { t with held }) fun _ => rfl
  | consumed => exact updateConsumed i (fun c => { c with held }) fun _ => rfl

theorem drop (role : Role) (id : String) : s.Advances (role.drop id s) := by
  have hforget : s.Advances (role.withKnown ((role.known s).erase id) s) := by
    refine of_same (by simp) (by simp) (fun role' id' i h => ?_) (by simp)
    by_cases hr : role' = role
    · subst hr
      simp only [Role.known_withKnown, if_true, NameMap.get?_erase] at h
      split at h
      · contradiction
      · exact h
    · simpa [hr] using h
  unfold Role.drop
  split
  · exact hforget.trans (updateBus fun _ _ hr => (hr.unsubscribe_eq _).1)
  · exact refl s

theorem listen (role : Role) (id : String) (i : Nat) : s.Advances (role.listen id i s) :=
  updateBus fun _ _ hr => hr.subscribe _ _

/-- A thing is new when it is added. -/
theorem add (role : Role) (device : String) (ref : DescriptionRef) (id : String) :
    s.Advances (role.add device ref id s) where
  bus role' := by simp
  described role' i d hd := by
    rw [Role.description?_add]
    split
    · next hnew =>
      obtain ⟨rfl, rfl⟩ := hnew
      rw [Role.description?_next] at hd
      contradiction
    · exact hd
  learnt role' id i h := .inl (by simpa using h)
  releases k b hget hr := ⟨b, by simpa using hget, hr⟩

theorem keeps : Keeps Site.Advances where
  toComposes := composes
  note _ _ := of_same (fun role => by cases role <;> rfl) (fun role _ => by cases role <;> rfl)
    (fun role _ _ h => by cases role <;> exact h) rfl
  mark _ _ := of_same (fun role => by cases role <;> rfl) (fun role _ => by cases role <;> rfl)
    (fun role _ _ h => by cases role <;> exact h) rfl
  publish hget hsent := updateBus fun b hb hr => by
    obtain rfl := Option.some.inj (hget.symm.trans hb)
    exact (hr.of_publish? hsent).1
  exposed _ i change hc := updateExposed i change fun t => (hc t).description
  consumed _ i change hc := updateConsumed i change fun c => (hc c).description

theorem changed (o : Occasion) (a : Act) (s : Site) : s.Advances (a.changed o s) :=
  keeps.changed (fun _ _ _ _ _ => updateBus fun _ _ hr => hr.subscribe _ _)
    (fun _ _ _ => updateBus fun _ _ hr => (hr.unsubscribe_eq _).1)
    (fun _ _ => updateBus fun _ _ hr => hr.disconnect_eq.1) fun _ id _ _ => drop .consumed id

/-! ### Whole operations -/

theorem relates_calls (depth : Nat) (h : Handler) (o : Occasion) :
    Relates Site.Advances (calls depth h o) :=
  Run.relates_calls keeps changed depth h o

theorem relates_announce (depth : Nat) (role : Role) (k : BusRef) (d : ThingDescription) :
    Relates Site.Advances (role.announce (calls depth) k d) := by
  cases role with
  | exposed => exact relates_discard (relates_publish keeps (relates_calls depth) k _)
  | consumed => exact relates_pure composes _

/-- A factory that is asked for a thing learns of the new one only. -/
theorem of_obtained {role : Role} {depth : Nat} {device : String} {ref : DescriptionRef}
    {result : Except Error Nat} (h : role.Obtained (calls depth) device ref s result s') :
    s.Advances s' := by
  cases h with
  | known hd hk => exact hold role _ true
  | refused hd hk hb he =>
    exact (add role device ref _).trans ((listen role _ _).trans (hold role _ false))
  | @new d b u s₁ hd hk hb hs ha =>
    have hadd : s.Advances (role.add device ref d.id s) := add role device ref d.id
    have h₁ : (role.add device ref d.id s).Advances s₁ :=
      (listen role _ _).trans (relates_announce depth role _ d _ _ _ ha)
    have hnext : role.description? (role.add device ref d.id s) (role.next s) = some d := by
      simp [Role.description?_add, hd]
    have hid : role.id? s₁ (role.next s) = some d.id :=
      Role.id?_eq_some.2 ⟨d, h₁.described role _ d hnext, rfl⟩
    have hlearnt := (hadd.trans h₁).learnt
    refine ⟨fun role' => ?_, fun role' i d' hd' => ?_, fun role' id i hk' => ?_, ?_⟩
    · simpa using (hadd.trans h₁).bus role'
    · simpa using (hadd.trans h₁).described role' i d' hd'
    · -- what the factory is told of is the thing that was added
      by_cases hr : role' = role
      · subst hr
        simp only [Role.known_withKnown, if_true, NameMap.get?_insert] at hk'
        split at hk'
        · obtain rfl := Option.some.inj hk'
          subst id
          exact .inr ⟨Role.description?_next .., by simpa [Role.id?] using hid⟩
        · simpa [Role.id?] using hlearnt role' id i hk'
      · simp only [Role.known_withKnown, hr, if_false] at hk'
        simpa [Role.id?] using hlearnt role' id i hk'
    · simpa using (hadd.trans h₁).releases

theorem relates_operation (depth : Nat) (op : Operation) :
    Relates Site.Advances (op.run (calls depth)) := by
  cases op with
  | obtain role device ref =>
    exact relates_discard fun _ _ _ h => of_obtained (Role.obtained_of_run h)
  | destroy role i =>
    intro s u s' h
    obtain ⟨id, hid⟩ := Role.exists_id?_of_run_destroy h
    rw [Role.eq_of_run_destroy hid h]
    exact (drop role id).trans (empty role i)
  | letGo role i => exact relates_of_run (fun _ => rfl) fun _ => hold role i false
  | carryOut label o acts => exact relates_discard (relates_script keeps changed depth label o acts)
  | fault k publish subscribe =>
    exact relates_of_run (run_updateBus k _) fun _ => updateBus fun _ _ hr =>
      ⟨hr.process, hr.unsubscribe⟩

theorem relates_operations (depth : Nat) (ops : List Operation) :
    Relates Site.Advances (ops.forM (·.run (calls depth))) :=
  relates_forM composes fun op _ => relates_operation depth op

end Site.Advances

end WebOfThings
