import WebOfThings.Proofs.Retirement

/-!
# What a factory knows and what is subscribed

A factory remembers which things it knows, and its bus remembers whom the filters of their
identifiers lead to. Two stores say the same thing, and nothing but the order of steps keeps them
so. They are in step (`Role.InStep`) if an identifier is known if and only if its filter is
subscribed, and the filter leads to the thing that is known.

While a thing is exposed its filter is subscribed already, but the factory does not know it yet, and
whoever is told of the new thing may do anything. So a site is in step with given things, which are
those of the factory in the end. What handlers do keeps it in step if they leave the filters of
things alone (`LeavesFilters`, `Site.Attunes`), and so does every operation of a caller
(`relates_upkept`).
-/

namespace WebOfThings

open Run

/-- The subscriptions of a bus are those of some things of a role, and of others that have nothing
    to do with things of that role. -/
structure Role.Registers (role : Role) (things : NameMap Nat) (subscriptions : NameMap Receiver) :
    Prop where
  /-- No filter has two receivers. -/
  distinct : subscriptions.Distinct
  /-- The filter of an identifier leads to the thing of the identifier, and to nobody if there is
      none. -/
  filter : ∀ id, subscriptions.get? (role.filter id) = (things.get? id).map role.receiver
  /-- Things of the role stand under no other filters. -/
  receiver : ∀ entry ∈ subscriptions.entries, ∀ i, entry.2 = role.receiver i →
    ∃ id, entry.1 = role.filter id

namespace Role.Registers

variable {role : Role} {things : NameMap Nat} {subs : NameMap Receiver} {filter id : String}
  {r : Receiver} {i : Nat}

theorem insert_other (h : role.Registers things subs) (hf : ∀ id, filter ≠ role.filter id)
    (hr : ∀ i, r ≠ role.receiver i) : role.Registers things (subs.insert filter r) where
  distinct := h.distinct.insert filter r
  filter id := by rw [NameMap.get?_insert, if_neg fun he => hf id he.symm, h.filter]
  receiver entry he i hi := by
    rcases NameMap.mem_insert he with rfl | he
    · exact absurd hi (hr i)
    · exact h.receiver entry he i hi

theorem erase_other (h : role.Registers things subs) (hf : ∀ id, filter ≠ role.filter id) :
    role.Registers things (subs.erase filter) where
  distinct := h.distinct.erase filter
  filter id := by rw [NameMap.get?_erase, if_neg fun he => hf id he.symm, h.filter]
  receiver entry he := h.receiver entry (List.mem_filter.1 he).1

theorem insert (h : role.Registers things subs) (id : String) (i : Nat) :
    role.Registers (things.insert id i) (subs.insert (role.filter id) (role.receiver i)) where
  distinct := h.distinct.insert _ _
  filter id' := by
    rw [NameMap.get?_insert, NameMap.get?_insert, h.filter]
    by_cases hid : id' = id
    · simp [hid]
    · rw [if_neg hid, if_neg fun he => hid (Role.filter_inj he).2]
  receiver entry he j hj := by
    rcases NameMap.mem_insert he with rfl | he
    · exact ⟨id, rfl⟩
    · exact h.receiver entry he j hj

theorem erase (h : role.Registers things subs) (id : String) :
    role.Registers (things.erase id) (subs.erase (role.filter id)) where
  distinct := h.distinct.erase _
  filter id' := by
    rw [NameMap.get?_erase, NameMap.get?_erase, h.filter]
    by_cases hid : id' = id
    · simp [hid]
    · rw [if_neg hid, if_neg fun he => hid (Role.filter_inj he).2]
  receiver entry he := h.receiver entry (List.mem_filter.1 he).1

/-- Where each thing has one identifier, only its own filter leads to it. -/
theorem leads {bus : LocalBus Receiver} (h : role.Registers things bus.subscriptions)
    (hk : things.get? id = some i) (hone : ∀ id', things.get? id' = some i → id' = id) :
    bus.Leads (role.filter id) (role.receiver i) where
  distinct := h.distinct
  found := by rw [h.filter, hk, Option.map_some]
  only entry he hr := by
    obtain ⟨id', hfilter⟩ := h.receiver entry he i hr
    have hget : bus.subscriptions.get? (role.filter id') = some (role.receiver i) :=
      h.distinct.get?_of_mem (by rwa [← hfilter, ← hr])
    rw [h.filter, Option.map_eq_some_iff] at hget
    obtain ⟨j, hj, hji⟩ := hget
    obtain ⟨-, rfl⟩ := Role.receiver_inj.1 hji
    rw [hfilter, hone id' hj]

end Role.Registers

/-- A factory with a given bus and given things is in step with what is subscribed. -/
structure Role.InStep (role : Role) (k : BusRef) (things : NameMap Nat) (s : Site) : Prop where
  /-- The bus is that of the factory. -/
  bus : role.bus s = k
  /-- There is one thing at most for an identifier. -/
  distinct : things.Distinct
  /-- The things have the identifiers that they are known by. -/
  identified : ∀ id i, things.get? id = some i → role.id? s i = some id
  /-- Their filters are subscribed. -/
  subscribed : ∃ b, s.buses.get? k = some b ∧ b.Releases ∧ role.Registers things b.subscriptions

namespace Role.InStep

variable {role role' : Role} {k : BusRef} {things : NameMap Nat} {s s' : Site} {id : String}
  {i : Nat}

/-- A factory stays in step if the subscriptions of its bus stay, and things their identifiers. -/
theorem of_advances (h : role.InStep k things s) (ha : s.Advances s')
    (hb : s'.buses.get? k = s.buses.get? k) : role.InStep k things s' where
  bus := (ha.bus role).trans h.bus
  distinct := h.distinct
  identified id i hk := ha.id? (h.identified id i hk)
  subscribed := by rw [hb]; exact h.subscribed

/-- It stays in step as well if its bus does, when a bus changes. -/
theorem updateBus (h : role.InStep k things s) {j : BusRef} {change : Bus Receiver → Bus Receiver}
    (ha : s.Advances { s with buses := s.buses.update j change })
    (hc : ∀ b, s.buses.get? k = some b → j = k → b.Releases →
      role.Registers things b.subscriptions →
      (change b).Releases ∧ role.Registers things (change b).subscriptions) :
    role.InStep k things { s with buses := s.buses.update j change } where
  bus := (ha.bus role).trans h.bus
  distinct := h.distinct
  identified id i hk := ha.id? (h.identified id i hk)
  subscribed := by
    obtain ⟨b, hb, hr, hregisters⟩ := h.subscribed
    by_cases hj : j = k
    · exact ⟨change b, by simp [Table.get?_update, hj, hb], hc b hb hj hr hregisters⟩
    · exact ⟨b, by simp [Table.get?_update, hj, hb], hr, hregisters⟩

/-- What a factory knows is not asked for. -/
theorem withKnown (h : role.InStep k things s) (things' : NameMap Nat) :
    role.InStep k things (role'.withKnown things' s) where
  bus := by simpa using h.bus
  distinct := h.distinct
  identified id i hk := by simpa [Role.id?] using h.identified id i hk
  subscribed := by simpa using h.subscribed

/-- Subscribing a new thing registers it. -/
theorem listen (h : role.InStep k things s) (hid : role.id? s i = some id) {b : Bus Receiver}
    (hb : s.buses.get? k = some b)
    (hs : (b.subscribe (role.filter id) (role.receiver i)).1 = .done) :
    role.InStep k (things.insert id i) (role.listen id i s) where
  bus := by simpa [Role.listen] using h.bus
  distinct := h.distinct.insert id i
  identified id' j hk := by
    rw [NameMap.get?_insert] at hk
    split at hk
    · obtain rfl := Option.some.inj hk
      subst id'
      simpa [Role.listen, Role.id?] using hid
    · simpa [Role.listen, Role.id?] using h.identified id' j hk
  subscribed := by
    obtain ⟨b', hb', hr, hregisters⟩ := h.subscribed
    obtain rfl := Option.some.inj (hb.symm.trans hb')
    rcases hr.subscribe_eq (role.filter id) (role.receiver i) with ⟨he, -⟩ | ⟨b', he, -, hr', hsubs⟩
    · rw [he] at hs
      contradiction
    · refine ⟨b', ?_, hr', by rw [hsubs]; exact hregisters.insert id i⟩
      simp [Role.listen, Role.withBus, Table.get?_update, h.bus, hb, he]

/-- A thing of the other role may be subscribed. -/
theorem listen_other (h : role.InStep k things s) (hne : role' ≠ role) (id : String) (i : Nat) :
    role.InStep k things (role'.listen id i s) :=
  h.updateBus (.listen role' id i) fun b _ _ hr hregisters => by
    refine ⟨hr.subscribe _ _, ?_⟩
    rcases hr.subscribe_eq (role'.filter id) (role'.receiver i) with ⟨he, -⟩ | ⟨b', he, -, -, hsubs⟩
    · rwa [he]
    · rw [he, hsubs]
      exact hregisters.insert_other (fun _ he => hne (Role.filter_inj he).1)
        fun _ he => hne (Role.receiver_inj.1 he).1

/-- Forgetting an identifier leaves the other factory in step. -/
theorem drop_other (h : role.InStep k things s) (hne : role' ≠ role) (id : String) :
    role.InStep k things (role'.drop id s) where
  bus := by simpa using h.bus
  distinct := h.distinct
  identified id' i hk := by simpa [Role.id?] using h.identified id' i hk
  subscribed := by
    obtain ⟨b, hb, hr, hregisters⟩ := h.subscribed
    rw [get?_buses_drop]
    split
    · obtain ⟨hr', hsubs⟩ := hr.unsubscribe_eq (role'.filter id)
      refine ⟨_, by rw [hb]; rfl, hr', ?_⟩
      rw [hsubs]
      exact hregisters.erase_other fun _ he => hne (Role.filter_inj he).1
    · exact ⟨b, hb, hr, hregisters⟩

/-- A factory that forgets an identifier is in step with what it knows then. -/
theorem drop_self (h : role.InStep k (role.known s) s) (id : String) :
    role.InStep k (role.known (role.drop id s)) (role.drop id s) := by
  obtain ⟨b, hb, hr, hregisters⟩ := h.subscribed
  by_cases hk : (role.known s).contains id = true
  · have hknown : role.known (role.drop id s) = (role.known s).erase id := by
      simp [Role.drop, hk, forget]
    obtain ⟨hr', hsubs⟩ := hr.unsubscribe_eq (role.filter id)
    rw [hknown]
    refine ⟨by simpa using h.bus, h.distinct.erase id, fun id' i hid => ?_, _, ?_, hr', ?_⟩
    · rw [NameMap.get?_erase] at hid
      split at hid
      · contradiction
      · simpa [Role.id?] using h.identified id' i hid
    · rw [get?_buses_drop, if_pos ⟨hk, h.bus⟩, hb]
      rfl
    · rw [hsubs]
      exact hregisters.erase id
  · have hsame : role.drop id s = s := by simp [Role.drop, hk]
    rwa [hsame]

/-- The things of a factory that is in step are attended. -/
theorem attends (h : role.InStep k (role.known s) s) (hk : (role.known s).get? id = some i) :
    role.Attends s id i where
  known := hk
  leads := by
    obtain ⟨b, hb, hr, hregisters⟩ := h.subscribed
    obtain ⟨bus, hbus⟩ := hr.process
    rw [Bus.Releases.subscriptions_eq hbus] at hregisters
    refine ⟨b, bus, by rw [h.bus, hb], hbus, hregisters.leads hk fun id' hk' => ?_⟩
    exact Option.some.inj ((h.identified id' i hk').symm.trans (h.identified id i hk))

end Role.InStep

/-! ## Handlers -/

/-- An act subscribes no filter of things on the bus of a factory, and unsubscribes none. -/
def LeavesFilters (buses : Role → BusRef) (o : Occasion) (a : Act) : Prop :=
  match a with
  | .listen k _ _ _ | .unlisten k _ => ∀ role id, k = buses role → a.subject o ≠ role.filter id
  | _ => True

/-- What handlers do to the factories: the one of the device stays in step with what it was in step
    with, and the one of the consumer, which may be told to destroy things, with what it knows. -/
structure Site.Attunes (buses : Role → BusRef) (s s' : Site) : Prop where
  /-- The site advances. -/
  advances : s.Advances s'
  /-- The factory of the device knows the same things. -/
  known : Role.exposed.known s' = Role.exposed.known s
  /-- It stays in step. -/
  exposed : ∀ things, Role.exposed.InStep (buses .exposed) things s →
    Role.exposed.InStep (buses .exposed) things s'
  /-- So does the factory of the consumer. -/
  consumed : Role.consumed.InStep (buses .consumed) (Role.consumed.known s) s →
    Role.consumed.InStep (buses .consumed) (Role.consumed.known s') s'

namespace Site.Attunes

variable {buses : Role → BusRef} {s s' s'' : Site}

theorem composes : Composes (Site.Attunes buses) where
  refl s := ⟨.refl s, rfl, fun _ h => h, fun h => h⟩
  trans h h' := ⟨h.advances.trans h'.advances, h'.known.trans h.known,
    fun things hi => h'.exposed things (h.exposed things hi),
    fun hi => h'.consumed (h.consumed hi)⟩

/-- A change of things, of the journal or of the timeline. -/
theorem of_same (ha : s.Advances s') (hk : ∀ role, Role.known role s' = role.known s)
    (hb : s'.buses = s.buses) : s.Attunes buses s' where
  advances := ha
  known := hk .exposed
  exposed things h := h.of_advances ha (by rw [hb])
  consumed h := by
    rw [hk]
    exact h.of_advances ha (by rw [hb])

/-- A change of a bus that leaves its subscriptions registering what they do. -/
theorem updateBus {k : BusRef} {change : Bus Receiver → Bus Receiver}
    (hc : ∀ b, s.buses.get? k = some b → b.Releases → (change b).Releases ∧
      ∀ role things, k = buses role → role.Registers things b.subscriptions →
        role.Registers things (change b).subscriptions) :
    s.Attunes buses { s with buses := s.buses.update k change } := by
  have ha : s.Advances { s with buses := s.buses.update k change } :=
    .updateBus fun b hb hr => (hc b hb hr).1
  have hstep : ∀ (role : Role) things, role.InStep (buses role) things s →
      role.InStep (buses role) things { s with buses := s.buses.update k change } :=
    fun role things h => h.updateBus ha fun b hb hk hr hregisters =>
      ⟨(hc b (hk ▸ hb) hr).1, (hc b (hk ▸ hb) hr).2 role things hk hregisters⟩
  exact ⟨ha, rfl, hstep .exposed, hstep .consumed _⟩

theorem keeps : Keeps (Site.Attunes buses) where
  toComposes := composes
  note s e := of_same (Site.Advances.keeps.note s e) (fun role => by cases role <;> rfl) rfl
  mark s m := of_same (Site.Advances.keeps.mark s m) (fun role => by cases role <;> rfl) rfl
  publish hget hsent := updateBus fun b hb hr => by
    obtain rfl := Option.some.inj (hget.symm.trans hb)
    obtain ⟨hr', hsubs⟩ := hr.of_publish? hsent
    exact ⟨hr', fun _ _ _ h => hsubs ▸ h⟩
  exposed s i change hc :=
    of_same (Site.Advances.keeps.exposed s i change hc) (fun role => by cases role <;> rfl) rfl
  consumed s i change hc :=
    of_same (Site.Advances.keeps.consumed s i change hc) (fun role => by cases role <;> rfl) rfl

theorem drop (id : String) : s.Attunes buses (Role.consumed.drop id s) where
  advances := .drop .consumed id
  known := by
    unfold Role.drop
    split <;> rfl
  exposed _ h := h.drop_other (by decide) id
  consumed h := h.drop_self id

/-- An act that leaves the filters of things alone. -/
theorem changed {o : Occasion} {a : Act} (h : LeavesFilters buses o a) (s : Site) :
    s.Attunes buses (a.changed o s) := by
  refine keeps.changed (fun k name label acts ha => updateBus fun b _ hr => ?_)
    (fun k name ha => updateBus fun b _ hr => ?_) (fun k _ => updateBus fun b _ hr => ?_)
    fun _ id _ _ => drop id
  · subst ha
    refine ⟨hr.subscribe _ _, fun role things hk hregisters => ?_⟩
    rcases hr.subscribe_eq _ (.handler { label, acts }) with ⟨he, -⟩ | ⟨b', he, -, -, hsubs⟩
    · rwa [he]
    · rw [he, hsubs]
      exact hregisters.insert_other (fun id => h role id hk)
        fun i => (role.receiver_ne_handler i _).symm
  · subst ha
    obtain ⟨hr', hsubs⟩ := hr.unsubscribe_eq _
    refine ⟨hr', fun role things hk hregisters => ?_⟩
    rw [hsubs]
    exact hregisters.erase_other fun id => h role id hk
  · exact ⟨hr.disconnect_eq.1, fun _ _ _ h => hr.disconnect_eq.2 ▸ h⟩

end Site.Attunes

/-! ## Operations -/

/-- Both factories are in step with what they know. -/
def Site.InStep (buses : Role → BusRef) (s : Site) : Prop :=
  ∀ role : Role, role.InStep (buses role) (role.known s) s

section

variable {buses : Role → BusRef} {s s' : Site}

theorem Site.Attunes.inStep (h : s.Attunes buses s') (hs : s.InStep buses) : s'.InStep buses := by
  intro role
  cases role with
  | exposed =>
    rw [h.known]
    exact h.exposed _ (hs .exposed)
  | consumed => exact h.consumed (hs .consumed)

/-- What is in step stays in step, if the filters of things are left alone. -/
abbrev Site.Upkept (buses : Role → BusRef) : Site → Site → Prop :=
  Guarded (LeavesFilters buses) fun s s' => s.InStep buses → s'.InStep buses

theorem Site.composes_upkept : Composes (Site.Upkept buses) where
  refl _ := .of_same_journal rfl fun h => h
  trans h h' := h.trans ⟨fun _ h => h, fun h h' hs => h' (h hs)⟩ h'

theorem upkept_of_advances (ha : s.Advances s') (hk : ∀ role, Role.known role s' = role.known s)
    (hb : s'.buses = s.buses) (hj : s'.journal = s.journal) : Site.Upkept buses s s' :=
  .of_same_journal hj (Site.Attunes.of_same ha hk hb).inStep

theorem upkept_drop (role : Role) (id : String) : Site.Upkept buses s (role.drop id s) := by
  refine .of_same_journal ?_ fun hs role' => ?_
  · exact role.journal_drop s id
  · by_cases hr : role' = role
    · subst hr
      exact (hs role').drop_self id
    · have hknown : role'.known (role.drop id s) = role'.known s := by
        unfold Role.drop
        split
        · simp [Role.forget, hr]
        · rfl
      rw [hknown]
      exact (hs role').drop_other (Ne.symm hr) id

theorem relates_attunes_announce (depth : Nat) (role : Role) (k : BusRef) (d : ThingDescription) :
    Relates (Guarded (LeavesFilters buses) (Site.Attunes buses))
      (role.announce (calls depth) k d) := by
  cases role with
  | exposed =>
    exact relates_discard (relates_publish (keeps_guarded Site.Attunes.keeps)
      (relates_guarded_calls Site.Attunes.keeps (fun _ _ ha s => .changed ha s) depth) k _)
  | consumed => exact relates_pure (keeps_guarded Site.Attunes.keeps).toComposes _

/-- When a thing is announced, its factory stays in step with what it will know, and the other one
    with what it knows. -/
theorem inStep_of_announce {call : Call} {role : Role} {k : BusRef} {d : ThingDescription}
    {u : PUnit} (h : (role.announce call k d).run s = some (u, s')) (attunes : s.Attunes buses s')
    (change : NameMap Nat → NameMap Nat)
    (new : role.InStep (buses role) (change (role.known s)) s)
    (others : ∀ role', role' ≠ role → role'.InStep (buses role') (role'.known s) s) :
    role.InStep (buses role) (change (role.known s')) s' ∧
      ∀ role', role' ≠ role → role'.InStep (buses role') (role'.known s') s' := by
  cases role with
  | exposed =>
    refine ⟨?_, fun role' hne => ?_⟩
    · rw [attunes.known]
      exact attunes.exposed _ new
    · cases role' with
      | exposed => exact absurd rfl hne
      | consumed => exact attunes.consumed (others .consumed hne)
  | consumed =>
    -- a thing that is consumed is told to nobody
    obtain ⟨-, rfl⟩ := Prod.mk.inj (Option.some.inj h)
    exact ⟨new, others⟩

/-- A thing that cannot be subscribed leaves the buses what they are. -/
theorem buses_listen_of_error {role : Role} {id : String} {i : Nat} {b : Bus Receiver} {e : Error}
    (hb : s.buses.get? (role.bus s) = some b) (hr : b.Releases)
    (he : (b.subscribe (role.filter id) (role.receiver i)).1 = .error e) :
    e = Bus.fault "subscribe" ∧ (role.listen id i s).buses = s.buses := by
  rcases hr.subscribe_eq (role.filter id) (role.receiver i) with ⟨hsub, -⟩ | ⟨b', hsub, -, -, -⟩
  · rw [hsub] at he
    exact ⟨(Except.error.inj he).symm, Table.update_eq_self hb (congrArg Prod.snd hsub)⟩
  · rw [hsub] at he
    contradiction

/-- Obtaining a thing keeps the factories in step, whatever handlers do that are told of it. -/
theorem upkept_obtained {depth : Nat} {role : Role} {device : String} {ref : DescriptionRef}
    {result : Except Error Nat} (h : role.Obtained (calls depth) device ref s result s') :
    Site.Upkept buses s s' := by
  have ha := Site.Advances.of_obtained h
  cases h with
  | known hd hk =>
    exact upkept_of_advances ha (by simp) (by simp) (by cases role <;> rfl)
  | @refused d b e hd hk hb he =>
    refine .of_same_journal (by cases role <;> rfl) fun hs role' => ?_
    obtain ⟨b', hb', hr, -⟩ := (hs role).subscribed
    rw [← (hs role).bus] at hb'
    obtain rfl := Option.some.inj (hb.symm.trans hb')
    have hbuses := (buses_listen_of_error (s := role.add device ref d.id s)
      (by simpa using hb) hr he).2
    have hknown : role'.known (role.hold (role.next s) false
        (role.listen d.id (role.next s) (role.add device ref d.id s))) = role'.known s := by
      simp [Role.listen]
    rw [hknown]
    exact (hs role').of_advances ha (by simp [hbuses])
  | @new d b u s₁ hd hk hb hsub hannounce =>
    obtain ⟨entries, hj, hattunes⟩ := relates_attunes_announce depth role _ d _ _ _ hannounce
    refine ⟨entries, ?_, fun hall hs role' => ?_⟩
    · cases role <;> exact hj
    -- when the new thing is announced it is subscribed, and the factory will know it
    have hadd : s.Advances (role.add device ref d.id s) := .add role device ref d.id
    have hid : role.id? (role.add device ref d.id s) (role.next s) = some d.id :=
      Role.id?_eq_some.2 ⟨d, by simp [Role.description?_add, hd], rfl⟩
    have hnew := ((hs role).of_advances hadd (by simp)).listen hid
      (by simpa using (hs role).bus ▸ hb) hsub
    have hothers : ∀ role', role' ≠ role → role'.InStep (buses role') (role'.known s)
        (role.listen d.id (role.next s) (role.add device ref d.id s)) := fun role' hne =>
      ((hs role').of_advances hadd (by simp)).listen_other (Ne.symm hne) _ _
    have hsame : ∀ role' : Role, role'.known (role.listen d.id (role.next s)
        (role.add device ref d.id s)) = role'.known s := by simp [Role.listen]
    obtain ⟨hnew, hothers⟩ := inStep_of_announce hannounce (hattunes hall)
      (·.insert d.id (role.next s)) (by rwa [hsame]) (by simpa only [hsame] using hothers)
    by_cases hr : role' = role
    · subst hr
      simpa using hnew.withKnown _
    · simpa [hr] using (hothers role' hr).withKnown _

theorem relates_upkept (depth : Nat) (op : Operation) :
    Relates (Site.Upkept buses) (op.run (calls depth)) := by
  cases op with
  | obtain role device ref =>
    exact relates_discard fun _ _ _ h => upkept_obtained (Role.obtained_of_run h)
  | destroy role i =>
    intro s u s' h
    obtain ⟨id, hid⟩ := Role.exists_id?_of_run_destroy h
    rw [Role.eq_of_run_destroy hid h]
    exact Site.composes_upkept.trans (upkept_drop role id)
      (upkept_of_advances (.empty role i) (by simp) (by simp) (by cases role <;> rfl))
  | letGo role i =>
    exact relates_of_run (fun _ => rfl) fun _ =>
      upkept_of_advances (.hold role i false) (by simp) (by simp) (by cases role <;> rfl)
  | carryOut label o acts =>
    refine relates_discard fun s _ s' h => ?_
    obtain ⟨entries, hj, hattunes⟩ := relates_guarded_script Site.Attunes.keeps
      (fun _ _ ha s => .changed ha s) depth label o acts s _ s' h
    exact ⟨entries, hj, fun hall => (hattunes hall).inStep⟩
  | fault k publish subscribe =>
    refine relates_of_run (run_updateBus k _) fun s => .of_same_journal rfl fun hs => ?_
    have hattunes : s.Attunes buses { s with buses := s.buses.update k fun b =>
        { b with faults := { b.faults with publish, subscribe } } } :=
      .updateBus fun _ _ hr => ⟨⟨hr.process, hr.unsubscribe⟩, fun _ _ _ h => h⟩
    exact hattunes.inStep hs

theorem relates_upkept_all (depth : Nat) (ops : List Operation) :
    Relates (Site.Upkept buses) (ops.forM (·.run (calls depth))) :=
  relates_forM Site.composes_upkept fun op _ => relates_upkept depth op

end

end WebOfThings
