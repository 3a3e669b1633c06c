import WebOfThings.Proofs.Factories

/-!
# Destroying a thing again

A factory looks up what it destroys by its identifier. A thing that was destroyed is never known to
a factory again, but its identifier may be: another thing may have been obtained under it meanwhile.
So destroying the first thing again does nothing to things of other identifiers or of the other
role, and does nothing at all but empty the thing if its identifier is not in use; if it is, the
thing that uses it is forgotten in its place, and receives no more messages.

`destroy_again_iff` says so of every run, and that nobody loses anything if and only if the
identifier is not in use.
-/

namespace WebOfThings

open Run

/-- A factory knows a thing under an identifier, and on its bus the filter of the identifier leads
    to the thing. -/
structure Role.Attends (role : Role) (s : Site) (id : String) (i : Nat) : Prop where
  /-- The factory knows the thing. -/
  known : (role.known s).get? id = some i
  /-- The filter leads to the thing. -/
  leads : ∃ b bus, s.buses.get? (role.bus s) = some b ∧ b.medium = .process bus ∧
    bus.Leads (role.filter id) (role.receiver i)

namespace Role.Attends

variable {role role' : Role} {s : Site} {id id' : String} {i t : Nat}

theorem empty (h : role.Attends s id i) : role.Attends (role'.empty t s) id i where
  known := by simpa using h.known
  leads := by simpa using h.leads

/-- What is forgotten under one identifier is nothing to others. -/
theorem drop (h : role.Attends s id i) (hne : (role, id) ≠ (role', id')) :
    role.Attends (role'.drop id' s) id i where
  known := by
    rw [get?_known_drop, if_neg fun he => hne (Prod.ext he.1 he.2), h.known]
  leads := by
    obtain ⟨b, bus, hb, hbus, hleads⟩ := h.leads
    have hfilter : role'.filter id' ≠ role.filter id := fun he => by
      obtain ⟨rfl, rfl⟩ := filter_inj he
      exact hne rfl
    rw [bus_drop, get?_buses_drop]
    split
    · -- the filter of the identifier is another one on the same bus
      rw [hb, Option.map_some]
      unfold Bus.unsubscribe
      by_cases hf : b.faults.unsubscribe = true
      · exact ⟨b, bus, by simp [hf], hbus, hleads⟩
      · refine ⟨{ b with medium := .process (bus.unsubscribe (role'.filter id')) }, _, ?_, rfl,
          hleads.unsubscribe hfilter⟩
        simp [hf, hbus]
    · exact ⟨b, bus, hb, hbus, hleads⟩

/-- A thing that was forgotten under its identifier receives nothing any more. -/
theorem receives_nothing (h : role.Attends s id i) {b : Bus Receiver} (hr : b.Releases)
    (hb : s.buses.get? (role.bus s) = some b) :
    ∃ b', (role.drop id s).buses.get? (role.bus s) = some b' ∧
      ∀ entry ∈ b'.subscriptions.entries, entry.2 ≠ role.receiver i := by
  obtain ⟨b₁, bus, hb₁, hbus, hleads⟩ := h.leads
  obtain rfl := Option.some.inj (hb.symm.trans hb₁)
  have hk : (role.known s).contains id = true := by simp [NameMap.contains, h.known]
  refine ⟨(b.unsubscribe (role.filter id)).2, ?_, fun entry he hreceiver => ?_⟩
  · simp [get?_buses_drop, hk, hb]
  · rw [(hr.unsubscribe_eq _).2, Bus.Releases.subscriptions_eq hbus, NameMap.erase,
      List.mem_filter] at he
    simp [hleads.only entry he.1 hreceiver] at he

end Role.Attends

/-- A factory does not know a thing, though there is the thing. -/
structure Role.Retired (role : Role) (s : Site) (t : Nat) (id : String) : Prop where
  /-- The thing has the identifier. -/
  id? : role.id? s t = some id
  /-- The factory knows it under none. -/
  unknown : ∀ id', (role.known s).get? id' ≠ some t

namespace Role.Retired

variable {role : Role} {s s' : Site} {t : Nat} {id : String}

/-- A thing is retired once it was destroyed. -/
theorem of_destroy (hs : s.Sound) {u : Unit} (h : (role.destroy t).run s = some (u, s')) :
    ∃ id, role.Retired s' t id := by
  obtain ⟨id, hid⟩ := exists_id?_of_run_destroy h
  obtain rfl := eq_of_run_destroy hid h
  refine ⟨id, by simpa [Role.id?] using hid, fun id' hk => ?_⟩
  rw [known_empty, get?_known_drop] at hk
  split at hk
  · contradiction
  · next hne =>
    -- it was known under its own identifier at most
    have hsame : id' = id := Option.some.inj ((hs role id' t hk).symm.trans hid)
    exact hne ⟨rfl, hsame⟩

/-- A thing that is retired stays so. -/
theorem advance (h : role.Retired s t id) (ha : s.Advances s') : role.Retired s' t id where
  id? := ha.id? h.id?
  unknown id' hk := by
    rcases ha.learnt role id' t hk with hk | ⟨hnew, -⟩
    · exact h.unknown id' hk
    · obtain ⟨d, hd, -⟩ := id?_eq_some.1 h.id?
      rw [hnew] at hd
      contradiction

end Role.Retired

theorem Site.Advances.releases_bus {s s' : Site} (h : s.Advances s') (fresh : s.Fresh)
    (role : Role) : ∃ b, s'.buses.get? (role.bus s') = some b ∧ b.Releases := by
  obtain ⟨b, hb, hr⟩ := fresh.releases role
  rw [h.bus]
  exact h.releases _ b hb hr

/-- After any operations among which a thing was destroyed, destroying it again leaves all things of
    other identifiers and of the other role attended as they were. A thing that meanwhile uses its
    identifier is another one, and is forgotten, and receives nothing any more. So nobody loses
    anything if and only if nobody uses the identifier. -/
theorem destroy_again_iff {s s' : Site} (fresh : s.Fresh) {depth : Nat}
    {before after : List Operation} {role : Role} {t : Nat} {u : PUnit}
    (h : ((before ++ .destroy role t :: after).forM (·.run (calls depth))).run s =
      some (u, s')) :
    ∃ id s'', role.id? s' t = some id ∧ (role.destroy t).run s' = some (.unit, s'') ∧
      ((role.known s').get? id = none → s'' = role.empty t s') ∧
      (∀ (role' : Role) id' j, (role', id') ≠ (role, id) →
        role'.Attends s' id' j → role'.Attends s'' id' j) ∧
      (∀ j, role.Attends s' id j → j ≠ t ∧ (role.known s'').get? id = none ∧
        ∃ b, s''.buses.get? (role.bus s'') = some b ∧
          ∀ entry ∈ b.subscriptions.entries, entry.2 ≠ role.receiver j) ∧
      ((∀ (role' : Role) id' j, role'.Attends s' id' j → role'.Attends s'' id' j) ↔
        ∀ j, ¬ role.Attends s' id j) := by
  have hadvances := Site.Advances.relates_operations depth _ _ _ _ h
  -- once destroyed the thing is retired, whatever is done afterwards
  simp only [List.forM_eq_forM, List.forM_append, List.forM_cons, run_bind_eq_some] at h
  obtain ⟨_, s₁, hbefore, _, s₂, hdestroy, hafter⟩ := h
  have hsound : s₁.Sound :=
    (Site.Advances.relates_operations depth before _ _ _ hbefore).sound fresh.sound
  obtain ⟨id, hretired⟩ := Role.Retired.of_destroy hsound hdestroy
  have hretired := hretired.advance (Site.Advances.relates_operations depth after _ _ _ hafter)
  obtain ⟨b, hb, hr⟩ := hadvances.releases_bus fresh role
  refine ⟨id, role.empty t (role.drop id s'), hretired.id?, ?_, fun hk => ?_,
    fun role' id' j hne ha => (ha.drop hne).empty, fun j ha => ⟨?_, ?_, ?_⟩, fun hall j ha => ?_,
    fun hnone role' id' j ha => ?_⟩
  · rw [Role.run_destroy hretired.id?, if_neg (by simp [hb])]
  · simp [Role.drop, NameMap.contains, hk]
  · rintro rfl
    exact hretired.unknown id ha.known
  · simp [Role.get?_known_drop]
  · simpa using ha.receives_nothing hr hb
  · have hafterwards := (hall role id j ha).known
    simp [Role.get?_known_drop] at hafterwards
  · by_cases hsame : (role', id') = (role, id)
    · obtain ⟨rfl, rfl⟩ := Prod.mk.inj hsame
      exact absurd ha (hnone j)
    · exact (ha.drop hsame).empty

/-- A site with the description of the lamp and a bus, whose factories know nothing yet. -/
def lampFactories : Site :=
  { catalogue := ⟨[.lamp]⟩, buses := ⟨[.ofLocal {}]⟩, consumer := .home }

theorem fresh_lampFactories : lampFactories.Fresh where
  known role id := by cases role <;> rfl
  releases role := ⟨.ofLocal {}, by cases role <;> rfl, ⟨_, rfl⟩, rfl⟩

/-- The lamp is exposed, destroyed, exposed anew, and the first one is destroyed again. -/
theorem destroy_again_iff_lamp :
    ∃ s' s'', (([.obtain .exposed "" 0] ++ .destroy .exposed 0 :: [.obtain .exposed "" 0] :
        List Operation).forM (·.run (calls 0))).run lampFactories = some (.unit, s') ∧
      (Role.exposed.destroy 0).run s' = some (.unit, s'') ∧
      (Role.exposed.known s').get? "lamp" = some 1 ∧
      ((∀ (role : Role) id j, role.Attends s' id j → role.Attends s'' id j) ↔
        ∀ j, ¬ Role.exposed.Attends s' "lamp" j) := by
  obtain ⟨s', hrun, hknown, hid⟩ : ∃ s',
      (([.obtain .exposed "" 0] ++ .destroy .exposed 0 :: [.obtain .exposed "" 0] :
        List Operation).forM (·.run (calls 0))).run lampFactories = some (.unit, s') ∧
      (Role.exposed.known s').get? "lamp" = some 1 ∧ Role.exposed.id? s' 0 = some "lamp" :=
    ⟨_, rfl, rfl, rfl⟩
  obtain ⟨id, s'', hid', hdestroy, -, -, -, hiff⟩ := destroy_again_iff fresh_lampFactories hrun
  obtain rfl := Option.some.inj (hid.symm.trans hid')
  exact ⟨s', s'', hrun, hdestroy, hknown, hiff⟩

/-- In either role, what was obtained anew is no longer attended. -/
theorem destroy_again_not_harmless :
    (∃ s' s'', ([.obtain .exposed "" 0, .destroy .exposed 0, .obtain .exposed "" 0] :
          List Operation).forM (·.run (calls 0)) lampFactories = some (.unit, s') ∧
        (Role.exposed.destroy 0).run s' = some (.unit, s'') ∧
        Role.exposed.Attends s' "lamp" 1 ∧ ¬ Role.exposed.Attends s'' "lamp" 1 ∧
        (s''.buses.get? 0).map Bus.subscriptions = some {}) ∧
      ∃ s' s'', ([.obtain .consumed "" 0, .destroy .consumed 0, .obtain .consumed "" 0] :
          List Operation).forM (·.run (calls 0)) lampFactories = some (.unit, s') ∧
        (Role.consumed.destroy 0).run s' = some (.unit, s'') ∧
        Role.consumed.Attends s' "lamp" 1 ∧ ¬ Role.consumed.Attends s'' "lamp" 1 ∧
        (s''.buses.get? 0).map Bus.subscriptions = some {} := by
  have hleads (filter : String) (r : Receiver) :
      (({ subscriptions := ⟨[(filter, r)]⟩ } : LocalBus Receiver)).Leads filter r :=
    ⟨by simp [NameMap.Distinct, NameMap.names], by simp [NameMap.get?, NameMap.findEntry],
      by simp⟩
  have hrun (role : Role) : ∃ s' s'',
      ([.obtain role "" 0, .destroy role 0, .obtain role "" 0] :
        List Operation).forM (·.run (calls 0)) lampFactories = some (.unit, s') ∧
      (role.destroy 0).run s' = some (.unit, s'') ∧ role.Attends s' "lamp" 1 ∧
      (role.known s'').get? "lamp" = none ∧ (s''.buses.get? 0).map Bus.subscriptions = some {} := by
    cases role <;>
      exact ⟨_, _, rfl, rfl, ⟨rfl, _, _, rfl, rfl, hleads _ _⟩, rfl, rfl⟩
  have hunknown {role : Role} {s : Site} (h : (role.known s).get? "lamp" = none) :
      ¬ role.Attends s "lamp" 1 := fun ha => by
    have hk := ha.known
    simp [h] at hk
  obtain ⟨s₁, s₂, hobtain, hdestroy, ha, hk, hb⟩ := hrun .exposed
  obtain ⟨s₁', s₂', hobtain', hdestroy', ha', hk', hb'⟩ := hrun .consumed
  exact ⟨⟨s₁, s₂, hobtain, hdestroy, ha, hunknown hk, hb⟩,
    s₁', s₂', hobtain', hdestroy', ha', hunknown hk', hb'⟩

end WebOfThings
