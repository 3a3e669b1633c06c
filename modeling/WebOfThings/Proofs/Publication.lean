import Mathlib
import WebOfThings.Proofs.Recording

/-!
# Publishing on a bus within the process

Who receives a message is settled before the first of them is handed it: those whose filters match
its topic at that moment (`NameMap.Matches`). They are handed the message one after another, once
each (`Handed`), whatever they do meanwhile: they may subscribe and unsubscribe, disconnect the bus,
and publish more. A client of a broker hands on what arrives in the same way, if its topic is text.

* `publishes_at_once`: so it is on any bus within the process that is connected. One that is not
  refuses the message, and nothing happens. The message is kept before all those that are published
  meanwhile, and what is kept stays as it is.
-/

namespace WebOfThings

open Run

/-! ## Handing a message on -/

/-- The entries of a registry whose filters match a topic, each of them once. -/
structure NameMap.Matches {α : Type} (registry : NameMap α) (topic : String)
    (entries : List (String × α)) : Prop where
  /-- No filter comes twice. -/
  nodup : (entries.map (·.1)).Nodup
  /-- They are the entries whose filters match. -/
  mem_iff : ∀ filter r, (filter, r) ∈ entries ↔
    registry.get? filter = some r ∧ Topic.matches filter topic = true

/-- Those who receive a message on a topic stand in these entries. -/
theorem NameMap.Distinct.exists_matches {α : Type} {registry : NameMap α}
    (distinct : registry.Distinct) (topic : String) :
    ∃ entries, registry.Matches topic entries ∧ receiversOf registry topic = entries.map (·.2) := by
  refine ⟨_, ⟨?_, fun filter r => ?_⟩, rfl⟩
  · exact distinct.sublist (List.Sublist.map _ List.filter_sublist)
  · rw [List.mem_filter]
    exact and_congr_left fun _ => ⟨distinct.get?_of_mem, mem_of_get?⟩

/-- A message is handed to receivers one after another, once to each. -/
inductive Handed (call : Call) (m : Message) : List Receiver → Site → Site → Prop
  /-- There is none left. -/
  | nil (s : Site) : Handed call m [] s s
  /-- The first one is handed the message, and then the others are. -/
  | cons {r : Receiver} {l : List Receiver} {s s₁ s' : Site}
    (accepted : (accept call m r).run s = some (.unit, s₁)) (rest : Handed call m l s₁ s') :
    Handed call m (r :: l) s s'

section

variable {call : Call} {m : Message} {l : List Receiver} {s s' : Site}

theorem handed_iff :
    (l.forM (accept call m)).run s = some (.unit, s') ↔ Handed call m l s s' := by
  constructor
  · intro h
    induction l generalizing s with
    | nil =>
      obtain ⟨-, rfl⟩ := Prod.mk.inj (Option.some.inj h)
      exact .nil s
    | cons r l ih =>
      rw [List.forM_eq_forM, List.forM_cons] at h
      obtain ⟨_, s₁, hr, hl⟩ := run_bind_eq_some.1 h
      exact .cons hr (ih hl)
  · intro h
    induction h with
    | nil s => rfl
    | cons accepted _ ih =>
      rw [List.forM_eq_forM, List.forM_cons, run_bind_of_run accepted]
      exact ih

/-- A message can be handed to receivers that are done with it sooner or later. -/
theorem exists_handed (h : ∀ r ∈ l, ∀ s, ∃ s', (accept call m r).run s = some (.unit, s'))
    (s : Site) : ∃ s', Handed call m l s s' := by
  induction l generalizing s with
  | nil => exact ⟨s, .nil s⟩
  | cons r l ih =>
    obtain ⟨s₁, hr⟩ := h r List.mem_cons_self s
    obtain ⟨s', hl⟩ := ih (fun r' hr' => h r' (List.mem_cons_of_mem r hr')) s₁
    exact ⟨s', .cons hr hl⟩

/-- What is published while a message is handed on is kept after what was kept before. -/
theorem Handed.records {depth : Nat} (h : Handed (calls depth) m l s s') (k : BusRef) :
    s.Records k s' :=
  relates_forM Site.Records.composes
    (fun r _ => Site.Records.relates_accept (Site.Records.relates_calls depth) m r) _ _ _
    (handed_iff.2 h)

end

/-! ## Clients -/

/-- A message that arrives changes nothing about the client itself. -/
theorem BusClient.react_message {α : Type} (c : BusClient α) (session : Nat)
    (topic payload : Bytes) : c.react session (.message topic payload) = c := by
  have hsessions : c.sessions.update session (Session.react (.message topic payload)) =
      c.sessions := by
    simp [Table.update, show Session.react (.message topic payload) = id from rfl]
  simp [react, hsessions]

namespace Run

variable {call : Call} {s : Site} {k : BusRef} {c : BusClient Receiver} {faults : Faults}

/-- A message that arrives is handed on, if its topic is text. -/
theorem run_seeEvent_message (hget : s.buses.get? k = some { medium := .broker c, faults })
    (session : Nat) (topic payload : Bytes) :
    (seeEvent call k session (.message topic payload)).run s =
      (match topic.toString? with
        | some text =>
          (receiversOf c.subscriptions text).forM (accept call { topic := text, payload })
        | none => pure () : Run Unit).run s := by
  have hreact : (updateClient k (·.react session (.message topic payload))).run s =
      some (.unit, s) := by
    rw [updateClient, run_updateBus, Table.update_eq_self hget (by simp [BusClient.react_message])]
  rw [seeEvent, run_bind_of_run hreact]
  cases htopic : topic.toString? with
  | none => rfl
  | some text =>
    have hclient : (client k).run s = some (c, s) := by simp [hget, Bus.client?]
    dsimp only
    rw [run_bind_of_run hclient, BusClient.receivers, htopic]

end Run

/-! ## Publishing -/

/-- What a bus within the process of a site does with a message, where these entries match its
    topic. -/
structure Site.Publishes (s : Site) (k : BusRef) (b : LocalBus Receiver) (m : Message)
    (entries : List (String × Receiver)) : Prop where
  /-- A bus that is not connected refuses the message, and nothing happens. -/
  refused : b.connected = false → ∀ call, ∃ e, e.kind = .transport ∧
    (publish call k m).run s = some (.error e, s)
  /-- A bus that is connected takes the message, and hands it to the receivers in the entries. That
      cannot fail. -/
  handed : b.connected = true → ∀ call outcome s', (publish call k m).run s = some (outcome, s') ↔
    outcome = .done ∧ Handed call m (entries.map (·.2)) (s.take k m) s'
  /-- It is done with that once the receivers are. -/
  returns : b.connected = true → ∀ call,
    (∀ e ∈ entries, ∀ s₁, ∃ s₂, (accept call m e.2).run s₁ = some (.unit, s₂)) →
    ∃ s', (publish call k m).run s = some (.done, s')
  /-- Of what it keeps, the message comes before those that it takes meanwhile. -/
  recorded : b.connected = true → ∀ depth outcome s',
    (publish (calls depth) k m).run s = some (outcome, s') →
    ∃ moments, s'.timeline = moments ++ .published k m :: s.timeline ∧
      s'.history? k = b.history.map (· ++ m :: Moment.takenBy k moments)
  /-- Whatever happens to it, it keeps what it kept, and after that what it takes. -/
  kept : ∀ depth (happenings : List Happening) s',
    (happenings.forM (·.run (calls depth))).run s = some (.unit, s') → s.Records k s'
  /-- So it does when the consumer visits its hub. -/
  keptOnVisit : ∀ depth (visit : Visit) s', visit.Leads depth s s' → s.Records k s'

/-- What a client of a broker does with messages that arrive, where these entries match a topic. -/
structure Site.PassesOn (s : Site) (k : BusRef) (topic : String)
    (entries : List (String × Receiver)) : Prop where
  /-- A message on the topic is handed to the receivers in the entries. -/
  handed : ∀ call session (name payload : Bytes) s', name.toString? = some topic →
    ((seeEvent call k session (.message name payload)).run s = some (.unit, s') ↔
      Handed call ⟨topic, payload⟩ (entries.map (·.2)) s s')
  /-- A message whose topic is no text is handed to nobody. -/
  dropped : ∀ call session (name payload : Bytes), name.toString? = none →
    (seeEvent call k session (.message name payload)).run s = some (.unit, s)

section

variable {s : Site} {k : BusRef} {b : LocalBus Receiver} {faults : Faults}
  (hget : s.buses.get? k = some { medium := .process b, faults }) (sound : faults.publish = false)
include hget sound

theorem Site.publishes {m : Message} {entries : List (String × Receiver)}
    (hentries : b.receivers m.topic = entries.map (·.2)) : s.Publishes k b m entries := by
  have hpublish : b.connected = true → ∀ call, (publish call k m).run s = (do
      (entries.map (·.2)).forM (accept call m)
      pure .done : Run Outcome).run (s.take k m) := fun connected call => by
    rw [run_publish ⟨faults, hget, sound, connected⟩, hentries]
  have hhanded : b.connected = true → ∀ call outcome s',
      (publish call k m).run s = some (outcome, s') ↔
        outcome = .done ∧ Handed call m (entries.map (·.2)) (s.take k m) s' := by
    intro connected call outcome s'
    rw [hpublish connected, run_bind_eq_some]
    constructor
    · rintro ⟨_, s₁, hall, hdone⟩
      obtain ⟨rfl, rfl⟩ := Prod.mk.inj (Option.some.inj hdone)
      exact ⟨rfl, handed_iff.1 hall⟩
    · rintro ⟨rfl, hall⟩
      exact ⟨_, s', handed_iff.2 hall, rfl⟩
  exact
    { refused := fun disconnected call => by
        have hfails : ({ medium := .process b, faults } : Bus Receiver).publish? m =
            .error (.notConnected m.topic) := by
          simp [Bus.publish?, sound, LocalBus.publish?, disconnected, bind, Except.bind]
        refine ⟨.notConnected m.topic, rfl, ?_⟩
        simp [publish, StateT.run_bind, hget, hfails]
      handed := hhanded
      returns := fun connected call h => by
        have hreceivers : ∀ r ∈ entries.map (·.2), ∀ s₁, ∃ s₂,
            (accept call m r).run s₁ = some (.unit, s₂) := fun r hr => by
          obtain ⟨e, he, rfl⟩ := List.mem_map.1 hr
          exact h e he
        obtain ⟨s', hall⟩ := exists_handed hreceivers (s.take k m)
        exact ⟨s', (hhanded connected call _ s').2 ⟨rfl, hall⟩⟩
      recorded := fun connected depth outcome s' h => by
        obtain ⟨moments, htimeline, hhistory⟩ :=
          ((hhanded connected _ _ _).1 h).2.records k
        refine ⟨moments, htimeline, ?_⟩
        have htaken : (s.take k m).history? k = b.history.map (· ++ [m]) := by
          rw [Site.history?, Site.take_buses hget, Table.get?_update, hget]
          simp [Bus.history?, LocalBus.take]
        rw [hhistory, htaken, Option.map_map]
        simp [Function.comp_def]
      kept := fun depth happenings s' h => relates_forM Site.Records.composes
        (fun happening _ => Site.Records.relates_happening depth happening) _ _ _ h
      keptOnVisit := fun depth visit s' h =>
        (Site.Records.attends depth visit.hub).relates_visit visit.call _ _ _ h }

omit hget sound in
theorem Site.passesOn {c : BusClient Receiver} {entries : List (String × Receiver)} {topic : String}
    (hget : s.buses.get? k = some { medium := .broker c, faults })
    (hentries : receiversOf c.subscriptions topic = entries.map (·.2)) :
    s.PassesOn k topic entries where
  handed call session name payload s' hname := by
    rw [run_seeEvent_message hget, hname]
    simp only [hentries]
    exact handed_iff
  dropped call session name payload hname := by
    rw [run_seeEvent_message hget, hname]
    rfl

/-- On a bus within the process, that no filter stands twice on, the message is handed to those
    whose filters match its topic when it is published. A client of a broker that has the same
    subscriptions hands what arrives on the topic to the same receivers. -/
theorem publishes_at_once (distinct : b.subscriptions.Distinct) (m : Message) :
    ∃ entries, b.subscriptions.Matches m.topic entries ∧ s.Publishes k b m entries ∧
      ∀ (s' : Site) (j : BusRef) (c : BusClient Receiver) (faults' : Faults),
        s'.buses.get? j = some { medium := .broker c, faults := faults' } →
        c.subscriptions = b.subscriptions → s'.PassesOn j m.topic entries := by
  obtain ⟨entries, hmatches, hentries⟩ := distinct.exists_matches m.topic
  exact ⟨entries, hmatches, Site.publishes hget sound hentries, fun s' j c faults' hget' hsame =>
    Site.passesOn hget' (hsame ▸ hentries)⟩

end

/-- A bus that keeps its messages. One who receives those on a topic publishes another and leaves,
    and then so does one who receives those on any topic. -/
def gossipBus : LocalBus Receiver where
  subscriptions := ⟨[("rumour", .handler { label := "one", acts := [.unlisten 0 (some "#"),
      .publish 0 (some "denial") (some .null)] }),
    ("#", .handler { label := "all" })]⟩
  history := some []

/-- A site with that bus. -/
def gossipSite : Site := { buses := ⟨[.ofLocal gossipBus]⟩, consumer := .home }

/-- The first receiver takes the second one off the bus and publishes something else, which nobody
    receives any more. The second one is handed the message all the same, and the bus keeps both. -/
theorem publishes_at_once_gossip : ∃ entries s', gossipBus.subscriptions.Matches "rumour" entries ∧
    ("#", .handler { label := "all" }) ∈ entries ∧
    Handed (calls 2) ⟨"rumour", []⟩ (entries.map (·.2)) (gossipSite.take 0 ⟨"rumour", []⟩) s' ∧
    (∃ b, s'.buses.get? 0 = some (.ofLocal b) ∧ b.subscriptions.get? "#" = none) ∧
    ∃ moments, s'.timeline = moments ++ [.published 0 ⟨"rumour", []⟩] ∧
      s'.history? 0 = some (⟨"rumour", []⟩ :: Moment.takenBy 0 moments) := by
  obtain ⟨entries, hmatches, hpublishes, -⟩ := publishes_at_once
    (show gossipSite.buses.get? 0 = some { medium := .process gossipBus } from rfl) rfl
    (by decide) ⟨"rumour", []⟩
  have hrun : ∃ s', (publish (calls 2) 0 ⟨"rumour", []⟩).run gossipSite = some (.done, s') ∧
      ∃ b, s'.buses.get? 0 = some (.ofLocal b) ∧ b.subscriptions.get? "#" = none :=
    ⟨_, rfl, _, rfl, rfl⟩
  obtain ⟨s', hrun, hbus⟩ := hrun
  exact ⟨entries, s', hmatches, (hmatches.mem_iff _ _).2 ⟨rfl, by decide⟩,
    ((hpublishes.handed rfl _ _ _).1 hrun).2, hbus, hpublishes.recorded rfl _ _ _ hrun⟩

end WebOfThings
