import WebOfThings.Proofs.Effects
import WebOfThings.Proofs.Link

/-!
# Which thing a message is handed to

A message on a bus reaches a thing if the filter of the thing matches its topic. The thing looks no
more at the identifier in the topic; what it is handed depends on the kind there, and on the name,
which is all that follows the kind (`Handover`). `run_accept` says that receivers accept a message
by what they are handed of it, and nothing else.

The topics of a thing, its filter, the matching of filters and the splitting of topics agree for
most identifiers, but not for all:

* `count_handovers_eq_one_iff`: a message to a thing, under a name, is handed to it once under that
  name if and only if its identifier is one level of a topic and no wildcard of many levels;
* `handovers_eq_singleton`: it is handed to no other thing if no identifier of a thing on the bus is
  a wildcard.

Slashes and wildcards in the name make no difference to either.
-/

namespace WebOfThings

open Run

/-- A message that is handed to a thing under a name. -/
structure Handover where
  /-- What the thing is. -/
  role : Role
  /-- The thing. -/
  thing : Nat
  /-- The name. -/
  name : String
  deriving DecidableEq, Repr, Inhabited

namespace Role

/-- What a thing is handed of a message on a topic: the topic must be of its kind. -/
def handover? (role : Role) (i : Nat) (topic : String) : Option Handover :=
  (Topic.split? topic).bind fun parts =>
    if parts.kind = role.kind then some ⟨role, i, parts.name⟩ else none

/-- What a thing does that is handed something: an exposed thing is asked for it, and a consumed one
    receives it. -/
def handle (role : Role) (call : Call) (i : Nat) (name : String) (payload : Bytes) : Run Unit :=
  match role with
  | exposed => discard (request call i name payload)
  | consumed => receive call i name payload

/-- Whether a caller holds a thing. -/
def isHeld : Role → Site → Nat → Bool
  | exposed, s, i => ((s.exposed.get? i).map (·.held)).getD false
  | consumed, s, i => ((s.consumed.get? i).map (·.held)).getD false

theorem isAlive_of_isHeld {role : Role} {s : Site} {i : Nat} (h : role.isHeld s i = true) :
    role.isAlive s i = true := by
  cases role with
  | exposed =>
    cases ht : s.exposed.get? i <;> simp_all [isHeld, isAlive, Site.exposedIsAlive]
  | consumed =>
    cases hc : s.consumed.get? i <;> simp_all [isHeld, isAlive, Site.consumedIsAlive]

end Role

/-- Hands something to a thing, if anybody still holds the thing. -/
def Handover.run (call : Call) (payload : Bytes) (h : Handover) : Run Unit := do
  if h.role.isAlive (← get) h.thing then h.role.handle call h.thing h.name payload

/-- What a receiver is handed of a message on a topic, if it is a thing. -/
def Receiver.handover? (topic : String) : Receiver → Option Handover
  | .requests i => Role.exposed.handover? i topic
  | .events i => Role.consumed.handover? i topic
  | .handler _ => none

/-- What things are handed of a message on a topic, in order. -/
def LocalBus.handovers (b : LocalBus Receiver) (topic : String) : List Handover :=
  (b.receivers topic).filterMap (Receiver.handover? topic)

/-! ## Things that are held -/

/-- Callers hold the same things. -/
def Site.SameHeld (s s' : Site) : Prop := ∀ role i, Role.isHeld role s' i = role.isHeld s i

namespace Site.SameHeld

variable {s : Site}

theorem composes : Composes Site.SameHeld where
  refl _ _ _ := rfl
  trans h h' role i := (h' role i).trans (h role i)

theorem updateBus (k : BusRef) (change : Bus Receiver → Bus Receiver) :
    s.SameHeld { s with buses := s.buses.update k change } := fun role _ => by cases role <;> rfl

theorem drop (role : Role) (id : String) : s.SameHeld (role.drop id s) := by
  intro role' k
  unfold Role.drop
  split
  · cases role <;> cases role' <;> rfl
  · rfl

theorem keeps : Keeps Site.SameHeld where
  toComposes := composes
  note _ _ role _ := by cases role <;> rfl
  mark _ _ role _ := by cases role <;> rfl
  publish _ _ := updateBus _ _
  exposed s i change hc role k := by
    cases role with
    | exposed =>
      exact congrArg (·.getD false) (Table.map_get?_update (fun t => (hc t).held) s.exposed i k)
    | consumed => rfl
  consumed s i change hc role k := by
    cases role with
    | exposed => rfl
    | consumed =>
      exact congrArg (·.getD false) (Table.map_get?_update (fun c => (hc c).held) s.consumed i k)

/-- No act lets a thing go. -/
theorem changed (o : Occasion) (a : Act) (s : Site) : s.SameHeld (a.changed o s) :=
  keeps.changed (fun k _ _ _ _ => updateBus k _) (fun k _ _ => updateBus k _)
    (fun k _ => updateBus k _) fun _ id _ _ => drop .consumed id

end Site.SameHeld

/-! ## Accepting a message -/

/-- Hands a message to a receiver: to a thing what it is handed of it, and to a handler itself. -/
def Run.hand (call : Call) (m : Message) (r : Receiver) : Run Unit :=
  match r.handover? m.topic, r with
  | some h, _ => h.run call m.payload
  | none, .handler h => discard (call h (.message m))
  | none, _ => pure ()

/-- A receiver accepts a message by what it is handed of it. -/
theorem Run.accept_eq_hand (call : Call) (m : Message) (r : Receiver) :
    accept call m r = hand call m r := by
  refine StateT.ext fun s => ?_
  cases r with
  | handler h => rfl
  | requests i | events i =>
    simp only [accept, hand, Receiver.handover?, Role.handover?]
    cases hsplit : Topic.split? m.topic with
    | none => simp
    | some parts =>
      simp only [Option.bind_some, Role.kind]
      split
      · next hk =>
        simp only [hk, if_true, StateT.run_bind, Handover.run, Role.isAlive, Role.handle]
        rfl
      · next hk => simp [hk]

section

variable {role : Role} {bus : LocalBus Receiver} {id name topic : String} {i : Nat}

theorem handover?_receiver :
    (role.receiver i).handover? topic = role.handover? i topic := by cases role <;> rfl

/-- The receiver of a thing hands it what it is handed, and does nothing else. -/
theorem hand_receiver (call : Call) (m : Message) :
    hand call m (role.receiver i) = match role.handover? i m.topic with
      | some h => h.run call m.payload
      | none => pure () := by
  cases role <;> simp only [hand, Role.receiver, Receiver.handover?] <;>
    cases Role.handover? _ i m.topic <;> rfl

/-- Only a thing itself is handed anything. -/
theorem Receiver.eq_receiver_of_handover? {r : Receiver} {h : Handover}
    (hr : r.handover? topic = some h) : r = h.role.receiver h.thing := by
  cases r with
  | handler _ => contradiction
  | requests i | events i =>
    obtain ⟨parts, -, hparts⟩ := Option.bind_eq_some_iff.1 hr
    split at hparts
    · obtain rfl := Option.some.inj hparts
      rfl
    · contradiction

/-- A message to a thing is handed to it under the name of the topic, if its identifier is one level
    of a topic. -/
theorem Role.handover?_topic (level : Topic.IsLevel id) (name : String) :
    role.handover? i (role.topic id name) = some ⟨role, i, name⟩ := by
  simp [handover?, topic, Topic.split?_layout level role.isLevel_kind]

theorem Role.matches_topic (level : Topic.IsLevel id) (hash : id ≠ "#") (name : String) :
    Topic.matches (role.filter id) (role.topic id name) = true := by
  refine (Topic.matches_wildcard level level role.isLevel_kind role.isLevel_kind ?_ ?_ name).2
    ⟨hash, .inr rfl, rfl⟩
  all_goals cases role <;> decide

/-! ## How often, and to whom -/

/-- Among those who receive a message, a thing that one filter leads to is one at most. -/
theorem handovers_eq_append (leads : bus.Leads (role.filter id) (role.receiver i))
    (level : Topic.IsLevel id) (hash : id ≠ "#") (name : String) :
    ∃ before after, bus.receivers (role.topic id name) = before ++ role.receiver i :: after ∧
      role.receiver i ∉ before ++ after ∧
      bus.handovers (role.topic id name) =
        before.filterMap (Receiver.handover? (role.topic id name)) ++ ⟨role, i, name⟩ ::
          after.filterMap (Receiver.handover? (role.topic id name)) := by
  obtain ⟨before, after, hr, hn⟩ := leads.receivers_eq (Role.matches_topic level hash name)
  refine ⟨before, after, hr, hn, ?_⟩
  rw [LocalBus.handovers, hr, List.filterMap_append, List.filterMap_cons_some]
  rw [handover?_receiver, Role.handover?_topic level]

/-- A message to a thing is handed to it once under its name if and only if the identifier of the
    thing is one level and no wildcard of many. -/
theorem count_handovers_eq_one_iff (leads : bus.Leads (role.filter id) (role.receiver i))
    (name : String) :
    (bus.handovers (role.topic id name)).count ⟨role, i, name⟩ = 1 ↔
      Topic.IsLevel id ∧ id ≠ "#" := by
  constructor
  · intro hcount
    have hmem : ⟨role, i, name⟩ ∈ bus.handovers (role.topic id name) :=
      List.count_pos_iff.1 (by omega)
    obtain ⟨r, hr, hhand⟩ := List.mem_filterMap.1 hmem
    obtain rfl := Receiver.eq_receiver_of_handover? hhand
    rw [handover?_receiver] at hhand
    obtain ⟨parts, hsplit, hparts⟩ := Option.bind_eq_some_iff.1 hhand
    split at hparts
    case isFalse => contradiction
    have hname : parts.name = name := congrArg Handover.name (Option.some.inj hparts)
    -- a topic with more slashes is split into another name, and a wildcard matches no topic
    have level : Topic.IsLevel id :=
      Decidable.byContradiction fun hnot => Topic.name_ne_of_split?_layout hnot hsplit hname
    refine ⟨level, ?_⟩
    rintro rfl
    refine leads.not_mem_receivers (Bool.eq_false_iff.2 fun hmatches => ?_) hr
    refine ((Topic.matches_wildcard level level role.isLevel_kind role.isLevel_kind ?_ ?_ name).1
      hmatches).1 rfl
    all_goals cases role <;> decide
  · rintro ⟨level, hash⟩
    obtain ⟨before, after, -, hn, hhand⟩ := handovers_eq_append leads level hash name
    have hzero : ∀ l : List Receiver, role.receiver i ∉ l →
        (l.filterMap (Receiver.handover? (role.topic id name))).count ⟨role, i, name⟩ = 0 := by
      intro l hl
      refine List.count_eq_zero.2 fun hmem => ?_
      obtain ⟨r, hr, hhand⟩ := List.mem_filterMap.1 hmem
      exact hl (Receiver.eq_receiver_of_handover? hhand ▸ hr)
    rw [List.mem_append, not_or] at hn
    rw [hhand, List.count_append, List.count_cons_self, hzero before hn.1, hzero after hn.2]

/-- The things on a bus stand under filters of identifiers that are single levels and no
    wildcards. -/
def LocalBus.Plain (b : LocalBus Receiver) : Prop :=
  ∀ entry ∈ b.subscriptions.entries, ∀ role i, entry.2 = Role.receiver role i →
    ∃ id, entry.1 = role.filter id ∧ Topic.IsLevel id ∧ id ≠ "+" ∧ id ≠ "#"

/-- A message to a thing is handed to no other, neither of its own role nor of the other. -/
theorem handovers_eq_singleton (leads : bus.Leads (role.filter id) (role.receiver i))
    (plain : bus.Plain) (name : String) :
    bus.handovers (role.topic id name) = [⟨role, i, name⟩] := by
  obtain ⟨id', hfilter, level, -, hash⟩ :=
    plain _ (NameMap.mem_of_get? leads.found) role i rfl
  obtain ⟨-, rfl⟩ := Role.filter_inj hfilter
  obtain ⟨before, after, hr, hn, hhand⟩ := handovers_eq_append leads level hash name
  have hnone : ∀ r ∈ before ++ after, r.handover? (role.topic id name) = none := by
    intro r hmem
    refine Option.eq_none_iff_forall_ne_some.2 fun h hh => ?_
    obtain rfl := Receiver.eq_receiver_of_handover? hh
    have hreceives : h.role.receiver h.thing ∈ bus.receivers (role.topic id name) := by
      rw [hr, List.mem_append, List.mem_cons]
      exact (List.mem_append.1 hmem).imp_right .inr
    -- whoever else receives the message stands under the filter that leads to the thing
    obtain ⟨filter, hentry, hmatches⟩ := LocalBus.exists_of_mem_receiversOf hreceives
    obtain ⟨other, rfl, hother, plus, -⟩ := plain _ hentry h.role h.thing rfl
    have hsame := (Topic.matches_wildcard hother level h.role.isLevel_kind role.isLevel_kind
      (by cases h.role <;> decide) (by cases h.role <;> decide) name).1 hmatches
    obtain rfl : other = id := hsame.2.1.resolve_left plus
    obtain hrole : h.role = role := Role.kind_inj hsame.2.2
    rw [hrole] at hentry hmem
    have hget := leads.distinct.get?_of_mem hentry
    rw [leads.found] at hget
    exact hn (Option.some.inj hget ▸ hmem)
  have hempty : ∀ l : List Receiver, (∀ r ∈ l, r ∈ before ++ after) →
      l.filterMap (Receiver.handover? (role.topic id name)) = [] := fun l hl =>
    List.filterMap_eq_nil_iff.2 fun r hr => hnone r (hl r hr)
  rw [hhand, hempty before fun r => List.mem_append_left after,
    hempty after fun r => List.mem_append_right before, List.nil_append]

end

/-! ## Requests and events -/

/-- What comes of sending a message on a bus where something of it may be handed to a thing. -/
structure Routed (call : Call) (s : Site) (b : BusRef) (bus : LocalBus Receiver) (m : Message)
    (h : Handover) (sent : Run Outcome) : Prop where
  /-- The bus takes it, and those who receive it are handed it one after another. -/
  run : sent.run s = (do
    (bus.receivers m.topic).forM (hand call m)
    pure .done : Run Outcome).run (s.take b m)
  /-- If a caller holds the thing, it is there when its turn comes, whatever others do before. -/
  turn : h.role.isHeld s h.thing = true → ∀ before after u s₁,
    bus.receivers m.topic = before ++ h.role.receiver h.thing :: after →
    (before.forM (hand call m)).run (s.take b m) = some (u, s₁) →
    (h.run call m.payload).run s₁ = (h.role.handle call h.thing h.name m.payload).run s₁

theorem Handover.run_of_isAlive {call : Call} {payload : Bytes} {h : Handover} {s : Site}
    (alive : h.role.isAlive s h.thing = true) :
    (h.run call payload).run s = (h.role.handle call h.thing h.name payload).run s := by
  simp [Handover.run, StateT.run_bind, alive]

theorem routed_publish {s : Site} {b : BusRef} {bus : LocalBus Receiver} (carries : s.Carries b bus)
    (depth : Nat) (m : Message) (h : Handover) :
    Routed (calls depth) s b bus m h (publish (calls depth) b m) where
  run := by
    rw [run_publish carries, show accept (calls depth) m = hand (calls depth) m from
      funext (accept_eq_hand _ m)]
  turn held before after u s₁ _ hbefore := by
    have hcall := relates_calls Site.SameHeld.keeps Site.SameHeld.changed depth
    have hhands : Relates Site.SameHeld (before.forM (hand (calls depth) m)) :=
      relates_forM Site.SameHeld.composes fun r _ =>
        accept_eq_hand _ m r ▸ relates_accept_of_keeps Site.SameHeld.keeps hcall m r
    have hsame := hhands _ _ _ hbefore h.role h.thing
    refine Handover.run_of_isAlive (Role.isAlive_of_isHeld (hsame.trans ?_))
    -- the bus taking the message changes nothing of the thing
    rw [← held]
    cases h.role <;> rfl

/-- A request that a consumed thing sends under an identifier is handed to the exposed thing of the
    identifier once under its name, and an event that the exposed thing sends to the consumed one,
    if and only if the identifier is one level and no wildcard of many. If no identifier on the bus
    is a wildcard they are handed to no other thing. -/
theorem handed_once_iff {s : Site} {b : BusRef} {bus : LocalBus Receiver}
    (carries : s.Carries b bus) {id : String} {i : ExposedRef} {c : ConsumedRef}
    (requests : bus.Leads (Topic.actions id) (.requests i))
    (events : bus.Leads (Topic.events id) (.events c)) (depth : Nat) (d : ThingDescription)
    (name : String) (value : Json) (noted : Entry) :
    Routed (calls depth) s b bus ⟨Topic.action id name, value.compact⟩ ⟨.exposed, i, name⟩
        (sendRequest (calls depth) d (.bus b id) name value noted) ∧
      Routed (calls depth) s b bus ⟨Topic.event id name, value.compact⟩ ⟨.consumed, c, name⟩
        (sendEvent (calls depth) d (.bus b id) name value) ∧
      ((bus.handovers (Topic.action id name)).count ⟨.exposed, i, name⟩ = 1 ↔
        Topic.IsLevel id ∧ id ≠ "#") ∧
      ((bus.handovers (Topic.event id name)).count ⟨.consumed, c, name⟩ = 1 ↔
        Topic.IsLevel id ∧ id ≠ "#") ∧
      (bus.Plain → bus.handovers (Topic.action id name) = [⟨.exposed, i, name⟩] ∧
        bus.handovers (Topic.event id name) = [⟨.consumed, c, name⟩]) := by
  have hrequests : bus.Leads (Role.exposed.filter id) (Role.exposed.receiver i) := requests
  have hevents : bus.Leads (Role.consumed.filter id) (Role.consumed.receiver c) := events
  exact ⟨routed_publish carries depth _ _, routed_publish carries depth _ _,
    count_handovers_eq_one_iff hrequests name, count_handovers_eq_one_iff hevents name,
    fun plain => ⟨handovers_eq_singleton hrequests plain name,
      handovers_eq_singleton hevents plain name⟩⟩

/-- The bus of the lamp. -/
def lampRoutes : LocalBus Receiver :=
  { subscriptions := ⟨[(Topic.actions "lamp", .requests 0), (Topic.events "lamp", .events 0)]⟩ }

theorem plain_lampRoutes : lampRoutes.Plain := by
  intro entry he role i hr
  refine ⟨"lamp", ?_, by decide⟩
  simp only [lampRoutes, List.mem_cons, List.not_mem_nil, or_false] at he
  rcases he with rfl | rfl <;> cases role <;> first | rfl | contradiction

/-- Wildcards and slashes in a name change nothing. -/
theorem handed_once_iff_lamp :
    Routed (calls 1) (Link.lampSite {} {}) 0 lampRoutes
        ⟨Topic.action "lamp" "level/#", Json.null.compact⟩ ⟨.exposed, 0, "level/#"⟩
        (sendRequest (calls 1) .lamp (.bus 0 "lamp") "level/#" .null (.written "level/#" .null)) ∧
      lampRoutes.handovers (Topic.action "lamp" "level/#") = [⟨.exposed, 0, "level/#"⟩] ∧
      lampRoutes.handovers (Topic.event "lamp" "level/#") = [⟨.consumed, 0, "level/#"⟩] := by
  have carries : (Link.lampSite {} {}).Carries 0 lampRoutes := ⟨{}, rfl, rfl, rfl⟩
  have requests : lampRoutes.Leads (Topic.actions "lamp") (.requests 0) :=
    ⟨by decide, rfl, by simp [lampRoutes]⟩
  have events : lampRoutes.Leads (Topic.events "lamp") (.events 0) :=
    ⟨by decide, rfl, by simp [lampRoutes]⟩
  obtain ⟨hrequest, -, -, -, honly⟩ := handed_once_iff carries requests events 1 .lamp "level/#"
    .null (.written "level/#" .null)
  exact ⟨hrequest, honly plain_lampRoutes⟩

end WebOfThings
