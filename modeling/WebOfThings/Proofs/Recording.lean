import Mathlib
import WebOfThings.Proofs.Moments
import WebOfThings.Proofs.Visits

/-!
# What a bus records

A bus within the process may keep the messages that it takes. Whatever happens on a site, such a bus
has afterwards what it had before, and after that the messages that it took meanwhile, in the order
in which it took them (`Site.Records`). The timeline tells which ones these are.

So a message is kept ahead of all that are published while it is handed to its receivers, and no
message is ever moved or dropped: `Site.Records.relates_publish`, `Site.Records.relates_happening`
and `Site.Records.attends`.
-/

namespace WebOfThings

open Run

/-- The messages that a bus keeps, if it keeps any. -/
def Bus.history? {α : Type} (b : Bus α) : Option (List Message) :=
  match b.medium with
  | .process bus => bus.history
  | .broker _ => none

namespace Bus

variable {α : Type} (b : Bus α)

@[simp] theorem history?_subscribe (filter : String) (r : α) :
    (b.subscribe filter r).2.history? = b.history? := by
  obtain ⟨medium, faults⟩ := b
  unfold subscribe
  split
  · rfl
  · cases medium <;> rfl

@[simp] theorem history?_unsubscribe (filter : String) :
    (b.unsubscribe filter).2.history? = b.history? := by
  obtain ⟨medium, faults⟩ := b
  unfold unsubscribe
  split
  · rfl
  · cases medium <;> rfl

@[simp] theorem history?_disconnect : b.disconnect.history? = b.history? := by
  obtain ⟨medium, faults⟩ := b
  cases medium <;> rfl

@[simp] theorem history?_reconnect : b.reconnect.history? = b.history? := by
  obtain ⟨medium, faults⟩ := b
  cases medium <;> rfl

variable {b} {b' : Bus α} {m : Message} {receivers : List α}

/-- A message that is published comes last. -/
theorem history?_of_publish? (h : b.publish? m = .ok (b', receivers)) :
    b'.history? = b.history?.map (· ++ [m]) := by
  obtain ⟨medium, faults⟩ := b
  simp only [publish?] at h
  split at h
  · contradiction
  cases medium with
  | process bus =>
    simp only [LocalBus.publish?] at h
    split at h
    · obtain ⟨rfl, -⟩ := Prod.mk.inj (Except.ok.inj h)
      rfl
    · contradiction
  | broker client =>
    cases hsent : client.publish? m with
    | error e => simp [hsent, bind, Except.bind] at h
    | ok client' =>
      simp only [hsent, bind, Except.bind] at h
      obtain ⟨rfl, -⟩ := Prod.mk.inj (Except.ok.inj h)
      rfl

end Bus

/-- The messages that a bus of a site keeps, if there is one and it keeps any. -/
def Site.history? (s : Site) (k : BusRef) : Option (List Message) :=
  (s.buses.get? k).bind (·.history?)

/-- The message that a bus took, if that is what happened. -/
def Moment.taken? (k : BusRef) : Moment → Option Message
  | published i m => if i = k then some m else none
  | kept .. | remembered .. => none

/-- The messages that a bus took, the first one first; moments come the latest first. -/
def Moment.takenBy (k : BusRef) (moments : List Moment) : List Message :=
  (moments.filterMap (·.taken? k)).reverse

/-- What a bus keeps of messages is what it kept before, and then what it took meanwhile. -/
def Site.Records (k : BusRef) (s s' : Site) : Prop :=
  ∃ moments, s'.timeline = moments ++ s.timeline ∧
    s'.history? k = (s.history? k).map (· ++ Moment.takenBy k moments)

namespace Site.Records

variable {k : BusRef} {s s' : Site}

theorem of_quiet (moments : List Moment) (ht : s'.timeline = moments ++ s.timeline)
    (hmoments : moments.filterMap (·.taken? k) = []) (hh : s'.history? k = s.history? k) :
    s.Records k s' :=
  ⟨moments, ht, by simp [hh, Moment.takenBy, hmoments]⟩

theorem of_same (hb : s'.buses = s.buses) (ht : s'.timeline = s.timeline) : s.Records k s' :=
  of_quiet [] ht rfl (by simp [Site.history?, hb])

theorem composes : Composes (Site.Records k) where
  refl _ := of_same rfl rfl
  trans := by
    rintro s s' s'' ⟨moments, ht, hh⟩ ⟨moments', ht', hh'⟩
    refine ⟨moments' ++ moments, by simp [ht', ht], ?_⟩
    rw [hh', hh, Option.map_map]
    congr 1
    funext l
    simp [Moment.takenBy]

theorem updateBus {j : BusRef} {change : Bus Receiver → Bus Receiver}
    (hchange : ∀ b, s.buses.get? j = some b → (change b).history? = b.history?) :
    s.Records k { s with buses := s.buses.update j change } := by
  refine of_quiet [] rfl rfl ?_
  simp only [Site.history?, Table.get?_update]
  split
  · next hj =>
    subst hj
    cases hb : s.buses.get? j with
    | none => rfl
    | some b => exact hchange b hb
  · rfl

theorem lasts : Lasts (Site.Records k) where
  toComposes := composes
  note _ _ := of_same rfl rfl
  remember _ i changes := of_quiet [.remembered i changes] rfl rfl rfl

theorem keep (i : ConsumedRef) (delivery : Delivery) : s.Records k (s.keep i delivery) :=
  of_quiet [.kept i delivery] rfl rfl rfl

/-- A bus takes a message. -/
theorem take {j : BusRef} {m : Message} {b b' : Bus Receiver} {receivers : List Receiver}
    (hget : s.buses.get? j = some b) (hsent : b.publish? m = .ok (b', receivers)) :
    s.Records k { s with
      buses := s.buses.update j fun _ => b'
      timeline := .published j m :: s.timeline } := by
  refine ⟨[.published j m], rfl, ?_⟩
  simp only [Site.history?, Table.get?_update]
  by_cases hj : j = k
  · subst hj
    simp [hget, Moment.takenBy, Moment.taken?, Bus.history?_of_publish? hsent]
  · simp [hj, Moment.takenBy, Moment.taken?]

theorem drop (role : Role) (id : String) : s.Records k (role.drop id s) := by
  simp only [Role.drop]
  split
  · exact composes.trans (of_same (role.buses_withKnown s _) (by cases role <;> rfl))
      (updateBus fun b _ => b.history?_unsubscribe _)
  · exact composes.refl s

theorem changed (o : Occasion) (a : Act) (s : Site) : s.Records k (a.changed o s) := by
  cases a with
  | listen j _ label acts => exact updateBus fun b _ => b.history?_subscribe _ _
  | unlisten j _ => exact updateBus fun b _ => b.history?_unsubscribe _
  | disconnect j => exact updateBus fun b _ => b.history?_disconnect
  | dismiss i =>
    simp only [Act.changed]
    split
    · exact composes.trans (drop .consumed _) (of_same rfl rfl)
    · exact composes.refl s
  | _ => exact of_same rfl rfl

/-- The clients of brokers keep no messages. -/
theorem updateClient (j : BusRef) (change : BusClient Receiver → BusClient Receiver) :
    Relates (Site.Records k) (Run.updateClient j change) :=
  relates_of_run (run_updateBus j _) fun s => updateBus fun b _ => by
    obtain ⟨medium, faults⟩ := b
    cases medium <;> rfl

section

variable {call : Call} (hcall : ∀ h o, Relates (Site.Records k) (call h o))
include hcall

theorem relates_receive (i : ConsumedRef) (name : String) (payload : Bytes) :
    Relates (Site.Records k) (Run.receive call i name payload) :=
  relates_with_consumed composes i fun _ _ => relates_forM composes fun delivery _ =>
    relates_deliver_of_keep composes hcall fun _ => keep i delivery

theorem relates_accept (m : Message) (r : Receiver) : Relates (Site.Records k) (accept call m r) :=
  Run.relates_accept composes hcall fun i _ _ _ _ => relates_receive hcall i _ _

theorem relates_publish (j : BusRef) (m : Message) :
    Relates (Site.Records k) (publish call j m) :=
  fun _ _ _ h => rel_of_run_publish composes h fun _ _ _ hget hsent =>
    ⟨take hget hsent, relates_forM composes fun r _ => relates_accept hcall m r⟩

theorem relates_perform {o : Occasion} {a : Act} :
    Relates (Site.Records k) (perform call o a) :=
  relates_perform_of_lasts lasts (relates_publish hcall) hcall
    (fun i _ _ _ => relates_receive hcall i _ _) (changed o a)

end

variable (depth : Nat)

theorem relates_calls (h : Handler) (o : Occasion) :
    Relates (Site.Records k) (calls depth h o) :=
  relates_calls_of_acted composes (fun _ _ => of_same rfl rfl)
    (fun hcall _ _ _ _ _ _ h => composes.trans (relates_perform hcall _ _ _ h) (of_same rfl rfl))
    depth h o

theorem relates_script (label : String) (o : Occasion) (acts : List Act) :
    Relates (Site.Records k) (performAll (calls depth) label o acts) :=
  relates_performAll composes fun _ _ _ _ h =>
    composes.trans (relates_perform (relates_calls depth) _ _ _ h) (of_same rfl rfl)

/-- Obtaining a thing holds one that is known, or makes one and announces it. -/
theorem of_obtained {role : Role} {device : String} {ref : DescriptionRef}
    {result : Except Error Nat} (h : role.Obtained (calls depth) device ref s result s') :
    s.Records k s' := by
  have hhold (role : Role) (s : Site) (i : Nat) (held : Bool) : s.Records k (role.hold i held s) :=
    of_same (role.buses_hold s i held) (by cases role <;> rfl)
  have hadd (role : Role) (id : String) :
      s.Records k (role.listen id (role.next s) (role.add device ref id s)) :=
    composes.trans (of_same (role.buses_add s device ref id) (by cases role <;> rfl))
      (updateBus fun b _ => b.history?_subscribe _ _)
  cases h with
  | known => exact hhold ..
  | refused => exact composes.trans (hadd role _) (hhold ..)
  | @new d b u s₁ _ _ _ _ ha =>
    have hannounced : Relates (Site.Records k) (role.announce (calls depth) (role.bus s) d) := by
      cases role with
      | exposed => exact relates_discard (relates_publish (relates_calls depth) _ _)
      | consumed => exact relates_pure composes _
    exact composes.trans (hadd role _) (composes.trans (hannounced _ _ _ ha)
      (of_same (role.buses_withKnown _ _) (by cases role <;> rfl)))

theorem relates_operation (op : Operation) : Relates (Site.Records k) (op.run (calls depth)) := by
  cases op with
  | obtain role device ref =>
    exact relates_discard fun _ _ _ h => of_obtained depth (Role.obtained_of_run h)
  | destroy role i =>
    intro s u s' h
    obtain ⟨id, hid⟩ := Role.exists_id?_of_run_destroy h
    rw [Role.eq_of_run_destroy hid h]
    exact composes.trans (drop role id) (of_same (role.buses_empty _ i) (by cases role <;> rfl))
  | letGo role i =>
    exact relates_of_run (fun _ => rfl) fun s =>
      of_same (role.buses_hold s i false) (by cases role <;> rfl)
  | carryOut label o acts => exact relates_discard (relates_script depth label o acts)
  | fault j publish subscribe =>
    exact relates_of_run (run_updateBus j _) fun s => updateBus fun _ _ => rfl

/-- Whatever happens, nothing is moved or dropped. -/
theorem relates_happening (h : Happening) : Relates (Site.Records k) (h.run (calls depth)) := by
  have hcall := relates_calls (k := k) depth
  cases h with
  | operation op => exact relates_operation depth op
  | fault j faults => exact relates_of_run (run_updateBus j _) fun s => updateBus fun _ _ => rfl
  | describe ref change => exact relates_of_run (fun _ => rfl) fun s => of_same rfl rfl
  | request i name payload => exact relates_discard (relates_request composes hcall i name payload)
  | writeRequest i name payload =>
    exact relates_discard (relates_writeRequest composes hcall i name payload)
  | receive i name payload => exact relates_receive hcall i name payload
  | publish j m => exact relates_discard (relates_publish hcall j m)
  | reconnect j =>
    exact relates_of_run (run_updateBus j _) fun s => updateBus fun b _ => b.history?_reconnect
  | start j broker credentials =>
    exact relates_discard (relates_withClient composes updateClient j _)
  | see j session event =>
    exact relates_seeEvent composes updateClient (relates_accept hcall) j session event
  | conclude j broker =>
    exact relates_discard (relates_withClient composes updateClient j _)

/-! ## Visits -/

theorem reset : Relates (Site.Records k) Run.reset :=
  relates_of_run (fun _ => rfl) fun s => by
    have hdisconnected : s.Records k { s with
        buses := s.buses.update s.consumer.bus (·.disconnect) } :=
      updateBus fun b _ => b.history?_disconnect
    exact composes.trans hdisconnected (of_same rfl rfl)

/-- Nor is anything moved or dropped when the consumer visits its hub. -/
theorem attends (hub : Hub) : Attends (Site.Records k) (calls depth) hub where
  toComposes := composes
  resets := reset
  tells _ := relates_of_run (fun _ => rfl) fun _ => of_same rfl rfl
  authenticates password := relates_of_run (run_authenticate hub password) fun _ => of_same rfl rfl
  asks _ := relates_of_run (fun _ => rfl) fun _ => of_same rfl rfl
  stores _ := relates_of_run (fun _ => rfl) fun _ => of_same rfl rfl
  connects _ _ _ :=
    relates_connectBus composes updateClient (relates_accept (relates_calls depth)) _ _ _ _

end Site.Records

end WebOfThings
