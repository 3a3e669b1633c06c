import WebOfThings.Proofs.Run
import WebOfThings.Proofs.Topic

/-!
# How requests reach their handlers

A message on the topic of a request reaches the thing that the topics of its identifier lead to, by
way of its bus and of the name in the topic. `ExposedThing.Serves` says by rules which handler the
thing then has for the request, and on which input it is called:

* the name of an action is served by the handler of that action, whatever the payload is;
* any other name is served by a handler of writes, if it is that of a property that can be written
  and the payload decodes cleanly;
* a handler without a name of its own stands in where there is none, and a thing that was destroyed
  serves nothing.

`request_eq_serve_iff` is that the thing follows the rules, and `publish_request` that publishing
does: it calls one handler of requests if the rules give one, at the moment when the message
reaches the thing, and none otherwise.
-/

namespace WebOfThings

namespace ExposedThing

/-- The handler of requests under a name, and the input that a payload makes. -/
inductive Serves (d : ThingDescription) (name : String) (payload : Bytes) (t : ExposedThing) :
    Handler → Snapshot → Prop
  /-- An action is served whether its input decodes or not. -/
  | action {handlers : RequestHandlers} {a : Action} {h : Handler}
      (present : t.handlers = some handlers) (declared : d.actions.get? name = some a)
      (found : (handlers.actions.get? name).or (handlers.actions.get? "") = some h) :
      Serves d name payload t h (Snapshot.ofWire payload a.input)
  /-- Under another name a property is written, if it can be and the value is clean. -/
  | write {handlers : RequestHandlers} {p : Property} {h : Handler}
      (present : t.handlers = some handlers) (noAction : d.actions.get? name = none)
      (declared : d.properties.get? name = some p) (writable : p.isReadOnly = false)
      (clean : (Snapshot.ofWire payload (some p.schema)).clean = true)
      (found : (handlers.writes.get? name).or (handlers.writes.get? "") = some h) :
      Serves d name payload t h (Snapshot.ofWire payload (some p.schema))

variable {d : ThingDescription} {name : String} {payload : Bytes} {t : ExposedThing}
  {h h' : Handler} {input input' : Snapshot}

theorem writeRequest_eq_serve_iff (noAction : d.actions.get? name = none) :
    t.writeRequest d name payload = .serve h input ↔ t.Serves d name payload h input := by
  constructor
  · -- every check that fails ends the request, so what is left at the end passed all of them
    intro he
    unfold writeRequest at he
    split at he
    · contradiction
    next handlers hh =>
    split at he
    · contradiction
    next p hp =>
    split at he
    · contradiction
    next hw =>
    simp only [Bool.not_eq_eq_eq_not, Bool.not_true] at he
    split at he
    · contradiction
    next hclean =>
    split at he
    · contradiction
    next found =>
    obtain ⟨rfl, rfl⟩ := Dispatch.serve.inj he
    exact .write hh noAction hp (by simpa using hw) (by simpa using hclean) found
  · rintro (⟨-, declared, -⟩ | ⟨present, -, declared, writable, clean, found⟩)
    · simp [noAction] at declared
    · simp [writeRequest, present, declared, writable, clean, RequestHandlers.find?,
        RequestHandlers.defaultName, found]

/-- A thing serves a request as the rules say. -/
theorem request_eq_serve_iff :
    t.request d name payload = .serve h input ↔ t.Serves d name payload h input := by
  unfold request
  split
  · next noAction => exact writeRequest_eq_serve_iff noAction
  · next a declared =>
    constructor
    · intro he
      split at he
      · contradiction
      next handlers hh =>
      split at he
      · contradiction
      next found =>
      obtain ⟨rfl, rfl⟩ := Dispatch.serve.inj he
      exact .action hh declared found
    · rintro (⟨present, declared', found⟩ | ⟨-, noAction, -⟩)
      · obtain rfl := Option.some.inj (declared.symm.trans declared')
        simp [present, RequestHandlers.find?, RequestHandlers.defaultName, found]
      · simp [declared] at noAction

/-- The rules give at most one handler, and one input. -/
theorem Serves.unique (h₁ : t.Serves d name payload h input)
    (h₂ : t.Serves d name payload h' input') : h = h' ∧ input = input' :=
  Dispatch.serve.inj ((request_eq_serve_iff.2 h₁).symm.trans (request_eq_serve_iff.2 h₂))

/-- A thing that was destroyed serves nothing. -/
theorem not_serves_of_isDestroyed (ht : t.isDestroyed = true) :
    ¬ t.Serves d name payload h input := by
  have hn : t.handlers = none := by simpa [isDestroyed] using ht
  rintro (⟨present, -⟩ | ⟨present, -⟩) <;> simp [hn] at present

end ExposedThing

namespace Run

variable {s : Site} {i : ExposedRef} {t : ExposedThing} {d : ThingDescription}

/-- What is not served is refused or passed over, and changes nothing. -/
theorem run_dispatch_of_not_serve {call : Call} {name : String} {dispatch : Dispatch}
    (hd : ∀ h input, dispatch ≠ .serve h input) :
    ∃ outcome, (Run.dispatch call name dispatch).run s = some (outcome, s) := by
  cases dispatch with
  | pass => exact ⟨.done, rfl⟩
  | refuse e => exact ⟨.error e, rfl⟩
  | serve h input => exact absurd rfl (hd h input)

theorem run_request (call : Call) (name : String) (payload : Bytes)
    (ht : s.exposed.get? i = some t) (hd : s.catalogue.get? t.description = some d) :
    (request call i name payload).run s =
      (dispatch call name (t.request d name payload)).run s := by
  simp [request, StateT.run_bind, ht, hd]

/-- A message on the topic of a request is a request under the name in the topic. -/
theorem run_accept_requests {id : String} (level : Topic.IsLevel id) (call : Call)
    (name : String) (payload : Bytes) (alive : s.exposedIsAlive i = true) :
    (accept call ⟨Topic.action id name, payload⟩ (.requests i)).run s =
      (discard (request call i name payload) : Run Unit).run s := by
  simp [accept, StateT.run_bind, alive, Topic.split?_action level]

/-- Publishing on the topic of a request hands it to the thing of the topic once. At the moment
    when it reaches the thing, it calls the one handler that serves it, if there is one; if there
    is none, as on a thing that was destroyed, it does nothing. -/
theorem publish_request {b : BusRef} {bus : LocalBus Receiver} {id : String}
    (carries : s.Carries b bus) (leads : bus.Leads (Topic.actions id) (.requests i))
    (level : Topic.IsLevel id) (hash : id ≠ "#") (call : Call) (name : String)
    (payload : Bytes) :
    ∃ before after : List Receiver, .requests i ∉ before ++ after ∧
      (publish call b ⟨Topic.action id name, payload⟩).run s = (do
        before.forM (accept call ⟨Topic.action id name, payload⟩)
        accept call ⟨Topic.action id name, payload⟩ (.requests i)
        after.forM (accept call ⟨Topic.action id name, payload⟩)
        pure .done : Run Outcome).run (s.take b ⟨Topic.action id name, payload⟩) ∧
      ∀ (s' : Site) (t : ExposedThing) (d : ThingDescription), s'.exposedIsAlive i = true →
        s'.exposed.get? i = some t → s'.catalogue.get? t.description = some d →
        (∀ h input, t.Serves d name payload h input →
          (∀ h' input', t.Serves d name payload h' input' → h' = h ∧ input' = input) ∧
          (accept call ⟨Topic.action id name, payload⟩ (.requests i)).run s' =
            (discard (call h (.request name input)) : Run Unit).run s') ∧
        ((∀ h input, ¬ t.Serves d name payload h input) →
          (accept call ⟨Topic.action id name, payload⟩ (.requests i)).run s' =
            some (.unit, s')) ∧
        (t.isDestroyed = true → ∀ h input, ¬ t.Serves d name payload h input) := by
  -- the topic matches the filter of the thing, which leads to it once among the receivers
  obtain ⟨before, after, hr, hn⟩ := leads.receivers_eq (Topic.matches_actions level hash name)
  refine ⟨before, after, hn, ?_, fun s' t d alive ht hd => ⟨fun h input hs => ⟨?_, ?_⟩,
    fun hs => ?_, fun hdestroyed h input => ExposedThing.not_serves_of_isDestroyed hdestroyed⟩⟩
  · rw [run_publish carries, hr]
    simp
  · exact fun h' input' hs' => hs'.unique hs
  · rw [run_accept_requests level call name payload alive, run_discard, run_discard,
      run_request call name payload ht hd, ExposedThing.request_eq_serve_iff.2 hs, dispatch]
  · rw [run_accept_requests level call name payload alive, run_discard_eq_some,
      run_request call name payload ht hd]
    exact run_dispatch_of_not_serve fun h input he =>
      hs h input (ExposedThing.request_eq_serve_iff.1 he)

/-- A thing of the lamp that has one handler, of all writes. -/
def lampThing : ExposedThing :=
  { device := "", description := 0, handlers := some { writes := ⟨[("", ⟨"dim", []⟩)]⟩ } }

/-- A bus that leads to the thing of the lamp. -/
def lampBus : LocalBus Receiver := { subscriptions := ⟨[(Topic.actions "lamp", .requests 0)]⟩ }

/-- A site with the lamp, its thing and its bus. -/
def lampSite : Site :=
  { catalogue := ⟨[.lamp]⟩, exposed := ⟨[lampThing]⟩, buses := ⟨[.ofLocal lampBus]⟩,
    consumer := .home }

/-- The write of a level is served by the handler of all writes. -/
theorem publish_request_lamp :
    ∃ before after : List Receiver, .requests 0 ∉ before ++ after ∧
      (publish (calls 1) 0 ⟨Topic.action "lamp" "level", Bytes.ofString "null"⟩).run lampSite = (do
        before.forM (accept (calls 1) ⟨Topic.action "lamp" "level", Bytes.ofString "null"⟩)
        accept (calls 1) ⟨Topic.action "lamp" "level", Bytes.ofString "null"⟩ (.requests 0)
        after.forM (accept (calls 1) ⟨Topic.action "lamp" "level", Bytes.ofString "null"⟩)
        pure .done : Run Outcome).run
          (lampSite.take 0 ⟨Topic.action "lamp" "level", Bytes.ofString "null"⟩) ∧
      (accept (calls 1) ⟨Topic.action "lamp" "level", Bytes.ofString "null"⟩ (.requests 0)).run
          lampSite =
        (discard (calls 1 ⟨"dim", []⟩ (.request "level"
          (Snapshot.ofWire (Bytes.ofString "null") (some {})))) : Run Unit).run lampSite := by
  have carries : lampSite.Carries 0 lampBus := ⟨{}, rfl, rfl, rfl⟩
  have leads : lampBus.Leads (Topic.actions "lamp") (.requests 0) :=
    ⟨by decide, rfl, by simp [lampBus]⟩
  obtain ⟨before, after, hn, hrun, hs⟩ := publish_request carries leads (by decide) (by decide)
    (calls 1) "level" (Bytes.ofString "null")
  refine ⟨before, after, hn, hrun, ((hs lampSite lampThing .lamp rfl rfl rfl).1 _ _ ?_).2⟩
  exact .write (p := {}) (h := ⟨"dim", []⟩) rfl rfl rfl rfl rfl rfl

end Run

end WebOfThings
