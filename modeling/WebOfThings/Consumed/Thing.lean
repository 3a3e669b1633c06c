import WebOfThings.Description.Basic
import WebOfThings.Handler
import WebOfThings.Store.ThingStore

/-!
# Consumed things

A thing as somebody sees it who uses it from afar. What arrives under a name is sorted into
deliveries (`ConsumedThing.deliveries`): the new value of a property, the new values of several
properties, or the data of an event. The value of each delivery is kept, and then the one handler
there may be is told: the observer of the property, or the subscriber of the event. Reading gives
what was kept.

A name that is both a property and an event makes two deliveries, first that of the property. The
name of property changes makes deliveries of each declared property in its object, unless a
property has that name itself.
-/

namespace WebOfThings

/-- Where a consumed thing sends its requests. -/
inductive Interaction
  /-- Nowhere. -/
  | nowhere
  /-- On a bus, on the topics of an identifier. -/
  | bus (bus : BusRef) (id : String)
  /-- To somebody who notes them, or refuses them: all of them, or those under some names. -/
  | recorder (refuses : Bool) (refused : List String)
  deriving DecidableEq, Repr, Inhabited

/-- Makes a recorder refuse everything it is given, or only what is under its names. -/
def Interaction.refusing (refuses : Bool) : Interaction → Interaction
  | .recorder _ refused => .recorder refuses refused
  | other => other

/-- What a notice is about. -/
inductive NoticeKind
  | event
  | property
  deriving DecidableEq, Repr, Inhabited

/-- The name of what a notice is about. -/
def NoticeKind.name : NoticeKind → String
  | event => "event"
  | property => "property"

/-- A value that arrived for a property or an event. -/
structure Delivery where
  /-- Whether it is that of a property or of an event. -/
  kind : NoticeKind
  /-- The name of the property or event. -/
  name : String
  /-- The value. -/
  value : Snapshot
  deriving Repr, Inhabited

/-- A thing that is used from afar. -/
structure ConsumedThing where
  /-- The description of the thing. -/
  description : DescriptionRef
  /-- The subscribers of events. -/
  subscriptions : NameMap Handler := {}
  /-- The observers of properties. -/
  observations : NameMap Handler := {}
  /-- The values that arrived last. -/
  values : ValueStore := {}
  /-- Where the thing sends its requests. -/
  interaction : Interaction := .nowhere
  /-- Whether somebody other than a factory holds the thing. -/
  held : Bool := true
  deriving Repr, Inhabited

namespace ConsumedThing

/-- The handlers of one kind of notice. -/
def handlers (kind : NoticeKind) (t : ConsumedThing) : NameMap Handler :=
  match kind with
  | .event => t.subscriptions
  | .property => t.observations

/-- Changes the handlers of one kind of notice. -/
def updateHandlers (kind : NoticeKind) (change : NameMap Handler → NameMap Handler)
    (t : ConsumedThing) : ConsumedThing :=
  match kind with
  | .event => { t with subscriptions := change t.subscriptions }
  | .property => { t with observations := change t.observations }

section

variable (kind : NoticeKind) (change : NameMap Handler → NameMap Handler) (t : ConsumedThing)

@[simp] theorem updateHandlers_description :
    (t.updateHandlers kind change).description = t.description := by cases kind <;> rfl

@[simp] theorem updateHandlers_values :
    (t.updateHandlers kind change).values = t.values := by cases kind <;> rfl

@[simp] theorem updateHandlers_interaction :
    (t.updateHandlers kind change).interaction = t.interaction := by cases kind <;> rfl

@[simp] theorem updateHandlers_held : (t.updateHandlers kind change).held = t.held := by
  cases kind <;> rfl

/-- Changing the handlers of one kind leaves those of the other. -/
theorem handlers_updateHandlers (kind' : NoticeKind) :
    (t.updateHandlers kind change).handlers kind' =
      if kind' = kind then change (t.handlers kind') else t.handlers kind' := by
  cases kind <;> cases kind' <;> rfl

end

/-- Sets a handler. There is at most one, and the first one stays. -/
def subscribe (kind : NoticeKind) (name : String) (h : Handler) (t : ConsumedThing) :
    Outcome × ConsumedThing :=
  if (t.handlers kind).contains name then
    let kind := kind.name
    (.error ⟨.notAllowed, s!"A handler is already subscribed to {kind} `{name}`"⟩, t)
  else (.done, t.updateHandlers kind (·.insert name h))

/-- Takes a handler away, and tells whether there was one. -/
def unsubscribe (kind : NoticeKind) (name : String) (t : ConsumedThing) : Bool × ConsumedThing :=
  ((t.handlers kind).contains name, t.updateHandlers kind (·.erase name))

theorem subscribe_eq_updateHandlers (kind : NoticeKind) (name : String) (h : Handler)
    (t : ConsumedThing) :
    ∃ change, (t.subscribe kind name h).2 = t.updateHandlers kind change := by
  unfold subscribe
  split
  · exact ⟨id, by cases kind <;> rfl⟩
  · exact ⟨_, rfl⟩

/-- Drops all handlers and values. -/
def stop (t : ConsumedThing) : ConsumedThing :=
  { t with subscriptions := {}, observations := {}, values := {} }

theorem handlers_stop (kind : NoticeKind) (t : ConsumedThing) : t.stop.handlers kind = {} := by
  cases kind <;> rfl

/-- The deliveries of a batch: one for each declared property, in the order of their names. -/
def batchDeliveries (d : ThingDescription) (payload : Bytes) : List Delivery :=
  ((Json.read? payload).map Json.members).getD [] |>.filterMap fun (name, value) =>
    (d.propertySchema? name).map fun schema =>
      ⟨.property, name, Snapshot.ofNative value (some schema)⟩

/-- The deliveries of properties that are made of what arrived. -/
def propertyDeliveries (d : ThingDescription) (name : String) (payload : Bytes) :
    List Delivery :=
  match d.propertySchema? name with
  | some schema => [⟨.property, name, Snapshot.ofWire payload (some schema)⟩]
  | none => if name = Topic.batchName then batchDeliveries d payload else []

/-- The delivery of an event that is made of what arrived. -/
def eventDeliveries (d : ThingDescription) (name : String) (payload : Bytes) : List Delivery :=
  match d.events.get? name with
  | some event => [⟨.event, name, Snapshot.ofWire payload (some event.data)⟩]
  | none => []

/-- The deliveries that are made of what arrived under a name. -/
def deliveries (d : ThingDescription) (name : String) (payload : Bytes) : List Delivery :=
  propertyDeliveries d name payload ++ eventDeliveries d name payload

/-- Keeps the value of a delivery. -/
def keep (delivery : Delivery) (t : ConsumedThing) : ConsumedThing :=
  { t with values := t.values.insert delivery.name delivery.value }

/-- The handler that is told of a delivery. -/
def handler? (delivery : Delivery) (t : ConsumedThing) : Option Handler :=
  (t.handlers delivery.kind).get? delivery.name

/-- The value that arrived last under a name. -/
def read (d : ThingDescription) (name : String) (t : ConsumedThing) : Except Error Snapshot :=
  match t.values.get? name with
  | some value => .ok value
  | none => .error ⟨.notFound, s!"No value of `{name}` received from thing `" ++ d.id ++ "`"⟩

@[simp] theorem toOption_read (d : ThingDescription) (name : String) (t : ConsumedThing) :
    (t.read d name).toOption = t.values.get? name := by
  unfold read
  split
  · next value h => rw [h]; rfl
  · next h => rw [h]; rfl

/-- The values that arrived last under some names, without those under which none did. A name that
    comes again counts once. -/
def readMany (names : List String) (t : ConsumedThing) : NameMap Snapshot :=
  NameMap.ofList (names.filterMap fun name => (t.values.get? name).map (name, ·))

/-- The values of all properties that arrived last. -/
def readAll (d : ThingDescription) (t : ConsumedThing) : NameMap Snapshot :=
  t.readMany d.properties.names

/-- The thing sends nowhere. -/
def noInteraction (d : ThingDescription) : Error :=
  ⟨.missingHook, "Thing `" ++ d.id ++ "` has no interaction installed"⟩

/-- How a consumed thing is shown. -/
def inspect (d : ThingDescription) : String :=
  Inspection.record "ConsumedThing" [("thing_id", Inspection.quoted d.id)] true

/-- How the binding of a consumed thing to a bus is shown. -/
def inspectBinding (id : String) : String :=
  Inspection.record "ConsumedThingBinding" [("thing_id", Inspection.quoted id)] true

end ConsumedThing

end WebOfThings
