import WebOfThings.Description.Basic
import WebOfThings.Handler
import WebOfThings.Store.ThingStore

/-!
# Exposed things

A thing as the device that has it sees it. Requests are served by the handlers that the device
sets (`ExposedThing.request`), and what the thing emits is sent to an output.

A request under the name of an action is one for that action; any other is the write of a property.
A write is refused if there is no such property or it can only be read, and passed over if its value
does not decode cleanly; then it is served. Handlers are found by the name of the request, or by the
empty name if there is none. A thing that was destroyed passes every request over.

The value of a property that was sent last is kept, so that a batch can be cut down to what differs
from it (`ExposedThing.changes`).
-/

namespace WebOfThings

/-- Where an exposed thing sends what it emits. -/
inductive Output
  /-- Nowhere. -/
  | nowhere
  /-- On a bus, on the topics of an identifier. -/
  | bus (bus : BusRef) (id : String)
  /-- To somebody who notes it, or refuses it. -/
  | recorder (refuses : Bool)
  deriving DecidableEq, Repr, Inhabited

/-- Makes a recorder refuse what it is given, or note it again. -/
def Output.refusing (refuses : Bool) : Output → Output
  | .recorder _ => .recorder refuses
  | other => other

/-- The handlers of requests to a thing. -/
structure RequestHandlers where
  /-- The handlers of actions. -/
  actions : NameMap Handler := {}
  /-- The handlers of writes. -/
  writes : NameMap Handler := {}
  deriving Repr, Inhabited

namespace RequestHandlers

/-- The name of the handler of all that have none of their own. -/
def defaultName : String := ""

/-- The handler of a name. -/
def find? (handlers : NameMap Handler) (name : String) : Option Handler :=
  (handlers.get? name).or (handlers.get? defaultName)

end RequestHandlers

/-- A thing of a device. -/
structure ExposedThing where
  /-- The device. -/
  device : String
  /-- The description of the thing. -/
  description : DescriptionRef
  /-- The handlers of requests; none once the thing was destroyed. -/
  handlers : Option RequestHandlers := some {}
  /-- The values that were sent last. -/
  values : ValueStore := {}
  /-- Where the thing sends what it emits. -/
  output : Output := .nowhere
  /-- Whether somebody other than a factory holds the thing. -/
  held : Bool := true
  deriving Repr, Inhabited

/-- What is done about a request. -/
inductive Dispatch
  /-- Nothing, and nothing is wrong. -/
  | pass
  /-- It is refused. -/
  | refuse (error : Error)
  /-- It is served by a handler. -/
  | serve (handler : Handler) (input : Snapshot)
  deriving Repr, Inhabited

/-- The change of a property. -/
structure Change where
  /-- The property. -/
  name : String
  /-- Its new value. -/
  value : Json
  /-- The snapshot of the value. -/
  snapshot : Snapshot
  deriving Repr, Inhabited

namespace ExposedThing

/-- Whether the thing was destroyed. -/
def isDestroyed (t : ExposedThing) : Bool := t.handlers.isNone

/-- Sets the handler of an action. A thing that was destroyed gets none. -/
def setActionHandler (name : String) (h : Handler) (t : ExposedThing) : ExposedThing :=
  { t with handlers := t.handlers.map fun handlers =>
      { handlers with actions := handlers.actions.insert name h } }

/-- Sets the handler of the writes of a property. A thing that was destroyed gets none. -/
def setWriteHandler (name : String) (h : Handler) (t : ExposedThing) : ExposedThing :=
  { t with handlers := t.handlers.map fun handlers =>
      { handlers with writes := handlers.writes.insert name h } }

/-- Drops all handlers and values. -/
def destroy (t : ExposedThing) : ExposedThing := { t with handlers := none, values := {} }

/-- The property can only be read. -/
def propertyIsReadOnly (d : ThingDescription) (name : String) : Error :=
  ⟨.readOnly, s!"Property `{name}` of thing `" ++ d.id ++ "` is read-only"⟩

/-- Nobody serves the writes of a property. -/
def noWriteHandler (d : ThingDescription) (name : String) : Error :=
  ⟨.noHandler, s!"No write handler for property `{name}` of thing `" ++ d.id ++ "`"⟩

/-- Nobody serves an action. -/
def noActionHandler (d : ThingDescription) (name : String) : Error :=
  ⟨.noHandler, s!"No handler for action `{name}` of thing `" ++ d.id ++ "`"⟩

/-- The thing sends nowhere. -/
def noOutput (d : ThingDescription) : Error :=
  ⟨.missingHook, "Thing `" ++ d.id ++ "` has no output installed"⟩

/-- What is done about the write of a property. -/
def writeRequest (d : ThingDescription) (name : String) (payload : Bytes) (t : ExposedThing) :
    Dispatch :=
  match t.handlers with
  | none => .pass
  | some handlers =>
    match d.properties.get? name with
    | none => .refuse (d.noProperty name)
    | some p =>
      if p.isReadOnly then .refuse (propertyIsReadOnly d name)
      else
        let value := Snapshot.ofWire payload (some p.schema)
        if !value.clean then .pass
        else
          match RequestHandlers.find? handlers.writes name with
          | none => .refuse (noWriteHandler d name)
          | some handler => .serve handler value

/-- What is done about a request. -/
def request (d : ThingDescription) (name : String) (payload : Bytes) (t : ExposedThing) :
    Dispatch :=
  match d.actions.get? name with
  | none => t.writeRequest d name payload
  | some action =>
    match t.handlers with
    | none => .pass
    | some handlers =>
      match RequestHandlers.find? handlers.actions name with
      | none => .refuse (noActionHandler d name)
      | some handler => .serve handler (Snapshot.ofWire payload action.input)

/-- Whether a value is the one that was sent last. -/
def isRemembered (name : String) (value : Json) (t : ExposedThing) : Bool :=
  match t.values.get? name with
  | some last => last.value.same value
  | none => false

/-- The change that an entry of a batch makes, if any: the property must be declared, and its
    value may have to differ from the one sent last. -/
def change? (d : ThingDescription) (onlyChanges : Bool) (t : ExposedThing)
    (entry : String × Json) : Option Change :=
  match d.propertySchema? entry.1 with
  | none => none
  | some schema =>
    if onlyChanges && t.isRemembered entry.1 entry.2 then none
    else some ⟨entry.1, entry.2, Snapshot.ofNative entry.2 (some schema)⟩

/-- The changes that a batch makes. -/
def changes (d : ThingDescription) (onlyChanges : Bool) (batch : Members Json)
    (t : ExposedThing) : List Change :=
  batch.filterMap (t.change? d onlyChanges)

/-- The value that changes are sent as. -/
def batchValue (changes : List Change) : Json :=
  .object (changes.map fun change => (change.name, change.value))

/-- Keeps the values of changes. -/
def remember (changes : List Change) (t : ExposedThing) : ExposedThing :=
  { t with values := changes.foldl (fun values c => values.insert c.name c.snapshot) t.values }

/-- How an exposed thing is shown. -/
def inspect (d : ThingDescription) (t : ExposedThing) : String :=
  Inspection.record "ExposedThing"
    [("device_id", Inspection.quoted t.device),
     ("thing_id", Inspection.quoted d.id),
     ("destroyed", Inspection.bool t.isDestroyed)] true

/-- How the binding of an exposed thing to a bus is shown. -/
def inspectBinding (id : String) : String :=
  Inspection.record "ExposedThingBinding" [("thing_id", Inspection.quoted id)] true

end ExposedThing

end WebOfThings
