import WebOfThings.Affordance
import WebOfThings.Error

/-!
# Thing descriptions

The description of a thing: who it is, and its properties, events and actions under their names,
each in the order in which they were declared. Every change through the operations below notes the
time of the change; declaring a name again replaces what was declared and keeps its place.

A description is written as a record (`ThingDescription.toJson`) and read back from one. Where it
is published it is a value, with all its names sorted (`ThingDescription.asValue`).
-/

namespace WebOfThings

/-- A moment, as it is written down. -/
abbrev Timestamp := String

/-- The description of a thing. -/
structure ThingDescription where
  /-- The vocabularies that the description is written in. -/
  context : List String
  /-- The identifier of the thing. -/
  id : String
  /-- Title for people. -/
  title : String := ""
  /-- Description for people. -/
  description : Option String := none
  /-- What kinds of device the thing is. -/
  deviceType : List String := []
  /-- When the description was made. -/
  created : Timestamp := ""
  /-- When it was last changed. -/
  modified : Timestamp := ""
  /-- What a consumer must do to be let in. -/
  security : List String := []
  /-- The properties. -/
  properties : NameMap Property := {}
  /-- The events. -/
  events : NameMap Event := {}
  /-- The actions. -/
  actions : NameMap Action := {}
  deriving Repr, Inhabited

namespace ThingDescription

/-- The vocabulary of things. -/
def thingContext : String := "http://www.w3.org/ns/thing"

/-- The security scheme of a thing that lets everybody in. -/
def noSecurity : String := "nosec_sc"

/-- The zone of things that name none. -/
def defaultZone : String := "local"

/-- The identifier of a thing made from a zone, a device and its type. -/
def thingId (zone device deviceType : String) : String :=
  let zone := if zone = "" then defaultZone else zone
  s!"urn:{zone}:{device}:{deviceType}"

/-- The description of a thing that offers nothing yet. -/
def create (now : Timestamp) (id title deviceType : String) : ThingDescription :=
  { context := [thingContext]
    id
    title
    deviceType := if deviceType = "" then [] else [deviceType]
    created := now
    modified := now
    security := [noSecurity] }

/-- Declares a property, or declares it anew. -/
def setProperty (now : Timestamp) (name : String) (p : Property) (d : ThingDescription) :
    ThingDescription :=
  { d with properties := d.properties.insert name p, modified := now }

/-- Declares an event, or declares it anew. -/
def setEvent (now : Timestamp) (name : String) (e : Event) (d : ThingDescription) :
    ThingDescription :=
  { d with events := d.events.insert name e, modified := now }

/-- Declares an action, or declares it anew. -/
def setAction (now : Timestamp) (name : String) (a : Action) (d : ThingDescription) :
    ThingDescription :=
  { d with actions := d.actions.insert name a, modified := now }

/-- Changes what people read about the thing. -/
def setTitle (now : Timestamp) (title description : String) (d : ThingDescription) :
    ThingDescription :=
  { d with title, description := some description, modified := now }

/-- Replaces the security schemes. -/
def requireSecurity (scheme : String) (d : ThingDescription) : ThingDescription :=
  { d with security := [scheme] }

/-- The schema of a property. -/
def propertySchema? (d : ThingDescription) (name : String) : Option DataSchema :=
  (d.properties.get? name).map (·.schema)

/-- The thing has no such property. -/
def noProperty (d : ThingDescription) (name : String) : Error :=
  ⟨.notFound, s!"`{name}` is not a property of thing `" ++ d.id ++ "`"⟩

/-- The thing has no such event. -/
def noEvent (d : ThingDescription) (name : String) : Error :=
  ⟨.notFound, s!"`{name}` is not an event of thing `" ++ d.id ++ "`"⟩

/-- The thing has no such action. -/
def noAction (d : ThingDescription) (name : String) : Error :=
  ⟨.notFound, s!"`{name}` is not an action of thing `" ++ d.id ++ "`"⟩

/-- How a description is written. -/
def toJson (d : ThingDescription) : Json :=
  .object (Record.field "@context" (Record.strings d.context) ++
    Record.field "id" (.string d.id) ++
    Record.field "title" (.string d.title) ++
    Record.fieldIfSome "description" .string d.description ++
    (if d.deviceType = [] then [] else Record.field "@type" (Record.strings d.deviceType)) ++
    Record.field "created" (.string d.created) ++
    Record.field "modified" (.string d.modified) ++
    Record.field "security" (Record.strings d.security) ++
    Record.field "properties" (Record.named Property.toJson d.properties) ++
    Record.field "events" (Record.named Event.toJson d.events) ++
    Record.field "actions" (Record.named Action.toJson d.actions))

/-- The value of a description. -/
def asValue (d : ThingDescription) : Json := d.toJson.sorted

/-- The names of the fields of a description, in their order. -/
def fieldNames : List String :=
  ["@context", "id", "title", "description", "@type", "created", "modified", "security",
    "properties", "events", "actions"]

/-- Reads a description. -/
def reader : Reader ThingDescription := fun depth document => do
  let r ← Record.fields? fieldNames depth document
  let context ← r.withDefault "@context" [thingContext] (Reader.list Reader.string)
  let id ← r.required "id" Reader.string
  let title ← r.withDefault "title" "" Reader.string
  let description ← r.optional "description" Reader.string
  let deviceType ← r.withDefault "@type" [] (Reader.list Reader.string)
  let created ← r.withDefault "created" "" Reader.string
  let modified ← r.withDefault "modified" "" Reader.string
  let security ← r.withDefault "security" [] (Reader.list Reader.string)
  let properties ← r.withDefault "properties" {} (Reader.named Property.reader)
  let events ← r.withDefault "events" {} (Reader.named Event.reader)
  let actions ← r.withDefault "actions" {} (Reader.named Action.reader)
  some { context, id, title, description, deviceType, created, modified, security, properties,
         events, actions }

/-- Equality of named affordances, whatever their order. -/
def sameNamed {α : Type} (equal : α → α → Bool) (m n : NameMap α) : Bool :=
  m.size = n.size && m.entries.all fun (name, value) =>
    match n.get? name with
    | some other => equal value other
    | none => false

/-- Equality of descriptions; the order of affordances does not count. -/
def same (d e : ThingDescription) : Bool :=
  d.context = e.context && d.id = e.id && d.title = e.title && d.description = e.description &&
  d.deviceType = e.deviceType && d.created = e.created && d.modified = e.modified &&
  d.security = e.security && sameNamed Property.same d.properties e.properties &&
  sameNamed Event.same d.events e.events && sameNamed Action.same d.actions e.actions

end ThingDescription

end WebOfThings
