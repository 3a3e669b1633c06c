import WebOfThings.Bus.Basic
import WebOfThings.Consumed.Thing
import WebOfThings.Exposed.Thing
import WebOfThings.Hub.Authentication
import WebOfThings.Hub.Directory

/-!
# A site

Everything that runs together: shared descriptions, exposed and consumed things, the buses that
carry their messages, the factory of a device, the factory of a consumer, and the files of its
caches. Things, descriptions and buses are referred to by number.

A bus hands a message to a `Receiver`: the requests to an exposed thing, the events of a consumed
one, or a handler. A receiver does not keep its thing alive: once neither a caller nor a factory
holds the thing, what still arrives for it is passed over (`Site.exposedIsAlive`).

What runs on a site is a `Run`: it changes the site and gives a result. It has none if it refers
to something that does not exist, or if handlers call one another deeper than they are let. What
happens on the way is noted in the journal: the calls of handlers, what came of their acts, what
recorders were given, and the requests sent to services.

The timeline tells in which order messages were published and values were kept. It is a record: no
run looks at it.
-/

namespace WebOfThings

/-- Who receives a message. -/
inductive Receiver
  /-- An exposed thing, for requests. -/
  | requests (thing : ExposedRef)
  /-- A consumed thing, for events. -/
  | events (thing : ConsumedRef)
  /-- A handler. -/
  | handler (handler : Handler)
  deriving Repr, Inhabited

/-- What happened. -/
inductive Entry
  /-- A handler was called. -/
  | called (label : String) (occasion : Occasion)
  /-- An act of a handler was carried out. -/
  | acted (label : String) (occasion : Occasion) (act : Act) (result : ActResult)
  /-- A recorder was given an event of an exposed thing. -/
  | emitted (name : String) (data : Json)
  /-- A recorder was given property changes of an exposed thing. -/
  | changed (properties : Json)
  /-- A recorder was given the invocation of an action of a consumed thing. -/
  | invoked (name : String) (data : Json)
  /-- A recorder was given the write of a property of a consumed thing. -/
  | written (name : String) (value : Json)
  /-- A service was asked for something. -/
  | asked (request : Http.Request)

/-- What happened to a message or to a value. -/
inductive Moment
  /-- A bus took a message. -/
  | published (bus : BusRef) (message : Message)
  /-- A consumed thing kept a value that arrived. -/
  | kept (thing : ConsumedRef) (delivery : Delivery)
  /-- An exposed thing remembered the values that it had sent. -/
  | remembered (thing : ExposedRef) (changes : List Change)

/-- How a consumer is connected to the services of its hub. -/
structure ConnectionStatus where
  /-- The access token of the last authentication. -/
  accessToken : String := ""
  /-- Whether the account was authenticated. -/
  authenticated : Bool := false
  /-- How the last authentication ended. -/
  authStatus : String := ""
  /-- Whether the bus is connected. -/
  connected : Bool := false
  /-- Whether the directory was read. -/
  directoryRead : Bool := false
  /-- The last error. -/
  message : String := ""
  deriving DecidableEq, Repr, Inhabited

/-- The factory of the things that a device exposes. -/
structure DeviceFactory where
  /-- The bus of its things. -/
  bus : BusRef := 0
  /-- Its things by their identifiers. -/
  things : NameMap ExposedRef := {}
  deriving Repr, Inhabited

/-- The factory of the things that a consumer uses. -/
structure ConsumerFactory where
  /-- The account of the consumer. -/
  account : Account
  /-- The certificates by which services are recognised. -/
  caCertificate : Option Bytes := none
  /-- The bus of its things. -/
  bus : BusRef := 0
  /-- Its things by their identifiers. -/
  things : NameMap ConsumedRef := {}
  /-- How it is connected. -/
  status : ConnectionStatus := {}
  /-- The token that gets new tokens. -/
  refreshToken : Option String := none
  /-- The descriptions that it knows. -/
  store : ThingStore
  /-- The directory of its cache file. -/
  cacheDirectory : Option Path := none
  deriving Repr, Inhabited

/-- Everything that runs together. -/
structure Site where
  /-- The shared descriptions. -/
  catalogue : Catalogue := {}
  /-- The exposed things. -/
  exposed : Table ExposedThing := {}
  /-- The consumed things. -/
  consumed : Table ConsumedThing := {}
  /-- The buses. -/
  buses : Table (Bus Receiver) := {}
  /-- The factory of the device. -/
  device : DeviceFactory := {}
  /-- The factory of the consumer. -/
  consumer : ConsumerFactory
  /-- The files. -/
  disk : Disk := {}
  /-- What happened, the latest first. -/
  journal : List Entry := []
  /-- What happened to messages and values, the latest first. -/
  timeline : List Moment := []

/-- What runs on a site. -/
abbrev Run := StateT Site Option

/-- How a handler is called. -/
abbrev Call := Handler → Occasion → Run Outcome

namespace Site

/-- Whether anybody holds an exposed thing. -/
def exposedIsAlive (s : Site) (i : ExposedRef) : Bool :=
  (s.exposed.get? i).any (·.held) || (s.device.things.entries.map (·.2)).contains i

/-- Whether anybody holds a consumed thing. -/
def consumedIsAlive (s : Site) (i : ConsumedRef) : Bool :=
  (s.consumed.get? i).any (·.held) || (s.consumer.things.entries.map (·.2)).contains i

end Site

namespace Run

/-- Notes what happened. -/
def note (e : Entry) : Run Unit := modify fun s => { s with journal := e :: s.journal }

/-- Puts a moment on the timeline. -/
def mark (m : Moment) : Run Unit := modify fun s => { s with timeline := m :: s.timeline }

/-- A shared description. -/
def description (i : DescriptionRef) : Run ThingDescription := do (← get).catalogue.get? i

/-- An exposed thing. -/
def exposed (i : ExposedRef) : Run ExposedThing := do (← get).exposed.get? i

/-- A consumed thing. -/
def consumed (i : ConsumedRef) : Run ConsumedThing := do (← get).consumed.get? i

/-- A bus. -/
def bus (i : BusRef) : Run (Bus Receiver) := do (← get).buses.get? i

/-- Changes an exposed thing. -/
def updateExposed (i : ExposedRef) (change : ExposedThing → ExposedThing) : Run Unit :=
  modify fun s => { s with exposed := s.exposed.update i change }

/-- Changes a consumed thing. -/
def updateConsumed (i : ConsumedRef) (change : ConsumedThing → ConsumedThing) : Run Unit :=
  modify fun s => { s with consumed := s.consumed.update i change }

/-- Changes a bus. -/
def updateBus (i : BusRef) (change : Bus Receiver → Bus Receiver) : Run Unit :=
  modify fun s => { s with buses := s.buses.update i change }

/-- Changes the factory of the consumer. -/
def updateConsumer (change : ConsumerFactory → ConsumerFactory) : Run Unit :=
  modify fun s => { s with consumer := change s.consumer }

/-- Changes how the consumer is connected. -/
def updateStatus (change : ConnectionStatus → ConnectionStatus) : Run Unit :=
  updateConsumer fun c => { c with status := change c.status }

end Run

end WebOfThings
