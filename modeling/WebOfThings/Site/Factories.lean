import WebOfThings.Site.Things

/-!
# The factories of a site

The device exposes things, and the consumer uses things, each through a factory that knows at most
one thing of an identifier. A factory makes a thing, binds it to its bus and knows it from then on;
asked for the same identifier again it gives the same thing. Destroying a thing makes its factory
forget what it knows under the identifier, ends its subscription, and empties the thing; that the
subscription could not be ended does not count.
-/

namespace WebOfThings.Run

/-- Adds an exposed thing. -/
def addExposed (t : ExposedThing) : Run ExposedRef := do
  let i := (← get).exposed.next
  modify fun s => { s with exposed := s.exposed.add t }
  pure i

/-- Adds a consumed thing. -/
def addConsumed (t : ConsumedThing) : Run ConsumedRef := do
  let i := (← get).consumed.next
  modify fun s => { s with consumed := s.consumed.add t }
  pure i

/-- Adds a shared description. -/
def addDescription (d : ThingDescription) : Run DescriptionRef := do
  let i := (← get).catalogue.next
  modify fun s => { s with catalogue := s.catalogue.add d }
  pure i

/-- Changes what the factory of the device knows. -/
def updateDeviceThings (change : NameMap ExposedRef → NameMap ExposedRef) : Run Unit :=
  modify fun s => { s with device := { s.device with things := change s.device.things } }

/-- Changes what the factory of the consumer knows. -/
def updateConsumerThings (change : NameMap ConsumedRef → NameMap ConsumedRef) : Run Unit :=
  updateConsumer fun c => { c with things := change c.things }

/-- Says whether a caller holds an exposed thing. -/
def holdExposed (i : ExposedRef) (held : Bool) : Run Unit :=
  updateExposed i fun t => { t with held }

/-- Says whether a caller holds a consumed thing. -/
def holdConsumed (i : ConsumedRef) (held : Bool) : Run Unit :=
  updateConsumed i fun t => { t with held }

/-- Exposes a thing. -/
def expose (call : Call) (device : String) (ref : DescriptionRef) :
    Run (Except Error ExposedRef) := do
  let d ← description ref
  let factory := (← get).device
  match factory.things.get? d.id with
  | some i =>
    holdExposed i true
    pure (.ok i)
  | none =>
    let i ← addExposed { device, description := ref, output := .bus factory.bus d.id }
    match ← serve call i factory.bus d.id with
    | .error e =>
      holdExposed i false
      pure (.error e)
    | .ok () =>
      updateDeviceThings (·.insert d.id i)
      pure (.ok i)

/-- Destroys an exposed thing by the factory of the device. -/
def retire (i : ExposedRef) : Run Unit := do
  let t ← exposed i
  let d ← description t.description
  let factory := (← get).device
  if factory.things.contains d.id then
    updateDeviceThings (·.erase d.id)
    discard (unsubscribe factory.bus (Topic.actions d.id))
  updateExposed i (·.destroy)

/-- Uses a thing. -/
def consume (ref : DescriptionRef) : Run (Except Error ConsumedRef) := do
  let d ← description ref
  let factory := (← get).consumer
  match factory.things.get? d.id with
  | some i =>
    holdConsumed i true
    pure (.ok i)
  | none =>
    let i ← addConsumed { description := ref, interaction := .bus factory.bus d.id }
    match ← follow i factory.bus d.id with
    | .error e =>
      holdConsumed i false
      pure (.error e)
    | .ok () =>
      updateConsumerThings (·.insert d.id i)
      pure (.ok i)

/-- Destroys a consumed thing by the factory of the consumer. -/
def dismiss (i : ConsumedRef) : Run Unit := do
  let t ← consumed i
  let d ← description t.description
  let factory := (← get).consumer
  if factory.things.contains d.id then
    updateConsumerThings (·.erase d.id)
    discard (unsubscribe factory.bus (Topic.events d.id))
  updateConsumed i (·.stop)

end WebOfThings.Run

namespace WebOfThings

/-- How the factory of a device is shown. -/
def DeviceFactory.inspect (f : DeviceFactory) : String :=
  Inspection.record "ExposedThingFactory" [("things", toString f.things.size)] true

namespace ConsumerFactory

/-- The factory of a consumer that knows nothing yet. -/
def create (account : Account) (caCertificate : Option Bytes) (bus : BusRef) : ConsumerFactory :=
  { account, caCertificate, bus, store := { account := account.id } }

/-- The path of an account's cache file. -/
def cachePath (directory : Path) (account : String) : Path :=
  Path.join directory (account ++ ".json")

/-- The path of the cache file. -/
def cacheFile? (f : ConsumerFactory) : Option Path :=
  f.cacheDirectory.map (cachePath · f.account.id)

/-- How the factory of a consumer is shown. -/
def inspect (f : ConsumerFactory) : String :=
  Inspection.record "ConsumedThingFactory"
    [("account", Inspection.quoted f.account.id), ("things", toString f.things.size)] true

end ConsumerFactory

end WebOfThings
