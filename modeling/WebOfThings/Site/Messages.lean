import WebOfThings.Site.Basic

/-!
# Messages on a site

Publishing a message calls those who receive it before it returns (`Run.publish`): they are the
receivers at the moment of publishing, and are called one after another. What an exposed thing
receives is a request, and what a consumed thing receives is an event, if the topic is one for it;
how a request ended is told to nobody.

All of this is given how handlers are called, and calls none in another way.
-/

namespace WebOfThings.Run

/-- Carries out what is to be done about a request. -/
def dispatch (call : Call) (name : String) : Dispatch → Run Outcome
  | .pass => pure .done
  | .refuse e => pure (.error e)
  | .serve handler input => call handler (.request name input)

/-- Asks an exposed thing for something. -/
def request (call : Call) (i : ExposedRef) (name : String) (payload : Bytes) : Run Outcome := do
  let t ← exposed i
  let d ← description t.description
  dispatch call name (t.request d name payload)

/-- Asks an exposed thing to write a property. -/
def writeRequest (call : Call) (i : ExposedRef) (name : String) (payload : Bytes) :
    Run Outcome := do
  let t ← exposed i
  let d ← description t.description
  dispatch call name (t.writeRequest d name payload)

/-- Keeps the value of a delivery, and tells the handler that there is at that moment. -/
def deliver (call : Call) (i : ConsumedRef) (delivery : Delivery) : Run Unit := do
  updateConsumed i (·.keep delivery)
  mark (.kept i delivery)
  match (← consumed i).handler? delivery with
  | some handler => discard (call handler (.notice delivery.name delivery.value))
  | none => pure ()

/-- Hands an event to a consumed thing. -/
def receive (call : Call) (i : ConsumedRef) (name : String) (payload : Bytes) : Run Unit := do
  let t ← consumed i
  let d ← description t.description
  (ConsumedThing.deliveries d name payload).forM (deliver call i)

/-- Hands a message to a receiver. -/
def accept (call : Call) (m : Message) : Receiver → Run Unit
  | .requests i => do
    if (← get).exposedIsAlive i then
      match Topic.split? m.topic with
      | some parts =>
        if parts.kind = Topic.actionKind then discard (request call i parts.name m.payload)
      | none => pure ()
  | .events i => do
    if (← get).consumedIsAlive i then
      match Topic.split? m.topic with
      | some parts =>
        if parts.kind = Topic.eventKind then receive call i parts.name m.payload
      | none => pure ()
  | .handler h => discard (call h (.message m))

/-- Publishes a message. -/
def publish (call : Call) (i : BusRef) (m : Message) : Run Outcome := do
  match (← bus i).publish? m with
  | .error e => pure (.error e)
  | .ok (b, receivers) =>
    updateBus i fun _ => b
    mark (.published i m)
    receivers.forM (accept call m)
    pure .done

/-- Publishes a value. -/
def publishValue (call : Call) (i : BusRef) (topic : String) (value : Json) : Run Outcome :=
  publish call i { topic, payload := value.compact }

/-- Makes a receiver the one of a filter. -/
def subscribe (i : BusRef) (filter : String) (receiver : Receiver) : Run Outcome := do
  let (outcome, b) := (← bus i).subscribe filter receiver
  updateBus i fun _ => b
  pure outcome

/-- Leaves a filter without a receiver. -/
def unsubscribe (i : BusRef) (filter : String) : Run Outcome := do
  let (outcome, b) := (← bus i).unsubscribe filter
  updateBus i fun _ => b
  pure outcome

end WebOfThings.Run
