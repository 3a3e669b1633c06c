import WebOfThings.Site.Messages

/-!
# Things on a site

What a thing sends: an exposed thing emits events and property changes, and a consumed thing
invokes actions and writes properties. What is not declared is not sent, and what cannot be sent
changes nothing: the values of property changes are kept after they were sent.

A thing is served by a bus from the moment its topics are subscribed. An exposed thing then
publishes its description; whether that succeeds does not count.
-/

namespace WebOfThings.Run

/-- What a recorder answers that refuses what it is given. -/
def offline : Error := ⟨.transport, "offline"⟩

/-- Gives something to a recorder. -/
def record (refuses : Bool) (e : Entry) : Run Outcome := do
  if refuses then pure (.error offline)
  else
    note e
    pure .done

/-- Sends an event of an exposed thing. -/
def sendEvent (call : Call) (d : ThingDescription) (output : Output) (name : String)
    (data : Json) : Run Outcome :=
  match output with
  | .nowhere => pure (.error (ExposedThing.noOutput d))
  | .bus i id => publishValue call i (Topic.event id name) data
  | .recorder refuses => record refuses (.emitted name data)

/-- Sends property changes of an exposed thing. -/
def sendChanges (call : Call) (d : ThingDescription) (output : Output) (changes : Json) :
    Run Outcome :=
  match output with
  | .nowhere => pure (.error (ExposedThing.noOutput d))
  | .bus i id => publishValue call i (Topic.batch id) changes
  | .recorder refuses => record refuses (.changed changes)

/-- Emits an event. -/
def emitEvent (call : Call) (i : ExposedRef) (name : String) (data : Json) : Run Outcome := do
  let t ← exposed i
  let d ← description t.description
  if d.events.contains name then sendEvent call d t.output name data
  else pure (.error (d.noEvent name))

/-- Emits the changes that a batch makes, if there are any. -/
def emitChanges (call : Call) (i : ExposedRef) (batch : Members Json) (onlyChanges : Bool) :
    Run Outcome := do
  let t ← exposed i
  let d ← description t.description
  let changes := t.changes d onlyChanges batch
  if changes.isEmpty then pure .done
  else
    match ← sendChanges call d t.output (ExposedThing.batchValue changes) with
    | .error e => pure (.error e)
    | .ok () =>
      updateExposed i (·.remember changes)
      mark (.remembered i changes)
      pure .done

/-- Emits the change of one property. -/
def emitProperty (call : Call) (i : ExposedRef) (name : String) (value : Json) :
    Run Outcome := do
  let t ← exposed i
  let d ← description t.description
  if d.properties.contains name then emitChanges call i [(name, value)] false
  else pure (.error (d.noProperty name))

/-- Sends a request of a consumed thing, under a name that is declared. -/
def sendRequest (call : Call) (d : ThingDescription) (interaction : Interaction) (name : String)
    (value : Json) (noted : Entry) : Run Outcome :=
  match interaction with
  | .nowhere => pure (.error (ConsumedThing.noInteraction d))
  | .bus i id => publishValue call i (Topic.action id name) value
  | .recorder refuses refused => record (refuses || refused.contains name) noted

/-- Invokes an action. -/
def invoke (call : Call) (i : ConsumedRef) (name : String) (data : Json) : Run Outcome := do
  let t ← consumed i
  let d ← description t.description
  if d.actions.contains name then
    sendRequest call d t.interaction name data (.invoked name data)
  else pure (.error (d.noAction name))

/-- Writes a property. -/
def write (call : Call) (i : ConsumedRef) (name : String) (value : Json) : Run Outcome := do
  let t ← consumed i
  let d ← description t.description
  if d.properties.contains name then
    sendRequest call d t.interaction name value (.written name value)
  else pure (.error (d.noProperty name))

/-- Writes properties one after another, up to the first that fails. -/
def writeMany (call : Call) (i : ConsumedRef) : List (String × Json) → Run Outcome
  | [] => pure .done
  | (name, value) :: rest => do
    match ← write call i name value with
    | .error e => pure (.error e)
    | .ok () => writeMany call i rest

/-- Sets the handler of a notice about a consumed thing. -/
def addHandler (i : ConsumedRef) (kind : NoticeKind) (name : String) (h : Handler) :
    Run Outcome := do
  let (outcome, t) := (← consumed i).subscribe kind name h
  updateConsumed i fun _ => t
  pure outcome

/-- Takes the handler of a notice about a consumed thing away, and tells whether there was one. -/
def removeHandler (i : ConsumedRef) (kind : NoticeKind) (name : String) : Run Bool := do
  let (found, t) := (← consumed i).unsubscribe kind name
  updateConsumed i fun _ => t
  pure found

/-- Begins to serve the requests to a thing under an identifier. -/
def serve (call : Call) (i : ExposedRef) (b : BusRef) (id : String) : Run Outcome := do
  let t ← exposed i
  let d ← description t.description
  match ← subscribe b (Topic.actions id) (.requests i) with
  | .error e => pure (.error e)
  | .ok () =>
    discard (publishValue call b (Topic.description id) d.asValue)
    pure .done

/-- Begins to hand the events under an identifier to a thing. -/
def follow (i : ConsumedRef) (b : BusRef) (id : String) : Run Outcome :=
  subscribe b (Topic.events id) (.events i)

end WebOfThings.Run
