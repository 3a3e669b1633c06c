import WebOfThings.Bus.Client

/-!
# Buses

A bus is one within the process or a client of a broker. Either may be made to fail: an operation
that is set to fail does nothing else (`Faults`).

Every operation says how it ended and gives the bus after it. Publishing also says who receives the
message within the call: nobody if the bus is a client, since its broker sends the message back
later, if at all.
-/

namespace WebOfThings

/-- The operations that are made to fail. -/
structure Faults where
  /-- Publishing. -/
  publish : Bool := false
  /-- Subscribing. -/
  subscribe : Bool := false
  /-- Unsubscribing. -/
  unsubscribe : Bool := false
  deriving DecidableEq, Repr, Inhabited

/-- What carries the messages of a bus. -/
inductive Medium (α : Type)
  /-- The process itself. -/
  | process (bus : LocalBus α)
  /-- A broker. -/
  | broker (client : BusClient α)
  deriving Repr

/-- A message bus. -/
structure Bus (α : Type) where
  /-- What carries its messages. -/
  medium : Medium α
  /-- The operations that are made to fail. -/
  faults : Faults := {}
  deriving Repr

namespace Bus

variable {α : Type}

/-- A bus within the process. -/
def ofLocal (b : LocalBus α) : Bus α := { medium := .process b }

/-- A client of a broker. -/
def ofClient (c : BusClient α) : Bus α := { medium := .broker c }

/-- How an operation ends that is made to fail. -/
def fault (operation : String) : Error := ⟨.transport, s!"flaky {operation}"⟩

/-- Whether messages can be published. -/
def isConnected (b : Bus α) : Bool :=
  match b.medium with
  | .process bus => bus.connected
  | .broker client => client.isConnected

/-- The bus after a message was published, and who receives it within the call. -/
def publish? (b : Bus α) (m : Message) : Except Error (Bus α × List α) :=
  if b.faults.publish then .error (fault "publish")
  else
    match b.medium with
    | .process bus => do
      let (bus, receivers) ← bus.publish? m
      .ok ({ b with medium := .process bus }, receivers)
    | .broker client => do
      let client ← client.publish? m
      .ok ({ b with medium := .broker client }, [])

/-- Makes a receiver the one of a filter. -/
def subscribe (b : Bus α) (filter : String) (receiver : α) : Outcome × Bus α :=
  if b.faults.subscribe then (.error (fault "subscribe"), b)
  else
    match b.medium with
    | .process bus => (.done, { b with medium := .process (bus.subscribe filter receiver) })
    | .broker client =>
      let (outcome, client) := client.subscribe filter receiver
      (outcome, { b with medium := .broker client })

/-- Leaves a filter without a receiver. -/
def unsubscribe (b : Bus α) (filter : String) : Outcome × Bus α :=
  if b.faults.unsubscribe then (.error (fault "unsubscribe"), b)
  else
    match b.medium with
    | .process bus => (.done, { b with medium := .process (bus.unsubscribe filter) })
    | .broker client =>
      let (outcome, client) := client.unsubscribe filter
      (outcome, { b with medium := .broker client })

/-- Connects a bus within the process again. A client is connected to a broker instead. -/
def reconnect (b : Bus α) : Bus α :=
  match b.medium with
  | .process bus => { b with medium := .process { bus with connected := true } }
  | .broker _ => b

/-- Ends the connection. -/
def disconnect (b : Bus α) : Bus α :=
  match b.medium with
  | .process bus => { b with medium := .process { bus with connected := false } }
  | .broker client => { b with medium := .broker client.disconnect }

/-- The receivers of messages by their filters. -/
def subscriptions (b : Bus α) : NameMap α :=
  match b.medium with
  | .process bus => bus.subscriptions
  | .broker client => client.subscriptions

/-- The messages published so far, as far as they were kept. -/
def published (b : Bus α) : List Message :=
  match b.medium with
  | .process bus => bus.published
  | .broker _ => []

/-- The messages published so far on one topic. -/
def publishedOn (b : Bus α) (topic : String) : List Bytes :=
  match b.medium with
  | .process bus => bus.publishedOn topic
  | .broker _ => []

/-- The client of a bus that has a broker. -/
def client? (b : Bus α) : Option (BusClient α) :=
  match b.medium with
  | .process _ => none
  | .broker client => some client

/-- How a bus is shown. -/
def inspect (b : Bus α) : String :=
  match b.medium with
  | .process bus => bus.inspect
  | .broker client => client.inspect

end Bus

end WebOfThings
