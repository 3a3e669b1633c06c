import WebOfThings.Error
import WebOfThings.Inspection
import WebOfThings.NameMap
import WebOfThings.Topic

/-!
# A bus within the process

A bus keeps one receiver for each filter. Publishing a message on a connected bus says at once who
receives it: those whose filters match its topic at that moment (`LocalBus.receivers`), whatever
they do to the bus once they are called. A recording bus also keeps what was published, in order.

`LocalBus.publish?` fails on a disconnected bus, and then changes nothing.
-/

namespace WebOfThings

/-- A message on a bus. -/
structure Message where
  /-- The topic it is published on. -/
  topic : String
  /-- What it carries. -/
  payload : Bytes
  deriving DecidableEq, Repr, Inhabited

/-- Nothing can be published on a bus that is not connected. -/
def Error.notConnected (topic : String) : Error :=
  ⟨.transport, s!"Unable to publish on `{topic}`: not connected"⟩

/-- The receivers whose filters match a topic. -/
def receiversOf {α : Type} (subscriptions : NameMap α) (topic : String) : List α :=
  (subscriptions.entries.filter fun entry => Topic.matches entry.1 topic).map (·.2)

/-- A bus that delivers a message before publishing it returns. -/
structure LocalBus (α : Type) where
  /-- Whether messages can be published. -/
  connected : Bool := true
  /-- The receivers of messages by their filters. -/
  subscriptions : NameMap α := {}
  /-- The messages published so far, if they are kept. -/
  history : Option (List Message) := none
  deriving Repr, Inhabited

namespace LocalBus

variable {α : Type}

/-- A bus that keeps what was published. -/
def recording : LocalBus α := { history := some [] }

/-- Those who receive a message on a topic now. -/
def receivers (b : LocalBus α) (topic : String) : List α := receiversOf b.subscriptions topic

/-- The messages published so far, as far as they were kept. -/
def published (b : LocalBus α) : List Message := b.history.getD []

/-- The messages published so far on one topic. -/
def publishedOn (b : LocalBus α) (topic : String) : List Bytes :=
  (b.published.filter (·.topic = topic)).map (·.payload)

/-- The bus after a message was published, and who receives it. -/
def publish? (b : LocalBus α) (m : Message) : Except Error (LocalBus α × List α) :=
  if b.connected then
    .ok ({ b with history := b.history.map (· ++ [m]) }, b.receivers m.topic)
  else .error (.notConnected m.topic)

/-- Makes a receiver the one of a filter. -/
def subscribe (b : LocalBus α) (filter : String) (receiver : α) : LocalBus α :=
  { b with subscriptions := b.subscriptions.insert filter receiver }

/-- Leaves a filter without a receiver. -/
def unsubscribe (b : LocalBus α) (filter : String) : LocalBus α :=
  { b with subscriptions := b.subscriptions.erase filter }

/-- How a bus is shown. -/
def inspect (b : LocalBus α) : String :=
  Inspection.record "LocalBus"
    [("connected", Inspection.bool b.connected),
     ("subscriptions", toString b.subscriptions.size),
     ("recording", Inspection.bool b.history.isSome)] true

end LocalBus

end WebOfThings
