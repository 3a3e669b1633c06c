import WebOfThings.Bus.Config
import WebOfThings.Bus.Local
import WebOfThings.Table

/-!
# A client of a broker

A client keeps one receiver for each filter, as a bus within the process does, and hands what it
publishes and subscribes to a *session* with a broker, one at a time. A session has a bounded queue
of requests, which only its own loop takes from; a request that does not fit, or that no broker
would take, is refused at once.

Connecting begins a session (`BusClient.start`), lets the loop see what happens on the network
(`BusClient.react`), and ends with the session accepted or given up (`BusClient.conclude`).
Disconnecting *cancels* the session: its loop may still see events, which then no longer count. A
session that is accepted begins with no subscriptions, so all filters are subscribed again.
-/

namespace WebOfThings

/-- How a client stands with its broker. -/
inductive ConnectionState
  /-- Not connected. -/
  | disconnected
  /-- Waiting to be accepted. -/
  | connecting
  /-- Accepted. -/
  | connected
  deriving DecidableEq, Repr, Inhabited

/-- How a state is shown. -/
def ConnectionState.inspect : ConnectionState → String
  | disconnected => "Disconnected"
  | connecting => "Connecting"
  | connected => "Connected"

/-- The status of a client. -/
structure BusStatus where
  /-- How it stands with its broker. -/
  state : ConnectionState := .disconnected
  /-- What the connection was lost by. -/
  lastError : Option String := none
  deriving DecidableEq, Repr, Inhabited

/-- How a status is shown. -/
def BusStatus.inspect (s : BusStatus) : String :=
  Inspection.record "BusStatus"
    [("state", s.state.inspect),
     ("last_error", Inspection.option Inspection.quoted s.lastError)] false

/-- What a client asks of its broker. -/
inductive BrokerRequest
  /-- To pass a message on. -/
  | publish (message : Message)
  /-- To be sent the messages that match a filter. -/
  | subscribe (filter : String)
  /-- To be sent them no longer. -/
  | unsubscribe (filter : String)
  /-- To be let go. -/
  | disconnect
  deriving DecidableEq, Repr, Inhabited

namespace BrokerRequest

/-- Whether a level of a filter is well formed: a wildcard stands alone. -/
def levelIsValid (level : List Char) : Bool :=
  level = ['+'] || level = ['#'] || (!level.contains '+' && !level.contains '#')

/-- Whether the levels of a filter are well formed: any number of levels is the last one. -/
def levelsAreValid (levels : List (List Char)) : Bool :=
  levels.all levelIsValid && !levels.dropLast.contains ['#']

/-- Whether a broker would take the request: no message has a wildcard in its topic, and a filter
    is well formed. -/
def isValid : BrokerRequest → Bool
  | publish m => !m.topic.toList.contains '+' && !m.topic.toList.contains '#'
  | subscribe filter => filter ≠ "" && levelsAreValid (Topic.levels filter.toList)
  | unsubscribe _ | disconnect => true

end BrokerRequest

/-- What the loop of a session sees. -/
inductive SessionEvent
  /-- The broker accepted the connection. -/
  | accepted
  /-- The broker refused the connection. -/
  | refused
  /-- A message arrived. -/
  | message (topic payload : Bytes)
  /-- The broker ended the connection. -/
  | ended
  /-- The connection failed. -/
  | failed (reason : String)
  /-- Requests were taken off the queue and sent. -/
  | sent (count : Nat)
  deriving DecidableEq, Repr, Inhabited

/-- A session of a client with a broker. -/
structure Session where
  /-- The broker. -/
  broker : Broker
  /-- What is shown to it. -/
  credentials : Credentials
  /-- The requests that wait to be sent, the oldest first. -/
  queue : List BrokerRequest := []
  /-- How many failures there were since the loop began or the broker last accepted. -/
  attempt : Nat := 0
  /-- Whether the session was given up. -/
  cancelled : Bool := false
  deriving Repr, Inhabited

namespace Session

/-- The largest number of failures that is counted. -/
def attemptLimit : Nat := Nat.pow 2 32 - 1

/-- The session after one more request, if it is a valid one and fits the queue. -/
def request? (capacity : Nat) (r : BrokerRequest) (s : Session) : Option Session :=
  if r.isValid && s.queue.length < capacity then some { s with queue := s.queue ++ [r] } else none

/-- The session after as many of the filters as it takes were subscribed. -/
def subscribeAll (capacity : Nat) (filters : List String) (s : Session) : Session :=
  filters.foldl (fun s filter => (s.request? capacity (.subscribe filter)).getD s) s

/-- The session after its loop has seen an event, but for what a client does about it. -/
def react (event : SessionEvent) (s : Session) : Session :=
  match event with
  | .accepted => { s with attempt := 0 }
  | .failed _ => { s with attempt := min (s.attempt + 1) attemptLimit }
  | .sent count => { s with queue := s.queue.drop count }
  | .refused | .message .. | .ended => s

/-- How long the loop waits after an event. -/
def wait? (policy : ReconnectPolicy) (event : SessionEvent) (s : Session) : Option Duration :=
  match event with
  | .failed _ => some (policy.delay s.attempt)
  | _ => none

end Session

/-- A client of a broker. -/
structure BusClient (α : Type) where
  /-- Its settings. -/
  config : BusConfig
  /-- How it stands with its broker. -/
  status : BusStatus := {}
  /-- The receivers of messages by their filters. -/
  subscriptions : NameMap α := {}
  /-- Every session that was ever begun. -/
  sessions : Table Session := {}
  /-- The session that requests go to. -/
  installed : Option Nat := none
  deriving Repr, Inhabited

namespace BusClient

variable {α : Type}

/-- Whether the broker has accepted the client. -/
def isConnected (c : BusClient α) : Bool := c.status.state = .connected

/-- The session that requests go to. -/
def session? (c : BusClient α) : Option Session := c.installed.bind c.sessions.get?

/-- Hands a request to the session. Nothing comes of it if there is none; it fails if the session
    refuses it. -/
def request? (c : BusClient α) (r : BrokerRequest) : Option (BusClient α) :=
  match c.installed, c.session? with
  | some i, some session =>
    (session.request? c.config.channelCapacity r).map fun session =>
      { c with sessions := c.sessions.update i fun _ => session }
  | _, _ => some c

/-- A request that a session refuses. -/
def refused (doing : String) : Error :=
  ⟨.transport, s!"Impossible to {doing}: Failed to send mqtt requests to eventloop"⟩

/-- Hands a message to the session. -/
def publish? (c : BusClient α) (m : Message) : Except Error (BusClient α) :=
  if !c.isConnected || c.session?.isNone then .error (.notConnected m.topic)
  else
    match c.request? (.publish m) with
    | some c => .ok c
    | none => .error (refused s!"publish on `{m.topic}`")

/-- Makes a receiver the one of a filter, and subscribes the filter if connected; otherwise it is
    subscribed as soon as the broker accepts the client. -/
def subscribe (c : BusClient α) (filter : String) (receiver : α) : Outcome × BusClient α :=
  let c := { c with subscriptions := c.subscriptions.insert filter receiver }
  if c.isConnected then
    match c.request? (.subscribe filter) with
    | some c => (.done, c)
    | none => (.error (refused s!"subscribe to `{filter}`"), c)
  else (.done, c)

/-- Leaves a filter without a receiver, and unsubscribes it if connected. -/
def unsubscribe (c : BusClient α) (filter : String) : Outcome × BusClient α :=
  let known := c.subscriptions.contains filter
  let c := { c with subscriptions := c.subscriptions.erase filter }
  if known && c.isConnected then
    match c.request? (.unsubscribe filter) with
    | some c => (.done, c)
    | none => (.error (refused s!"unsubscribe from `{filter}`"), c)
  else (.done, c)

/-- Gives up the session that requests go to. -/
def cancel (c : BusClient α) : BusClient α :=
  match c.installed with
  | none => c
  | some i =>
    { c with
      sessions := c.sessions.update i fun session => { session with cancelled := true }
      installed := none }

/-- Ends the connection. The broker is told if there is room in the queue. -/
def disconnect (c : BusClient α) : BusClient α :=
  let told := if c.isConnected then (c.request? .disconnect).getD c else c
  { told.cancel with status := {} }

/-- Whether credentials can be shown to a broker. A certificate is only shown to one that is
    recognised. -/
def checkCredentials (config : BusConfig) : Credentials → Outcome
  | .certificate _ =>
    if config.caCertificate.isSome then .done
    else .error ⟨.config, "A client certificate requires a certificate authority"⟩
  | _ => .done

/-- Begins a session with a broker, if the credentials can be shown to it. An earlier session is
    given up in any case. -/
def start (c : BusClient α) (broker : Broker) (credentials : Credentials) :
    Outcome × BusClient α :=
  let c := c.disconnect
  match checkCredentials c.config credentials with
  | .error e => (.error e, c)
  | .ok () =>
    let c := c.cancel
    (.done, { c with
      status := { state := .connecting }
      installed := some c.sessions.next
      sessions := c.sessions.add { broker, credentials } })

/-- Ends the wait for a broker: the client stays connected if it was accepted, and gives up
    otherwise. -/
def conclude (c : BusClient α) (broker : Broker) : Outcome × BusClient α :=
  if c.isConnected then (.done, c)
  else
    let reason := c.status.lastError.getD "timeout"
    let place := broker.text
    (.error ⟨.transport, s!"Unable to connect to the broker at `{place}`: {reason}"⟩,
      c.disconnect)

/-- Whether what a session's loop sees still counts. -/
def isLive (c : BusClient α) (i : Nat) : Bool :=
  match c.sessions.get? i with
  | some session => !session.cancelled
  | none => false

/-- The client after it has lost its connection. -/
def lost (c : BusClient α) (reason : String) : BusClient α :=
  { c with status := { lastError := some reason } }

/-- The client after the loop of one of its sessions has seen an event. -/
def react (c : BusClient α) (i : Nat) (event : SessionEvent) : BusClient α :=
  let c := { c with sessions := c.sessions.update i (·.react event) }
  match event with
  | .accepted =>
    if c.isLive i then
      { c with
        status := { state := .connected }
        sessions := c.sessions.update i
          (·.subscribeAll c.config.channelCapacity c.subscriptions.names) }
    else c
  | .ended => if c.isLive i then c.lost "Disconnected by the broker" else c
  | .failed reason => if c.isLive i then c.lost reason else c
  | .refused | .message .. | .sent _ => c

/-- Those who receive a message that arrived. A topic that is no text is nobody's. -/
def receivers (c : BusClient α) (topic : Bytes) : List α :=
  match topic.toString? with
  | some topic => receiversOf c.subscriptions topic
  | none => []

/-- How a client is shown. -/
def inspect (c : BusClient α) : String :=
  Inspection.record "BusClient"
    [("config", c.config.inspect), ("status", c.status.inspect)] true

end BusClient

end WebOfThings
