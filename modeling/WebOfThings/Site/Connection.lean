import WebOfThings.Site.Factories

/-!
# Connecting a site

A bus that is a client of a broker is connected by beginning a session, letting its loop see what
happens, and concluding (`Run.connectBus`); messages that arrive in between are handed on.

A consumer is connected to its hub in steps (`Run.connect`). It starts afresh: it disconnects, its
descriptions are saved, and loaded again from the cache. Then it authenticates, reads the
directory, and connects its bus with the access token. With a certificate there is nothing to
authenticate, and the bus comes first (`Run.connectWithCertificate`). A directory that cannot be
read is no error: what was cached is used. The status tells how each step ended.

What the services of the hub answer, and what the loop of the session sees, is given (`Hub`).
-/

namespace WebOfThings

/-- How a hub behaves while it is connected to. -/
structure Hub where
  /-- What is known of certificates and keys. -/
  checks : Http.Checks
  /-- What a service answers. -/
  answer : Http.Request → Http.Reply
  /-- What the loop of the session sees. -/
  events : List SessionEvent

namespace Run

/-- The client of a broker that a bus is. -/
def client (i : BusRef) : Run (BusClient Receiver) := do (← bus i).client?

/-- Changes the client of a broker that a bus is. -/
def updateClient (i : BusRef) (change : BusClient Receiver → BusClient Receiver) : Run Unit :=
  updateBus i fun b =>
    match b.medium with
    | .broker c => { b with medium := .broker (change c) }
    | .process _ => b

/-- Begins a session with a broker. -/
def startSession (i : BusRef) (broker : Broker) (credentials : Credentials) : Run Outcome := do
  let (outcome, c) := (← client i).start broker credentials
  updateClient i fun _ => c
  pure outcome

/-- Lets the loop of a session see an event. -/
def seeEvent (call : Call) (i : BusRef) (session : Nat) (event : SessionEvent) : Run Unit := do
  updateClient i (·.react session event)
  match event with
  | .message topic payload =>
    match topic.toString? with
    | some text => ((← client i).receivers topic).forM (accept call { topic := text, payload })
    | none => pure ()
  | _ => pure ()

/-- Lets the loop of the session that requests go to see events. -/
def seeEvents (call : Call) (i : BusRef) (events : List SessionEvent) : Run Unit := do
  match (← client i).installed with
  | some session => events.forM (seeEvent call i session)
  | none => pure ()

/-- Ends the wait for a broker. -/
def concludeSession (i : BusRef) (broker : Broker) : Run Outcome := do
  let (outcome, c) := (← client i).conclude broker
  updateClient i fun _ => c
  pure outcome

/-- Connects a bus to a broker. -/
def connectBus (call : Call) (i : BusRef) (broker : Broker) (credentials : Credentials)
    (events : List SessionEvent) : Run Outcome := do
  match ← startSession i broker credentials with
  | .error e => pure (.error e)
  | .ok () =>
    seeEvents call i events
    concludeSession i broker

/-- Connects a bus to a broker by two calls at once. The session of the second replaces that of the
    first, and both calls wait for what it sees. -/
def connectBusTwice (call : Call) (i : BusRef) (broker : Broker) (credentials : Credentials)
    (events : List SessionEvent) : Run (Outcome × Outcome) := do
  let first ← startSession i broker credentials
  let second ← startSession i broker credentials
  seeEvents call i events
  let conclude := fun (started : Outcome) =>
    match started with
    | .ok () => concludeSession i broker
    | .error e => pure (.error e)
  let first ← conclude first
  let second ← conclude second
  pure (first, second)

/-! ## The consumer -/

/-- Notes a request and asks a service. -/
def ask (hub : Hub) (r : Http.Request) : Run Http.Reply := do
  note (.asked r)
  pure (Http.ask hub.answer r)

/-- The store of a consumer's descriptions, loaded from its cache. A cache that cannot be loaded
    leaves it empty. -/
def loadStore : Run ThingStore := do
  let s ← get
  let fresh : ThingStore :=
    { account := s.consumer.account.id, cacheFile := s.consumer.cacheFile? }
  let (_, catalogue, store) := fresh.load s.disk s.catalogue
  modify fun s => { s with catalogue }
  pure store

/-- Gives the consumer a store loaded from its cache. -/
def reloadStore : Run Unit := do
  let store ← loadStore
  updateConsumer fun c => { c with store }

/-- Caches the descriptions of the consumer in a directory. -/
def cacheIn (directory : Path) : Run Unit := do
  updateConsumer fun c => { c with cacheDirectory := some directory }
  reloadStore

/-- Disconnects the bus of the consumer and saves its descriptions. That they could not be saved
    does not count. -/
def disconnectConsumer : Run Unit := do
  updateBus (← get).consumer.bus (·.disconnect)
  updateStatus fun status => { status with connected := false }
  modify fun s => { s with disk := (s.consumer.store.save s.disk s.catalogue).2 }

/-- Starts afresh. -/
def reset : Run Unit := do
  disconnectConsumer
  updateStatus fun status => { status with message := "" }
  reloadStore

/-- Gets tokens with a password, if one is given, and with the token of the last authentication
    otherwise. -/
def requestTokens (hub : Hub) (c : Http.Client) (password : Option String) :
    Run (Except Error AuthTokens) := do
  let consumer := (← get).consumer
  match password.filter (· ≠ "") with
  | some password =>
    let r := Authentication.login c consumer.account.loginName password
    pure (Authentication.tokens? r (← ask hub r))
  | none =>
    match consumer.refreshToken with
    | some token =>
      let r := Authentication.refresh c token
      pure (Authentication.tokens? r (← ask hub r))
    | none => pure (.error ⟨.auth, "No token to refresh, a password is required"⟩)

/-- Authenticates the account. A failure leaves the last authentication as it was. -/
def authenticate (hub : Hub) (password : Option String) : Run (Except Error AuthTokens) := do
  let consumer := (← get).consumer
  match Authentication.client? hub.checks consumer.account consumer.caCertificate with
  | .error e => pure (.error e)
  | .ok c =>
    let tokens ← requestTokens hub c password
    match tokens with
    | .ok tokens =>
      updateConsumer fun c => { c with refreshToken := some tokens.refreshToken }
      updateStatus fun status =>
        { status with
          authenticated := true
          accessToken := tokens.accessToken
          authStatus := "Authenticated" }
    | .error e => updateStatus fun status => { status with message := e.message }
    pure tokens

/-- Notes that the directory could not be read. -/
def directoryFailed (e : Error) : Run Unit :=
  updateStatus fun status => { status with directoryRead := false, message := e.message }

/-- Adds descriptions to the store of the consumer. -/
def storeDescriptions (descriptions : List ThingDescription) : Run Unit := do
  let s ← get
  let (catalogue, store) := s.consumer.store.addAll descriptions s.catalogue
  set { s with catalogue, consumer := { s.consumer with store } }

/-- Reads the directory with a token, a certificate, or neither. -/
def readDirectory (hub : Hub) (token : Option String) (identity : Option ClientCertificate) :
    Run Unit := do
  let consumer := (← get).consumer
  match Directory.client? hub.checks consumer.account consumer.caCertificate identity with
  | .error e => directoryFailed e
  | .ok c =>
    let r := Directory.things c token
    match Directory.descriptions? r (← ask hub r) with
    | .error e => directoryFailed e
    | .ok descriptions =>
      storeDescriptions descriptions
      updateStatus fun status => { status with directoryRead := true }

/-- Connects the bus of the consumer. -/
def connectConsumerBus (call : Call) (hub : Hub) (credentials : Credentials) : Run Outcome := do
  let consumer := (← get).consumer
  let broker : Broker := ⟨consumer.account.address, consumer.account.mqttPort⟩
  let outcome ← connectBus call consumer.bus broker credentials hub.events
  match outcome with
  | .ok () => updateStatus fun status => { status with connected := true }
  | .error e =>
    updateStatus fun status => { status with connected := false, message := e.message }
  pure outcome

/-- Connects the consumer with a password, or with the tokens of the last authentication. -/
def connect (call : Call) (hub : Hub) (password : Option String) : Run Outcome := do
  reset
  match ← authenticate hub password with
  | .error e => pure (.error e)
  | .ok tokens =>
    readDirectory hub (some tokens.accessToken) none
    let login := (← get).consumer.account.loginName
    connectConsumerBus call hub (.accessToken login tokens.accessToken)

/-- Connects the consumer with a certificate. -/
def connectWithCertificate (call : Call) (hub : Hub) (certificate : ClientCertificate) :
    Run Outcome := do
  reset
  match ← connectConsumerBus call hub (.certificate certificate) with
  | .error e => pure (.error e)
  | .ok () =>
    readDirectory hub none (some certificate)
    pure .done

end Run

end WebOfThings
