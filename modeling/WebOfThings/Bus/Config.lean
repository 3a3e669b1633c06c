import WebOfThings.Duration
import WebOfThings.Inspection

/-!
# How a bus client is set up

The broker to connect to, the credentials shown to it, and the settings that hold for every
connection. After a connection was lost, the client waits before it tries again: the first wait is
given, each further one is twice as long, and none is longer than a bound (`ReconnectPolicy.delay`).

Settings are shown to a developer without the secrets among them.
-/

namespace WebOfThings

/-- How a message may get lost or come twice. -/
inductive Quality
  | atMostOnce
  | atLeastOnce
  | exactlyOnce
  deriving DecidableEq, Repr, Inhabited

/-- How a quality is shown. -/
def Quality.inspect : Quality → String
  | atMostOnce => "AtMostOnce"
  | atLeastOnce => "AtLeastOnce"
  | exactlyOnce => "ExactlyOnce"

/-- How long to wait before connecting again. -/
structure ReconnectPolicy where
  /-- The wait after the first failure. -/
  initial : Duration := .ofMilliseconds 500
  /-- The bound of all waits. -/
  max : Duration := .ofSeconds 30
  deriving DecidableEq, Repr, Inhabited

namespace ReconnectPolicy

/-- How many times the first wait is waited after `attempt` further failures. It doubles each
    time for as long as it fits in 32 bits. -/
def factor (attempt : Nat) : Nat := if attempt < 32 then Nat.pow 2 attempt else Nat.pow 2 32 - 1

/-- The wait after `attempt` further failures. A multiple of the first wait that is no duration
    any more is over the bound as well. -/
def delay (p : ReconnectPolicy) (attempt : Nat) : Duration :=
  let product := p.initial.nanoseconds * factor attempt
  if product < Duration.secondsLimit * Duration.perSecond then
    ⟨min product p.max.nanoseconds⟩
  else p.max

/-- How a policy is shown. -/
def inspect (p : ReconnectPolicy) : String :=
  Inspection.record "ReconnectPolicy"
    [("initial", p.initial.inspect), ("max", p.max.inspect)] false

end ReconnectPolicy

/-- The settings of a bus client. -/
structure BusConfig where
  /-- The name under which the client is known to the broker. -/
  clientId : String
  /-- The certificates by which the broker is recognised; without them nothing is encrypted. -/
  caCertificate : Option Bytes := none
  /-- How long the connection may be idle before the client gives a sign of life. -/
  keepAlive : Duration := .ofSeconds 5
  /-- How long the broker may take to accept the connection. -/
  connectTimeout : Duration := .ofSeconds 3
  /-- How many requests may wait to be sent. -/
  channelCapacity : Nat := 64
  /-- The quality of what is published and subscribed. -/
  quality : Quality := .atLeastOnce
  /-- How long to wait before connecting again. -/
  reconnect : ReconnectPolicy := {}
  deriving DecidableEq, Repr, Inhabited

/-- How settings are shown. -/
def BusConfig.inspect (c : BusConfig) : String :=
  Inspection.record "BusConfig"
    [("client_id", Inspection.quoted c.clientId),
     ("ca_certificate", Inspection.option Inspection.bytes c.caCertificate),
     ("keep_alive", c.keepAlive.inspect),
     ("connect_timeout", c.connectTimeout.inspect),
     ("channel_capacity", toString c.channelCapacity),
     ("qos", c.quality.inspect),
     ("reconnect", c.reconnect.inspect)] false

/-- Where a broker listens. -/
structure Broker where
  /-- A host name or an address. -/
  address : String
  /-- The port. -/
  port : UInt16
  deriving DecidableEq, Repr, Inhabited

namespace Broker

/-- The text of a broker's place. -/
def text (b : Broker) : String := b.address ++ ":" ++ toString b.port.toNat

/-- How a broker is shown. -/
def inspect (b : Broker) : String :=
  Inspection.record "BrokerData"
    [("address", Inspection.quoted b.address), ("port", toString b.port.toNat)] false

end Broker

/-- A client's certificate and its private key, in textual encoding. -/
structure ClientCertificate where
  /-- The certificate. -/
  certificate : Bytes
  /-- The private key. -/
  key : Bytes
  deriving DecidableEq, Repr, Inhabited

/-- How a client certificate is shown: by its length. -/
def ClientCertificate.inspect (c : ClientCertificate) : String :=
  Inspection.record "ClientCertificate" [("certificate", toString c.certificate.length)] true

/-- What a client shows to be let in. -/
inductive Credentials
  /-- Nothing. -/
  | anonymous
  /-- A certificate. -/
  | certificate (certificate : ClientCertificate)
  /-- A login name and a password. -/
  | password (login password : String)
  /-- A login name and a token from the authentication service. -/
  | accessToken (login token : String)
  deriving DecidableEq, Repr, Inhabited

/-- How credentials are shown: without what is secret. -/
def Credentials.inspect : Credentials → String
  | anonymous => "Anonymous"
  | certificate c => c.inspect
  | password login _ => "Password(" ++ login ++ ")"
  | accessToken login _ => "AccessToken(" ++ login ++ ")"

end WebOfThings
