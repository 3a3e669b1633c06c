import WebOfThings.Json.Record

/-!
# Accounts

An account of a consumer on a hub: the address of the hub, the ports of its three services, and
the name to log in by.
-/

namespace WebOfThings

/-- An account on a hub. -/
structure Account where
  /-- The address of the hub. -/
  address : String
  /-- The identifier of the account. -/
  id : String
  /-- The name shown to people. -/
  displayName : String
  /-- The name to log in by. -/
  loginName : String
  /-- The port of the authentication service. -/
  authPort : UInt16 := 8881
  /-- The port of the directory service. -/
  directoryPort : UInt16 := 8886
  /-- The port of the broker. -/
  mqttPort : UInt16 := 8883
  /-- Whether the account is in use. -/
  enabled : Bool := true
  /-- Whether tokens may be kept between sessions. -/
  rememberMe : Bool := false
  deriving DecidableEq, Repr, Inhabited

namespace Account

/-- An account that is shown to people by its identifier. -/
def create (id address loginName : String) : Account :=
  { address, id, displayName := id, loginName }

/-- A port as a value. -/
def portJson (port : UInt16) : Json := Json.ofInt port.toNat

/-- How an account is written. -/
def toJson (a : Account) : Json :=
  .object (Record.field "address" (.string a.address) ++
    Record.field "id" (.string a.id) ++
    Record.field "name" (.string a.displayName) ++
    Record.field "loginName" (.string a.loginName) ++
    Record.field "authPort" (portJson a.authPort) ++
    Record.field "directoryPort" (portJson a.directoryPort) ++
    Record.field "mqttPort" (portJson a.mqttPort) ++
    Record.field "enabled" (.bool a.enabled) ++
    Record.field "rememberMe" (.bool a.rememberMe))

/-- The names of the fields of an account, in their order. -/
def fieldNames : List String :=
  ["address", "id", "name", "loginName", "authPort", "directoryPort", "mqttPort", "enabled",
    "rememberMe"]

/-- Reads an account. -/
def reader : Reader Account := fun depth document => do
  let r ← Record.fields? fieldNames depth document
  let address ← r.required "address" Reader.string
  let id ← r.required "id" Reader.string
  let displayName ← r.withDefault "name" "" Reader.string
  let loginName ← r.required "loginName" Reader.string
  let authPort ← r.withDefault "authPort" 8881 Reader.port
  let directoryPort ← r.withDefault "directoryPort" 8886 Reader.port
  let mqttPort ← r.withDefault "mqttPort" 8883 Reader.port
  let enabled ← r.withDefault "enabled" true Reader.bool
  let rememberMe ← r.withDefault "rememberMe" false Reader.bool
  some { address, id, displayName, loginName, authPort, directoryPort, mqttPort, enabled,
         rememberMe }

end Account

end WebOfThings
