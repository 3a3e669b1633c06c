import WebOfThings.Bus.Config
import WebOfThings.Error
import WebOfThings.Hub.Pem

/-!
# Requests to the services of a hub

A request, and what may come back: an answer with a status, or none at all. A client of a service
is set up with the certificates it trusts and the one it shows (`Http.Client.create?`); whether
bytes are a certificate, and a key belongs to one, is for others to say (`Http.Checks`).
-/

namespace WebOfThings.Http

/-- What a request does. -/
inductive Method
  | get
  | post
  deriving DecidableEq, Repr, Inhabited

/-- A request to a service. -/
structure Request where
  /-- What it does. -/
  method : Method
  /-- Where it goes. -/
  url : String
  /-- What it is allowed by. -/
  authorization : Option String := none
  /-- The type of what it carries. -/
  contentType : Option String := none
  /-- What it carries. -/
  body : Bytes := []
  deriving DecidableEq, Repr, Inhabited

/-- What comes back from a service. -/
inductive Reply
  /-- Nothing: the service was not reached, or did not answer. -/
  | nothing
  /-- An answer. -/
  | answer (status : Nat) (body : Bytes)
  deriving DecidableEq, Repr, Inhabited

/-- Whether a status is a refusal. -/
def isRefusal (status : Nat) : Bool := 400 ≤ status && status < 600

/-- Whether a text can stand in the head of a request. -/
def isHeaderText (s : String) : Bool :=
  s.toList.all fun c => c = '\t' || (' ' ≤ c && c ≠ '\x7f')

/-- Whether a request can be sent. -/
def Request.isSendable (r : Request) : Bool := r.authorization.all isHeaderText

/-- What comes back for a request, given what the service would answer. -/
def ask (answer : Request → Reply) (r : Request) : Reply :=
  if r.isSendable then answer r else .nothing

/-- What is known of certificates and keys. -/
structure Checks where
  /-- Whether bytes are a certificate. -/
  isCertificate : Bytes → Bool
  /-- Whether a key belongs to the first of some certificates. -/
  isIdentity : List Bytes → Bytes → Bool

/-- What is known if these are all certificates there are: some of authorities, and some of
    clients with their keys. -/
def Checks.ofKnown (authorities : List Bytes) (clients : List (Bytes × Bytes)) : Checks :=
  let isCertificate := fun der => authorities.contains der || clients.any (·.1 = der)
  { isCertificate
    isIdentity := fun certificates key =>
      certificates.all isCertificate &&
        certificates.head?.any fun der => clients.contains (der, key) }

/-- A client of a service. -/
structure Client where
  /-- Where the service is. -/
  baseUrl : String
  deriving DecidableEq, Repr, Inhabited

/-- The address of a service. -/
def serviceUrl (address : String) (port : UInt16) : String :=
  s!"https://{address}:" ++ toString port.toNat

/-- An address without the slash at its end, if there is one. -/
def trim (url : String) : String :=
  match url.toList.reverse with
  | '/' :: rest => String.ofList rest.reverse
  | _ => url

/-- The certificates of a text, which must hold one. -/
def certificates? (text : Bytes) (what : String) : Except Error (List Bytes) :=
  match Pem.certificates? text with
  | none => .error ⟨.config, s!"Invalid {what}: builder error"⟩
  | some [] => .error ⟨.config, s!"Invalid {what}: no PEM certificate found"⟩
  | some certificates => .ok certificates

/-- The certificates and the key of a client that shows one. -/
def identity? (c : ClientCertificate) : Except Error (List Bytes × Bytes) := do
  let _ ← certificates? c.certificate "client certificate"
  match Pem.identity? (c.certificate ++ 0x0A :: c.key) with
  | some identity => .ok identity
  | none => .error ⟨.config, "Invalid client certificate: builder error"⟩

/-- A client of a service. Texts are read first, and what they hold is checked in the end. -/
def Client.create? (checks : Checks) (baseUrl : String) (ca : Option Bytes)
    (identity : Option ClientCertificate) : Except Error Client := do
  let trusted ← match ca with
    | some text => certificates? text "certificate authority"
    | none => .ok []
  let shown ← identity.mapM identity?
  let shownIsValid := match shown with
    | some (certificates, key) => checks.isIdentity certificates key
    | none => true
  if trusted.all checks.isCertificate && shownIsValid then .ok ⟨trim baseUrl⟩
  else .error ⟨.config, "Unable to create the HTTP client: builder error"⟩

end WebOfThings.Http
