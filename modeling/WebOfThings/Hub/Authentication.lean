import WebOfThings.Hub.Account
import WebOfThings.Hub.Http
import WebOfThings.Json.Writing

/-!
# The authentication service

A client logs in with a name and a password, or refreshes the tokens it got before. Both are a
request that answers with a pair of tokens; an answer that is refused, that is none, or whose
access token is empty, is an error. Tokens are not shown to a developer.
-/

namespace WebOfThings

/-- What the authentication service answers. -/
structure AuthTokens where
  /-- Lets a client in, for a short time. -/
  accessToken : String
  /-- Gets a new pair of tokens. -/
  refreshToken : String
  deriving DecidableEq, Repr, Inhabited

namespace AuthTokens

/-- How tokens are written. -/
def toJson (t : AuthTokens) : Json :=
  .object [("accessToken", .string t.accessToken), ("refreshToken", .string t.refreshToken)]

/-- Reads tokens. -/
def reader : Reader AuthTokens := fun depth document => do
  let r ← Record.fields? ["accessToken", "refreshToken"] depth document
  let accessToken ← r.required "accessToken" Reader.string
  let refreshToken ← r.required "refreshToken" Reader.string
  some { accessToken, refreshToken }

/-- How tokens are shown: not at all. -/
def inspect (_ : AuthTokens) : String := Inspection.record "AuthTokens" [] true

end AuthTokens

namespace Authentication

/-- A client of the authentication service of an account. -/
def client? (checks : Http.Checks) (a : Account) (ca : Option Bytes) :
    Except Error Http.Client :=
  Http.Client.create? checks (Http.serviceUrl a.address a.authPort) ca none

/-- A request that carries a record. -/
def post (c : Http.Client) (path : String) (fields : List (String × String)) : Http.Request :=
  { method := .post
    url := c.baseUrl ++ "/" ++ path
    contentType := some "application/json"
    body := (Json.object (fields.map fun (name, value) => (name, .string value))).compact }

/-- The request to log in. -/
def login (c : Http.Client) (login password : String) : Http.Request :=
  post c "login" [("login", login), ("password", password)]

/-- The request for new tokens. -/
def refresh (c : Http.Client) (token : String) : Http.Request :=
  post c "refresh" [("refreshToken", token)]

/-- The tokens in the reply to a request. -/
def tokens? (r : Http.Request) : Http.Reply → Except Error AuthTokens
  | .nothing => failure s!"Request to `{url}` failed"
  | .answer status body =>
    if Http.isRefusal status then failure s!"Request to `{url}` refused"
    else
      match AuthTokens.reader.read? body with
      | none => failure s!"Invalid response from `{url}`"
      | some tokens =>
        if tokens.accessToken = "" then failure s!"No access token from `{url}`" else .ok tokens
where
  /-- Where the request went. -/
  url : String := r.url
  /-- Nothing was obtained. -/
  failure (info : String) : Except Error AuthTokens := .error ⟨.auth, info⟩

end Authentication

end WebOfThings
