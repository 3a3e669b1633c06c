import WebOfThings.Description.Basic
import WebOfThings.Hub.Account
import WebOfThings.Hub.Http

/-!
# The directory service

A client reads the descriptions of all things that a hub knows. It is let in by an access token,
or by the certificate that it shows.
-/

namespace WebOfThings.Directory

/-- A client of the directory service of an account. -/
def client? (checks : Http.Checks) (a : Account) (ca : Option Bytes)
    (identity : Option ClientCertificate) : Except Error Http.Client :=
  Http.Client.create? checks (Http.serviceUrl a.address a.directoryPort) ca identity

/-- The request for all descriptions. -/
def things (c : Http.Client) (token : Option String) : Http.Request :=
  { method := .get, url := c.baseUrl ++ "/things", authorization := token.map ("Bearer " ++ ·) }

/-- The descriptions in the reply to a request. -/
def descriptions? (r : Http.Request) : Http.Reply → Except Error (List ThingDescription)
  | .nothing => .error ⟨.transport, s!"Request to `{url}` failed"⟩
  | .answer status body =>
    if Http.isRefusal status then .error ⟨.auth, s!"Request to `{url}` refused"⟩
    else
      match (Reader.list ThingDescription.reader).read? body with
      | some descriptions => .ok descriptions
      | none => .error ⟨.decode, s!"Invalid directory from `{url}`"⟩
where
  /-- Where the request went. -/
  url : String := r.url

/-- How a client is shown. -/
def inspect (c : Http.Client) : String :=
  Inspection.record "DirectoryClient" [("base_url", Inspection.quoted c.baseUrl)] true

end WebOfThings.Directory
