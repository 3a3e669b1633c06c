import WebOfThings.Proofs.Run
import WebOfThings.Site.Connection

/-!
# What a consumer asks of its hub

A consumer asks the services of its hub for tokens and for descriptions. What it asks and what comes
of it depends on who calls (`Caller`), on the hub, and on the token of the last authentication; it
changes what the consumer knows of its hub (`Standing`), the requests that were noted, and the
descriptions that it has (`Site.Stocks`). So every one of these steps always ends, and is given here
by what it does to the standing of the consumer: authenticating (`Run.run_authenticate`), reading
the directory (`Run.run_readDirectory`), and starting afresh (`Run.run_reset`).
-/

namespace WebOfThings

open Run

/-- Who calls on a hub: an account, and the certificates by which services are recognised. -/
structure Caller where
  /-- The account. -/
  account : Account
  /-- The certificates. -/
  caCertificate : Option Bytes

/-- What a consumer knows of its hub. -/
structure Standing where
  /-- How it is connected. -/
  status : ConnectionStatus := {}
  /-- The token that gets new tokens. -/
  refreshToken : Option String := none

namespace ConsumerFactory

/-- The caller that a consumer is. -/
def caller (k : ConsumerFactory) : Caller := ⟨k.account, k.caCertificate⟩

/-- What the consumer knows of its hub. -/
def standing (k : ConsumerFactory) : Standing := ⟨k.status, k.refreshToken⟩

/-- The consumer when it knows something else of its hub. -/
def withStanding (st : Standing) (k : ConsumerFactory) : ConsumerFactory :=
  { k with status := st.status, refreshToken := st.refreshToken }

end ConsumerFactory

/-- The consumer of a site is the same caller on the same bus, and knows something of its hub. -/
structure Site.Stands (s s' : Site) (st : Standing) : Prop where
  /-- It is the same caller. -/
  caller : s'.consumer.caller = s.consumer.caller
  /-- It has the same bus. -/
  bus : s'.consumer.bus = s.consumer.bus
  /-- This is what it knows. -/
  standing : s'.consumer.standing = st

theorem Site.Stands.trans {s s' s'' : Site} {st st' : Standing} (h : s.Stands s' st)
    (h' : s'.Stands s'' st') : s.Stands s'' st' :=
  ⟨h'.caller.trans h.caller, h'.bus.trans h.bus, h'.standing⟩

/-- The consumer of a site has the same cache file, and its store got descriptions. -/
structure Site.Stocks (s s' : Site) (ds : List ThingDescription) : Prop where
  /-- The cache file is the same. -/
  cacheFile : s'.consumer.cacheFile? = s.consumer.cacheFile?
  /-- The descriptions are shared. -/
  catalogue : s'.catalogue = (s.consumer.store.addAll ds s.catalogue).1
  /-- The store has them. -/
  store : s'.consumer.store = (s.consumer.store.addAll ds s.catalogue).2

theorem exists_of_bind_eq_ok {α β : Type} {x : Except Error α} {f : α → Except Error β} {b : β}
    (h : x >>= f = .ok b) : ∃ a, x = .ok a ∧ f a = .ok b := by
  cases x with
  | error e => contradiction
  | ok a => exact ⟨a, rfl, h⟩

/-! ## Asking -/

namespace Caller

variable (who : Caller)

/-- Where a path of the authentication service is. -/
def authUrl (path : String) : String :=
  Http.trim (Http.serviceUrl who.account.address who.account.authPort) ++ "/" ++ path

/-- The request to log in with a password. -/
def loginRequest (password : String) : Http.Request :=
  { method := .post
    url := who.authUrl "login"
    contentType := some "application/json"
    body := (Json.object
      [("login", .string who.account.loginName), ("password", .string password)]).compact }

/-- The request to refresh tokens. -/
def refreshRequest (token : String) : Http.Request :=
  { method := .post
    url := who.authUrl "refresh"
    contentType := some "application/json"
    body := (Json.object [("refreshToken", .string token)]).compact }

/-- What is asked of the authentication service: to log in if there is a password, and otherwise to
    refresh the tokens that there are. -/
def tokenRequest? (password token : Option String) : Option Http.Request :=
  match password.filter (· ≠ "") with
  | some password => some (who.loginRequest password)
  | none => token.map who.refreshRequest

theorem tokenRequest?_of_password {text : String} (h : text ≠ "") (token : Option String) :
    who.tokenRequest? (some text) token = some (who.loginRequest text) := by
  simp [tokenRequest?, Option.filter, h]

/-- No password is as good as an empty one. -/
theorem tokenRequest?_of_not_password {password : Option String}
    (h : password = none ∨ password = some "") (token : Option String) :
    who.tokenRequest? password token = token.map who.refreshRequest := by
  rcases h with rfl | rfl <;> rfl

/-- Without a password and without a token, nothing can be asked. -/
def noToken : Error := ⟨.auth, "No token to refresh, a password is required"⟩

/-- A client of the authentication service. -/
def authentication? (hub : Hub) : Except Error Http.Client :=
  Authentication.client? hub.checks who.account who.caCertificate

/-- What comes of asking for tokens. -/
def answer (hub : Hub) (password token : Option String) : Except Error AuthTokens :=
  match who.tokenRequest? password token with
  | some r => Authentication.tokens? r (Http.ask hub.answer r)
  | none => .error noToken

/-- How an authentication ends. -/
def tokens (hub : Hub) (password token : Option String) : Except Error AuthTokens :=
  match who.authentication? hub with
  | .error e => .error e
  | .ok _ => who.answer hub password token

/-- What an authentication asks. -/
def asked (hub : Hub) (password token : Option String) : List Http.Request :=
  match who.authentication? hub with
  | .error _ => []
  | .ok _ => (who.tokenRequest? password token).toList

/-- How reading the directory ends. -/
def things (hub : Hub) (token : Option String) (identity : Option ClientCertificate) :
    Except Error (List ThingDescription) :=
  match Directory.client? hub.checks who.account who.caCertificate identity with
  | .error e => .error e
  | .ok c =>
    let r := Directory.things c token
    Directory.descriptions? r (Http.ask hub.answer r)

end Caller

/-- A reply brings a pair of tokens: it is an answer and no refusal, what it carries is a pair, and
    the access token of the pair is not empty. -/
def Http.Reply.Brings (reply : Http.Reply) (pair : AuthTokens) : Prop :=
  ∃ status body, reply = .answer status body ∧ Http.isRefusal status = false ∧
    AuthTokens.reader.read? body = some pair ∧ pair.accessToken ≠ ""

namespace Authentication

variable {who : Caller} {hub : Hub} {c : Http.Client}

/-- A client goes to the service of its caller. -/
theorem baseUrl_of_client? (h : who.authentication? hub = .ok c) :
    c.baseUrl = Http.trim (Http.serviceUrl who.account.address who.account.authPort) := by
  unfold Caller.authentication? client? Http.Client.create? at h
  -- whether there are certificates to trust or not, the same is done with them
  split at h <;>
  · obtain ⟨trusted, -, h⟩ := exists_of_bind_eq_ok h
    obtain ⟨shown, hshown, h⟩ := exists_of_bind_eq_ok h
    obtain rfl := Except.ok.inj hshown
    dsimp only at h
    split at h
    · exact Except.ok.inj h ▸ rfl
    · contradiction

theorem login_eq (h : who.authentication? hub = .ok c) (password : String) :
    login c who.account.loginName password = who.loginRequest password := by
  simp [login, post, Caller.loginRequest, Caller.authUrl, baseUrl_of_client? h]

theorem refresh_eq (h : who.authentication? hub = .ok c) (token : String) :
    refresh c token = who.refreshRequest token := by
  simp [refresh, post, Caller.refreshRequest, Caller.authUrl, baseUrl_of_client? h]

/-- A reply is accepted if and only if it brings a pair of tokens. -/
theorem tokens?_eq_ok_iff {r : Http.Request} {reply : Http.Reply} {pair : AuthTokens} :
    tokens? r reply = .ok pair ↔ reply.Brings pair := by
  constructor
  · -- every check that fails ends in an error, so what is left at the end passed all of them
    intro h
    cases reply with
    | nothing => contradiction
    | answer status body =>
      simp only [tokens?] at h
      split at h
      · contradiction
      next hrefusal =>
      split at h
      · contradiction
      next pair' hread =>
      split at h
      · contradiction
      next hne =>
      obtain rfl := Except.ok.inj h
      exact ⟨status, body, rfl, by simpa using hrefusal, hread, hne⟩
  · rintro ⟨status, body, rfl, hrefusal, hread, hne⟩
    simp [tokens?, hrefusal, hread, hne]

end Authentication

/-! ## What the standing tells of each step -/

namespace Standing

/-- The standing after the authentication service was asked. -/
def told (result : Except Error AuthTokens) (st : Standing) : Standing :=
  match result with
  | .ok pair =>
    { refreshToken := some pair.refreshToken
      status := { st.status with
        authenticated := true
        accessToken := pair.accessToken
        authStatus := "Authenticated" } }
  | .error e => { st with status := { st.status with message := e.message } }

/-- The standing after an authentication, which asks nothing without a client of the service. -/
def authenticated (who : Caller) (hub : Hub) (password : Option String) (st : Standing) :
    Standing :=
  match who.authentication? hub with
  | .error _ => st
  | .ok _ => st.told (who.answer hub password st.refreshToken)

/-- The standing when a consumer starts afresh. -/
def restarted (st : Standing) : Standing :=
  { st with status := { st.status with connected := false, message := "" } }

/-- The standing after the directory was read, or not. -/
def read (result : Except Error (List ThingDescription)) (st : Standing) : Standing :=
  match result with
  | .ok _ => { st with status := { st.status with directoryRead := true } }
  | .error e =>
    { st with status := { st.status with directoryRead := false, message := e.message } }

/-- The standing after the bus was connected, or not. -/
def concluded (outcome : Outcome) (st : Standing) : Standing :=
  match outcome with
  | .ok () => { st with status := { st.status with connected := true } }
  | .error e => { st with status := { st.status with connected := false, message := e.message } }

end Standing

namespace Run

variable {hub : Hub} {password : Option String} {s : Site}

theorem run_requestTokens {c : Http.Client} (h : s.consumer.caller.authentication? hub = .ok c) :
    (requestTokens hub c password).run s =
      some (s.consumer.caller.answer hub password s.consumer.refreshToken,
        { s with journal :=
          ((s.consumer.caller.tokenRequest? password s.consumer.refreshToken).toList.map
            Entry.asked) ++ s.journal }) := by
  have hget : (get : Run Site).run s = some (s, s) := rfl
  have hlogin := Authentication.login_eq h
  have hrefresh := Authentication.refresh_eq h
  rw [requestTokens, run_bind_of_run hget]
  simp only [Caller.answer, Caller.tokenRequest?]
  cases password.filter (· ≠ "") with
  | some password => simp only [← hlogin]; rfl
  | none =>
    cases s.consumer.refreshToken with
    | some token => simp only [Option.map_some, ← hrefresh]; rfl
    | none => rfl

/-- An authentication always ends. It asks at most once, and changes nothing but what the consumer
    knows of its hub. -/
theorem run_authenticate (hub : Hub) (password : Option String) (s : Site) :
    (authenticate hub password).run s =
      some (s.consumer.caller.tokens hub password s.consumer.refreshToken,
        { s with
          journal := (s.consumer.caller.asked hub password s.consumer.refreshToken).map
            Entry.asked ++ s.journal
          consumer := s.consumer.withStanding
            (s.consumer.standing.authenticated s.consumer.caller hub password) }) := by
  have hget : (get : Run Site).run s = some (s, s) := rfl
  rw [authenticate, run_bind_of_run hget]
  simp only [Caller.tokens, Caller.asked, Standing.authenticated]
  cases h : s.consumer.caller.authentication? hub with
  | error e =>
    simp only [show Authentication.client? hub.checks s.consumer.account s.consumer.caCertificate =
      .error e from h]
    rfl
  | ok c =>
    simp only [show Authentication.client? hub.checks s.consumer.account s.consumer.caCertificate =
      .ok c from h]
    rw [run_bind_of_run (run_requestTokens h)]
    simp only [ConsumerFactory.standing]
    cases s.consumer.caller.answer hub password s.consumer.refreshToken <;> rfl

theorem stands_withStanding {s s' : Site} {st : Standing}
    (h : s'.consumer = s.consumer.withStanding st) : s.Stands s' st := by
  constructor <;> rw [h] <;> rfl

/-- Reading the directory always ends, and adds what it answers. -/
theorem run_readDirectory (hub : Hub) (token : Option String)
    (identity : Option ClientCertificate) (s : Site) :
    ∃ s' entries, (readDirectory hub token identity).run s = some (.unit, s') ∧
      s'.buses = s.buses ∧ s'.journal = entries ++ s.journal ∧
      s.Stands s' (s.consumer.standing.read (s.consumer.caller.things hub token identity)) ∧
      s.Stocks s' ((s.consumer.caller.things hub token identity).toOption.getD []) := by
  have hget : (get : Run Site).run s = some (s, s) := rfl
  rw [readDirectory, run_bind_of_run hget]
  simp only [ConsumerFactory.caller, Caller.things]
  cases Directory.client? hub.checks s.consumer.account s.consumer.caCertificate identity with
  | error e => exact ⟨_, [], rfl, rfl, rfl, ⟨rfl, rfl, rfl⟩, rfl, rfl, rfl⟩
  | ok c =>
    have hask : (ask hub (Directory.things c token)).run s =
      some (Http.ask hub.answer (Directory.things c token),
        { s with journal := .asked (Directory.things c token) :: s.journal }) := rfl
    dsimp only
    rw [run_bind_of_run hask]
    cases Directory.descriptions? (Directory.things c token)
      (Http.ask hub.answer (Directory.things c token)) with
    | error e => exact ⟨_, [_], rfl, rfl, rfl, ⟨rfl, rfl, rfl⟩, rfl, rfl, rfl⟩
    | ok descriptions => exact ⟨_, [_], rfl, rfl, rfl, ⟨rfl, rfl, rfl⟩, rfl, rfl, rfl⟩

/-- Starting afresh always ends. -/
theorem run_reset (s : Site) : ∃ s', reset.run s = some (.unit, s') ∧
    s'.buses = s.buses.update s.consumer.bus (·.disconnect) ∧ s'.journal = s.journal ∧
    s.Stands s' s.consumer.standing.restarted :=
  ⟨_, rfl, rfl, rfl, rfl, rfl, rfl⟩

/-- Connecting with tokens starts afresh and authenticates. Without tokens that is all; with them
    the directory is read, and then the bus is connected. -/
theorem opened_of_run_connect {call : Call} {s' : Site} {outcome : Outcome}
    (h : (connect call hub password).run s = some (outcome, s')) :
    (∃ e, s.consumer.caller.tokens hub password s.consumer.refreshToken = .error e ∧
      outcome = .error e ∧ (∃ entries, s'.journal = entries ++ s.journal) ∧ s.Stands s'
        (s.consumer.standing.restarted.authenticated s.consumer.caller hub password)) ∨
    ∃ pair s₁ entries, s.consumer.caller.tokens hub password s.consumer.refreshToken = .ok pair ∧
      s₁.buses = s.buses.update s.consumer.bus (·.disconnect) ∧ s₁.journal = entries ++ s.journal ∧
      s.Stands s₁ ((s.consumer.standing.restarted.authenticated s.consumer.caller hub password).read
        (s.consumer.caller.things hub (some pair.accessToken) none)) ∧
      (connectConsumerBus call hub
        (.accessToken s.consumer.account.loginName pair.accessToken)).run s₁ =
          some (outcome, s') := by
  obtain ⟨s₁, hreset, hbuses, hjournal, hstands⟩ := run_reset s
  rw [connect, run_bind_of_run hreset, run_bind_of_run (run_authenticate hub password s₁),
    hstands.caller, hstands.standing, show s₁.consumer.refreshToken = s.consumer.refreshToken from
      congrArg Standing.refreshToken hstands.standing] at h
  have hauthenticated : s.Stands
      { s₁ with
        journal := (s.consumer.caller.asked hub password s.consumer.refreshToken).map Entry.asked ++
          s₁.journal
        consumer := s₁.consumer.withStanding
          (s.consumer.standing.restarted.authenticated s.consumer.caller hub password) } _ :=
    hstands.trans (stands_withStanding rfl)
  cases htokens : s.consumer.caller.tokens hub password s.consumer.refreshToken with
  | error e =>
    rw [htokens] at h
    obtain ⟨rfl, rfl⟩ := Prod.mk.inj (Option.some.inj h)
    exact .inl ⟨e, rfl, rfl, ⟨_, congrArg _ hjournal⟩, hauthenticated⟩
  | ok pair =>
    rw [htokens] at h
    obtain ⟨s₂, entries, hread, hbuses₂, hjournal₂, hstands₂, -⟩ :=
      run_readDirectory hub (some pair.accessToken) none _
    have hget : (get : Run Site).run s₂ = some (s₂, s₂) := rfl
    have hread' := hauthenticated.trans hstands₂
    dsimp only at h
    rw [run_bind_of_run hread, run_bind_of_run hget, show s₂.consumer.account = s.consumer.account
      from congrArg Caller.account hread'.caller] at h
    rw [hauthenticated.standing, hauthenticated.caller] at hread'
    exact .inr ⟨pair, s₂, _, rfl, hbuses₂.trans hbuses,
      by rw [hjournal₂, ← List.append_assoc, hjournal], hread', h⟩

/-- Connecting with a certificate starts afresh and connects the bus. Unless it is connected that is
    all; otherwise the directory is read then. -/
theorem opened_of_run_connectWithCertificate {call : Call} {certificate : ClientCertificate}
    {s' : Site} {outcome : Outcome}
    (h : (connectWithCertificate call hub certificate).run s = some (outcome, s')) :
    ∃ s₁ s₂, s₁.buses = s.buses.update s.consumer.bus (·.disconnect) ∧ s₁.journal = s.journal ∧
      s.Stands s₁ s.consumer.standing.restarted ∧
      (connectConsumerBus call hub (.certificate certificate)).run s₁ = some (outcome, s₂) ∧
      ((∃ e, outcome = .error e ∧ s' = s₂) ∨ outcome = .done ∧
        (∃ entries, s'.journal = entries ++ s₂.journal) ∧ s₂.Stands s' (s₂.consumer.standing.read
          (s₂.consumer.caller.things hub none (some certificate)))) := by
  obtain ⟨s₁, hreset, hbuses, hjournal, hstands⟩ := run_reset s
  rw [connectWithCertificate, run_bind_of_run hreset] at h
  obtain ⟨outcome', s₂, hconnect, h⟩ := run_bind_eq_some.1 h
  cases outcome' with
  | error e =>
    obtain ⟨rfl, rfl⟩ := Prod.mk.inj (Option.some.inj h)
    exact ⟨s₁, _, hbuses, hjournal, hstands, hconnect, .inl ⟨e, rfl, rfl⟩⟩
  | ok u =>
    obtain ⟨s₃, entries, hread, -, hjournal₃, hstands₃, -⟩ :=
      run_readDirectory hub none (some certificate) s₂
    dsimp only at h
    rw [run_bind_of_run hread] at h
    obtain ⟨rfl, rfl⟩ := Prod.mk.inj (Option.some.inj h)
    exact ⟨s₁, s₂, hbuses, hjournal, hstands, hconnect, .inr ⟨rfl, ⟨entries, hjournal₃⟩, hstands₃⟩⟩

end Run

end WebOfThings
