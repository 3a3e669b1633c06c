import WebOfThings.Proofs.Dispatch
import WebOfThings.Proofs.Login
import WebOfThings.Proofs.Moments

/-!
# Visits to a hub

A consumer authenticates at its hub, and connects to it with a password or with a certificate
(`HubCall`). How such a call ended, and how the hub behaved, is a visit (`Visit`). What the consumer
knows of its hub after a visit follows from the visit and from what it knew before
(`Visit.Leads.standing`): handlers that run while its bus is connected leave it alone.

So what it knows after any history (`Visits`) is a function of the history. Of the last
authentication it knows the pair of tokens that was accepted last (`Visits.knows`), and by that pair
it asks the next time (`Visits.authenticates`).
-/

namespace WebOfThings

open Run

/-- A call about the hub of a consumer. -/
inductive HubCall
  /-- The account is authenticated. -/
  | authenticate (password : Option String)
  /-- The consumer is connected with a password, or with the tokens of the last authentication. -/
  | connect (password : Option String)
  /-- The consumer is connected with a certificate. -/
  | connectWithCertificate (certificate : ClientCertificate)

/-- Makes the call. -/
def HubCall.run (call : Call) (hub : Hub) : HubCall → Run Outcome
  | authenticate password => return (← Run.authenticate hub password).map fun _ => ()
  | connect password => Run.connect call hub password
  | connectWithCertificate certificate => Run.connectWithCertificate call hub certificate

/-- A call about the hub, how the hub behaved, and how the call ended. -/
structure Visit where
  /-- The hub. -/
  hub : Hub
  /-- The call. -/
  call : HubCall
  /-- How it ended. -/
  outcome : Outcome

/-- Makes the call of a visit, which ends as it did. -/
def Visit.Leads (visit : Visit) (depth : Nat) (s s' : Site) : Prop :=
  (visit.call.run (calls depth) visit.hub).run s = some (visit.outcome, s')

/-! ## What handlers leave -/

/-- Nothing about the consumer changes but which things it knows. -/
def Site.SparesConsumer (s s' : Site) : Prop := ∃ things, s'.consumer = { s.consumer with things }

namespace Site.SparesConsumer

variable {s s' : Site}

theorem of_same (h : s'.consumer = s.consumer) : s.SparesConsumer s' := ⟨s.consumer.things, h⟩

theorem standing (h : s.SparesConsumer s') : s'.consumer.standing = s.consumer.standing := by
  obtain ⟨things, h⟩ := h
  rw [h]
  rfl

theorem caller (h : s.SparesConsumer s') : s'.consumer.caller = s.consumer.caller := by
  obtain ⟨things, h⟩ := h
  rw [h]
  rfl

theorem keeps : Keeps Site.SparesConsumer where
  refl _ := of_same rfl
  trans := by
    rintro s s' s'' ⟨things, h⟩ ⟨things', h'⟩
    exact ⟨things', by rw [h', h]⟩
  note _ _ := of_same rfl
  mark _ _ := of_same rfl
  publish _ _ := of_same rfl
  exposed _ _ _ _ := of_same rfl
  consumed _ _ _ _ := of_same rfl

theorem drop (id : String) (s : Site) : s.SparesConsumer (Role.consumed.drop id s) := by
  simp only [Role.drop]
  split
  · exact ⟨_, rfl⟩
  · exact of_same rfl

theorem changed (o : Occasion) (a : Act) (s : Site) : s.SparesConsumer (a.changed o s) :=
  keeps.changed (fun _ _ _ _ _ => of_same rfl) (fun _ _ _ => of_same rfl) (fun _ _ => of_same rfl)
    fun _ id _ _ => drop id s

/-- Handlers leave the account of the consumer and what it knows of its hub. -/
theorem relates_calls (depth : Nat) (h : Handler) (o : Occasion) :
    Relates Site.SparesConsumer (calls depth h o) :=
  Run.relates_calls keeps changed depth h o

end Site.SparesConsumer

namespace Run

section

variable {R : Site → Site → Prop} (hR : Composes R)
  (hclient : ∀ k change, Relates R (updateClient k change))
include hR hclient

/-- What is done with the client of a bus. -/
theorem relates_withClient {α : Type} (k : BusRef)
    (f : BusClient Receiver → α × BusClient Receiver) :
    Relates R (do
      let (a, c) := f (← client k)
      updateClient k fun _ => c
      pure a : Run α) :=
  relates_bind hR (relates_of_run_map (run_client k) fun s _ _ => hR.refl s) fun _ =>
    relates_bind_pure (hclient k _) _

variable {call : Call} (haccept : ∀ m r, Relates R (accept call m r))
include haccept

/-- What the loop of a session sees changes a bus, and messages reach their receivers. -/
theorem relates_seeEvent (k : BusRef) (session : Nat) (event : SessionEvent) :
    Relates R (seeEvent call k session event) := by
  refine relates_bind hR (hclient k _) fun _ => ?_
  cases event with
  | message topic payload =>
    dsimp only
    cases topic.toString? with
    | none => exact relates_pure hR _
    | some text =>
      exact relates_bind hR (relates_of_run_map (run_client k) fun s _ _ => hR.refl s)
        fun c => relates_forM hR fun r _ => haccept _ r
  | _ => exact relates_pure hR _

/-- A bus is connected to a broker. -/
theorem relates_connectBus (k : BusRef) (broker : Broker) (credentials : Credentials)
    (events : List SessionEvent) :
    Relates R (connectBus call k broker credentials events) := by
  refine relates_bind hR (relates_withClient hR hclient k fun c => c.start broker credentials)
    fun outcome => ?_
  cases outcome with
  | error e => exact relates_pure hR _
  | ok u =>
    refine relates_bind hR (relates_bind hR
      (relates_of_run_map (run_client k) fun s _ _ => hR.refl s) fun c => ?_)
      fun _ => relates_withClient hR hclient k fun c => c.conclude broker
    cases c.installed with
    | none => exact relates_pure hR _
    | some session =>
      exact relates_forM hR fun event _ => relates_seeEvent hR hclient haccept k session event

end

theorem relates_connectBus_of_keeps {R : Site → Site → Prop}
    (hbus : ∀ s k change, R s { s with buses := s.buses.update k change }) (hR : Keeps R)
    {call : Call} (hcall : ∀ h o, Relates R (call h o)) (k : BusRef) (broker : Broker)
    (credentials : Credentials) (events : List SessionEvent) :
    Relates R (connectBus call k broker credentials events) :=
  relates_connectBus hR.toComposes
    (fun k _ => relates_of_run (run_updateBus k _) fun s => hbus s k _)
    (relates_accept_of_keeps hR hcall) k broker credentials events

/-- A relation between sites that the steps of a visit lead between, whatever they find. -/
structure Attends (R : Site → Site → Prop) (call : Call) (hub : Hub) : Prop extends Composes R where
  /-- The consumer starts afresh. -/
  resets : Relates R reset
  /-- Its status is told. -/
  tells (change : ConnectionStatus → ConnectionStatus) : Relates R (updateStatus change)
  /-- Its account is authenticated. -/
  authenticates (password : Option String) : Relates R (authenticate hub password)
  /-- The directory is asked. -/
  asks (r : Http.Request) : Relates R (ask hub r)
  /-- What it answers is stored. -/
  stores (documents : List ThingDescription) : Relates R (storeDescriptions documents)
  /-- The bus is connected. -/
  connects (k : BusRef) (broker : Broker) (credentials : Credentials) :
    Relates R (connectBus call k broker credentials hub.events)

namespace Attends

variable {R : Site → Site → Prop} {call : Call} {hub : Hub} (hR : Attends R call hub)
include hR

theorem relates_connectConsumerBus (credentials : Credentials) :
    Relates R (connectConsumerBus call hub credentials) := by
  refine relates_bind hR.toComposes (relates_get hR.toComposes) fun s₀ => ?_
  refine relates_bind hR.toComposes (hR.connects _ _ _) fun outcome => ?_
  cases outcome <;> exact relates_bind_pure (hR.tells _) _

theorem relates_readDirectory (token : Option String) (identity : Option ClientCertificate) :
    Relates R (readDirectory hub token identity) := by
  refine relates_bind hR.toComposes (relates_get hR.toComposes) fun s₀ => ?_
  dsimp only
  split
  · exact hR.tells _
  · refine relates_bind hR.toComposes (hR.asks _) fun reply => ?_
    split
    · exact hR.tells _
    · exact relates_bind hR.toComposes (hR.stores _) fun _ => hR.tells _

/-- So does the visit. -/
theorem relates_visit (visit : HubCall) : Relates R (visit.run call hub) := by
  cases visit with
  | authenticate password => exact relates_bind_pure (hR.authenticates password) _
  | connect password =>
    refine relates_bind hR.toComposes hR.resets fun _ => relates_bind hR.toComposes
      (hR.authenticates password) fun tokens => ?_
    cases tokens with
    | error e => exact relates_pure hR.toComposes _
    | ok pair =>
      exact relates_bind hR.toComposes (hR.relates_readDirectory _ _) fun _ =>
        relates_bind hR.toComposes (relates_get hR.toComposes) fun s₀ =>
          hR.relates_connectConsumerBus _
  | connectWithCertificate certificate =>
    refine relates_bind hR.toComposes hR.resets fun _ => relates_bind hR.toComposes
      (hR.relates_connectConsumerBus _) fun outcome => ?_
    cases outcome with
    | error e => exact relates_pure hR.toComposes _
    | ok u => exact relates_bind_pure (hR.relates_readDirectory _ _) _

end Attends

/-- Connecting the bus of the consumer changes what it knows of its hub by how that ended. -/
theorem of_run_connectConsumerBus {depth : Nat} {hub : Hub} {credentials : Credentials}
    {s s' : Site} {outcome : Outcome}
    (h : (connectConsumerBus (calls depth) hub credentials).run s = some (outcome, s')) :
    s'.consumer.caller = s.consumer.caller ∧
      s'.consumer.standing = s.consumer.standing.concluded outcome := by
  have hget : (get : Run Site).run s = some (s, s) := rfl
  rw [connectConsumerBus, run_bind_of_run hget] at h
  obtain ⟨outcome', s₁, hconnect, h⟩ := run_bind_eq_some.1 h
  have hspares := relates_connectBus_of_keeps (fun _ _ _ => .of_same rfl) Site.SparesConsumer.keeps
    (Site.SparesConsumer.relates_calls depth) _ _ _ _ _ _ _ hconnect
  rw [← hspares.caller, ← hspares.standing]
  cases outcome' <;>
  · obtain ⟨rfl, rfl⟩ := Prod.mk.inj (Option.some.inj h)
    exact ⟨rfl, rfl⟩

end Run

/-! ## What a visit does -/

/-- What a consumer knows after a visit. -/
def Standing.after (who : Caller) (visit : Visit) (st : Standing) : Standing :=
  match visit.call with
  | .authenticate password => st.authenticated who visit.hub password
  | .connect password =>
    let opened := st.restarted.authenticated who visit.hub password
    match who.tokens visit.hub password st.refreshToken with
    | .error _ => opened
    | .ok pair =>
      (opened.read (who.things visit.hub (some pair.accessToken) none)).concluded visit.outcome
  | .connectWithCertificate certificate =>
    let connected := st.restarted.concluded visit.outcome
    match visit.outcome with
    | .error _ => connected
    | .ok () => connected.read (who.things visit.hub none (some certificate))

/-- A visit can end so. An authentication ends as asking for tokens does, and without tokens there
    is no connecting with them. -/
def Visit.Fits (who : Caller) (token : Option String) (visit : Visit) : Prop :=
  match visit.call with
  | .authenticate password =>
    visit.outcome = (who.tokens visit.hub password token).map fun _ => ()
  | .connect password =>
    ∀ e, who.tokens visit.hub password token = .error e → visit.outcome = .error e
  | .connectWithCertificate _ => True

namespace Visit.Leads

variable {who : Caller} {visit : Visit} {depth : Nat} {s s' : Site}

/-- A visit leaves the caller, and the consumer knows afterwards what the visit says. -/
theorem standing (h : visit.Leads depth s s') :
    s'.consumer.caller = s.consumer.caller ∧
      s'.consumer.standing = s.consumer.standing.after s.consumer.caller visit ∧
      visit.Fits s.consumer.caller s.consumer.refreshToken := by
  obtain ⟨hub, call, outcome⟩ := visit
  cases call with
  | authenticate password =>
    replace h : ((do return (← authenticate hub password).map fun _ => ()) : Run Outcome).run s =
      some (outcome, s') := h
    rw [run_bind_of_run (run_authenticate hub password s)] at h
    obtain ⟨rfl, rfl⟩ := Prod.mk.inj (Option.some.inj h)
    exact ⟨rfl, rfl, rfl⟩
  | connect password =>
    rcases opened_of_run_connect h with
      ⟨e, htokens, rfl, -, hstands⟩ | ⟨pair, s₁, -, htokens, -, -, hstands, hconnect⟩
    · refine ⟨hstands.caller, ?_, ?_⟩
      · simp only [Standing.after, ConsumerFactory.standing, htokens]
        exact hstands.standing
      · simp [Visit.Fits, htokens]
    · obtain ⟨hcaller, hstanding⟩ := of_run_connectConsumerBus hconnect
      refine ⟨hcaller.trans hstands.caller, ?_, ?_⟩
      · simp only [Standing.after, ConsumerFactory.standing, htokens]
        exact hstanding.trans (by rw [hstands.standing]; rfl)
      · simp [Visit.Fits, htokens]
  | connectWithCertificate certificate =>
    obtain ⟨s₁, s₂, -, -, hstands, hconnect, hread⟩ := opened_of_run_connectWithCertificate h
    obtain ⟨hcaller, hstanding⟩ := of_run_connectConsumerBus hconnect
    rw [hstands.caller] at hcaller
    rw [hstands.standing] at hstanding
    rcases hread with ⟨e, rfl, rfl⟩ | ⟨rfl, -, hstands'⟩
    · exact ⟨hcaller, hstanding, trivial⟩
    · rw [hstanding, hcaller] at hstands'
      exact ⟨hstands'.caller.trans hcaller, hstands'.standing, trivial⟩

end Visit.Leads

/-! ## Histories -/

/-- The tokens that a visit brings, where the pair that was accepted before it is known. -/
def Caller.accepted? (who : Caller) (known : Option AuthTokens) (visit : Visit) :
    Option AuthTokens :=
  match visit.call with
  | .authenticate password | .connect password =>
    (who.tokens visit.hub password (known.map (·.refreshToken))).toOption
  | .connectWithCertificate _ => none

/-- The pair of tokens that was accepted last, by visits of which the latest comes first. -/
def Caller.latestPair? (who : Caller) : (visits : List Visit) → Option AuthTokens
  | [] => none
  | visit :: earlier =>
    (who.accepted? (who.latestPair? earlier) visit).or (who.latestPair? earlier)

/-- A consumer that knew nothing of its hub, and its visits since, the latest first. -/
inductive Visits (who : Caller) : List Visit → Site → Prop
  /-- There were no visits yet. -/
  | fresh {s : Site} (caller : s.consumer.caller = who) (new : s.consumer.standing = {}) :
      Visits who [] s
  /-- Something happens elsewhere. The bus may have been connected or disconnected. -/
  | elsewhere {visits : List Visit} {s s' : Site} (h : Visits who visits s)
      (caller : s'.consumer.caller = s.consumer.caller)
      (standing : ∃ connected, s'.consumer.standing = { s.consumer.standing with
        status := { s.consumer.standing.status with connected } }) : Visits who visits s'
  /-- The consumer visits its hub once more. -/
  | visit {visits : List Visit} {visit : Visit} {depth : Nat} {s s' : Site}
      (h : Visits who visits s) (leads : visit.Leads depth s s') : Visits who (visit :: visits) s'

/-- What a consumer knows of its last authentication is the pair of tokens that it brought, or
    nothing if there was none. -/
structure Standing.Knows (st : Standing) (pair : Option AuthTokens) : Prop where
  /-- The refresh token is kept. -/
  refreshToken : st.refreshToken = pair.map (·.refreshToken)
  /-- The access token is shown. -/
  accessToken : st.status.accessToken = (pair.map (·.accessToken)).getD ""
  /-- The account is authenticated. -/
  authenticated : st.status.authenticated = pair.isSome
  /-- And so the status says. -/
  authStatus : st.status.authStatus = if pair.isSome then "Authenticated" else ""

namespace Standing.Knows

variable {who : Caller} {st : Standing} {known : Option AuthTokens}

theorem restarted (h : st.Knows known) : st.restarted.Knows known :=
  ⟨h.refreshToken, h.accessToken, h.authenticated, h.authStatus⟩

theorem read (h : st.Knows known) (result : Except Error (List ThingDescription)) :
    (st.read result).Knows known := by
  cases result <;> exact ⟨h.refreshToken, h.accessToken, h.authenticated, h.authStatus⟩

theorem concluded (h : st.Knows known) (outcome : Outcome) :
    (st.concluded outcome).Knows known := by
  cases outcome <;> exact ⟨h.refreshToken, h.accessToken, h.authenticated, h.authStatus⟩

/-- An authentication brings a pair of tokens, or leaves what was known. -/
theorem authenticated_or (h : st.Knows known) (hub : Hub) (password : Option String) :
    (st.authenticated who hub password).Knows
      ((who.tokens hub password st.refreshToken).toOption.or known) := by
  simp only [Standing.authenticated, Caller.tokens]
  cases who.authentication? hub with
  | error e => exact h
  | ok c =>
    simp only [told]
    cases who.answer hub password st.refreshToken with
    | error e => exact ⟨h.refreshToken, h.accessToken, h.authenticated, h.authStatus⟩
    | ok pair => exact ⟨rfl, rfl, rfl, rfl⟩

/-- What a consumer knows after a visit is the pair that the visit brought, or what was known. -/
theorem after (h : st.Knows known) (visit : Visit) :
    (st.after who visit).Knows ((who.accepted? known visit).or known) := by
  obtain ⟨hub, call, outcome⟩ := visit
  cases call with
  | authenticate password =>
    simp only [Standing.after, Caller.accepted?, ← h.refreshToken]
    exact h.authenticated_or hub password
  | connect password =>
    have hopened : (st.restarted.authenticated who hub password).Knows _ :=
      h.restarted.authenticated_or hub password
    simp only [Standing.after, Caller.accepted?, ← h.refreshToken]
    split
    · exact hopened
    · exact (hopened.read _).concluded _
  | connectWithCertificate certificate =>
    simp only [Standing.after, Caller.accepted?, Option.none_or]
    have hconnected := h.restarted.concluded outcome
    split
    · exact hconnected
    · exact hconnected.read _

end Standing.Knows

namespace Visits

variable {who : Caller} {visits : List Visit} {s : Site}

/-- The caller stays the same. -/
theorem caller (h : Visits who visits s) : s.consumer.caller = who := by
  induction h with
  | fresh caller => exact caller
  | elsewhere _ caller _ ih => exact caller.trans ih
  | visit _ leads ih => exact leads.standing.1.trans ih

/-- A consumer knows the pair of tokens that was accepted last. -/
theorem knows (h : Visits who visits s) : s.consumer.standing.Knows (who.latestPair? visits) := by
  induction h with
  | fresh _ new =>
    rw [new]
    exact ⟨rfl, rfl, rfl, rfl⟩
  | elsewhere _ _ standing ih =>
    obtain ⟨connected, hs⟩ := standing
    rw [hs]
    exact ⟨ih.refreshToken, ih.accessToken, ih.authenticated, ih.authStatus⟩
  | visit h leads ih =>
    rw [leads.standing.2.1, h.caller]
    exact ih.after _

end Visits

/-! ## Authentications -/

/-- What an authentication does, where the pair of tokens that was accepted last is known. -/
structure Site.Authenticates (who : Caller) (known : Option AuthTokens) (hub : Hub)
    (password : Option String) (s : Site) (result : Except Error AuthTokens) (s' : Site) :
    Prop where
  /-- With a password it asks to log in by the name of the account. -/
  login : ∀ c text, who.authentication? hub = .ok c → password = some text → text ≠ "" →
    s'.journal = .asked (who.loginRequest text) :: s.journal
  /-- Without one it asks to refresh the last pair. -/
  refresh : ∀ c pair, who.authentication? hub = .ok c → password = none ∨ password = some "" →
    known = some pair → s'.journal = .asked (who.refreshRequest pair.refreshToken) :: s.journal
  /-- Without any pair it asks nothing and fails. -/
  helpless : ∀ c, who.authentication? hub = .ok c → password = none ∨ password = some "" →
    known = none → s'.journal = s.journal ∧ ∃ info, result = .error ⟨.auth, info⟩
  /-- Without a client of the service it asks nothing and fails. -/
  unopened : ∀ e, who.authentication? hub = .error e → result = .error e ∧ s' = s
  /-- It ends well if and only if the reply to what it asked brings a pair. -/
  accepted : ∀ pair, result = .ok pair ↔
    ∃ r, s'.journal = .asked r :: s.journal ∧ (Http.ask hub.answer r).Brings pair
  /-- The consumer knows that pair then. -/
  knows : s'.consumer.standing.Knows (result.toOption.or known)
  /-- If it fails it changes no more than the message. -/
  failed : ∀ e, result = .error e → ∃ entries message, s' = { s with
    journal := entries ++ s.journal
    consumer := { s.consumer with status := { s.consumer.status with message } } }

theorem Site.authenticates_of_knows {who : Caller} {known : Option AuthTokens} {s : Site}
    (hcaller : s.consumer.caller = who) (hknows : s.consumer.standing.Knows known) (hub : Hub)
    (password : Option String) : ∃ s',
      (authenticate hub password).run s =
        some (who.tokens hub password s.consumer.refreshToken, s') ∧
      s.Authenticates who known hub password
        (who.tokens hub password s.consumer.refreshToken) s' := by
  have htoken : s.consumer.refreshToken = known.map (·.refreshToken) := hknows.refreshToken
  have hrun := run_authenticate hub password s
  rw [hcaller] at hrun
  refine ⟨_, hrun, ?_, ?_, ?_, ?_, ?_, hknows.authenticated_or hub password, ?_⟩
  · rintro c text hc rfl hne
    simp [Caller.asked, hc, who.tokenRequest?_of_password hne]
  · rintro c pair hc hpassword rfl
    simp [Caller.asked, hc, who.tokenRequest?_of_not_password hpassword, htoken]
  · rintro c hc hpassword rfl
    simp [Caller.asked, Caller.tokens, Caller.answer, hc,
      who.tokenRequest?_of_not_password hpassword, htoken, Caller.noToken]
  · intro e he
    simp only [Caller.tokens, Caller.asked, Standing.authenticated, he, true_and]
    rfl
  · intro pair
    simp only [Caller.tokens, Caller.asked]
    cases who.authentication? hub with
    | error e => simp
    | ok c =>
      simp only [Caller.answer]
      cases who.tokenRequest? password s.consumer.refreshToken with
      | none => simp
      | some r => simp [Authentication.tokens?_eq_ok_iff]
  · intro e he
    simp only [Caller.tokens] at he
    simp only [Standing.authenticated]
    cases hc : who.authentication? hub with
    | error e' => exact ⟨_, s.consumer.status.message, rfl⟩
    | ok c =>
      rw [hc] at he
      exact ⟨_, e.message, by simp only [ConsumerFactory.standing, show who.answer hub password
        s.consumer.refreshToken = .error e from he]; rfl⟩

/-- After any history of visits, a consumer knows the pair of tokens that was accepted last, or as
    little as a new one if there was none; and the next authentication ends, asks by the password or
    by that pair, and leaves everything but the message as it is if it fails. -/
theorem Visits.authenticates {who : Caller} {visits : List Visit} {s : Site}
    (h : Visits who visits s) :
    s.consumer.standing.Knows (who.latestPair? visits) ∧ ∀ hub password, ∃ result s',
      (authenticate hub password).run s = some (result, s') ∧
      s.Authenticates who (who.latestPair? visits) hub password result s' ∧
      Visits who (⟨hub, .authenticate password, result.map fun _ => ()⟩ :: visits) s' := by
  refine ⟨h.knows, fun hub password => ?_⟩
  obtain ⟨s', hrun, hauthenticates⟩ :=
    Site.authenticates_of_knows h.caller h.knows hub password
  have hleads : Visit.Leads ⟨hub, .authenticate password, _⟩ 0 s s' := run_bind_of_run hrun _
  exact ⟨_, s', hrun, hauthenticates, h.visit hleads⟩

/-- A hub that answers every request in the same way. -/
def Hub.answering (reply : Http.Reply) (events : List SessionEvent) : Hub :=
  { checks := .ofKnown [] [], answer := fun _ => reply, events }

/-- The answer of a service that brings a pair of tokens. -/
def tokensReply : Http.Reply :=
  .answer 200 (AuthTokens.toJson ⟨"access", "refresh"⟩).compact

theorem tokensReply_brings : tokensReply.Brings ⟨"access", "refresh"⟩ :=
  ⟨_, _, rfl, rfl, rfl, by decide⟩

/-- A new consumer logs in, and then has nobody answer when it refreshes its tokens: it asked by the
    tokens that it got, and still knows them. -/
theorem authenticates_lamp :
    ∃ s₁ s₂ e, (authenticate (.answering tokensReply []) (some "secret")).run lampSite =
        some (.ok ⟨"access", "refresh"⟩, s₁) ∧
      (authenticate (.answering .nothing []) none).run s₁ = some (.error e, s₂) ∧
      s₂.journal = [.asked (lampSite.consumer.caller.refreshRequest "refresh"),
        .asked (lampSite.consumer.caller.loginRequest "secret")] ∧
      s₂.consumer.standing.Knows (some ⟨"access", "refresh"⟩) := by
  have hopen (reply : Http.Reply) : lampSite.consumer.caller.authentication? (.answering reply []) =
      .ok ⟨Http.trim (Http.serviceUrl "localhost" 8881)⟩ := rfl
  have hfresh : Visits lampSite.consumer.caller [] lampSite := .fresh rfl rfl
  obtain ⟨result, s₁, hlogin, hauthenticates, hvisits⟩ :=
    hfresh.authenticates.2 (.answering tokensReply []) (some "secret")
  have hasked := hauthenticates.login _ _ (hopen _) rfl (by decide)
  have hok : result = .ok ⟨"access", "refresh"⟩ :=
    (hauthenticates.accepted _).2 ⟨_, hasked, tokensReply_brings⟩
  subst hok
  have hlatest : lampSite.consumer.caller.latestPair?
      [⟨.answering tokensReply [], .authenticate (some "secret"), .done⟩] =
        some ⟨"access", "refresh"⟩ := rfl
  obtain ⟨result, s₂, hrefresh, hauthenticates', -⟩ :=
    hvisits.authenticates.2 (.answering .nothing []) none
  have hasked' := hauthenticates'.refresh _ _ (hopen _) (.inl rfl) hlatest
  cases result with
  | ok pair =>
    obtain ⟨r, -, status, body, hreply, -⟩ := (hauthenticates'.accepted pair).1 rfl
    simp [Http.ask, Hub.answering] at hreply
  | error e =>
    have hknows : s₂.consumer.standing.Knows (lampSite.consumer.caller.latestPair?
      [⟨.answering tokensReply [], .authenticate (some "secret"), .done⟩]) := hauthenticates'.knows
    rw [hlatest] at hknows
    exact ⟨s₁, s₂, e, hlogin, hrefresh, by rw [hasked', hasked]; rfl, hknows⟩

end WebOfThings
