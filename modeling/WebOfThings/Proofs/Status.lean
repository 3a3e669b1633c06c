import Mathlib
import WebOfThings.Proofs.Acceptance

/-!
# What the status says

The status of a consumer says whether its bus is connected, whether the directory was read, and
what the last error was. Which of it is about the last visit to the hub depends on how far the visit
came.

* `Visits.reports`: whether the bus is connected is always about the last attempt. Whether the
  directory was read is, if the attempt reached the directory, or if an earlier one would have left
  nothing else (`Caller.hasRead`).
* `Visits.tells`: the message is about the last visit, unless no client of the authentication
  service could be made, or the visit was an authentication that went well: then an earlier message
  stays (`Caller.lastWord`), except that an attempt to connect clears it first.
-/

namespace WebOfThings

open Run

/-- A call that connects the consumer. -/
def HubCall.connects : HubCall → Bool
  | authenticate _ => false
  | connect _ | connectWithCertificate _ => true

/-! ## What a visit comes to -/

namespace Caller

variable (who : Caller)

/-- What the directory gives to a visit that reaches it. With a password or a token it is reached
    once there are tokens, and with a certificate once the bus is connected. -/
def reading? (token : Option String) (visit : Visit) :
    Option (Except Error (List ThingDescription)) :=
  match visit.call with
  | .authenticate _ => none
  | .connect password => (who.tokens visit.hub password token).toOption.map fun pair =>
    who.things visit.hub (some pair.accessToken) none
  | .connectWithCertificate certificate => visit.outcome.toOption.map fun _ =>
    who.things visit.hub none (some certificate)

/-- The error of a visit: the one that it ended with, or else the one of the directory. There is
    none if every step of the visit went well. -/
def error? (token : Option String) (visit : Visit) : Option Error :=
  match visit.outcome, who.reading? token visit with
  | .error e, _ => some e
  | .ok (), some (.error e) => some e
  | .ok (), _ => none

/-- The message for the error of a visit, which is empty if there is none. -/
def report (token : Option String) (visit : Visit) : String :=
  ((who.error? token visit).map (·.message)).getD ""

/-- What a visit leaves as the message, if it leaves any. -/
def word? (token : Option String) (visit : Visit) : Option String :=
  match visit.call, who.authentication? visit.hub with
  | .authenticate _, .ok _ => (who.error? token visit).map (·.message)
  | .authenticate _, .error _ => none
  | .connect _, .ok _ => some (who.report token visit)
  | .connect _, .error _ => some ""
  | .connectWithCertificate _, _ => some (who.report token visit)

theorem report_done (token : Option String) (hub : Hub) (call : HubCall) :
    who.report token ⟨hub, call, .done⟩ =
      match who.reading? token ⟨hub, call, .done⟩ with
      | some (.error e) => e.message
      | _ => "" := by
  simp only [report, error?]
  cases who.reading? token ⟨hub, call, .done⟩ with
  | none => rfl
  | some result => cases result <;> rfl

/-- The refresh token that was accepted last. -/
def latestToken? (visits : List Visit) : Option String :=
  (who.latestPair? visits).map (·.refreshToken)

/-- Whether the latest visit that reached the directory read it. -/
def hasRead : (visits : List Visit) → Bool
  | [] => false
  | visit :: earlier =>
    ((who.reading? (who.latestToken? earlier) visit).map (·.isOk)).getD (hasRead earlier)

/-- The message that was left last. -/
def lastWord : (visits : List Visit) → String
  | [] => ""
  | visit :: earlier => (who.word? (who.latestToken? earlier) visit).getD (lastWord earlier)

end Caller

/-- A message is never empty. -/
theorem Error.message_ne_empty (e : Error) : e.message ≠ "" := by
  simp [Error.message]

namespace Standing

variable {who : Caller} (st : Standing)

@[simp] theorem connected_authenticated (hub : Hub) (password : Option String) :
    (st.authenticated who hub password).status.connected = st.status.connected := by
  simp only [authenticated, told]
  split
  · rfl
  · split <;> rfl

@[simp] theorem directoryRead_authenticated (hub : Hub) (password : Option String) :
    (st.authenticated who hub password).status.directoryRead = st.status.directoryRead := by
  simp only [authenticated, told]
  split
  · rfl
  · split <;> rfl

@[simp] theorem connected_read (result : Except Error (List ThingDescription)) :
    (st.read result).status.connected = st.status.connected := by
  cases result <;> rfl

@[simp] theorem directoryRead_read (result : Except Error (List ThingDescription)) :
    (st.read result).status.directoryRead = result.isOk := by
  cases result <;> rfl

@[simp] theorem connected_concluded (outcome : Outcome) :
    (st.concluded outcome).status.connected = outcome.isOk := by
  cases outcome <;> rfl

@[simp] theorem directoryRead_concluded (outcome : Outcome) :
    (st.concluded outcome).status.directoryRead = st.status.directoryRead := by
  cases outcome <;> rfl

/-- Whether the consumer is connected after an attempt is how the attempt ended. -/
theorem connected_after {visit : Visit} (hconnects : visit.call.connects = true)
    (hfits : visit.Fits who st.refreshToken) :
    (st.after who visit).status.connected = visit.outcome.isOk := by
  obtain ⟨hub, call, outcome⟩ := visit
  cases call with
  | authenticate password => contradiction
  | connect password =>
    simp only [after]
    cases htokens : who.tokens hub password st.refreshToken with
    | error e =>
      obtain rfl : outcome = .error e := hfits e htokens
      exact connected_authenticated _ hub password
    | ok pair => exact connected_concluded _ outcome
  | connectWithCertificate certificate => cases outcome <;> simp [after]

/-- A visit that reaches the directory says whether it was read. Any other leaves what was said. -/
theorem directoryRead_after (visit : Visit) :
    (st.after who visit).status.directoryRead =
      ((who.reading? st.refreshToken visit).map (·.isOk)).getD st.status.directoryRead := by
  obtain ⟨hub, call, outcome⟩ := visit
  cases call with
  | authenticate password => exact directoryRead_authenticated st hub password
  | connect password =>
    simp only [after, Caller.reading?]
    cases who.tokens hub password st.refreshToken with
    | error e => exact directoryRead_authenticated _ hub password
    | ok pair => simp [Except.toOption]
  | connectWithCertificate certificate =>
    cases outcome <;> simp [after, Caller.reading?, Except.toOption, restarted]

/-- If there is a client of the authentication service, only a failure to authenticate leaves a
    message. -/
theorem message_authenticated {hub : Hub} {c : Http.Client}
    (hclient : who.authentication? hub = .ok c) (password : Option String) :
    (st.authenticated who hub password).status.message =
      match who.tokens hub password st.refreshToken with
      | .error e => e.message
      | .ok _ => st.status.message := by
  simp only [authenticated, Caller.tokens, hclient]
  cases who.answer hub password st.refreshToken <;> rfl

/-- A visit leaves a message, or leaves the one that there was. -/
theorem message_after {visit : Visit} (hfits : visit.Fits who st.refreshToken) :
    (st.after who visit).status.message =
      (who.word? st.refreshToken visit).getD st.status.message := by
  obtain ⟨hub, call, outcome⟩ := visit
  cases call with
  | authenticate password =>
    obtain rfl : outcome = (who.tokens hub password st.refreshToken).map fun _ => () := hfits
    simp only [after, Caller.word?]
    cases hclient : who.authentication? hub with
    | error e => simp [authenticated, hclient]
    | ok c =>
      rw [st.message_authenticated hclient]
      cases who.tokens hub password st.refreshToken <;> rfl
  | connect password =>
    have hopened := fun c (hclient : who.authentication? hub = .ok c) =>
      st.restarted.message_authenticated hclient password
    replace hfits : ∀ e, who.tokens hub password st.refreshToken = .error e → outcome = .error e :=
      hfits
    cases hclient : who.authentication? hub with
    | error e =>
      -- starting afresh left the empty message, and nothing is done after that
      simp [after, authenticated, hclient, Caller.word?, Caller.tokens, restarted]
    | ok c =>
      replace hopened : _ = match who.tokens hub password st.refreshToken with
        | .error e => e.message
        | .ok _ => "" := hopened c hclient
      simp only [after, Caller.word?, hclient, Option.getD_some]
      cases htokens : who.tokens hub password st.refreshToken with
      | error e =>
        obtain rfl := hfits e htokens
        rw [htokens] at hopened
        exact hopened
      | ok pair =>
        rw [htokens] at hopened
        -- the error of the bus replaces that of the directory
        cases outcome with
        | error e => rfl
        | ok u =>
          rw [Caller.report_done]
          simp only [Caller.reading?, htokens, Except.toOption, Option.map_some]
          cases who.things hub (some pair.accessToken) none with
          | error e => rfl
          | ok descriptions => exact hopened
  | connectWithCertificate certificate =>
    cases outcome with
    | error e => rfl
    | ok u =>
      simp only [after, Caller.word?, Option.getD_some]
      rw [Caller.report_done]
      simp only [Caller.reading?, Except.toOption, Option.map_some]
      cases who.things hub none (some certificate) <;> rfl

end Standing

/-! ## What histories leave -/

namespace Visits

variable {who : Caller} {visits : List Visit} {s : Site}

theorem refreshToken (h : Visits who visits s) :
    s.consumer.refreshToken = who.latestToken? visits := h.knows.refreshToken

/-- What the status says of the directory is what the latest visit left that reached it. -/
theorem directoryRead (h : Visits who visits s) :
    s.consumer.status.directoryRead = who.hasRead visits := by
  induction h with
  | fresh _ new => exact congrArg (·.status.directoryRead) new
  | elsewhere _ _ standing ih =>
    obtain ⟨connected, hs⟩ := standing
    exact (congrArg (·.status.directoryRead) hs).trans ih
  | @visit _ visit _ s _ h leads ih =>
    have hafter := congrArg (·.status.directoryRead) leads.standing.2.1
    rw [Caller.hasRead, ← h.refreshToken, ← ih, ← h.caller]
    exact hafter.trans (s.consumer.standing.directoryRead_after visit)

/-- The message is the one that was left last. -/
theorem message (h : Visits who visits s) : s.consumer.status.message = who.lastWord visits := by
  induction h with
  | fresh _ new => exact congrArg (·.status.message) new
  | elsewhere _ _ standing ih =>
    obtain ⟨connected, hs⟩ := standing
    exact (congrArg (·.status.message) hs).trans ih
  | @visit _ visit _ s _ h leads ih =>
    obtain ⟨-, hafter, hfits⟩ := leads.standing
    rw [Caller.lastWord, ← h.refreshToken, ← ih, ← h.caller]
    exact (congrArg (·.status.message) hafter).trans (s.consumer.standing.message_after hfits)

end Visits

/-! ## Attempts to connect -/

/-- A visit asks the broker to accept the consumer: there are tokens to show, or the certificate of
    the broker can be checked. -/
def Visit.AsksBroker (visit : Visit) (s : Site) : Prop :=
  match visit.call with
  | .authenticate _ => False
  | .connect password =>
    ∃ pair, s.consumer.caller.tokens visit.hub password s.consumer.refreshToken = .ok pair
  | .connectWithCertificate _ =>
    ∃ c, s.client? s.consumer.bus = some c ∧ c.config.caCertificate.isSome = true

/-- How a visit connects the bus, in a site that came before it to one that came of it. -/
structure Visit.Connection (visit : Visit) (depth : Nat) (s s' s₁ s₂ : Site) (broker : Broker)
    (credentials : Credentials) : Prop where
  /-- Something may happen before. -/
  before : ∃ entries, s₁.journal = entries ++ s.journal
  /-- The credentials can be shown if and only if the visit asks the broker. -/
  asks : (∃ c, s₁.client? s.consumer.bus = some c ∧
    BusClient.checkCredentials c.config credentials = .done) ↔ visit.AsksBroker s
  /-- The bus is connected. -/
  connects : (connectBus (calls depth) s.consumer.bus broker credentials visit.hub.events).run s₁ =
    some (visit.outcome, s₂)
  /-- Something may happen afterwards. -/
  after : ∃ entries, s'.journal = entries ++ s₂.journal

namespace Visit.Leads

variable {visit : Visit} {depth : Nat} {s s' : Site}

/-- An attempt fails without tokens, and otherwise connects the bus. -/
theorem connection (h : visit.Leads depth s s') (hconnects : visit.call.connects = true) :
    (¬ visit.AsksBroker s ∧ (∃ e, visit.outcome = .error e) ∧
      ∃ entries, s'.journal = entries ++ s.journal) ∨
    ∃ s₁ s₂ broker credentials, visit.Connection depth s s' s₁ s₂ broker credentials := by
  obtain ⟨hub, call, outcome⟩ := visit
  cases call with
  | authenticate password => contradiction
  | connect password =>
    rcases opened_of_run_connect h with ⟨e, htokens, rfl, hjournal, -⟩ |
      ⟨pair, s₁, entries, htokens, -, hjournal, hstands, hconnect⟩
    · refine .inl ⟨?_, ⟨e, rfl⟩, hjournal⟩
      rintro ⟨pair, hpair⟩
      exact nomatch htokens.symm.trans hpair
    · obtain ⟨broker, s₂, hrun, hjournal₂⟩ := exists_of_run_connectConsumerBus hconnect
      rw [hstands.bus] at hrun
      obtain ⟨c, hc, -⟩ := of_run_connectBus hrun
      exact .inr ⟨s₁, s₂, broker, _, ⟨entries, hjournal⟩,
        ⟨fun _ => ⟨pair, htokens⟩, fun _ => ⟨c, hc, rfl⟩⟩, hrun, ⟨[], hjournal₂⟩⟩
  | connectWithCertificate certificate =>
    obtain ⟨s₁, s₂, hbuses, hjournal, hstands, hconnect, hread⟩ :=
      opened_of_run_connectWithCertificate h
    obtain ⟨broker, s₃, hrun, hjournal₃⟩ := exists_of_run_connectConsumerBus hconnect
    rw [hstands.bus] at hrun
    refine .inr ⟨s₁, s₃, broker, _, ⟨[], hjournal⟩, ?_, hrun, ?_⟩
    · rw [Site.client?_of_update hbuses Bus.client?_disconnect]
      cases hc : s.client? s.consumer.bus with
      | none => simp [AsksBroker, hc]
      | some c => simp [AsksBroker, hc, BusClient.checkCredentials, Option.isSome_iff_ne_none]
    · rcases hread with ⟨-, -, rfl⟩ | ⟨-, ⟨entries, hentries⟩, -⟩
      · exact ⟨[], hjournal₃⟩
      · exact ⟨entries, hentries.trans (congrArg _ hjournal₃)⟩

/-- An attempt connects only if it asked the broker and an event accepted the client. -/
theorem accepted (h : visit.Leads depth s s') (hconnects : visit.call.connects = true)
    (hdone : visit.outcome = .done) : visit.AsksBroker s ∧ .accepted ∈ visit.hub.events := by
  rcases h.connection hconnects with ⟨-, ⟨e, he⟩, -⟩ | ⟨s₁, s₂, broker, credentials, hconnection⟩
  · exact nomatch he.symm.trans hdone
  · have hrun := hconnection.connects
    rw [hdone] at hrun
    obtain ⟨hasks, haccepted⟩ := accepted_of_run_connectBus hrun
    exact ⟨hconnection.asks.1 hasks, haccepted⟩

/-- If no handler disconnects the bus meanwhile, an attempt connects if and only if it asks the
    broker and the latest event that decides accepts the client. -/
theorem verdict (h : visit.Leads depth s s') (hconnects : visit.call.connects = true) :
    Guarded (fun _ a => a ≠ .disconnect s.consumer.bus) (fun s _ => visit.outcome = .done ↔
      visit.AsksBroker s ∧ SessionEvent.verdict? visit.hub.events = some .accepted) s s' := by
  rcases h.connection hconnects with
    ⟨hasks, ⟨e, he⟩, entries, hjournal⟩ | ⟨s₁, s₂, broker, credentials, hconnection⟩
  · exact ⟨entries, hjournal, fun _ => by simp [he, hasks]⟩
  · obtain ⟨before, hbefore⟩ := hconnection.before
    obtain ⟨entries, hentries, hverdict⟩ := run_connectBus_eq_done_iff hconnection.connects
    obtain ⟨after, hafter⟩ := hconnection.after
    refine ⟨after ++ entries ++ before, by rw [hafter, hentries, hbefore]; simp, fun hallowed => ?_⟩
    exact (hverdict fun e he => hallowed e (by simp [he])).trans (and_congr_left' hconnection.asks)

end Visit.Leads

/-- What the status says after an attempt to connect. -/
structure Visit.Reports (who : Caller) (visits : List Visit) (visit : Visit) (s s' : Site) :
    Prop where
  /-- The consumer is connected if and only if the attempt ended well. -/
  connected : s'.consumer.status.connected = true ↔ visit.outcome = .done
  /-- Then the broker was asked, and accepted the consumer. -/
  accepted : s'.consumer.status.connected = true →
    visit.AsksBroker s ∧ .accepted ∈ visit.hub.events
  /-- If no handler disconnects the bus meanwhile, it is connected if and only if the broker was
      asked and what it said last is that it accepts the consumer. -/
  verdict : Guarded (fun _ a => a ≠ .disconnect s.consumer.bus) (fun s s' =>
    s'.consumer.status.connected = true ↔
      visit.AsksBroker s ∧ SessionEvent.verdict? visit.hub.events = some .accepted) s s'
  /-- What the status says of the directory is about this attempt if and only if the attempt reached
      the directory, or the latest visit that did had not read it. -/
  directoryRead : (s'.consumer.status.directoryRead = true ↔
      ∃ things, who.reading? s.consumer.refreshToken visit = some (.ok things)) ↔
    (who.reading? s.consumer.refreshToken visit).isSome = true ∨ who.hasRead visits = false

/-- After any history of visits, the status after an attempt to connect says of the bus how the
    attempt ended. Of the directory it says so if the attempt reached it, and otherwise what it said
    before. -/
theorem Visits.reports {who : Caller} {visits : List Visit} {visit : Visit} {depth : Nat}
    {s s' : Site} (h : Visits who visits s) (leads : visit.Leads depth s s')
    (hconnects : visit.call.connects = true) : visit.Reports who visits s s' := by
  obtain ⟨-, hafter, hfits⟩ := leads.standing
  have hconnected : s'.consumer.status.connected = true ↔ visit.outcome = .done := by
    have hstatus := (congrArg (·.status.connected) hafter).trans
      (s.consumer.standing.connected_after hconnects hfits)
    rw [show s'.consumer.status.connected = visit.outcome.isOk from hstatus]
    cases visit.outcome with
    | error e => simp [Except.isOk, Except.toBool]
    | ok u => simp [Except.isOk, Except.toBool]
  refine ⟨hconnected, fun h => leads.accepted hconnects (hconnected.1 h), ?_, ?_⟩
  · obtain ⟨entries, hjournal, hverdict⟩ := leads.verdict hconnects
    exact ⟨entries, hjournal, fun hallowed => hconnected.trans (hverdict hallowed)⟩
  · have hread : s'.consumer.status.directoryRead =
        ((who.reading? s.consumer.refreshToken visit).map (·.isOk)).getD (who.hasRead visits) := by
      rw [← h.directoryRead, ← h.caller]
      exact (congrArg (·.status.directoryRead) hafter).trans
        (s.consumer.standing.directoryRead_after visit)
    rw [hread]
    cases who.reading? s.consumer.refreshToken visit with
    | none => simp
    | some result => cases result <;> simp [Except.isOk, Except.toBool]

/-- A site whose consumer has the client of a broker as its bus. -/
def hubSite : Site :=
  { buses := ⟨[.ofClient { config := { clientId := "home" } }]⟩, consumer := .home }

/-- A hub that brings tokens, and whose directory is empty. -/
def Hub.welcoming (events : List SessionEvent) : Hub :=
  { checks := .ofKnown [] []
    answer := fun r =>
      if r.method = .post then tokensReply else .answer 200 (Bytes.ofString "[]")
    events }

/-- The first attempt of a new consumer goes well. -/
def firstVisit : Visit := ⟨.welcoming [.accepted], .connect (some "secret"), .done⟩

/-- A new consumer connects, and its status says so. -/
theorem reports_hubSite : ∃ s', firstVisit.Leads 0 hubSite s' ∧
    firstVisit.Reports hubSite.consumer.caller [] hubSite s' ∧
    s'.consumer.status.connected = true := by
  obtain ⟨s', hleads⟩ : ∃ s', firstVisit.Leads 0 hubSite s' := ⟨_, rfl⟩
  have hreports := Visits.reports (.fresh rfl rfl) hleads rfl
  exact ⟨s', hleads, hreports, hreports.connected.2 rfl⟩

/-- The consumer connects again, and nobody answers when it logs in. Then the status still says that
    the directory was read, though this attempt did not come to it. -/
theorem directoryRead_by_earlier : ∃ s s' e,
    Visits hubSite.consumer.caller [firstVisit] s ∧
    Visit.Leads ⟨.answering .nothing [], .connect (some "secret"), .error e⟩ 0 s s' ∧
    s'.consumer.status.directoryRead = true ∧
    hubSite.consumer.caller.reading? s.consumer.refreshToken
      ⟨.answering .nothing [], .connect (some "secret"), .error e⟩ = none :=
  ⟨_, _, _, .visit (.fresh rfl rfl) (show firstVisit.Leads 0 hubSite _ from rfl), rfl, rfl, rfl⟩

/-! ## Messages -/

/-- A visit tells what came of it, or what it would tell is what the message was before. An attempt
    to connect does not tell that no client of the authentication service could be made. An
    authentication tells neither that nor that it went well. -/
def Visit.Tells (who : Caller) (visits : List Visit) (visit : Visit) : Prop :=
  match visit.call with
  | .authenticate _ =>
    (∀ e, who.authentication? visit.hub = .error e → who.lastWord visits = e.message) ∧
      (visit.outcome = .done → who.lastWord visits = "")
  | .connect _ => ∃ c, who.authentication? visit.hub = .ok c
  | .connectWithCertificate _ => True

/-- What a visit leaves is about the visit if and only if the visit tells so. -/
theorem Visit.Fits.left_eq_report_iff {who : Caller} {token : Option String} {visit : Visit}
    (h : visit.Fits who token) (visits : List Visit) :
    (who.word? token visit).getD (who.lastWord visits) = who.report token visit ↔
      visit.Tells who visits := by
  obtain ⟨hub, call, outcome⟩ := visit
  cases call with
  | authenticate password =>
    simp only [Visit.Fits, Caller.tokens] at h
    simp only [Caller.word?, Visit.Tells]
    cases hclient : who.authentication? hub with
    | error e =>
      rw [hclient] at h
      obtain rfl : outcome = .error e := h
      exact ⟨fun hlast => ⟨fun _ he => Except.error.inj he ▸ hlast, by rintro ⟨⟩⟩,
        fun h => h.1 e rfl⟩
    | ok c =>
      cases outcome with
      | error e => exact iff_of_true rfl ⟨by rintro _ ⟨⟩, by rintro ⟨⟩⟩
      | ok u => exact ⟨fun hlast => ⟨by rintro _ ⟨⟩, fun _ => hlast⟩, fun h => h.2 rfl⟩
  | connect password =>
    simp only [Visit.Fits, Caller.tokens] at h
    simp only [Caller.word?, Visit.Tells]
    cases hclient : who.authentication? hub with
    | error e =>
      obtain rfl := h e (by rw [hclient])
      exact iff_of_false e.message_ne_empty.symm (by rintro ⟨_, ⟨⟩⟩)
    | ok c => simp
  | connectWithCertificate certificate => simp [Caller.word?, Visit.Tells]

/-- After any history of visits, the message after a visit is the error of the visit, and empty if
    no step failed, if and only if the visit tells so. -/
theorem Visits.tells {who : Caller} {visits : List Visit} {visit : Visit} {depth : Nat}
    {s s' : Site} (h : Visits who visits s) (leads : visit.Leads depth s s') :
    s'.consumer.status.message = who.report s.consumer.refreshToken visit ↔
      visit.Tells who visits := by
  obtain ⟨-, hafter, hfits⟩ := leads.standing
  rw [h.caller] at hafter hfits
  have hmessage : s'.consumer.status.message =
      (who.word? s.consumer.refreshToken visit).getD s.consumer.status.message :=
    (congrArg (·.status.message) hafter).trans (s.consumer.standing.message_after hfits)
  rw [hmessage, h.message]
  exact hfits.left_eq_report_iff visits

/-- When nobody answers a new consumer, the message is the error of its authentication. -/
theorem tells_hubSite : ∃ e s',
    Visit.Leads ⟨.answering .nothing [], .authenticate (some "secret"), .error e⟩ 0 hubSite s' ∧
    s'.consumer.status.message = e.message := by
  obtain ⟨e, s', hleads⟩ : ∃ e s',
      Visit.Leads ⟨.answering .nothing [], .authenticate (some "secret"), .error e⟩ 0 hubSite s' :=
    ⟨_, _, rfl⟩
  have hopen : hubSite.consumer.caller.authentication? (.answering .nothing []) =
      .ok ⟨Http.trim (Http.serviceUrl "localhost" 8881)⟩ := rfl
  exact ⟨e, s', hleads, (Visits.tells (.fresh rfl rfl) hleads).2
    ⟨fun _ he => (nomatch hopen.symm.trans he), nofun⟩⟩

/-- The message is not about the authentication of a consumer whose certificates are none, and after
    one that nobody answered it stays when the next goes well. -/
theorem message_by_earlier :
    (∃ e s', Visit.Leads ⟨.answering .nothing [], .authenticate (some "secret"), .error e⟩ 0
        { hubSite with consumer := { hubSite.consumer with
          caCertificate := some (Bytes.ofString "not a certificate") } } s' ∧
      e.kind = .config ∧ s'.consumer.status.message = "") ∧
    ∃ e s s', Visit.Leads ⟨.answering .nothing [], .authenticate (some "secret"), .error e⟩ 0
        hubSite s ∧
      Visit.Leads ⟨.welcoming [], .authenticate (some "secret"), .done⟩ 0 s s' ∧
      s'.consumer.status.message = e.message ∧ e.message ≠ "" :=
  ⟨⟨_, _, rfl, rfl, rfl⟩, _, _, _, rfl, rfl, rfl, Error.message_ne_empty _⟩

end WebOfThings
