import Mathlib
import WebOfThings.Proofs.Cache
import WebOfThings.Proofs.Extension
import WebOfThings.Proofs.Recovery
import WebOfThings.Proofs.Status

/-!
# Attempts lose no description

An attempt to connect gives the consumer another store: the one that it has is saved, and a new one
is loaded from the cache (`Site.Caches.rel_reloaded`). Whatever follows, up to the end of the
attempt or to the step that it fails at, adds to that store what the directory answers, and nothing
else (`Visit.Leads.stocks`).

* `attempt_loses_nothing`: so after an attempt the things that the consumer knows are those that it
  knew, with equal descriptions, and those that the directory answered.
* `Attempts.ids_subset`: no thing gets lost however often it is tried.
-/

namespace WebOfThings

open Run

/-- What the directory answers to a visit: nothing unless the visit reads it. -/
def Caller.answered (who : Caller) (token : Option String) (visit : Visit) :
    List ThingDescription :=
  ((who.reading? token visit).bind (·.toOption)).getD []

/-- A store for the descriptions of a consumer. -/
def ConsumerFactory.newStore (k : ConsumerFactory) : ThingStore :=
  { account := k.account.id, cacheFile := k.cacheFile? }

namespace Site

/-- The description that the consumer has of a thing. -/
def described? (s : Site) (id : String) : Option ThingDescription :=
  s.consumer.store.described? s.catalogue id

/-- The consumer has a cache file, which is that of its store too, and the store is orderly. -/
structure Caches (s : Site) (path : Path) : Prop where
  /-- The consumer has the file. -/
  consumer : s.consumer.cacheFile? = some path
  /-- Its store has it too. -/
  store : s.consumer.store.cacheFile = some path
  /-- The store is orderly. -/
  orderly : s.consumer.store.Orderly s.catalogue

namespace Stocks

variable {s s' s'' : Site} {ds es : List ThingDescription} {path : Path}

theorem of_same (hcatalogue : s'.catalogue = s.catalogue)
    (hstore : s'.consumer.store = s.consumer.store)
    (hcache : s'.consumer.cacheFile? = s.consumer.cacheFile?) : s.Stocks s' [] :=
  ⟨hcache, hcatalogue, hstore⟩

/-- It does not matter what else there was at first. -/
theorem of_start (h : s'.Stocks s'' ds) (hcatalogue : s'.catalogue = s.catalogue)
    (hstore : s'.consumer.store = s.consumer.store)
    (hcache : s'.consumer.cacheFile? = s.consumer.cacheFile?) : s.Stocks s'' ds :=
  ⟨h.cacheFile.trans hcache, hcatalogue ▸ hstore ▸ h.catalogue, hcatalogue ▸ hstore ▸ h.store⟩

theorem trans (h : s.Stocks s' ds) (h' : s'.Stocks s'' es) : s.Stocks s'' (ds ++ es) := by
  refine ⟨h'.cacheFile.trans h.cacheFile, ?_, ?_⟩
  · rw [h'.catalogue, h.catalogue, h.store, ThingStore.addAll_append]
  · rw [h'.store, h.catalogue, h.store, ThingStore.addAll_append]

theorem caches (h : s.Stocks s' ds) (caches : s.Caches path) : s'.Caches path := by
  refine ⟨h.cacheFile.trans caches.consumer, ?_, ?_⟩
  · rw [h.store, ThingStore.cacheFile_addAll, caches.store]
  · rw [h.catalogue, h.store]
    exact caches.orderly.addAll ds

theorem described? (h : s.Stocks s' ds) (caches : s.Caches path) (id : String) :
    s'.described? id = (ThingDescription.last? id ds).or (s.described? id) := by
  rw [Site.described?, h.catalogue, h.store]
  exact caches.orderly.described?_addAll ds id

end Stocks

/-- The consumer is disconnected, and its descriptions are saved. -/
def saved (s : Site) : Site :=
  { s with
    buses := s.buses.update s.consumer.bus (·.disconnect)
    disk := (s.consumer.store.save s.disk s.catalogue).2
    consumer := { s.consumer with
      status := { s.consumer.status with connected := false, message := "" } } }

/-- The consumer has a store that is loaded from its cache. -/
def reloaded (s : Site) : Site :=
  let loaded := s.consumer.newStore.load s.disk s.catalogue
  { s with catalogue := loaded.2.1, consumer := { s.consumer with store := loaded.2.2 } }

variable {s : Site} {path : Path}

/-- A store that is loaded from the cache file of the consumer has that file, and is orderly. -/
theorem caches_reloaded (hpath : s.consumer.cacheFile? = some path) : s.reloaded.Caches path :=
  ⟨hpath, (ThingStore.cacheFile_load _ _ _).trans hpath,
    (ThingStore.Orderly.of_empty rfl).load s.disk⟩

/-- A consumer that saves its descriptions and loads them again has equal descriptions of the same
    things. -/
theorem Caches.rel_reloaded (caches : s.Caches path)
    (cacheable : s.consumer.store.Cacheable s.disk path s.catalogue) (id : String) :
    Option.Rel (fun d e => d.same e = true) (s.described? id) (s.saved.reloaded.described? id) := by
  have hfile : s.consumer.newStore.cacheFile = some path := caches.consumer
  obtain ⟨ds, hload, hrel⟩ := caches.orderly.rel_load_save caches.store cacheable hfile rfl
  have hloaded : s.saved.reloaded.described? id =
      (s.consumer.newStore.load s.saved.disk s.catalogue).2.2.described?
        (s.consumer.newStore.load s.saved.disk s.catalogue).2.1 id := rfl
  rw [hloaded, show s.saved.disk = (s.consumer.store.save s.disk s.catalogue).2 from rfl, hload]
  exact hrel id

end Site

namespace Run

variable {s s' : Site} {hub : Hub} {depth : Nat} {outcome : Outcome}

/-- Starting afresh is to disconnect, to save, and to load again. -/
theorem run_reset_eq (s : Site) : reset.run s = some (.unit, s.saved.reloaded) := rfl

/-- Connecting the bus leaves the descriptions alone. -/
theorem stocks_of_run_connectConsumerBus {credentials : Credentials}
    (h : (connectConsumerBus (calls depth) hub credentials).run s = some (outcome, s')) :
    s.Stocks s' [] := by
  have hget : (get : Run Site).run s = some (s, s) := rfl
  rw [connectConsumerBus, run_bind_of_run hget] at h
  obtain ⟨outcome', s₁, hconnect, h⟩ := run_bind_eq_some.1 h
  obtain ⟨things, hspares⟩ := relates_connectBus_of_keeps (fun _ _ _ => .of_same rfl)
    Site.SparesConsumer.keeps (Site.SparesConsumer.relates_calls depth) _ _ _ _ _ _ _ hconnect
  obtain ⟨_, _, hgrows⟩ := relates_connectBus_of_keeps (R := Site.Grows)
    (fun _ _ _ => ⟨[], [], rfl, rfl, rfl, fun _ => rfl⟩) keeps_grows (relates_grows_calls depth)
    _ _ _ _ _ _ _ hconnect
  have hstocks : s.Stocks s₁ [] :=
    .of_same hgrows.catalogue (by rw [hspares]) (by rw [hspares]; rfl)
  cases outcome' <;>
  · obtain ⟨rfl, rfl⟩ := Prod.mk.inj (Option.some.inj h)
    exact hstocks.trans (.of_same rfl rfl rfl)

/-- After a fresh start, connecting with tokens adds what the directory answers, if there are tokens
    to read it with. -/
theorem stocks_of_run_connect {password : Option String}
    (h : (connect (calls depth) hub password).run s = some (outcome, s')) :
    s.saved.reloaded.Stocks s'
      (s.consumer.caller.answered s.consumer.refreshToken ⟨hub, .connect password, outcome⟩) := by
  rw [connect, run_bind_of_run (run_reset_eq s), run_bind_of_run (run_authenticate hub password _),
    show s.saved.reloaded.consumer.caller = s.consumer.caller from rfl,
    show s.saved.reloaded.consumer.refreshToken = s.consumer.refreshToken from rfl] at h
  simp only [Caller.answered, Caller.reading?]
  cases htokens : s.consumer.caller.tokens hub password s.consumer.refreshToken with
  | error e =>
    rw [htokens] at h
    obtain ⟨rfl, rfl⟩ := Prod.mk.inj (Option.some.inj h)
    exact .of_same rfl rfl rfl
  | ok pair =>
    rw [htokens] at h
    dsimp only at h
    obtain ⟨s₂, -, hread, -, -, -, hstocks⟩ :=
      run_readDirectory hub (some pair.accessToken) none _
    have hget : (get : Run Site).run s₂ = some (s₂, s₂) := rfl
    rw [run_bind_of_run hread, run_bind_of_run hget] at h
    have hall := hstocks.trans (stocks_of_run_connectConsumerBus h)
    rw [List.append_nil] at hall
    exact hall.of_start rfl rfl rfl

/-- After a fresh start, connecting with a certificate adds what the directory answers, if the bus
    is connected. -/
theorem stocks_of_run_connectWithCertificate {certificate : ClientCertificate}
    (h : (connectWithCertificate (calls depth) hub certificate).run s = some (outcome, s')) :
    s.saved.reloaded.Stocks s' (s.consumer.caller.answered
      s.consumer.refreshToken ⟨hub, .connectWithCertificate certificate, outcome⟩) := by
  rw [connectWithCertificate, run_bind_of_run (run_reset_eq s)] at h
  obtain ⟨outcome', s₂, hconnect, h⟩ := run_bind_eq_some.1 h
  have hstocks := stocks_of_run_connectConsumerBus hconnect
  have hcaller := (of_run_connectConsumerBus hconnect).1
  cases outcome' with
  | error e =>
    obtain ⟨rfl, rfl⟩ := Prod.mk.inj (Option.some.inj h)
    exact hstocks
  | ok u =>
    obtain ⟨s₃, -, hread, -, -, -, hstocks₃⟩ :=
      run_readDirectory hub none (some certificate) s₂
    dsimp only at h
    rw [run_bind_of_run hread] at h
    obtain ⟨rfl, rfl⟩ := Prod.mk.inj (Option.some.inj h)
    rw [hcaller] at hstocks₃
    exact hstocks.trans hstocks₃

theorem run_reloadStore (s : Site) : reloadStore.run s = some (.unit, s.reloaded) := rfl

/-- To cache in a directory is to load from there. -/
theorem run_cacheIn (directory : Path) (s : Site) : (cacheIn directory).run s = some (.unit,
    { s with consumer := { s.consumer with cacheDirectory := some directory } }.reloaded) := by
  rw [cacheIn, updateConsumer, run_bind_of_run rfl, run_reloadStore]

/-- A consumer that is given a directory for its cache has a cache file there. -/
theorem caches_of_run_cacheIn {directory : Path}
    (h : (cacheIn directory).run s = some (.unit, s')) :
    s'.Caches (ConsumerFactory.cachePath directory s.consumer.account.id) := by
  rw [run_cacheIn] at h
  obtain ⟨-, rfl⟩ := Prod.mk.inj (Option.some.inj h)
  exact Site.caches_reloaded rfl

end Run

section

variable {visit : Visit} {depth : Nat} {s s' : Site} {path : Path}

/-- After a fresh start, an attempt adds what the directory answers. -/
theorem Visit.Leads.stocks (leads : visit.Leads depth s s')
    (connects : visit.call.connects = true) :
    s.saved.reloaded.Stocks s' (s.consumer.caller.answered s.consumer.refreshToken visit) := by
  obtain ⟨hub, call, outcome⟩ := visit
  cases call with
  | authenticate password => contradiction
  | connect password => exact stocks_of_run_connect leads
  | connectWithCertificate certificate => exact stocks_of_run_connectWithCertificate leads

variable (leads : visit.Leads depth s s') (connects : visit.call.connects = true)
  (caches : s.Caches path) (cacheable : s.consumer.store.Cacheable s.disk path s.catalogue)
include leads connects caches cacheable

/-- After an attempt a thing has the last description that the directory answered for it, or one
    that is equal to what it had. -/
theorem Visit.Leads.described? : s'.Caches path ∧ ∀ id, ∃ kept,
    Option.Rel (fun d e => d.same e = true) (s.described? id) kept ∧
    s'.described? id = (ThingDescription.last? id
      (s.consumer.caller.answered s.consumer.refreshToken visit)).or kept := by
  have hstocks := leads.stocks connects
  have hreloaded : s.saved.reloaded.Caches path := Site.caches_reloaded caches.consumer
  exact ⟨hstocks.caches hreloaded, fun id =>
    ⟨_, caches.rel_reloaded cacheable id, hstocks.described? hreloaded id⟩⟩

/-- The things that the consumer knows after an attempt are those that it knew, and those that the
    directory answered. -/
theorem Visit.Leads.mem_ids_iff (id : String) :
    id ∈ s'.consumer.store.ids ↔ id ∈ s.consumer.store.ids ∨
      ∃ d ∈ s.consumer.caller.answered s.consumer.refreshToken visit, d.id = id := by
  obtain ⟨hcaches, hdescribed⟩ := leads.described? connects caches cacheable
  obtain ⟨kept, hkept, hget⟩ := hdescribed id
  have hknown : kept.isSome = (s.described? id).isSome := by
    generalize s.described? id = before at hkept
    cases hkept <;> rfl
  rw [hcaches.orderly.mem_ids_iff, caches.orderly.mem_ids_iff, ← ThingDescription.isSome_last?_iff,
    show s'.consumer.store.described? s'.catalogue id = s'.described? id from rfl, hget,
    Option.isSome_or, Bool.or_eq_true, hknown]
  exact or_comm

/-- The descriptions of a consumer can be written to its cache file and be read back. After an
    attempt to connect, however it ended, the consumer knows the things that it knew and those that
    the directory answered in that attempt: these with the last description that was answered, and
    all others with a description equal to the one that they had. -/
theorem attempt_loses_nothing :
    s'.Caches path ∧
    (∀ id, id ∈ s'.consumer.store.ids ↔ id ∈ s.consumer.store.ids ∨
      ∃ d ∈ s.consumer.caller.answered s.consumer.refreshToken visit, d.id = id) ∧
    (∀ id d, ThingDescription.last? id
        (s.consumer.caller.answered s.consumer.refreshToken visit) = some d →
      s'.described? id = some d) ∧
    ∀ id, (∀ d ∈ s.consumer.caller.answered s.consumer.refreshToken visit, d.id ≠ id) →
      Option.Rel (fun d e => d.same e = true) (s.described? id) (s'.described? id) := by
  obtain ⟨hcaches, hdescribed⟩ := leads.described? connects caches cacheable
  refine ⟨hcaches, leads.mem_ids_iff connects caches cacheable, fun id d hlast => ?_,
    fun id hnone => ?_⟩
  · obtain ⟨kept, -, hget⟩ := hdescribed id
    rw [hget, hlast, Option.some_or]
  · obtain ⟨kept, hkept, hget⟩ := hdescribed id
    rw [hget, ThingDescription.last?_eq_none_iff.2 hnone, Option.none_or]
    exact hkept

end

/-! ## A consumer that knows the lamp -/

/-- A consumer that knows the lamp, and has a directory for its cache. -/
def cachingConsumer : ConsumerFactory :=
  { ConsumerFactory.home with
    store := { account := "home", things := [("lamp", 0)], cacheFile := some "home.json" }
    cacheDirectory := some "" }

/-- The site of the consumer. -/
def cachingSite : Site := { hubSite with catalogue := ⟨[.lamp]⟩, consumer := cachingConsumer }

theorem caches_cachingSite : cachingSite.Caches "home.json" where
  consumer := by
    rw [show cachingSite.consumer = cachingConsumer from rfl]
    cbv
  store := rfl
  orderly := ⟨List.pairwise_singleton _ _, List.forall_mem_singleton.2 ⟨_, rfl, rfl⟩⟩

theorem cacheable_cachingSite :
    cachingSite.consumer.store.Cacheable cachingSite.disk "home.json" cachingSite.catalogue where
  writable := ⟨_, rfl⟩
  readable := by
    rw [show cachingSite.consumer.store.documents cachingSite.catalogue = [.lamp] from rfl]
    have hlamp : ThingDescription.lamp.Recovers :=
      ThingDescription.recovers_of_plain (by decide) (by decide) (by decide)
        (List.forall_mem_cons.2 ⟨rfl, List.forall_mem_singleton.2 rfl⟩) (by decide)
    exact ⟨[.lamp], hlamp, .cons (by cbv) .nil⟩

/-- A fan. -/
def ThingDescription.fan : ThingDescription := { context := [], id := "fan" }

/-- A hub that brings tokens, whose directory answers the fan, and whose broker says nothing. -/
def Hub.offeringFan : Hub :=
  { checks := .ofKnown [] []
    answer := fun r =>
      if r.method = .post then tokensReply else .answer 200 (ThingStore.encode [.fan])
    events := [] }

theorem exists_leads_cachingSite : ∃ outcome s',
    Visit.Leads ⟨.offeringFan, .connect (some "secret"), outcome⟩ 0 cachingSite s' := by
  obtain ⟨s₁, hauthenticate, hbuses₁, hbus₁⟩ : ∃ s₁,
      (authenticate .offeringFan (some "secret")).run cachingSite.saved.reloaded =
        some (.ok ⟨"access", "refresh"⟩, s₁) ∧
      s₁.buses = cachingSite.saved.buses ∧ s₁.consumer.bus = 0 :=
    ⟨_, run_authenticate _ _ _, rfl, rfl⟩
  obtain ⟨s₂, -, hread, hbuses, -, hstands, -⟩ :=
    run_readDirectory .offeringFan (some "access") none s₁
  obtain ⟨outcome, s', hconnect⟩ : ∃ outcome s', (connectConsumerBus (calls 0) .offeringFan
      (.accessToken s₂.consumer.account.loginName "access")).run s₂ = some (outcome, s') := by
    -- only the bus counts for that, whatever the store is by now
    replace hbuses := hbuses.trans hbuses₁
    have hbus := hstands.bus.trans hbus₁
    clear hread hstands
    obtain ⟨catalogue, exposed, consumed, buses, device, consumer, disk, journal, timeline⟩ := s₂
    obtain ⟨account, ca, bus, things, status, token, store, directory⟩ := consumer
    subst hbuses hbus
    exact ⟨_, _, rfl⟩
  have hget : (get : Run Site).run s₂ = some (s₂, s₂) := rfl
  refine ⟨outcome, s', ?_⟩
  change (connect (calls 0) .offeringFan (some "secret")).run cachingSite = _
  rw [connect, run_bind_of_run (run_reset_eq _), run_bind_of_run hauthenticate]
  dsimp only
  rw [run_bind_of_run hread, run_bind_of_run hget]
  exact hconnect

/-- The consumer tries to connect, and the directory answers the fan. Then it knows the lamp and the
    fan. -/
theorem attempt_loses_nothing_cachingSite : ∃ outcome s',
    Visit.Leads ⟨.offeringFan, .connect (some "secret"), outcome⟩ 0 cachingSite s' ∧
    (∀ id, id ∈ s'.consumer.store.ids ↔ id = "lamp" ∨ id = "fan") ∧
    s'.described? "fan" = some .fan ∧
    ∃ d, s'.described? "lamp" = some d ∧ ThingDescription.lamp.same d = true := by
  obtain ⟨outcome, s', hleads⟩ := exists_leads_cachingSite
  have hanswered : cachingConsumer.caller.answered none
      ⟨.offeringFan, .connect (some "secret"), outcome⟩ = [.fan] := by cbv
  obtain ⟨-, hids, hlast, hkept⟩ :=
    attempt_loses_nothing hleads rfl caches_cachingSite cacheable_cachingSite
  rw [show cachingSite.consumer.caller.answered cachingSite.consumer.refreshToken
    ⟨.offeringFan, .connect (some "secret"), outcome⟩ = [.fan] from hanswered] at hids hlast hkept
  have hlamp := hkept "lamp" (List.forall_mem_singleton.2 (by decide))
  rw [show cachingSite.described? "lamp" = some .lamp from rfl] at hlamp
  refine ⟨outcome, s', hleads, fun id => ?_, hlast _ _ rfl, ?_⟩
  · rw [hids id, show cachingSite.consumer.store.ids = ["lamp"] from rfl, List.mem_singleton]
    exact or_congr_right (by simp [ThingDescription.fan, eq_comm])
  · generalize s'.described? "lamp" = found at hlamp
    cases hlamp with
    | some hsame => exact ⟨_, rfl, hsame⟩

/-! ## Attempts one after another -/

/-- A consumer tries to connect again and again, and can cache its descriptions each time. -/
inductive Attempts (path : Path) : Site → Site → Prop
  /-- It did not try yet. -/
  | none (s : Site) : Attempts path s s
  /-- It tries once more. -/
  | more {visit : Visit} {depth : Nat} {s s' s'' : Site} (h : Attempts path s s')
    (leads : visit.Leads depth s' s'') (connects : visit.call.connects = true)
    (cacheable : s'.consumer.store.Cacheable s'.disk path s'.catalogue) : Attempts path s s''

/-- A thing that the consumer knew it still knows after any attempts. -/
theorem Attempts.ids_subset {s s' : Site} {path : Path} (h : Attempts path s s')
    (caches : s.Caches path) :
    s'.Caches path ∧ s.consumer.store.ids ⊆ s'.consumer.store.ids := by
  induction h with
  | none s => exact ⟨caches, List.Subset.refl _⟩
  | more _ leads connects cacheable ih =>
    obtain ⟨hcaches, hsubset⟩ := ih caches
    refine ⟨(leads.described? connects hcaches cacheable).1, fun id hid => ?_⟩
    exact (leads.mem_ids_iff connects hcaches cacheable id).2 (.inl (hsubset hid))

end WebOfThings
