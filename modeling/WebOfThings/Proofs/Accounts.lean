import Mathlib
import WebOfThings.Proofs.Paths
import WebOfThings.Proofs.Safekeeping

/-!
# Accounts and their cache files

The cache file of an account has the name of the account in it, as it is. Whatever is done by a
consumer that caches its descriptions in a directory, or to it (`Chore`), no file is written but the
one that this path leads to (`Chore.relates_tidy`).

* `caches_apart`: so accounts whose paths lead to different places do not share what is cached.
  Accounts whose names have no slashes are such, and their files are in the directory. Accounts
  whose paths lead to one place share the file.
* `accounts_share`: two accounts can be such, if the name of one has a slash.
-/

namespace WebOfThings

open Run ConsumerFactory

/-! ## What is done -/

/-- What is done by a consumer that caches its descriptions in a directory, or to it. -/
inductive Chore
  /-- It begins to cache them. -/
  | cache
  /-- It visits its hub. -/
  | visit (hub : Hub) (call : HubCall)
  /-- It is disconnected. -/
  | disconnect
  /-- Its store gets a description that may be shared. -/
  | add (ref : DescriptionRef)
  /-- Its store gets descriptions that nobody shares. -/
  | stock (documents : List ThingDescription)
  /-- Its store loses a description. -/
  | remove (id : String)
  /-- Its store is loaded from its cache file. -/
  | load
  /-- Its store is saved to its cache file. -/
  | save
  /-- Something else happens. -/
  | happening (h : Happening)

/-- Does it. -/
def Chore.run (depth : Nat) (directory : Path) : Chore → Run Unit
  | cache => cacheIn directory
  | visit hub call => discard (call.run (calls depth) hub)
  | disconnect => disconnectConsumer
  | add ref => modify fun s =>
    { s with consumer := { s.consumer with store := s.consumer.store.add s.catalogue ref } }
  | stock documents => storeDescriptions documents
  | remove id => updateConsumer fun c => { c with store := c.store.remove id }
  | load => modify fun s =>
    let (_, catalogue, store) := s.consumer.store.load s.disk s.catalogue
    { s with catalogue, consumer := { s.consumer with store } }
  | save => modify fun s => { s with disk := (s.consumer.store.save s.disk s.catalogue).2 }
  | happening h => h.run (calls depth)

/-- The consumer has an account, and caches its descriptions in a directory if anywhere. -/
structure Site.KeepsTo (account : String) (directory : Path) (s : Site) : Prop where
  /-- It has the account. -/
  owner : s.consumer.account.id = account
  /-- It caches in the directory. -/
  place : ∀ other, s.consumer.cacheDirectory = some other → other = directory
  /-- Its store is cached in the file of the account. -/
  file : ∀ p, s.consumer.store.cacheFile = some p → p = cachePath directory account

/-- A consumer that keeps to its account and its directory goes on to do so, and only the cache file
    of the account is written. -/
def Site.Tidy (account : String) (directory : Path) (s s' : Site) : Prop :=
  s.KeepsTo account directory →
    s'.KeepsTo account directory ∧ s.disk.Spares (cachePath directory account) s'.disk

namespace Site.Tidy

variable {account : String} {directory : Path} {s s' : Site}

theorem of_same (hdisk : s'.disk = s.disk) (haccount : s'.consumer.account = s.consumer.account)
    (hdirectory : s'.consumer.cacheDirectory = s.consumer.cacheDirectory)
    (hfile : s'.consumer.store.cacheFile = s.consumer.store.cacheFile) :
    s.Tidy account directory s' :=
  fun h => ⟨⟨haccount ▸ h.owner, hdirectory ▸ h.place, hfile ▸ h.file⟩,
    fun _ _ => by rw [hdisk]⟩

theorem composes : Composes (Site.Tidy account directory) where
  refl _ := of_same rfl rfl rfl rfl
  trans h h' hs := by
    obtain ⟨hs', hdisk⟩ := h hs
    obtain ⟨hs'', hdisk'⟩ := h' hs'
    exact ⟨hs'', hdisk.trans hdisk'⟩

/-- A store is saved to the cache file of the account. -/
theorem save (s : Site) : s.Tidy account directory
    { s with disk := (s.consumer.store.save s.disk s.catalogue).2 } := by
  intro h
  refine ⟨⟨h.owner, h.place, h.file⟩, ?_⟩
  simp only [ThingStore.save]
  cases hfile : s.consumer.store.cacheFile with
  | none => exact fun _ _ => rfl
  | some p =>
    obtain rfl := h.file p hfile
    dsimp only
    split
    · next hwritten => exact Disk.spares_write? hwritten
    · exact fun _ _ => rfl

/-- A new store is loaded from the cache file of the account. -/
theorem reloaded (s : Site) : s.Tidy account directory s.reloaded := by
  intro h
  refine ⟨⟨h.owner, h.place, fun p hp => ?_⟩, fun _ _ => rfl⟩
  have hfile : s.consumer.cacheFile? = some p :=
    (ThingStore.cacheFile_load _ _ s.consumer.newStore).symm.trans hp
  obtain ⟨other, hother, rfl⟩ := Option.map_eq_some_iff.1 hfile
  rw [h.place other hother, h.owner]

theorem cacheIn : Relates (Site.Tidy account directory) (Run.cacheIn directory) := by
  refine relates_bind composes (relates_of_run (fun _ => rfl) fun s h => ?_) fun _ =>
    relates_of_run (fun _ => rfl) reloaded
  exact ⟨⟨h.owner, fun other hother => (Option.some.inj hother).symm, h.file⟩, fun _ _ => rfl⟩

/-! ## What else happens -/

theorem keeps : Keeps (Site.Tidy account directory) where
  toComposes := composes
  note _ _ := of_same rfl rfl rfl rfl
  mark _ _ := of_same rfl rfl rfl rfl
  publish _ _ := of_same rfl rfl rfl rfl
  exposed _ _ _ _ := of_same rfl rfl rfl rfl
  consumed _ _ _ _ := of_same rfl rfl rfl rfl

theorem drop (role : Role) (id : String) (s : Site) :
    s.Tidy account directory (role.drop id s) := by
  simp only [Role.drop]
  split
  · cases role <;> exact of_same rfl rfl rfl rfl
  · exact composes.refl s

theorem changed (o : Occasion) (a : Act) (s : Site) : s.Tidy account directory (a.changed o s) :=
  keeps.changed (fun _ _ _ _ _ => of_same rfl rfl rfl rfl) (fun _ _ _ => of_same rfl rfl rfl rfl)
    (fun _ _ => of_same rfl rfl rfl rfl) fun _ id _ _ => drop .consumed id s

theorem relates_calls (depth : Nat) (h : Handler) (o : Occasion) :
    Relates (Site.Tidy account directory) (calls depth h o) :=
  Run.relates_calls keeps changed depth h o

/-- What may happen at once writes no file. -/
theorem of_change {allowed : Occasion → Act → Prop} {told : ConsumedRef → Prop}
    (h : s.Change allowed told s') : s.Tidy account directory s' := by
  cases h with
  | act => exact changed _ _ s
  | drop role id => exact drop role id s
  | add role | hold role | learn role | empty role =>
    cases role <;> exact of_same rfl rfl rfl rfl
  | _ => exact of_same rfl rfl rfl rfl

/-- Whatever else happens is made of that. -/
theorem relates_happening (depth : Nat) (h : Happening) :
    Relates (Site.Tidy account directory) (h.run (calls depth)) := by
  intro s u s' hrun
  have htells : TellsOnly (fun _ _ => True) fun _ => True := fun _ _ _ _ _ => trivial
  obtain ⟨entries, -, hlater⟩ :=
    Site.Unfolds.relates_happening htells depth (fun _ _ _ _ => trivial) s u s' hrun
  have hsteps := hlater (fun _ _ _ _ _ _ _ => trivial) s.confined_true
  clear hlater hrun
  induction hsteps with
  | refl => exact composes.refl s
  | tail _ hchange ih => exact composes.trans ih (of_change hchange)

/-! ## Visits -/

theorem storeDescriptions (documents : List ThingDescription) :
    Relates (Site.Tidy account directory) (Run.storeDescriptions documents) :=
  relates_of_run (fun _ => rfl) fun s =>
    of_same rfl rfl rfl (ThingStore.cacheFile_addAll documents s.catalogue s.consumer.store)

theorem disconnectConsumer : Relates (Site.Tidy account directory) Run.disconnectConsumer :=
  relates_of_run (fun _ => rfl) fun s => by
    have hdisconnected : s.Tidy account directory { s with
        buses := s.buses.update s.consumer.bus (·.disconnect)
        consumer := { s.consumer with status := { s.consumer.status with connected := false } } } :=
      of_same rfl rfl rfl rfl
    exact composes.trans hdisconnected (save _)

theorem updateStatus (change : ConnectionStatus → ConnectionStatus) :
    Relates (Site.Tidy account directory) (Run.updateStatus change) :=
  relates_of_run (fun _ => rfl) fun _ => of_same rfl rfl rfl rfl

theorem reset : Relates (Site.Tidy account directory) Run.reset :=
  relates_bind composes disconnectConsumer fun _ => relates_bind composes (updateStatus _)
    fun _ => relates_of_run (fun _ => rfl) reloaded

/-- A visit writes no other file: it saves the store when it starts afresh. -/
theorem attends (depth : Nat) (hub : Hub) :
    Attends (Site.Tidy account directory) (calls depth) hub where
  toComposes := composes
  resets := reset
  tells := updateStatus
  authenticates password :=
    relates_of_run (run_authenticate hub password) fun _ => of_same rfl rfl rfl rfl
  asks _ := relates_of_run (fun _ => rfl) fun _ => of_same rfl rfl rfl rfl
  stores := storeDescriptions
  connects _ _ _ :=
    relates_connectBus_of_keeps (fun _ _ _ => of_same rfl rfl rfl rfl) keeps (relates_calls depth)
      _ _ _ _

end Site.Tidy

/-- Nothing that is done writes another file than the cache file of the account. -/
theorem Chore.relates_tidy {account : String} {directory : Path} (depth : Nat) (chore : Chore) :
    Relates (Site.Tidy account directory) (chore.run depth directory) := by
  cases chore with
  | cache => exact Site.Tidy.cacheIn
  | visit hub call => exact relates_discard ((Site.Tidy.attends depth hub).relates_visit call)
  | disconnect => exact Site.Tidy.disconnectConsumer
  | add ref =>
    refine relates_of_run (fun _ => rfl) fun s => .of_same rfl rfl rfl ?_
    simp only [ThingStore.add]
    split <;> rfl
  | stock documents => exact Site.Tidy.storeDescriptions documents
  | remove id => exact relates_of_run (fun _ => rfl) fun s => .of_same rfl rfl rfl rfl
  | load =>
    exact relates_of_run (fun _ => rfl) fun s =>
      .of_same rfl rfl rfl (ThingStore.cacheFile_load _ _ s.consumer.store)
  | save => exact relates_of_run (fun _ => rfl) Site.Tidy.save
  | happening h => exact Site.Tidy.relates_happening depth h

/-! ## Accounts -/

/-- The cache file of an account without slashes is in the directory. -/
theorem resolve_cachePath_of_flat (directory : Path) {account : String}
    (flat : '/' ∉ account.toList) :
    (cachePath directory account).resolve = directory.resolve ++ [account ++ ".json"] := by
  have hlength : 5 ≤ (account ++ ".json").length := by
    rw [String.length_append]
    exact Nat.le_add_left 5 account.length
  have hne : ∀ name : String, name.length < 5 → account ++ ".json" ≠ name := by
    rintro name hname rfl
    omega
  refine Path.resolve_join_of_flat directory ?_ (hne "" (by decide)) (hne "." (by decide))
    (hne ".." (by decide))
  rw [String.toList_append, List.mem_append, not_or]
  exact ⟨flat, by decide⟩

/-- Accounts without slashes have files of their own. -/
theorem resolve_cachePath_ne (directory : Path) {account other : String} (hne : account ≠ other)
    (flat : '/' ∉ account.toList) (flat' : '/' ∉ other.toList) :
    (cachePath directory account).resolve ≠ (cachePath directory other).resolve := by
  rw [resolve_cachePath_of_flat directory flat, resolve_cachePath_of_flat directory flat']
  intro heq
  have hnames := congrArg String.toList (List.singleton_inj.1 (List.append_cancel_left heq))
  rw [String.toList_append, String.toList_append] at hnames
  exact hne (String.toList_inj.1 (List.append_cancel_right hnames))

section

variable {account : Account} {certificate : Option Bytes} {bus : BusRef} {directory : Path}
  {depth : Nat} {chores : List Chore} {s s' : Site}
  (new : s.consumer = create account certificate bus)
  (h : (chores.forM (·.run depth directory)).run s = some (.unit, s'))
include new h

/-- A consumer that knew nothing yet caches its descriptions in a directory. Whatever it does, it
    does not change what another account finds in its cache file, if the files of the two are in
    different places. So it is if neither has slashes in its name, and then the files are in the
    directory. If both files are in one place, what the one saves is what the other finds. -/
theorem caches_apart (other : String) :
    (account.id ≠ other → '/' ∉ account.id.toList → '/' ∉ other.toList →
      (cachePath directory account.id).resolve = directory.resolve ++ [account.id ++ ".json"] ∧
      (cachePath directory other).resolve = directory.resolve ++ [other ++ ".json"] ∧
      (cachePath directory account.id).resolve ≠ (cachePath directory other).resolve) ∧
    ((cachePath directory account.id).resolve ≠ (cachePath directory other).resolve →
      s'.disk.find? (cachePath directory other) = s.disk.find? (cachePath directory other) ∧
      ∀ store : ThingStore, store.cacheFile = some (cachePath directory other) →
        store.cached? s'.disk = store.cached? s.disk) ∧
    ((cachePath directory account.id).resolve = (cachePath directory other).resolve →
      ∀ p disk, s'.consumer.store.cacheFile = some p →
        s'.consumer.store.save s'.disk s'.catalogue = (.done, disk) →
        (disk.locate (cachePath directory other)).isSome = true →
        disk.find? (cachePath directory other) =
          some (.file (ThingStore.encode (s'.consumer.store.documents s'.catalogue)))) := by
  have hkeeps : s.KeepsTo account.id directory := by
    constructor <;> simp [new, create]
  obtain ⟨hkeeps', hspares⟩ := relates_forM Site.Tidy.composes
    (fun chore _ => chore.relates_tidy depth) _ _ _ h hkeeps
  refine ⟨fun hne flat flat' => ⟨resolve_cachePath_of_flat directory flat,
    resolve_cachePath_of_flat directory flat', resolve_cachePath_ne directory hne flat flat'⟩,
    fun hapart => ?_, fun hsame p disk hfile hsave hsome => ?_⟩
  · have hfind := hspares _ (Ne.symm hapart)
    refine ⟨hfind, fun store hstore => ?_⟩
    simp only [ThingStore.cached?, hstore, Disk.read?, hfind]
  · obtain rfl := hkeeps'.file p hfile
    rw [ThingStore.save, hfile] at hsave
    dsimp only at hsave
    split at hsave
    · next hwritten =>
      obtain ⟨-, rfl⟩ := Prod.mk.inj hsave
      have hfind := Disk.find?_of_write? hwritten
      rw [← Disk.find?_eq_of_resolve_eq hsame (Disk.isSome_locate_of_find? hfind) hsome, hfind]
    · cases (Prod.mk.inj hsave).1

end

/-- A disk with nothing but a directory. -/
def cacheDisk : Disk := ⟨[(["cache"], .directory)]⟩

/-- A consumer that knows nothing yet, and a description of the lamp. -/
def accountSite (account : String) : Site :=
  { catalogue := ⟨[.lamp]⟩
    buses := ⟨[.ofClient { config := { clientId := account } }]⟩
    consumer := create (.create account "localhost" "user") none 0
    disk := cacheDisk }

/-- It caches the description. -/
def cachesLamp : List Chore := [.cache, .add 0, .disconnect]

/-- The consumer of a site after it began to cache and got the description. -/
def Site.withLamp (s : Site) : Site :=
  let s := { s with consumer := { s.consumer with cacheDirectory := some "cache" } }.reloaded
  { s with consumer := { s.consumer with store := s.consumer.store.add s.catalogue 0 } }

theorem run_cachesLamp (s : Site) : ∃ s',
    (cachesLamp.forM (·.run 0 "cache")).run s = some (.unit, s') ∧ s'.disk =
      (s.withLamp.consumer.store.save s.withLamp.disk s.withLamp.catalogue).2 := by
  have hadd (s : Site) : (Chore.run 0 "cache" (.add 0)).run s = some (.unit,
    { s with consumer := { s.consumer with store := s.consumer.store.add s.catalogue 0 } }) := rfl
  have hdisconnect (s : Site) : ∃ s', (Chore.run 0 "cache" .disconnect).run s = some (.unit, s') ∧
      s'.disk = (s.consumer.store.save s.disk s.catalogue).2 := ⟨_, rfl, rfl⟩
  obtain ⟨s', hrun, hdisk⟩ := hdisconnect s.withLamp
  refine ⟨s', ?_, hdisk⟩
  rw [cachesLamp, List.forM_eq_forM, List.forM_cons, Chore.run, run_bind_of_run (run_cacheIn _ s),
    List.forM_cons, run_bind_of_run (hadd _), List.forM_cons]
  exact (run_bind_of_run hrun _).trans rfl

theorem cachePath_cache {account : String}
    (relative : (account ++ ".json").startsWith "/" = false) :
    cachePath "cache" account = "cache/" ++ (account ++ ".json") := by
  have hends : "cache".endsWith "/" = false :=
    String.Slice.endsWith_string_eq_false_iff.2 (by decide)
  simp [cachePath, Path.join, relative, hends]

/-- One account caches the lamp. There is still nothing in the cache of the other. -/
theorem caches_apart_lamp : ∃ s',
    (cachesLamp.forM (·.run 0 "cache")).run (accountSite "b") = some (.unit, s') ∧
    (cachePath "cache" "b").resolve = ["cache", "b.json"] ∧
    s'.disk.find? (cachePath "cache" "c") = none := by
  obtain ⟨s', hrun, -⟩ := run_cachesLamp (accountSite "b")
  obtain ⟨hflat, hapart, -⟩ := caches_apart (s := accountSite "b") rfl hrun "c"
  obtain ⟨hplace, -, hne⟩ := hflat (by decide) (by decide) (by decide)
  have hcache : Path.resolve "cache" = ["cache"] := by cbv
  have hnone : cacheDisk.find? (cachePath "cache" "c") = none := by
    rw [cachePath_cache (by cbv)]
    cbv
  rw [hcache] at hplace
  exact ⟨s', hrun, hplace, (hapart hne).1.trans hnone⟩

/-- One account caches the lamp, and another finds it: their names differ by what does not matter in
    a path. And the file of a third one is not in the directory at all. -/
theorem accounts_share : ∃ s',
    (cachesLamp.forM (·.run 0 "cache")).run (accountSite "b") = some (.unit, s') ∧
    (accountSite "b").disk.find? (cachePath "cache" "./b") = none ∧
    s'.disk.find? (cachePath "cache" "./b") = some (.file (ThingStore.encode [.lamp])) ∧
    (cachePath "cache" "../b").resolve = ["b.json"] := by
  obtain ⟨s', hrun, hdisk⟩ := run_cachesLamp (accountSite "b")
  have hb : cachePath "cache" "b" = "cache/b.json" := cachePath_cache (by cbv)
  have hother : cachePath "cache" "./b" = "cache/./b.json" := cachePath_cache (by cbv)
  have hout : cachePath "cache" "../b" = "cache/../b.json" := cachePath_cache (by cbv)
  have hlamp : (accountSite "b").withLamp.consumer.store =
        { account := "b", things := [("lamp", 0)], cacheFile := some "cache/b.json" } ∧
      (accountSite "b").withLamp.catalogue = ⟨[.lamp]⟩ := by
    have hload : ({ account := "b", cacheFile := some "cache/b.json" } : ThingStore).load cacheDisk
        ⟨[.lamp]⟩ = (.done, ⟨[.lamp]⟩, { account := "b", cacheFile := some "cache/b.json" }) := by
      cbv
    have hnew : ({ (accountSite "b").consumer with cacheDirectory := some "cache" } :
        ConsumerFactory).newStore = { account := "b", cacheFile := some "cache/b.json" } := by
      rw [← hb]
      rfl
    simp only [Site.withLamp, Site.reloaded, hnew]
    exact ⟨by rw [show (accountSite "b").disk = cacheDisk from rfl,
      show (accountSite "b").catalogue = ⟨[.lamp]⟩ from rfl, hload]; rfl,
      congrArg (·.2.1) hload⟩
  have hwrite (content : Bytes) : cacheDisk.write? "cache/b.json" content =
      .ok ⟨[(["cache", "b.json"], .file content), (["cache"], .directory)]⟩ := by cbv
  have hfind (content : Bytes) : (Disk.mk [(["cache", "b.json"], .file content),
      (["cache"], .directory)]).find? "cache/./b.json" = some (.file content) := by cbv
  rw [hother, hout]
  refine ⟨s', hrun, ?_, ?_, by cbv⟩
  · show cacheDisk.find? _ = _
    cbv
  · rw [hdisk, hlamp.1, hlamp.2, show (accountSite "b").withLamp.disk = cacheDisk from rfl,
      ThingStore.save]
    simp only [hwrite, hfind]
    rfl

end WebOfThings
