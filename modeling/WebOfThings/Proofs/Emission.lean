import WebOfThings.Proofs.Run

/-!
# What an exposed thing sends

A thing that emits property changes gives its output one value: the batch of what is due
(`due`). Due is what is declared and, if only changes are to be sent, differs from the value that
was published last. To tell what that is, the thing keeps the values of what it sent; the ledger of
a history of attempts (`ledger`) tells it from the outside, by the calls that were made and how
each of them ended: a batch that was due is published if its call ended well.

`History` is how a thing and its ledger go on, whatever happens to everything else in between.
`History.latest` is the invariant that the thing keeps: its value of a name is the latest in the
ledger. So `History.publishes_due` says of each next call, for any output and however it fails, that
it publishes what is due and nothing more, that an error leaves everything as it was, and that after
success the latest values are those of the call.
-/

namespace WebOfThings

theorem Snapshot.value_ofNative {v : Json} (h : Json.read? v.compact = some v)
    (schema : Option DataSchema) : (ofNative v schema).value = v := by
  simp [ofNative, ofEncoding, h]

namespace Members

variable {α : Type}

theorem get?_eq_some_of_mem {l : Members α} (h : (l.map (·.1)).Nodup) {name : String} {value : α}
    (hm : (name, value) ∈ l) : get? name l = some value := by
  induction l with
  | nil => simp at hm
  | cons e l ih =>
    rw [List.map_cons, List.nodup_cons] at h
    rcases List.mem_cons.1 hm with rfl | hm
    · simp [get?]
    · have hne : name ≠ e.1 := fun he => h.1 (List.mem_map.2 ⟨_, hm, he⟩)
      simp [get?, hne, ih h.2 hm]

theorem get?_eq_none {l : Members α} {name : String} (h : ∀ value, (name, value) ∉ l) :
    get? name l = none := by
  induction l with
  | nil => rfl
  | cons e l ih =>
    have hne : name ≠ e.1 := fun he => h e.2 (by simp [he])
    simp [get?, hne, ih fun v hv => h v (List.mem_cons_of_mem _ hv)]

theorem mem_of_get? {l : Members α} {name : String} {value : α} (h : get? name l = some value) :
    (name, value) ∈ l := by
  induction l with
  | nil => contradiction
  | cons e l ih =>
    rw [get?] at h
    split at h
    · next he => simp [he, ← Option.some.inj h]
    · exact List.mem_cons_of_mem _ (ih h)

end Members

/-! ## What is due -/

/-- The batches that were published, the latest first. -/
abbrev Ledger := List (Members Json)

/-- The value of a name that was published last. -/
def Ledger.latest? (l : Ledger) (name : String) : Option Json := l.findSome? (Members.get? name)

/-- What of a batch is to be published: what is declared and, if only changes are, differs from
    what was published last. -/
def due (d : ThingDescription) (l : Ledger) (onlyChanges : Bool) (batch : Members Json) :
    Members Json :=
  batch.filter fun entry => (d.propertySchema? entry.1).isSome &&
    !(onlyChanges && (l.latest? entry.1).any (·.same entry.2))

/-- A call that emits property changes. -/
inductive Emission
  /-- The change of one property. -/
  | property (name : String) (value : Json)
  /-- The changes of several properties. -/
  | batch (members : Members Json) (onlyChanges : Bool)

namespace Emission

/-- Makes the call. -/
def run (call : Call) (i : ExposedRef) : Emission → Run Outcome
  | property name value => Run.emitProperty call i name value
  | batch members onlyChanges => Run.emitChanges call i members onlyChanges

/-- The changes that the call is given. -/
def members : Emission → Members Json
  | property name value => [(name, value)]
  | batch members _ => members

/-- Whether only changes are to be sent. -/
def onlyChanges : Emission → Bool
  | property _ _ => false
  | batch _ onlyChanges => onlyChanges

/-- What the call has to publish. -/
def due (d : ThingDescription) (l : Ledger) (e : Emission) : Members Json :=
  WebOfThings.due d l e.onlyChanges e.members

/-- How the call ends when it has nothing to publish: what is not declared cannot be emitted by
    itself, and is left out of a batch. -/
def idle (d : ThingDescription) : Emission → Outcome
  | property name _ => .error (d.noProperty name)
  | batch _ _ => .done

/-- The changes are those of a map whose values read back as they were written. -/
structure WellFormed (e : Emission) : Prop where
  /-- No name comes twice. -/
  distinct : (e.members.map (·.1)).Nodup
  /-- The values read back. -/
  readsBack : ∀ entry ∈ e.members, Json.read? entry.2.compact = some entry.2

end Emission

/-- A call that was made, and how it ended. -/
structure Attempt where
  /-- The call. -/
  emission : Emission
  /-- How it ended. -/
  outcome : Outcome

/-- The batches published by attempts, the latest first: those due where the call ended well. -/
def ledger (d : ThingDescription) : (attempts : List Attempt) → Ledger
  | [] => []
  | a :: earlier =>
    let sent := a.emission.due d (ledger d earlier)
    match a.outcome with
    | .ok () => if sent.isEmpty then ledger d earlier else sent :: ledger d earlier
    | .error _ => ledger d earlier

/-! ## What the thing keeps -/

namespace ExposedThing

variable {d : ThingDescription} {t : ExposedThing} {l : Ledger} {onlyChanges : Bool}
  {batch : Members Json}

/-- The values that the thing keeps are those published last. -/
def Tracks (t : ExposedThing) (l : Ledger) : Prop :=
  ∀ name, (t.values.get? name).map (·.value) = l.latest? name

theorem isRemembered_eq (h : t.Tracks l) (name : String) (value : Json) :
    t.isRemembered name value = (l.latest? name).any (·.same value) := by
  rw [← h name, isRemembered]
  cases t.values.get? name <;> rfl

/-- The changes that a thing sends are what is due. -/
theorem map_changes (h : t.Tracks l) :
    (t.changes d onlyChanges batch).map (fun c => (c.name, c.value)) =
      due d l onlyChanges batch := by
  induction batch with
  | nil => rfl
  | cons e batch ih =>
    simp only [changes, due, List.filterMap_cons, List.filter_cons] at ih ⊢
    -- the thing looks at what it keeps, and what is due is told by the ledger
    rw [← isRemembered_eq h]
    cases hs : d.propertySchema? e.1 with
    | none => simpa [change?, hs] using ih
    | some schema =>
      cases hr : onlyChanges && t.isRemembered e.1 e.2 with
      | true => simpa [change?, hs, hr] using ih
      | false => simpa [change?, hs, hr] using ih

theorem mem_changes {c : Change} (h : c ∈ t.changes d onlyChanges batch) :
    (c.name, c.value) ∈ batch ∧
      ∃ schema, d.propertySchema? c.name = some schema ∧
        c.snapshot = Snapshot.ofNative c.value (some schema) := by
  obtain ⟨e, he, hc⟩ := List.mem_filterMap.1 h
  unfold change? at hc
  split at hc
  · contradiction
  · next schema hs =>
    split at hc
    · contradiction
    · obtain rfl := Option.some.inj hc
      exact ⟨he, schema, hs, rfl⟩

theorem batchValue_changes (h : t.Tracks l) :
    batchValue (t.changes d onlyChanges batch) = .object (due d l onlyChanges batch) := by
  rw [batchValue, map_changes h]

theorem changes_isEmpty (h : t.Tracks l) :
    (t.changes d onlyChanges batch).isEmpty = (due d l onlyChanges batch).isEmpty := by
  rw [← map_changes h, List.isEmpty_map]

/-- The value of a name in the batch that changes make. -/
theorem get?_batch (changes : List Change) (name : String) :
    Members.get? name (changes.map fun c => (c.name, c.value)) =
      (changes.find? (·.name = name)).map (·.value) := by
  induction changes with
  | nil => rfl
  | cons c changes ih =>
    by_cases hn : name = c.name
    · simp [Members.get?, hn]
    · simp [Members.get?, hn, Ne.symm hn, ih]

/-- What is remembered of changes of different names, and what else is kept. -/
theorem get?_remember {changes : List Change} (h : (changes.map (·.name)).Nodup) (name : String) :
    (t.remember changes).values.get? name =
      ((changes.find? (·.name = name)).map (·.snapshot)).or (t.values.get? name) :=
  NameMap.get?_foldl_insert h t.values name

end ExposedThing

theorem Ledger.latest?_due_cons {d : ThingDescription} {l : Ledger} {e : Emission}
    (name : String) :
    Ledger.latest? (if (e.due d l).isEmpty then l else e.due d l :: l) name =
      (Members.get? name (e.due d l)).or (l.latest? name) := by
  cases hd : e.due d l with
  | nil => simp [Members.get?]
  | cons entry rest => cases hg : Members.get? name (entry :: rest) <;> simp [Ledger.latest?, hg]

/-- After a batch was published, the latest values of what it declares are those of the batch: they
    were sent with it, or did not differ from what was published before. -/
theorem latest?_of_mem {d : ThingDescription} {e : Emission} (wf : e.WellFormed)
    {attempts : List Attempt} {name : String} {value : Json} (hmem : (name, value) ∈ e.members)
    (hdeclared : (d.propertySchema? name).isSome = true) :
    ∃ w, (ledger d (⟨e, .done⟩ :: attempts)).latest? name = some w ∧
      (w = value ∨ w.same value = true) := by
  have hsub : (e.due d (ledger d attempts)).Sublist e.members := List.filter_sublist
  rw [ledger, Ledger.latest?_due_cons]
  -- either it was sent with the batch, or the batch has nothing under its name
  by_cases hdue : (name, value) ∈ e.due d (ledger d attempts)
  · refine ⟨value, ?_, .inl rfl⟩
    rw [Members.get?_eq_some_of_mem (wf.distinct.sublist (hsub.map (·.1))) hdue]
    rfl
  · -- it was left out since it did not differ, and no other entry has its name
    have hout : ∀ v, (name, v) ∉ e.due d (ledger d attempts) := by
      intro v hv
      have := Members.get?_eq_some_of_mem wf.distinct (hsub.subset hv)
      rw [Members.get?_eq_some_of_mem wf.distinct hmem] at this
      exact hdue (Option.some.inj this ▸ hv)
    have hsame :
        (e.onlyChanges && ((ledger d attempts).latest? name).any (·.same value)) = true := by
      simpa [Emission.due, due, hmem, hdeclared] using hdue
    obtain ⟨w, hw, hs⟩ := (Option.any_eq_true _ _).1 (Bool.and_eq_true_iff.1 hsame).2
    exact ⟨w, by rw [Members.get?_eq_none hout, hw]; rfl, .inr hs⟩

/-- A thing that remembers what was sent keeps on telling what was published last. -/
theorem ExposedThing.Tracks.remember {d : ThingDescription} {t t' : ExposedThing} {l : Ledger}
    {e : Emission} (h : t.Tracks l) (he : e.WellFormed) (ht : t'.values = t.values) :
    (t'.remember (t.changes d e.onlyChanges e.members)).Tracks
      (if (e.due d l).isEmpty then l else e.due d l :: l) := by
  intro name
  have hmap : (t.changes d e.onlyChanges e.members).map (fun c => (c.name, c.value)) =
      e.due d l := map_changes h
  have hnodup : ((t.changes d e.onlyChanges e.members).map (·.name)).Nodup := by
    have hsub : (e.due d l).Sublist e.members := List.filter_sublist
    have := he.distinct.sublist (hsub.map (·.1))
    rwa [← hmap, List.map_map] at this
  rw [Ledger.latest?_due_cons, ExposedThing.get?_remember hnodup, ht, ← h name, ← hmap, get?_batch]
  cases hfind : (t.changes d e.onlyChanges e.members).find? (·.name = name) with
  | none => rfl
  | some c =>
    -- the snapshot of a change shows the value that was sent
    obtain ⟨hmem, schema, -, hsnap⟩ := mem_changes (List.mem_of_find?_eq_some hfind)
    simp [hsnap, Snapshot.value_ofNative (he.readsBack _ hmem)]

/-! ## What the output is given -/

namespace Run

/-- An output is given a value, and takes it or not. If not, nothing happens. -/
inductive Gives (call : Call) (d : ThingDescription) (value : Json) (s : Site) :
    Output → Outcome → Site → Prop
  /-- There is nobody to take it. -/
  | nowhere : Gives call d value s .nowhere (.error (ExposedThing.noOutput d)) s
  /-- A recorder refuses it. -/
  | refused : Gives call d value s (.recorder true) (.error offline) s
  /-- A recorder notes it. -/
  | noted : Gives call d value s (.recorder false) .done
      { s with journal := .changed value :: s.journal }
  /-- A bus does not publish it. -/
  | rejected {i : BusRef} {id : String} {b : Bus Receiver} {e : Error}
      (found : s.buses.get? i = some b)
      (failed : b.publish? ⟨Topic.batch id, value.compact⟩ = .error e) :
      Gives call d value s (.bus i id) (.error e) s
  /-- A bus publishes it, in one message on the topic of batches. -/
  | published {i : BusRef} {id : String} {b b' : Bus Receiver} {receivers : List Receiver}
      {s' : Site} (found : s.buses.get? i = some b)
      (sent : b.publish? ⟨Topic.batch id, value.compact⟩ = .ok (b', receivers))
      (received : (receivers.forM (accept call ⟨Topic.batch id, value.compact⟩)).run
        { s with
          buses := s.buses.update i fun _ => b'
          timeline := .published i ⟨Topic.batch id, value.compact⟩ :: s.timeline } =
        some (.unit, s')) :
      Gives call d value s (.bus i id) .done s'

variable {call : Call} {d : ThingDescription} {value : Json} {s s' : Site} {output : Output}
  {outcome : Outcome}

theorem sendChanges_eq_some :
    (sendChanges call d output value).run s = some (outcome, s') ↔
      Gives call d value s output outcome s' := by
  constructor
  · intro h
    cases output with
    | nowhere =>
      obtain ⟨rfl, rfl⟩ := Prod.mk.inj (Option.some.inj h)
      exact .nowhere
    | recorder refuses =>
      cases refuses <;> obtain ⟨rfl, rfl⟩ := Prod.mk.inj (Option.some.inj h)
      · exact .noted
      · exact .refused
    | bus i id =>
      obtain ⟨b, hget, ⟨e, hfail, rfl, rfl⟩ | ⟨b', receivers, hsent, rfl, hr⟩⟩ :=
        run_publish_eq_some.1 h
      · exact .rejected hget hfail
      · exact .published hget hsent hr
  · intro h
    cases h with
    | nowhere | refused | noted => rfl
    | rejected found failed =>
      exact run_publish_eq_some.2 ⟨_, found, .inl ⟨_, failed, rfl, rfl⟩⟩
    | published found sent received =>
      exact run_publish_eq_some.2 ⟨_, found, .inr ⟨_, _, sent, rfl, received⟩⟩

/-- What an output did not take changed nothing. -/
theorem Gives.eq_of_error {e : Error} (h : Gives call d value s output (.error e) s') :
    s' = s := by
  cases h <;> rfl

end Run

/-! ## Histories -/

/-- What happened left a thing with its description and its values. -/
def Site.Leaves (s s' : Site) (i : ExposedRef) : Prop :=
  ∀ t d, s.exposed.get? i = some t → s.catalogue.get? t.description = some d →
    ∃ t', s'.exposed.get? i = some t' ∧ s'.catalogue.get? t'.description = some d ∧
      t'.values = t.values

theorem ExposedThing.changes_property {d : ThingDescription} {t : ExposedThing} (name : String)
    (value : Json) :
    (t.changes d false [(name, value)]).isEmpty = !d.properties.contains name := by
  cases hp : d.properties.get? name <;>
    simp [changes, change?, NameMap.contains, ThingDescription.propertySchema?, hp]

/-- What a call that emits does: it ends without anything to publish, or gives its output one value
    and remembers it if the output took it. -/
theorem Emission.run_eq_some {call : Call} {i : ExposedRef} {e : Emission} {s s' : Site}
    {t : ExposedThing} {d : ThingDescription} {outcome : Outcome}
    (ht : s.exposed.get? i = some t) (hd : s.catalogue.get? t.description = some d) :
    (e.run call i).run s = some (outcome, s') ↔
      ((t.changes d e.onlyChanges e.members).isEmpty = true ∧ outcome = e.idle d ∧ s' = s) ∨
      ((t.changes d e.onlyChanges e.members).isEmpty = false ∧ ∃ s₁,
        Run.Gives call d (ExposedThing.batchValue (t.changes d e.onlyChanges e.members)) s
          t.output outcome s₁ ∧
        s' = s₁.afterSending i (t.changes d e.onlyChanges e.members) outcome) := by
  cases e with
  | batch members onlyChanges =>
    simp only [← Run.sendChanges_eq_some]
    exact Run.run_emitChanges_eq_some ht hd
  | property name value =>
    have hchanges := ExposedThing.changes_property (d := d) (t := t) name value
    have hrun : (Emission.run call i (.property name value)).run s =
        (if d.properties.contains name then Run.emitChanges call i [(name, value)] false
          else pure (.error (d.noProperty name)) : Run Outcome).run s := by
      simp [Emission.run, Run.emitProperty, StateT.run_bind, ht, hd]
    rw [hrun]
    cases hdeclared : d.properties.contains name with
    | true =>
      -- a declared property is always sent, so the call is the one for a batch of it alone
      rw [hdeclared, Bool.not_true] at hchanges
      simp only [if_true, ← Run.sendChanges_eq_some]
      rw [Run.run_emitChanges_eq_some ht hd]
      simp [Emission.members, Emission.onlyChanges, hchanges]
    | false =>
      rw [hdeclared, Bool.not_false] at hchanges
      simp [Emission.members, Emission.onlyChanges, hchanges, Emission.idle, eq_comm]

/-- A thing that sent nothing yet, and what was done with it since: attempts to emit, the latest
    first, whose outputs do not call back into it, and whatever else leaves its values. -/
inductive History (call : Call) (i : ExposedRef) (d : ThingDescription) :
    List Attempt → Site → Prop
  /-- The thing sent nothing yet. -/
  | start {s : Site} {t : ExposedThing} (ht : s.exposed.get? i = some t)
      (hd : s.catalogue.get? t.description = some d) (fresh : t.values.entries = []) :
      History call i d [] s
  /-- Something happens elsewhere. Buses may be connected and disconnected, outputs exchanged. -/
  | elsewhere {attempts : List Attempt} {s s' : Site} (h : History call i d attempts s)
      (leaves : s.Leaves s' i) : History call i d attempts s'
  /-- The thing is made to emit. -/
  | attempt {attempts : List Attempt} {s s' : Site} {e : Emission} {outcome : Outcome}
      (h : History call i d attempts s) (wf : e.WellFormed)
      (quiet : ∀ t value outcome s₁, s.exposed.get? i = some t →
        Run.Gives call d value s t.output outcome s₁ → s.Leaves s₁ i)
      (run : (e.run call i).run s = some (outcome, s')) :
      History call i d (⟨e, outcome⟩ :: attempts) s'

namespace History

variable {call : Call} {i : ExposedRef} {d : ThingDescription} {attempts : List Attempt}
  {s s' : Site}

/-- The thing keeps the values that were published last. -/
theorem latest (h : History call i d attempts s) :
    ∃ t, s.exposed.get? i = some t ∧ s.catalogue.get? t.description = some d ∧
      t.Tracks (ledger d attempts) := by
  induction h with
  | start ht hd fresh =>
    exact ⟨_, ht, hd, fun name => by simp [NameMap.get?, fresh, NameMap.findEntry, ledger,
      Ledger.latest?]⟩
  | elsewhere _ leaves ih =>
    obtain ⟨t, ht, hd, htracks⟩ := ih
    obtain ⟨t', ht', hd', hv⟩ := leaves t d ht hd
    exact ⟨t', ht', hd', fun name => by rw [hv, htracks name]⟩
  | @attempt attempts s s' e outcome _ wf quiet run ih =>
    -- the ledger goes on by what was due, and the thing remembers just that if it was sent
    obtain ⟨t, ht, hd, htracks⟩ := ih
    rcases (Emission.run_eq_some ht hd).1 run with ⟨hempty, -, rfl⟩ | ⟨hne, s₁, hgives, rfl⟩
    · refine ⟨t, ht, hd, ?_⟩
      rw [ExposedThing.changes_isEmpty htracks] at hempty
      cases outcome with
      | error error => exact htracks
      | ok u => simpa [ledger, Emission.due, hempty] using htracks
    · obtain ⟨t₁, ht₁, hd₁, hv₁⟩ := quiet t _ _ _ ht hgives t d ht hd
      cases outcome with
      | error error => exact ⟨t₁, ht₁, hd₁, fun name => by rw [hv₁, htracks name]; rfl⟩
      | ok u =>
        refine ⟨t₁.remember (t.changes d e.onlyChanges e.members), ?_, hd₁,
          htracks.remember wf hv₁⟩
        simp [Site.afterSending, Site.remember, Table.get?_update, ht₁]

/-- What a call that emits does: if nothing is due it ends at once, and else it ends as its output
    does that is given the batch that is due, and remembers the batch if the output took it. If it
    ends in an error it leaves everything as it was; if not, what it was given is what was
    published last. -/
theorem publishes_due (h : History call i d attempts s) {e : Emission} (wf : e.WellFormed) :
    (e.due d (ledger d attempts) = [] → (e.run call i).run s = some (e.idle d, s)) ∧
    (e.due d (ledger d attempts) ≠ [] → ∃ t changes, s.exposed.get? i = some t ∧
      changes.map (fun c => (c.name, c.value)) = e.due d (ledger d attempts) ∧
      ∀ outcome s', (e.run call i).run s = some (outcome, s') ↔
        ∃ s₁, Run.Gives call d (.object (e.due d (ledger d attempts))) s t.output outcome s₁ ∧
          s' = s₁.afterSending i changes outcome) ∧
    ∀ outcome s', (e.run call i).run s = some (outcome, s') →
      (∀ error, outcome = .error error → s' = s) ∧
      (outcome = .done → ∀ entry ∈ e.members, (d.propertySchema? entry.1).isSome = true →
        ∃ w, (ledger d (⟨e, outcome⟩ :: attempts)).latest? entry.1 = some w ∧
          (w = entry.2 ∨ w.same entry.2 = true)) := by
  -- by the invariant, what the thing sends is what is due by the ledger
  obtain ⟨t, ht, hd, htracks⟩ := h.latest
  have hrun (outcome : Outcome) (s' : Site) :
      (e.run call i).run s = some (outcome, s') ↔
        ((e.due d (ledger d attempts)).isEmpty = true ∧ outcome = e.idle d ∧ s' = s) ∨
        ((e.due d (ledger d attempts)).isEmpty = false ∧ ∃ s₁,
          Run.Gives call d (.object (e.due d (ledger d attempts))) s t.output outcome s₁ ∧
          s' = s₁.afterSending i (t.changes d e.onlyChanges e.members) outcome) := by
    rw [Emission.run_eq_some ht hd, ExposedThing.changes_isEmpty htracks,
      ExposedThing.batchValue_changes htracks]
    rfl
  refine ⟨fun hdue => ?_, fun hdue => ?_, fun outcome s' run => ⟨?_, ?_⟩⟩
  · exact (hrun _ _).2 (.inl ⟨by rw [hdue]; rfl, rfl, rfl⟩)
  · have hne : (e.due d (ledger d attempts)).isEmpty = false := by simpa using hdue
    refine ⟨t, _, ht, ExposedThing.map_changes htracks, fun outcome s' => ?_⟩
    rw [hrun, hne]
    simp
  · rintro error rfl
    rcases (hrun _ _).1 run with ⟨-, -, hs⟩ | ⟨-, s₁, hgives, hs⟩
    · exact hs
    · rw [hs, hgives.eq_of_error]
      rfl
  · rintro rfl ⟨name, value⟩ hmem hdeclared
    exact latest?_of_mem wf hmem hdeclared

/-- A site with a thing of the lamp whose output is a recorder. -/
def recordedLamp : Site :=
  { catalogue := ⟨[.lamp]⟩
    exposed := ⟨[{ device := "", description := 0, output := .recorder false }]⟩
    consumer := .home }

/-- After the level was sent, a batch of changes with the same level sends the power alone. -/
theorem publishes_due_lamp : ∃ s t changes,
    History (Run.calls 1) 0 .lamp [⟨.batch [("level", .bool true)] false, .done⟩] s ∧
    s.exposed.get? 0 = some t ∧
    changes.map (fun c => (c.name, c.value)) = [("power", .bool false)] ∧
    ∀ outcome s', (Emission.run (Run.calls 1) 0
        (.batch [("level", .bool true), ("power", .bool false)] true)).run s =
          some (outcome, s') ↔
      ∃ s₁, Run.Gives (Run.calls 1) .lamp (.object [("power", .bool false)]) s t.output outcome s₁ ∧
        s' = s₁.afterSending 0 changes outcome := by
  have quiet : ∀ t value outcome s₁, recordedLamp.exposed.get? 0 = some t →
      Run.Gives (Run.calls 1) .lamp value recordedLamp t.output outcome s₁ →
      recordedLamp.Leaves s₁ 0 := by
    intro t value outcome s₁ ht hg
    obtain rfl := Option.some.inj ht
    cases hg
    exact fun t d ht hd => ⟨t, ht, hd, rfl⟩
  have wf : (Emission.batch [("level", .bool true), ("power", .bool false)] true).WellFormed :=
    ⟨by decide, by simp only [Emission.members, List.forall_mem_cons]; exact ⟨rfl, rfl, nofun⟩⟩
  have h : History (Run.calls 1) 0 .lamp [⟨.batch [("level", .bool true)] false, .done⟩] _ :=
    .attempt (.start (s := recordedLamp) rfl rfl rfl)
      ⟨by decide, by simp only [Emission.members, List.forall_mem_singleton]; rfl⟩ quiet rfl
  obtain ⟨t, changes, ht, hchanges, hrun⟩ := (h.publishes_due wf).2.1 (by
    intro hdue
    contradiction)
  exact ⟨_, t, changes, h, ht, hchanges, hrun⟩

end History

end WebOfThings
