import WebOfThings.Proofs.Reloading

/-!
# What a description declares

A description is made, or read from a document, and then revised by calls (`Revision`): affordances
are added or updated, and what people read is changed. Each of its three maps is what the calls that
write it make of it, one after another (`NameMap.insertAll`); the calls that write another map, or
none, leave it. A description that is shared keeps its identifier beside the document
(`SharedDescription`), and no call makes the two differ.

* `NameMap.Distinct.collects`: a map that values are put into holds its own names and theirs, each
  once and in the order of first appearance, and under each name the value that was put in last, or
  else its own;
* `SharedDescription.Begins.revised`: so do the properties, the events and the actions of a
  description after any calls, and its identifier and whatever else no call writes are as they were.
-/

namespace WebOfThings

/-! ## Maps that values are put into -/

/-- Where nothing comes twice, nothing is left out. -/
theorem eraseDups_of_nodup {l : List String} (h : l.Nodup) : l.eraseDups = l := by
  induction l with
  | nil => rfl
  | cons name l ih =>
    obtain ⟨hnew, hnodup⟩ := List.nodup_cons.1 h
    have hfilter : l.filter (fun other => !other == name) = l := by
      rw [List.filter_eq_self]
      intro other hother
      simpa using fun he : other = name => hnew (he ▸ hother)
    rw [List.eraseDups_cons, hfilter, ih hnodup]

/-- One more at the end is left out if it came before. -/
theorem eraseDups_concat (l : List String) (name : String) :
    (l ++ [name]).eraseDups = if name ∈ l then l.eraseDups else l.eraseDups ++ [name] := by
  rw [List.eraseDups_append]
  by_cases hold : name ∈ l <;> simp [List.removeAll, hold, List.eraseDups_cons]

namespace NameMap

variable {α : Type} {m m' : NameMap α}

/-- Puts values in, one after another. -/
def insertAll (written : List (String × α)) (m : NameMap α) : NameMap α :=
  written.foldl (fun m (name, value) => m.insert name value) m

theorem insertAll_concat (written : List (String × α)) (name : String) (value : α)
    (m : NameMap α) :
    m.insertAll (written ++ [(name, value)]) = (m.insertAll written).insert name value := by
  simp [insertAll]

/-- Putting values in keeps names distinct. -/
theorem Distinct.insertAll (h : m.Distinct) (written : List (String × α)) :
    (m.insertAll written).Distinct := by
  induction written using List.reverseRecOn with
  | nil => exact h
  | append_singleton written e ih =>
    rw [insertAll_concat]
    exact ih.insert e.1 e.2

/-- The map that the entries of a list make has distinct names. -/
theorem distinct_ofList (entries : List (String × α)) : (ofList entries).Distinct :=
  Distinct.insertAll (m := empty) List.nodup_nil entries

/-- The names are those that were there and those of the values, in the order of their first
    appearance. -/
theorem names_insertAll (h : m.Distinct) (written : List (String × α)) :
    (m.insertAll written).names = (m.names ++ written.map (·.1)).eraseDups := by
  induction written using List.reverseRecOn with
  | nil => rw [List.map_nil, List.append_nil, eraseDups_of_nodup h]; rfl
  | append_singleton written e ih =>
    rw [insertAll_concat, names_insert, ih, List.map_append, ← List.append_assoc,
      List.map_singleton, eraseDups_concat]
    simp only [List.mem_eraseDups]

/-- Under a name there is the value that was put in last, or else the one that was there. -/
theorem get?_insertAll (m : NameMap α) (written : List (String × α)) (name : String) :
    (m.insertAll written).get? name = (written.reverse.lookup name).or (m.get? name) := by
  induction written using List.reverseRecOn with
  | nil => rfl
  | append_singleton written e ih =>
    rw [insertAll_concat, get?_insert, ih, List.reverse_append, List.reverse_singleton,
      List.singleton_append, List.lookup_cons]
    by_cases he : name = e.1
    · simp [he]
    · simp [he, beq_eq_false_iff_ne.2 he]

/-- A value is found under a name exactly if the name is one of the names. -/
theorem contains_iff_mem_names (h : m.Distinct) (name : String) :
    m.contains name = true ↔ name ∈ m.names := by
  rw [contains, Option.isSome_iff_exists, names, List.mem_map]
  constructor
  · rintro ⟨value, hget⟩
    exact ⟨(name, value), mem_of_get? hget, rfl⟩
  · rintro ⟨⟨_, value⟩, hmem, rfl⟩
    exact ⟨value, h.get?_of_mem hmem⟩

/-- What becomes of a map when values are written to it, and how it is then read. -/
structure Collects (m : NameMap α) (written : List (String × α)) (m' : NameMap α) : Prop where
  /-- It has its own names and those that were written, in the order of first appearance. -/
  names : m'.names = (m.names ++ written.map (·.1)).eraseDups
  /-- No name comes twice. -/
  distinct : m'.Distinct
  /-- The value of a name is the one that was written last, or else its own. -/
  latest : ∀ name, m'.get? name = (written.reverse.lookup name).or (m.get? name)
  /-- What is found under a name is its entry. -/
  entry : ∀ name value, m'.get? name = some value ↔ (name, value) ∈ m'.entries
  /-- There is something under the names, and under nothing else. -/
  contains : ∀ name, m'.contains name = true ↔ name ∈ m'.names

/-- A map whose names are distinct collects what is put into it. -/
theorem Distinct.collects (h : m.Distinct) (written : List (String × α)) :
    m.Collects written (m.insertAll written) where
  names := names_insertAll h written
  distinct := h.insertAll written
  latest := get?_insertAll m written
  entry _ _ := ⟨mem_of_get?, (h.insertAll written).get?_of_mem⟩
  contains := contains_iff_mem_names (h.insertAll written)

/-- Puts a value at the place that its name has, or behind all others if it has none. -/
def place (name : String) (value : α) (m : NameMap α) : NameMap α :=
  match m.names.idxOf? name with
  | some i => ⟨m.entries.set i (name, value)⟩
  | none => ⟨m.entries ++ [(name, value)]⟩

/-- Looking for the place of a name first is another way to put a value under it. -/
theorem place_eq_insert (name : String) (value : α) (m : NameMap α) :
    m.place name value = m.insert name value := by
  obtain ⟨entries⟩ := m
  have hentries : (place name value ⟨entries⟩).entries = insertEntry name value entries := by
    induction entries with
    | nil => rfl
    | cons e entries ih =>
      simp only [place, names] at ih
      simp only [place, names, List.map_cons, List.idxOf?_cons, insertEntry]
      by_cases he : e.1 = name
      · simp [he]
      · rw [← ih]
        simp only [beq_iff_eq, he, Ne.symm he, if_false]
        cases (entries.map (·.1)).idxOf? name <;> rfl
  rw [insert, ← hentries]

end NameMap

/-! ## Calls that revise a description -/

namespace ThingDescription

/-- A call that revises a description. One that adds an affordance gives it to the caller, who may
    refine it. -/
inductive Revision
  /-- A property is added. -/
  | addProperty (name title : String) (type : DataType) (refine : Property → Property)
  /-- An event is added. -/
  | addEvent (name title : String) (type : DataType) (refine : Event → Event)
  /-- An action is added. -/
  | addAction (name title : String) (type : DataType) (refine : Action → Action)
  /-- A property is updated. -/
  | updateProperty (name : String) (p : Property)
  /-- An event is updated. -/
  | updateEvent (name : String) (e : Event)
  /-- An action is updated. -/
  | updateAction (name : String) (a : Action)
  /-- What people read about the thing is updated. -/
  | updateTitle (title description : String)

namespace Revision

/-- Carries a call out. What is added is put at the place of its name, if it has one. -/
def apply (now : Timestamp) (r : Revision) (d : ThingDescription) : ThingDescription :=
  match r with
  | addProperty name title type refine =>
    { d with properties := d.properties.place name (refine (.ofType title type)), modified := now }
  | addEvent name title type refine =>
    { d with events := d.events.place name (refine (.ofType title type)), modified := now }
  | addAction name title type refine =>
    { d with actions := d.actions.place name (refine (.ofType title type)), modified := now }
  | updateProperty name p => d.setProperty now name p
  | updateEvent name e => d.setEvent now name e
  | updateAction name a => d.setAction now name a
  | updateTitle title description => d.setTitle now title description

/-- The change that a call makes. -/
def edit : Revision → Edit
  | addProperty name title type refine => .property name (refine (.ofType title type))
  | addEvent name title type refine => .event name (refine (.ofType title type))
  | addAction name title type refine => .action name (refine (.ofType title type))
  | updateProperty name p => .property name p
  | updateEvent name e => .event name e
  | updateAction name a => .action name a
  | updateTitle title description => .retitle title description

/-- Adding and updating are the same change. -/
theorem apply_eq_edit (now : Timestamp) (r : Revision) (d : ThingDescription) :
    r.apply now d = r.edit.apply now d := by
  cases r with
  | addProperty name title type refine =>
    rw [apply, NameMap.place_eq_insert, edit, Edit.apply, setProperty]
  | addEvent name title type refine =>
    rw [apply, NameMap.place_eq_insert, edit, Edit.apply, setEvent]
  | addAction name title type refine =>
    rw [apply, NameMap.place_eq_insert, edit, Edit.apply, setAction]
  | updateProperty | updateEvent | updateAction | updateTitle => rfl

/-- The property that a call writes, if it writes one. -/
def property? (r : Revision) : Option (String × Property) :=
  match r.edit with
  | .property name p => some (name, p)
  | _ => none

/-- The event that a call writes, if it writes one. -/
def event? (r : Revision) : Option (String × Event) :=
  match r.edit with
  | .event name e => some (name, e)
  | _ => none

/-- The action that a call writes, if it writes one. -/
def action? (r : Revision) : Option (String × Action) :=
  match r.edit with
  | .action name a => some (name, a)
  | _ => none

end Revision

/-- Carries calls out, one after another, each at its time. -/
def revise (calls : List (Timestamp × Revision)) (d : ThingDescription) : ThingDescription :=
  calls.foldl (fun d (now, r) => r.apply now d) d

variable {d : ThingDescription}

/-- What every call leaves as it is, all of them do. -/
theorem revise_keeps {β : Type} {view : ThingDescription → β}
    (h : ∀ (r : Revision) now d, view (r.apply now d) = view d)
    (calls : List (Timestamp × Revision)) (d : ThingDescription) :
    view (d.revise calls) = view d := by
  induction calls generalizing d with
  | nil => rfl
  | cons call calls ih => exact (ih (call.2.apply call.1 d)).trans (h call.2 call.1 d)

/-- A map that every call writes at most one value to has all values put in that the calls
    write. -/
theorem revise_writes {α : Type} {view : ThingDescription → NameMap α}
    {write? : Revision → Option (String × α)}
    (h : ∀ (r : Revision) now d, view (r.apply now d) = (view d).insertAll (write? r).toList)
    (calls : List (Timestamp × Revision)) (d : ThingDescription) :
    view (d.revise calls) = (view d).insertAll (calls.filterMap (write? ·.2)) := by
  induction calls generalizing d with
  | nil => rfl
  | cons call calls ih =>
    have hwrites : (call :: calls).filterMap (write? ·.2) =
        (write? call.2).toList ++ calls.filterMap (write? ·.2) := by
      cases hcall : write? call.2 <;> simp [hcall]
    rw [hwrites, NameMap.insertAll, List.foldl_append]
    exact (ih (call.2.apply call.1 d)).trans (congrArg _ (h call.2 call.1 d))

theorem properties_apply (r : Revision) (now : Timestamp) (d : ThingDescription) :
    (r.apply now d).properties = d.properties.insertAll r.property?.toList := by
  rw [r.apply_eq_edit, Revision.property?]
  cases r.edit <;> rfl

theorem events_apply (r : Revision) (now : Timestamp) (d : ThingDescription) :
    (r.apply now d).events = d.events.insertAll r.event?.toList := by
  rw [r.apply_eq_edit, Revision.event?]
  cases r.edit <;> rfl

theorem actions_apply (r : Revision) (now : Timestamp) (d : ThingDescription) :
    (r.apply now d).actions = d.actions.insertAll r.action?.toList := by
  rw [r.apply_eq_edit, Revision.action?]
  cases r.edit <;> rfl

/-- What of a description no call writes: who the thing is, and all that is said about it but what
    people read, what it offers, and the time of the last change. -/
def fixed (d : ThingDescription) : String × List String × Timestamp × List String × List String :=
  (d.id, d.context, d.created, d.security, d.deviceType)

theorem fixed_revise (calls : List (Timestamp × Revision)) (d : ThingDescription) :
    (d.revise calls).fixed = d.fixed :=
  revise_keeps (fun r now d => by rw [r.apply_eq_edit]; cases r.edit <;> rfl) calls d

end ThingDescription

/-! ## Descriptions that are made or read, and then revised -/

/-- A map that is read from a document has distinct names. -/
theorem Reader.distinct_named {α : Type} {value : Reader α} {depth : Nat} {document : Document}
    {m : NameMap α} (h : Reader.named value depth document = some m) : m.Distinct := by
  unfold Reader.named at h
  split at h
  · obtain ⟨entries, -, h⟩ := Option.bind_eq_some_iff.1 h
    exact Option.some.inj h ▸ NameMap.distinct_ofList entries
  · contradiction

/-- So has the map of a field that may be missing. -/
theorem Record.distinct_withDefault {α : Type} {r : Record} {name : String} {value : Reader α}
    {m : NameMap α} (h : r.withDefault name {} (Reader.named value) = some m) : m.Distinct := by
  unfold Record.withDefault at h
  split at h
  · exact Option.some.inj h ▸ List.nodup_nil
  · exact Reader.distinct_named h

/-- A description that is shared. Its identifier can be read without a look at the document, and is
    kept beside it. -/
structure SharedDescription where
  /-- The identifier. -/
  id : String
  /-- The document. -/
  document : ThingDescription

namespace SharedDescription

variable {t : SharedDescription}

/-- A description of a thing that offers nothing yet. -/
def create (now : Timestamp) (id title deviceType : String) : SharedDescription :=
  ⟨id, .create now id title deviceType⟩

/-- The description that a document is. -/
def ofDocument (d : ThingDescription) : SharedDescription := ⟨d.id, d⟩

/-- Carries calls out on the document, one after another, each at its time. -/
def revise (calls : List (Timestamp × ThingDescription.Revision)) (t : SharedDescription) :
    SharedDescription :=
  { t with document := t.document.revise calls }

/-- How a description comes to be. -/
inductive Begins : SharedDescription → Prop
  /-- It is made. -/
  | create (now : Timestamp) (id title deviceType : String) :
      Begins (create now id title deviceType)
  /-- Its document is read. -/
  | decode {depth : Nat} {document : Document} {d : ThingDescription}
      (h : ThingDescription.reader depth document = some d) : Begins (ofDocument d)

/-- Then no name comes twice in its maps. -/
theorem Begins.distinct (begins : t.Begins) :
    t.document.properties.Distinct ∧ t.document.events.Distinct ∧
      t.document.actions.Distinct := by
  cases begins with
  | create now id title deviceType => exact ⟨List.nodup_nil, List.nodup_nil, List.nodup_nil⟩
  | decode h =>
    -- the record and eight of its fields are read before the maps
    unfold ThingDescription.reader at h
    iterate 9 obtain ⟨_, -, h⟩ := Option.bind_eq_some_iff.1 h
    obtain ⟨properties, hproperties, h⟩ := Option.bind_eq_some_iff.1 h
    obtain ⟨events, hevents, h⟩ := Option.bind_eq_some_iff.1 h
    obtain ⟨actions, hactions, h⟩ := Option.bind_eq_some_iff.1 h
    obtain rfl := Option.some.inj h
    exact ⟨Record.distinct_withDefault hproperties, Record.distinct_withDefault hevents,
      Record.distinct_withDefault hactions⟩

/-- And its identifier is that of the document. -/
theorem Begins.id_eq (begins : t.Begins) : t.id = t.document.id := by
  cases begins <;> rfl

/-- A description is made or read, and revised by any calls. Then each of its maps has collected
    what the calls wrote to it: its names and those that were written, each once and in the order of
    first appearance, each with the affordance that was written last. A map that no call wrote to is
    as it was, and so are the identifier, the context, the time when the description was made, the
    security and the kinds of device. The identifier is that of the document, and is written there.
    The schema of a property is that of its entry. -/
theorem Begins.revised (begins : t.Begins)
    (calls : List (Timestamp × ThingDescription.Revision)) :
    (t.document.properties.Collects (calls.filterMap (·.2.property?))
        (t.revise calls).document.properties ∧
      t.document.events.Collects (calls.filterMap (·.2.event?))
        (t.revise calls).document.events ∧
      t.document.actions.Collects (calls.filterMap (·.2.action?))
        (t.revise calls).document.actions) ∧
    (((∀ call ∈ calls, call.2.property? = none) →
        (t.revise calls).document.properties = t.document.properties) ∧
      ((∀ call ∈ calls, call.2.event? = none) →
        (t.revise calls).document.events = t.document.events) ∧
      ((∀ call ∈ calls, call.2.action? = none) →
        (t.revise calls).document.actions = t.document.actions) ∧
      (t.revise calls).document.fixed = t.document.fixed) ∧
    (∀ name schema, (t.revise calls).document.propertySchema? name = some schema ↔
      ∃ p, (name, p) ∈ (t.revise calls).document.properties.entries ∧ p.schema = schema) ∧
    (t.revise calls).id = t.id ∧ (t.revise calls).document.id = t.id ∧
    (t.revise calls).document.toJson.get? "id" = some (.string t.id) := by
  obtain ⟨hproperties, hevents, hactions⟩ := begins.distinct
  have hp := ThingDescription.revise_writes ThingDescription.properties_apply calls t.document
  have he := ThingDescription.revise_writes ThingDescription.events_apply calls t.document
  have ha := ThingDescription.revise_writes ThingDescription.actions_apply calls t.document
  have hfixed := ThingDescription.fixed_revise calls t.document
  have hid : (t.revise calls).document.id = t.id :=
    (congrArg Prod.fst hfixed).trans begins.id_eq.symm
  have collects := hproperties.collects (calls.filterMap (·.2.property?))
  refine ⟨⟨hp ▸ collects, he ▸ hevents.collects _, ha ▸ hactions.collects _⟩,
    ⟨fun hnone => hp.trans ?_, fun hnone => he.trans ?_, fun hnone => ha.trans ?_, hfixed⟩,
    fun name schema => ?_, rfl, hid, ?_⟩
  · rw [List.filterMap_eq_nil_iff.2 hnone]
    rfl
  · rw [List.filterMap_eq_nil_iff.2 hnone]
    rfl
  · rw [List.filterMap_eq_nil_iff.2 hnone]
    rfl
  · rw [ThingDescription.propertySchema?, Option.map_eq_some_iff, revise, hp]
    simp only [collects.entry]
  · rw [ThingDescription.get?_id_toJson, hid]

/-- A level is added to a lamp as a property and as an event. Then the property is replaced, after
    another one was added, and the lamp is given a title. -/
def lampCalls : List (Timestamp × ThingDescription.Revision) :=
  [("12:01", .addProperty "level" "Level" .integer fun p => { p with observable := true }),
    ("12:02", .addEvent "level" "Level" .integer fun e => e),
    ("12:03", .addProperty "power" "Power" .boolean fun p => p),
    ("12:04", .updateProperty "level" {}), ("12:05", .updateTitle "Lamp" "")]

/-- The property keeps its place and nothing else, and the event of the same name stays. -/
theorem revised_lamp :
    ((create "12:00" "lamp" "" "").revise lampCalls).document.properties.names =
      ["level", "power"] ∧
    ((create "12:00" "lamp" "" "").revise lampCalls).document.properties.get? "level" = some {} ∧
    ((create "12:00" "lamp" "" "").revise lampCalls).document.events.names = ["level"] ∧
    ((create "12:00" "lamp" "" "").revise lampCalls).document.actions.names = [] ∧
    ((create "12:00" "lamp" "" "").revise lampCalls).document.id = "lamp" := by
  have begins : (create "12:00" "lamp" "" "").Begins := .create ..
  obtain ⟨⟨hproperties, hevents, -⟩, ⟨-, -, hactions, -⟩, -, -, hid, -⟩ :=
    begins.revised lampCalls
  refine ⟨hproperties.names.trans rfl, (hproperties.latest "level").trans rfl,
    hevents.names.trans rfl, congrArg _ (hactions ?_), hid⟩
  simp [lampCalls, ThingDescription.Revision.action?, ThingDescription.Revision.edit]

end SharedDescription

end WebOfThings
