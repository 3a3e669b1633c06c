import WebOfThings.Description.Basic
import WebOfThings.Proofs.Schemas

/-!
# Descriptions survive encoding

What becomes of a description that is written and read, affordance by affordance. A description is
read as what is kept of it, its affordances in the order in which they were written
(`ThingDescription.reader_arranged`).

* `ThingDescription.survives_iff`: a description that is written and read is the same description,
  with its affordances in the same order, exactly where none of its schemas loses anything; and so
  it is with its value, where the affordances come back sorted.
-/

namespace WebOfThings

variable {depth : Nat}

/-! ## Affordances -/

namespace Property

variable {p : Property}

/-- What is left of a property that was written and read. -/
def kept (p : Property) : Property := { p with schema := p.schema.kept }

/-- What is written for a property. -/
def entries (p : Property) : List (String × Option Json) :=
  p.schema.entries ++ [(observableName, Record.ifTrue p.observable)]

theorem toJson_eq (p : Property) : p.toJson = .object (Record.layout p.entries) := by
  rw [toJson, entries, Record.layout_append, DataSchema.fields_eq, Record.layout_cons,
    Record.fieldIfSome_ifTrue, Record.layout_nil, List.append_nil]
  rfl

theorem nodup_entries (p : Property) : (p.entries.map (·.1)).Nodup := by
  have hnames : (DataSchema.fieldNames ++ [observableName]).Nodup := by decide
  rwa [entries, List.map_append]

theorem mem_names_of_mem_entries {e : String × Option Json} (h : e ∈ p.entries) :
    e.1 ∈ observableName :: DataSchema.fieldNames := by
  rcases List.mem_append.1 h with h | h
  · exact List.mem_cons_of_mem _ (p.schema.map_fst_entries ▸ List.mem_map_of_mem h)
  · rw [List.mem_singleton.1 h]
    exact List.mem_cons_self

theorem membersHaveValues_iff {members : List (Bytes × Document)} :
    membersHaveValues depth members = true ↔
      ∀ e ∈ members,
        Quoted.decode e.1 = some observableName ∨ (e.2.value? depth).isSome = true := by
  induction members with
  | nil => simp [membersHaveValues]
  | cons e members ih =>
    rw [membersHaveValues, Bool.and_eq_true, Bool.or_eq_true, decide_eq_true_eq, ih,
      List.forall_mem_cons]

/-- Every member that is written for a property has a value, or is its own field. -/
theorem membersHaveValues_entries (hs : p.schema.Legible)
    (hle : ∀ {name v}, (name, some v) ∈ p.entries → v.nesting ≤ depth) (sort : Bool) :
    membersHaveValues depth
      (Json.memberDocuments (Json.arrangedMembers sort (Record.layout p.entries))) = true := by
  rw [membersHaveValues_iff, Json.memberDocuments_eq]
  intro e he
  obtain ⟨arranged, harranged, rfl⟩ := List.mem_map.1 he
  obtain ⟨v, hv, heq⟩ := Json.exists_of_mem_arrangedMembers harranged
  have hv := Record.mem_layout.1 hv
  rcases List.mem_append.1 hv with hschema | hown
  · have hvalue := DataSchema.value?_of_mem_entries hs hschema (hle hv)
    refine .inr ?_
    rw [heq, (Document.settled_of_value? hvalue).arranged, hvalue]
    rfl
  · refine .inl ?_
    rw [Quoted.decode_encode, (Prod.mk.inj (List.mem_singleton.1 hown)).1]

/-- A property is read back as what is kept of it. -/
theorem reader_arranged (hs : p.schema.Legible) (hle : p.toJson.nesting ≤ depth) (sort : Bool) :
    reader depth (p.toJson.arranged sort).document = some p.kept := by
  rw [toJson_eq] at hle ⊢
  obtain ⟨limit, rfl, hnested⟩ := Json.exists_of_nesting_object hle
  have hle : ∀ {name v}, (name, some v) ∈ p.entries → v.nesting ≤ limit :=
    fun h => hnested _ (Record.mem_layout.2 h)
  obtain ⟨r, hmembers, hr⟩ := Record.exists_shows p.nodup_entries
    (fun e he => mem_names_of_mem_entries he) sort limit
  have hschema := DataSchema.ofRecord?_of_shows hr (List.subset_append_left _ _) hs
    (fun h => hle (List.mem_append_left _ h)) isNullOrEmpty
  have hobservable : r.withDefault observableName false Reader.bool = some p.observable :=
    hr.withDefault_ifTrue (List.mem_append_right _ (List.mem_singleton_self _))
  rw [Json.arranged_object, Json.document, reader, if_pos (membersHaveValues_entries hs hle sort),
    hmembers]
  simp only [Option.bind_eq_bind, Option.bind_some, hschema, hobservable]
  rfl

theorem same_kept_iff (hs : p.schema.Legible) : p.same p.kept = true ↔ p.schema.Lasting := by
  rw [same, kept, Bool.and_eq_true, DataSchema.same_kept_iff hs, decide_eq_true_eq,
    and_iff_left rfl]

end Property

namespace Event

variable {e : Event}

/-- What is left of an event that was written and read. -/
def kept (e : Event) : Event := { e with data := e.data.kept }

/-- What is written for an event. -/
def entries (e : Event) : List (String × Option Json) :=
  [("title", Record.unlessEmpty e.title), ("description", e.description.map .string),
    ("data", some e.data.toJson)]

theorem map_fst_entries (e : Event) : e.entries.map (·.1) = ["title", "description", "data"] := rfl

theorem toJson_eq (e : Event) : e.toJson = .object (Record.layout e.entries) := by
  simp only [toJson, entries, Record.layout_cons, Record.fieldIfSome_unlessEmpty,
    Record.fieldIfSome_map, Record.layout_nil, List.append_assoc, List.append_nil]
  rfl

/-- An event is read back as what is kept of it. -/
theorem reader_arranged (hs : e.data.Legible) (hle : e.toJson.nesting ≤ depth) (sort : Bool) :
    reader depth (e.toJson.arranged sort).document = some e.kept := by
  rw [toJson_eq] at hle ⊢
  obtain ⟨limit, rfl, hnested⟩ := Json.exists_of_nesting_object hle
  obtain ⟨r, hfields, hr⟩ := Record.fields?_arranged e.map_fst_entries (by decide) sort limit
  have htitle : r.withDefault "title" "" Reader.string = some e.title :=
    hr.withDefault_unlessEmpty (by simp [entries])
  have hdescription : r.optional "description" Reader.string = some e.description :=
    hr.optional_string (by simp [entries])
  have hentry : ("data", some e.data.toJson) ∈ e.entries := by simp [entries]
  have hdata : r.withDefault "data" {} DataSchema.reader = some e.data.kept :=
    hr.withDefault hentry
      (DataSchema.reader_arranged hs (hnested _ (Record.mem_layout.2 hentry)) sort) _
  simp only [reader, hfields, Option.bind_eq_bind, Option.bind_some, htitle, hdescription, hdata]
  rfl

theorem same_kept_iff (hs : e.data.Legible) : e.same e.kept = true ↔ e.data.Lasting := by
  simp only [same, kept, decide_true, Bool.true_and, DataSchema.same_kept_iff hs]

end Event

namespace Action

variable {a : Action}

/-- The schemas of an action. -/
def schemas (a : Action) : List DataSchema := a.input.toList ++ a.output.toList

theorem forall_mem_schemas {P : DataSchema → Prop} :
    (∀ s ∈ a.schemas, P s) ↔ (∀ s ∈ a.input, P s) ∧ ∀ s ∈ a.output, P s := by
  simp only [schemas, List.forall_mem_append, Option.mem_toList, Option.mem_def]

/-- What is left of an action that was written and read. -/
def kept (a : Action) : Action :=
  { a with input := a.input.map DataSchema.kept, output := a.output.map DataSchema.kept }

/-- What is written for an action. -/
def entries (a : Action) : List (String × Option Json) :=
  [("title", Record.unlessEmpty a.title), ("description", a.description.map .string),
    ("input", a.input.map DataSchema.toJson), ("output", a.output.map DataSchema.toJson),
    ("safe", some (.bool a.safe)), ("idempotent", some (.bool a.idempotent))]

theorem map_fst_entries (a : Action) : a.entries.map (·.1) =
    ["title", "description", "input", "output", "safe", "idempotent"] := rfl

theorem toJson_eq (a : Action) : a.toJson = .object (Record.layout a.entries) := by
  simp only [toJson, entries, Record.layout_cons, Record.fieldIfSome_unlessEmpty,
    Record.fieldIfSome_map, Record.layout_nil, List.append_assoc, List.append_nil]
  rfl

/-- An action is read back as what is kept of it. -/
theorem reader_arranged (hs : ∀ s ∈ a.schemas, s.Legible) (hle : a.toJson.nesting ≤ depth)
    (sort : Bool) : reader depth (a.toJson.arranged sort).document = some a.kept := by
  rw [toJson_eq] at hle ⊢
  obtain ⟨limit, rfl, hnested⟩ := Json.exists_of_nesting_object hle
  obtain ⟨r, hfields, hr⟩ := Record.fields?_arranged a.map_fst_entries (by decide) sort limit
  have hle {name : String} {v : Json} (h : (name, some v) ∈ a.entries) : v.nesting ≤ limit :=
    hnested _ (Record.mem_layout.2 h)
  have htitle : r.withDefault "title" "" Reader.string = some a.title :=
    hr.withDefault_unlessEmpty (by simp [entries])
  have hdescription : r.optional "description" Reader.string = some a.description :=
    hr.optional_string (by simp [entries])
  have hinput : r.optional "input" DataSchema.reader = some (a.input.map DataSchema.kept) :=
    DataSchema.optional_schema hr (by simp [entries]) (forall_mem_schemas.1 hs).1 hle
  have houtput : r.optional "output" DataSchema.reader = some (a.output.map DataSchema.kept) :=
    DataSchema.optional_schema hr (by simp [entries]) (forall_mem_schemas.1 hs).2 hle
  have hsafe : r.withDefault "safe" false Reader.bool = some a.safe :=
    hr.withDefault (by simp [entries]) (Reader.bool_arranged a.safe) _
  have hidempotent : r.withDefault "idempotent" false Reader.bool = some a.idempotent :=
    hr.withDefault (by simp [entries]) (Reader.bool_arranged a.idempotent) _
  simp only [reader, hfields, Option.bind_eq_bind, Option.bind_some, htitle, hdescription, hinput,
    houtput, hsafe, hidempotent]
  rfl

theorem same_kept_iff (hs : ∀ s ∈ a.schemas, s.Legible) :
    a.same a.kept = true ↔ ∀ s ∈ a.schemas, s.Lasting := by
  rw [forall_mem_schemas] at hs ⊢
  simp only [same, kept, decide_true, Bool.true_and, Bool.and_true, Bool.and_eq_true,
    DataSchema.both_kept hs.1, DataSchema.both_kept hs.2]

end Action

/-! ## Descriptions -/

namespace ThingDescription

variable {d : ThingDescription}

/-- All schemas in a description. -/
def schemas (d : ThingDescription) : List DataSchema :=
  d.properties.entries.map (·.2.schema) ++ d.events.entries.map (·.2.data) ++
    d.actions.entries.flatMap (·.2.schemas)

/-- What is left of a description that was written and read: its affordances are in their order, or
    sorted. -/
def kept (sort : Bool) (d : ThingDescription) : ThingDescription :=
  { d with
    properties := (d.properties.map Property.kept).arrange sort
    events := (d.events.map Event.kept).arrange sort
    actions := (d.actions.map Action.kept).arrange sort }

/-- What is written for a description. -/
def entries (d : ThingDescription) : List (String × Option Json) :=
  [("@context", some (Record.strings d.context)),
    ("id", some (.string d.id)),
    ("title", some (.string d.title)),
    ("description", d.description.map .string),
    ("@type", Record.unlessNone d.deviceType),
    ("created", some (.string d.created)),
    ("modified", some (.string d.modified)),
    ("security", some (Record.strings d.security)),
    ("properties", some (Record.named Property.toJson d.properties)),
    ("events", some (Record.named Event.toJson d.events)),
    ("actions", some (Record.named Action.toJson d.actions))]

theorem map_fst_entries (d : ThingDescription) : d.entries.map (·.1) = fieldNames := rfl

theorem toJson_eq (d : ThingDescription) : d.toJson = .object (Record.layout d.entries) := by
  simp only [toJson, entries, Record.layout_cons, Record.fieldIfSome_map,
    Record.fieldIfSome_unlessNone, Record.layout_nil, List.append_assoc, List.append_nil]
  rfl

theorem forall_mem_schemas {P : DataSchema → Prop} :
    (∀ s ∈ d.schemas, P s) ↔ (∀ e ∈ d.properties.entries, P e.2.schema) ∧
      (∀ e ∈ d.events.entries, P e.2.data) ∧
      ∀ e ∈ d.actions.entries, ∀ s ∈ e.2.schemas, P s := by
  simp only [schemas, List.forall_mem_append, List.forall_mem_map, List.forall_mem_flatMap,
    and_assoc]

/-- Affordances are what is kept of them, in whatever order, exactly where each of them is. -/
theorem sameNamed_kept {α : Type} {equal : α → α → Bool} {f : α → α} {m : NameMap α}
    (hm : m.Distinct) (sort : Bool) :
    sameNamed equal m ((m.map f).arrange sort) = true ↔
      ∀ e ∈ m.entries, equal e.2 (f e.2) = true := by
  have hnodup : ((m.map f).entries.map (·.1)).Nodup := by
    rw [NameMap.map, List.map_map]
    exact hm
  have hperm := Members.perm_arrange sort hnodup
  have hsize : m.size = ((m.map f).arrange sort).size := by
    rw [NameMap.size, NameMap.size, NameMap.arrange, hperm.length_eq, NameMap.map, List.length_map]
  have hget : ∀ e ∈ m.entries, ((m.map f).arrange sort).get? e.1 = some (f e.2) := by
    intro e he
    rw [NameMap.get?, NameMap.arrange, ← NameMap.findEntry_of_perm hnodup hperm.symm, NameMap.map,
      NameMap.findEntry_map]
    exact congrArg (Option.map f) (hm.get?_of_mem he)
  rw [sameNamed, Bool.and_eq_true, decide_eq_true_eq, and_iff_right hsize, List.all_eq_true]
  refine forall₂_congr fun e he => ?_
  simp only [hget e he]

section

variable (hproperties : d.properties.Distinct) (hevents : d.events.Distinct)
  (hactions : d.actions.Distinct) (hs : ∀ s ∈ d.schemas, s.Legible)
include hproperties hevents hactions hs

/-- A description is read back as what is kept of it, however its members are arranged. -/
theorem reader_arranged (hle : d.toJson.nesting ≤ depth) (sort : Bool) :
    reader depth (d.toJson.arranged sort).document = some (d.kept sort) := by
  rw [forall_mem_schemas] at hs
  rw [toJson_eq] at hle ⊢
  obtain ⟨limit, rfl, hnested⟩ := Json.exists_of_nesting_object hle
  obtain ⟨r, hfields, hr⟩ := Record.fields?_arranged d.map_fst_entries (by decide) sort limit
  have hle {name : String} {v : Json} (h : (name, some v) ∈ d.entries) : v.nesting ≤ limit :=
    hnested _ (Record.mem_layout.2 h)
  have hcontextEntry : ("@context", some (Record.strings d.context)) ∈ d.entries := by
    simp [entries]
  have hlimit : 0 < limit := Nat.zero_lt_of_lt (hle hcontextEntry)
  have hcontext := hr.withDefault_strings hcontextEntry hlimit [thingContext]
  have hid : r.required "id" Reader.string = some d.id :=
    hr.required (by simp [entries]) (Reader.string_arranged d.id)
  have htitle : r.withDefault "title" "" Reader.string = some d.title :=
    hr.withDefault (by simp [entries]) (Reader.string_arranged d.title) _
  have hdescription : r.optional "description" Reader.string = some d.description :=
    hr.optional_string (by simp [entries])
  have htype : r.withDefault "@type" [] (Reader.list Reader.string) = some d.deviceType :=
    hr.withDefault_unlessNone (by simp [entries]) hlimit
  have hcreated : r.withDefault "created" "" Reader.string = some d.created :=
    hr.withDefault (by simp [entries]) (Reader.string_arranged d.created) _
  have hmodified : r.withDefault "modified" "" Reader.string = some d.modified :=
    hr.withDefault (by simp [entries]) (Reader.string_arranged d.modified) _
  have hsecurity : r.withDefault "security" [] (Reader.list Reader.string) = some d.security :=
    hr.withDefault_strings (by simp [entries]) hlimit _
  have hpropertiesEntry :
      ("properties", some (Record.named Property.toJson d.properties)) ∈ d.entries := by
    simp [entries]
  have hproperties := hr.withDefault_named hpropertiesEntry hproperties (hle hpropertiesEntry)
    (fun e he _ hle => Property.reader_arranged (hs.1 e he) hle sort) {}
  have heventsEntry : ("events", some (Record.named Event.toJson d.events)) ∈ d.entries := by
    simp [entries]
  have hevents := hr.withDefault_named heventsEntry hevents (hle heventsEntry)
    (fun e he _ hle => Event.reader_arranged (hs.2.1 e he) hle sort) {}
  have hactionsEntry : ("actions", some (Record.named Action.toJson d.actions)) ∈ d.entries := by
    simp [entries]
  have hactions := hr.withDefault_named hactionsEntry hactions (hle hactionsEntry)
    (fun e he _ hle => Action.reader_arranged (hs.2.2 e he) hle sort) {}
  simp only [reader, hfields, Option.bind_eq_bind, Option.bind_some, hcontext, hid, htitle,
    hdescription, htype, hcreated, hmodified, hsecurity, hproperties, hevents, hactions]
  rfl

/-- A description is what is kept of it exactly where none of its schemas loses anything. -/
theorem same_kept_iff (sort : Bool) :
    d.same (d.kept sort) = true ↔ ∀ s ∈ d.schemas, s.Lasting := by
  rw [forall_mem_schemas] at hs ⊢
  simp only [same, kept, decide_true, Bool.true_and, Bool.and_eq_true, sameNamed_kept hproperties,
    sameNamed_kept hevents, sameNamed_kept hactions, and_assoc]
  refine and_congr (forall₂_congr fun e he => Property.same_kept_iff (hs.1 e he))
    (and_congr (forall₂_congr fun e he => Event.same_kept_iff (hs.2.1 e he))
      (forall₂_congr fun e he => Action.same_kept_iff (hs.2.2 e he)))

/-- The text of a description, however its members are arranged, is read as what is kept of it. -/
theorem read?_arranged (hle : d.toJson.nesting ≤ Document.maxDepth) (sort : Bool) :
    reader.read? (d.toJson.arranged sort).compact = some (d.kept sort) := by
  rw [Reader.read?, (Json.spells_compact _).read?, Option.bind_some]
  exact reader_arranged hproperties hevents hactions hs hle sort

/-- A description is written, and the text is read; or its value is, as it is published. What is
    read is what is kept of the description. It is the same description, with the affordances in
    their order unless what was written is the value, exactly where no default in it is null and
    every bound in it is finite. -/
theorem survives_iff (hle : d.toJson.nesting ≤ Document.maxDepth) :
    (reader.read? d.toJson.compact = some (d.kept false) ∧
      reader.read? d.asValue.compact = some (d.kept true)) ∧
    ((∃ e, reader.read? d.toJson.compact = some e ∧ d.same e = true ∧
        e.properties.names = d.properties.names ∧ e.events.names = d.events.names ∧
        e.actions.names = d.actions.names) ↔ ∀ s ∈ d.schemas, s.Lasting) ∧
    ((∃ e, reader.read? d.asValue.compact = some e ∧ d.same e = true) ↔
      ∀ s ∈ d.schemas, s.Lasting) := by
  have hlaid := read?_arranged hproperties hevents hactions hs hle false
  have hvalue := read?_arranged hproperties hevents hactions hs hle true
  have hsame := same_kept_iff hproperties hevents hactions hs
  have hnames {α : Type} (f : α → α) (m : NameMap α) : ((m.map f).arrange false).names = m.names :=
    List.map_map
  refine ⟨⟨hlaid, hvalue⟩, ⟨?_, fun hlasting => ?_⟩, ⟨?_, fun hlasting => ?_⟩⟩
  · rintro ⟨e, he, hd, -⟩
    cases hlaid.symm.trans he
    exact (hsame false).1 hd
  · exact ⟨_, hlaid, (hsame false).2 hlasting, hnames _ _, hnames _ _, hnames _ _⟩
  · rintro ⟨e, he, hd⟩
    cases hvalue.symm.trans he
    exact (hsame true).1 hd
  · exact ⟨_, hvalue, (hsame true).2 hlasting⟩

end

/-- A gauge: a level that is not negative, an alarm that says how bad it is, and a reset. -/
def gauge (level : DataSchema) : ThingDescription :=
  { context := [], id := "gauge"
    properties := ⟨[("level", { schema := level, observable := true })]⟩
    events := ⟨[("alarm", { data :=
      { enumeration := some [.string "low", .string "high"], default := some (.string "low") } })]⟩
    actions := ⟨[("reset", { output := some { dataType := some .boolean } })]⟩ }

theorem forall_mem_schemas_gauge {P : DataSchema → Prop} {level : DataSchema} :
    (∀ s ∈ (gauge level).schemas, P s) ↔ P level ∧
      P { enumeration := some [.string "low", .string "high"], default := some (.string "low") } ∧
      P { dataType := some .boolean } := by
  simp [forall_mem_schemas, gauge, Action.schemas]

theorem legible_gauge {level : DataSchema} (h : level.Legible) :
    ∀ s ∈ (gauge level).schemas, s.Legible := by
  have htext (text : String) : Json.read? (Json.string text).compact = some (.string text) := by
    rw [Json.read?_compact, Json.document, Document.value?, Quoted.decode_encode]
    rfl
  refine forall_mem_schemas_gauge.2 ⟨h, ?_, List.forall_mem_nil _⟩
  simp [DataSchema.Legible, DataSchema.values, htext]

/-- The bound of a level that is not negative reads back. -/
theorem legible_zero : DataSchema.Legible { minimum := some (.zero false) } := by
  have hscale : Literal.scale 0 (-1) = some (.zero false) := by
    have hdown : Literal.scaleDown (Double.ofInt 0) 1 = .zero false := by
      rw [Literal.scaleDown]
      decide +kernel
    rw [← hdown]
    rfl
  have hnumber : Literal.number { whole := [0], fraction := [0] } =
      some (.double (.zero false)) := by
    exact congrArg (Option.map fun x => Number.double x) hscale
  refine List.forall_mem_singleton.2 ?_
  rw [Json.read?_compact]
  exact congrArg (Option.map Json.number) hnumber

/-- A gauge whose level has a bound that is finite survives. One whose level has a default that is
    null does not. -/
theorem survives_gauge :
    (∃ e, reader.read? (gauge { minimum := some (.zero false) }).toJson.compact = some e ∧
      (gauge { minimum := some (.zero false) }).same e = true ∧ e.properties.names = ["level"]) ∧
    ¬ ∃ e, reader.read? (gauge { default := some .null }).asValue.compact = some e ∧
      (gauge { default := some .null }).same e = true := by
  have hnull : DataSchema.Legible { default := some .null } :=
    List.forall_mem_singleton.2 (by rw [Json.read?_compact]; rfl)
  constructor
  · have hlasting : DataSchema.Lasting { minimum := some (.zero false) } :=
      ⟨nofun, by rintro x ⟨⟩; rfl, nofun⟩
    obtain ⟨-, hlaid, -⟩ := survives_iff (d := gauge { minimum := some (.zero false) })
      (List.pairwise_singleton ..) (List.pairwise_singleton ..) (List.pairwise_singleton ..)
      (legible_gauge legible_zero) (by decide)
    obtain ⟨e, he, hsame, hnames, -⟩ := hlaid.2 (forall_mem_schemas_gauge.2 ⟨hlasting,
      ⟨nofun, nofun, nofun⟩, ⟨nofun, nofun, nofun⟩⟩)
    exact ⟨e, he, hsame, hnames⟩
  · obtain ⟨-, -, hvalue⟩ := survives_iff (d := gauge { default := some .null })
      (List.pairwise_singleton ..) (List.pairwise_singleton ..) (List.pairwise_singleton ..)
      (legible_gauge hnull) (by decide)
    exact fun h => (forall_mem_schemas_gauge.1 (hvalue.1 h)).1.default rfl

end ThingDescription

end WebOfThings
