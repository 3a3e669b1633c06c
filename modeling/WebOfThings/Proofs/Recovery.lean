import WebOfThings.Proofs.Encoding
import WebOfThings.Proofs.Loading

/-!
# What a list of descriptions reads back as

A list of descriptions is written, and what is written lists what each of them reads back as, one
for one (`ThingStore.lists_encode_iff`). So descriptions that read back as themselves one by one
read back together (`ThingStore.decode_encode`).

* `ThingDescription.recovers_iff`: a description reads back as itself from a list exactly where no
  default in it is null and every bound in it is finite, if it may be nested in a list at all.
-/

namespace WebOfThings

/-! ## Nothing is left out -/

theorem filter_eq_self_iff {α : Type} {p : α → Bool} {o : Option α} :
    o.filter p = o ↔ ∀ x ∈ o, p x = true := by
  cases o with
  | none => simp
  | some x => by_cases hx : p x = true <;> simp [hx]

theorem NameMap.map_eq_self_iff {α : Type} {f : α → α} {m : NameMap α} :
    m.map f = m ↔ ∀ e ∈ m.entries, f e.2 = e.2 := by
  obtain ⟨entries⟩ := m
  rw [map, mk.injEq]
  nth_rewrite 2 [← List.map_id entries]
  rw [List.map_inj_left]
  exact forall₂_congr fun e _ => by simp [Prod.ext_iff]

/-- Nothing of a schema is left out exactly where it loses nothing. -/
theorem DataSchema.kept_eq_self_iff {s : DataSchema} : s.kept = s ↔ s.Lasting := by
  have hnull (v : Json) : (!isNullValue v) = true ↔ v ≠ .null := by cases v <;> simp [isNullValue]
  obtain ⟨title, description, dataType, unit, readOnly, writeOnly, minimum, maximum, enumeration,
    default⟩ := s
  simp only [kept, mk.injEq, filter_eq_self_iff, hnull, true_and]
  constructor
  · rintro ⟨hminimum, hmaximum, hdefault⟩
    exact ⟨fun hd => hdefault .null hd rfl, hminimum, hmaximum⟩
  · rintro ⟨hdefault, hminimum, hmaximum⟩
    exact ⟨hminimum, hmaximum, fun v hv he => hdefault (he ▸ hv)⟩

theorem Property.kept_eq_self_iff {p : Property} : p.kept = p ↔ p.schema.Lasting := by
  obtain ⟨schema, observable⟩ := p
  simp [kept, DataSchema.kept_eq_self_iff]

theorem Event.kept_eq_self_iff {e : Event} : e.kept = e ↔ e.data.Lasting := by
  obtain ⟨title, description, data⟩ := e
  simp [kept, DataSchema.kept_eq_self_iff]

theorem Action.kept_eq_self_iff {a : Action} : a.kept = a ↔ ∀ s ∈ a.schemas, s.Lasting := by
  obtain ⟨title, description, input, output, safe, idempotent⟩ := a
  rw [forall_mem_schemas]
  simp only [kept, mk.injEq, true_and, and_true]
  cases input <;> cases output <;> simp [DataSchema.kept_eq_self_iff]

namespace ThingDescription

variable {d : ThingDescription}

/-- Nothing of a description is left out exactly where none of its schemas loses anything. -/
theorem kept_eq_self_iff : d.kept false = d ↔ ∀ s ∈ d.schemas, s.Lasting := by
  have harrange {α : Type} (m : NameMap α) : m.arrange false = m := rfl
  rw [forall_mem_schemas]
  obtain ⟨context, id, title, description, deviceType, created, modified, security, properties,
    events, actions⟩ := d
  simp [kept, NameMap.map_eq_self_iff, Property.kept_eq_self_iff, Event.kept_eq_self_iff,
    Action.kept_eq_self_iff, harrange]

end ThingDescription

/-! ## Lists -/

namespace ThingStore

/-- What is written for documents lists what each of them reads back as. -/
theorem lists_encode_iff {ds es : List ThingDescription} : Lists (encode ds) es ↔
    List.Forall₂ (fun d e =>
      ThingDescription.reader (Document.maxDepth - 1) d.toJson.document = some e) ds es := by
  have hread : Document.read? (encode ds) = some (.array (ds.map (·.toJson.document))) := by
    rw [encode, (Json.spells_indented 0 _).read?, Json.document, Json.documents_eq, List.map_map]
    rfl
  rw [Lists, hread]
  constructor
  · rintro ⟨items, hitems, hds⟩
    obtain rfl := Document.array.inj (Option.some.inj hitems)
    exact List.forall₂_map_left_iff.1 hds
  · exact fun hds => ⟨_, rfl, List.forall₂_map_left_iff.2 hds⟩

end ThingStore

namespace ThingDescription

variable {d : ThingDescription}

/-- A description reads back as itself from a list that is written for it. -/
def Recovers (d : ThingDescription) : Prop :=
  ThingStore.decode (ThingStore.encode [d]) = some [d]

theorem recovers_iff_reader :
    d.Recovers ↔ reader (Document.maxDepth - 1) d.toJson.document = some d := by
  rw [Recovers, ThingStore.decode_eq_some_iff, ThingStore.lists_encode_iff]
  simp

/-- A description that may be nested in a list reads back as itself exactly where no default in it
    is null and every bound in it is finite. -/
theorem recovers_iff (hproperties : d.properties.Distinct) (hevents : d.events.Distinct)
    (hactions : d.actions.Distinct) (hs : ∀ s ∈ d.schemas, s.Legible)
    (hle : d.toJson.nesting ≤ Document.maxDepth - 1) :
    d.Recovers ↔ ∀ s ∈ d.schemas, s.Lasting := by
  have hread : reader (Document.maxDepth - 1) d.toJson.document = some (d.kept false) :=
    reader_arranged hproperties hevents hactions hs hle false
  rw [recovers_iff_reader, hread, Option.some.injEq, kept_eq_self_iff]

/-- A description whose schemas say nothing reads back as itself. -/
theorem recovers_of_plain (hproperties : d.properties.Distinct) (hevents : d.events.Distinct)
    (hactions : d.actions.Distinct) (hplain : ∀ s ∈ d.schemas, s = {})
    (hle : d.toJson.nesting ≤ Document.maxDepth - 1) : d.Recovers := by
  have hlegible : ∀ s ∈ d.schemas, s.Legible := fun s hs => hplain s hs ▸ List.forall_mem_nil _
  rw [recovers_iff hproperties hevents hactions hlegible hle]
  intro s hs
  rw [hplain s hs]
  exact ⟨nofun, nofun, nofun⟩

end ThingDescription

/-- Descriptions that read back one by one read back together. -/
theorem ThingStore.decode_encode {ds : List ThingDescription} (h : ∀ d ∈ ds, d.Recovers) :
    decode (encode ds) = some ds := by
  rw [decode_eq_some_iff, lists_encode_iff, List.forall₂_same]
  exact fun d hd => ThingDescription.recovers_iff_reader.1 (h d hd)

end WebOfThings
