import WebOfThings.Schema
import WebOfThings.Proofs.Records

/-!
# Schemas read back

What becomes of a schema that is written and read. Everything in it survives but a default that is
null and a bound that is not finite: both are written as null, and what is null is read as missing
(`DataSchema.kept`).

* `DataSchema.reader_arranged`: a schema is read back as what is kept of it, however its members are
  arranged;
* `DataSchema.same_kept_iff`: this is the schema itself exactly where nothing in it is lost
  (`DataSchema.Lasting`).
-/

namespace WebOfThings

/-! ## Values -/

namespace Json

variable {j : Json} {depth : Nat} {sort : Bool}

/-- A value that reads back from its own text reads back wherever it may be nested. -/
theorem value?_of_read? (h : read? j.compact = some j) (hle : j.nesting ≤ depth) :
    j.document.value? depth = some j := by
  rw [read?_compact] at h
  exact Document.value?_of_nesting h hle

theorem settled_of_read? (h : read? j.compact = some j) : j.Settled := by
  rw [read?_compact] at h
  exact Document.settled_of_value? h

end Json

theorem Json.nesting_ofDouble (x : Double) : (ofDouble x).nesting = 0 := by
  rw [ofDouble]
  split
  · rw [nesting, document]
    split <;> rfl
  · rfl

theorem Document.ne_null_of_value? {document : Document} {depth : Nat} {j : Json}
    (h : document.value? depth = some j) (hne : j ≠ .null) : document ≠ .null := by
  rintro rfl
  exact hne (Option.some.inj h).symm

/-- The number of a document that is a double is the double. -/
theorem Reader.double_of_value? {depth : Nat} {document : Document} {x : Double}
    (h : document.value? depth = some (.number (.double x))) : double depth document = some x := by
  cases document with
  | null | bool _ => cases h
  | number literal =>
    rw [Document.value?, Option.map_eq_some_iff] at h
    obtain ⟨n, hn, heq⟩ := h
    cases heq
    rw [double, hn]
    rfl
  | string _ | array _ | object _ => cases depth <;> simp [Document.value?] at h

theorem DataType.reader_arranged {depth : Nat} {sort : Bool} (isNothing : Document → Bool)
    (type : DataType) :
    reader isNothing depth ((Json.string type.name).arranged sort).document = some type := by
  have hname : ofName? type.name = some type := by cases type <;> rfl
  have hread : (Quoted.decode (Quoted.encode type.name)).bind ofName? = some type := by
    rw [Quoted.decode_encode, Option.bind_some, hname]
  cases sort <;> exact hread

namespace DataSchema

variable {s : DataSchema} {depth : Nat} {sort : Bool}

/-- The values in a schema: the allowed ones, the default, and the bounds as they are written. -/
def values (s : DataSchema) : List Json :=
  s.enumeration.getD [] ++ s.default.toList ++
    (s.minimum.toList ++ s.maximum.toList).map Json.ofDouble

/-- The values in a schema read back from their own texts. -/
def Legible (s : DataSchema) : Prop := ∀ v ∈ s.values, Json.read? v.compact = some v

/-- A schema that loses nothing: its default is not null, and its bounds are finite. -/
structure Lasting (s : DataSchema) : Prop where
  default : s.default ≠ some .null
  minimum : ∀ x ∈ s.minimum, x.isFinite = true
  maximum : ∀ x ∈ s.maximum, x.isFinite = true

/-- Whether a value is null. -/
def isNullValue : Json → Bool
  | .null => true
  | _ => false

/-- What is left of a schema that was written and read. -/
def kept (s : DataSchema) : DataSchema :=
  { s with
    minimum := s.minimum.filter Double.isFinite
    maximum := s.maximum.filter Double.isFinite
    default := s.default.filter fun v => !isNullValue v }

/-- What is written for a schema. -/
def entries (s : DataSchema) : List (String × Option Json) :=
  [("title", Record.unlessEmpty s.title),
    ("description", s.description.map .string),
    ("type", s.dataType.map fun type => .string type.name),
    ("unit", s.unit.map .string),
    ("readOnly", Record.ifTrue s.readOnly),
    ("writeOnly", Record.ifTrue s.writeOnly),
    ("minimum", s.minimum.map Json.ofDouble),
    ("maximum", s.maximum.map Json.ofDouble),
    ("enum", s.enumeration.map .array),
    ("default", s.default.map id)]

theorem fields_eq (s : DataSchema) : s.fields = Record.layout s.entries := by
  simp only [fields, entries, Record.layout_cons, Record.fieldIfSome_unlessEmpty,
    Record.fieldIfSome_map, Record.fieldIfSome_ifTrue, Record.layout_nil, List.append_assoc,
    List.append_nil]

theorem map_fst_entries (s : DataSchema) : s.entries.map (·.1) = fieldNames := rfl

theorem mem_values_of_enumeration {items : List Json} (h : s.enumeration = some items) {item : Json}
    (hitem : item ∈ items) : item ∈ s.values := by
  refine List.mem_append_left _ (List.mem_append_left _ ?_)
  rw [h]
  exact hitem

theorem mem_values_of_default {v : Json} (h : s.default = some v) : v ∈ s.values :=
  List.mem_append_left _ (List.mem_append_right _ (Option.mem_toList.2 h))

theorem mem_values_of_bound {x : Double} (h : x ∈ s.minimum ∨ x ∈ s.maximum) :
    Json.ofDouble x ∈ s.values := by
  refine List.mem_append_right _ (List.mem_map_of_mem (List.mem_append.2 ?_))
  exact h.imp Option.mem_toList.2 Option.mem_toList.2

/-- What is written for a schema is a text, a truth value, the list of its allowed values, or one of
    its values. -/
theorem cases_of_mem_entries {name : String} {v : Json} (h : (name, some v) ∈ s.entries) :
    (∃ text, v = .string text) ∨ v = .bool true ∨ s.enumeration.map .array = some v ∨
      v ∈ s.values := by
  simp only [entries, List.mem_cons, Prod.mk.injEq, List.not_mem_nil, or_false] at h
  obtain ⟨-, h⟩ | ⟨-, h⟩ | ⟨-, h⟩ | ⟨-, h⟩ | ⟨-, h⟩ | ⟨-, h⟩ | ⟨-, h⟩ | ⟨-, h⟩ | ⟨-, h⟩ |
    ⟨-, h⟩ := h
  · exact .inl ⟨_, Record.unlessEmpty_eq_some h.symm⟩
  · obtain ⟨text, -, rfl⟩ := Option.map_eq_some_iff.1 h.symm
    exact .inl ⟨text, rfl⟩
  · obtain ⟨type, -, rfl⟩ := Option.map_eq_some_iff.1 h.symm
    exact .inl ⟨type.name, rfl⟩
  · obtain ⟨text, -, rfl⟩ := Option.map_eq_some_iff.1 h.symm
    exact .inl ⟨text, rfl⟩
  · exact .inr (.inl (Record.ifTrue_eq_some h.symm))
  · exact .inr (.inl (Record.ifTrue_eq_some h.symm))
  · obtain ⟨x, hx, rfl⟩ := Option.map_eq_some_iff.1 h.symm
    exact .inr (.inr (.inr (mem_values_of_bound (.inl hx))))
  · obtain ⟨x, hx, rfl⟩ := Option.map_eq_some_iff.1 h.symm
    exact .inr (.inr (.inr (mem_values_of_bound (.inr hx))))
  · exact .inr (.inr (.inl h.symm))
  · exact .inr (.inr (.inr (mem_values_of_default (h.trans Option.map_id_apply).symm)))

/-- Every value that is written for a schema reads back where it stands. -/
theorem value?_of_mem_entries (hs : s.Legible) {name : String} {v : Json}
    (h : (name, some v) ∈ s.entries) (hle : v.nesting ≤ depth) :
    v.document.value? depth = some v := by
  obtain ⟨text, rfl⟩ | rfl | hlist | hv := cases_of_mem_entries h
  · rw [Json.document, Document.value?, Quoted.decode_encode]
    rfl
  · rfl
  · obtain ⟨items, hitems, rfl⟩ := Option.map_eq_some_iff.1 hlist
    obtain ⟨limit, rfl, hnested⟩ := Json.exists_of_nesting_array hle
    exact Json.value?_array fun item hitem =>
      Json.value?_of_read? (hs item (mem_values_of_enumeration hitems hitem)) (hnested item hitem)
  · exact Json.value?_of_read? (hs v hv) hle

section

variable {r : Record} {shown : List (String × Option Json)} (hr : r.Shows sort depth shown)
include hr

/-- A bound is kept if it is finite. -/
theorem optional_bound {name : String} {bound : Option Double}
    (h : (name, bound.map Json.ofDouble) ∈ shown)
    (hread : ∀ x ∈ bound, Json.read? (Json.ofDouble x).compact = some (Json.ofDouble x)) :
    r.optional name Reader.double = some (bound.filter Double.isFinite) := by
  have hvalue : ∀ x ∈ bound, (Json.ofDouble x).document.value? depth = some (Json.ofDouble x) :=
    fun x hx =>
      Json.value?_of_read? (hread x hx) (by rw [Json.nesting_ofDouble]; exact Nat.zero_le _)
  refine hr.optional_filter h (fun x hx hinfinite => ?_) fun x hx hfinite => ?_
  · rw [(Document.settled_of_value? (hvalue x hx)).arranged, Json.ofDouble, hinfinite]
    rfl
  · have hx := hvalue x hx
    rw [(Document.settled_of_value? hx).arranged]
    rw [Json.ofDouble, if_pos hfinite] at hx ⊢
    exact ⟨Document.ne_null_of_value? hx nofun, Reader.double_of_value? hx⟩

variable (hsub : s.entries ⊆ shown) (hs : s.Legible)
  (hle : ∀ {name v}, (name, some v) ∈ s.entries → v.nesting ≤ depth)
include hsub hs hle

/-- The allowed values are kept. -/
theorem optional_enumeration :
    r.optional "enum" (Reader.list Reader.json) = some s.enumeration := by
  have hentry : ("enum", s.enumeration.map Json.array) ∈ s.entries := by simp [entries]
  have hread : r.optional "enum" (Reader.list Reader.json) = some (s.enumeration.map id) := by
    refine hr.optional (hsub hentry) fun items hitems => ?_
    have hlist : ("enum", some (Json.array items)) ∈ s.entries := by
      rwa [Option.mem_def.1 hitems] at hentry
    obtain ⟨limit, rfl, hnested⟩ := Json.exists_of_nesting_array (hle hlist)
    have hitem : ∀ item ∈ items,
        Reader.json limit ((id item).arranged sort).document = some (id item) := by
      intro item hitem
      have hread := hs item (mem_values_of_enumeration hitems hitem)
      rw [id, (Json.settled_of_read? hread).arranged]
      exact Json.value?_of_read? hread (hnested item hitem)
    have hlist := Reader.list_arranged hitem
    rw [List.map_id] at hlist
    exact ⟨by rw [Json.arranged_array]; exact nofun, hlist⟩
  rw [hread, Option.map_id_apply]

/-- A default is kept unless it is null. -/
theorem optional_default :
    r.optional "default" Reader.json = some (s.default.filter fun v => !isNullValue v) := by
  have hentry : ("default", s.default.map id) ∈ s.entries := by simp [entries]
  refine hr.optional_filter (hsub hentry) (fun v hv hnull => ?_) fun v hv hne => ?_
  · cases v with
    | null => cases sort <;> rfl
    | _ => cases hnull
  · have hdefault : ("default", some v) ∈ s.entries := by
      rwa [Option.mem_def.1 hv] at hentry
    have hvalue := value?_of_mem_entries hs hdefault (hle hdefault)
    rw [id, (Document.settled_of_value? hvalue).arranged]
    exact ⟨Document.ne_null_of_value? hvalue (by rintro rfl; cases hne), hvalue⟩

/-- A record that shows the entries of a schema is read as what is kept of it. -/
theorem ofRecord?_of_shows (isNothing : Document → Bool) : ofRecord? isNothing r = some s.kept := by
  have htitle : r.withDefault "title" "" Reader.string = some s.title :=
    hr.withDefault_unlessEmpty (hsub (by simp [entries]))
  have hdescription : r.optional "description" Reader.string = some s.description :=
    hr.optional_string (hsub (by simp [entries]))
  have htype : r.optional "type" (DataType.reader isNothing) = some (s.dataType.map id) :=
    hr.optional (hsub (by simp [entries])) fun type _ =>
      ⟨by cases sort <;> exact nofun, DataType.reader_arranged isNothing type⟩
  have hunit : r.optional "unit" Reader.string = some s.unit :=
    hr.optional_string (hsub (by simp [entries]))
  have hreadOnly : r.withDefault "readOnly" false Reader.bool = some s.readOnly :=
    hr.withDefault_ifTrue (hsub (by simp [entries]))
  have hwriteOnly : r.withDefault "writeOnly" false Reader.bool = some s.writeOnly :=
    hr.withDefault_ifTrue (hsub (by simp [entries]))
  have hminimum : r.optional "minimum" Reader.double = some (s.minimum.filter Double.isFinite) :=
    optional_bound hr (hsub (by simp [entries])) fun x hx => hs _ (mem_values_of_bound (.inl hx))
  have hmaximum : r.optional "maximum" Reader.double = some (s.maximum.filter Double.isFinite) :=
    optional_bound hr (hsub (by simp [entries])) fun x hx => hs _ (mem_values_of_bound (.inr hx))
  rw [Option.map_id_apply] at htype
  rw [ofRecord?, htitle, hdescription, htype, hunit, hreadOnly, hwriteOnly, hminimum, hmaximum,
    optional_enumeration hr hsub hs hle, optional_default hr hsub hs hle]
  rfl

end

/-- The members of a schema that may be nested so deep. -/
theorem nesting_le_of_mem_entries (hle : ∀ e ∈ s.fields, e.2.nesting ≤ depth) {name : String}
    {v : Json} (h : (name, some v) ∈ s.entries) : v.nesting ≤ depth := by
  rw [fields_eq] at hle
  exact hle _ (Record.mem_layout.2 h)

/-- A schema is read back as what is kept of it, however its members are arranged. -/
theorem reader_arranged (hs : s.Legible) (hle : s.toJson.nesting ≤ depth) (sort : Bool) :
    reader depth (s.toJson.arranged sort).document = some s.kept := by
  obtain ⟨limit, rfl, hnested⟩ := Json.exists_of_nesting_object hle
  obtain ⟨r, hfields, hr⟩ := Record.fields?_arranged s.map_fst_entries (by decide) sort limit
  rw [reader, toJson, fields_eq, hfields, Option.bind_some]
  exact ofRecord?_of_shows hr (List.Subset.refl _) hs (nesting_le_of_mem_entries hnested) isNull

/-- A schema that may be missing is read back as what is kept of it. -/
theorem optional_schema {r : Record} {shown : List (String × Option Json)}
    (hr : r.Shows sort depth shown) {name : String} {schema : Option DataSchema}
    (h : (name, schema.map toJson) ∈ shown) (hs : ∀ s ∈ schema, s.Legible)
    (hle : ∀ {v}, (name, some v) ∈ shown → v.nesting ≤ depth) :
    r.optional name reader = some (schema.map kept) := by
  refine hr.optional h fun s hmem => ⟨?_, reader_arranged (hs s hmem) (hle ?_) sort⟩
  · rw [toJson, Json.arranged_object]
    exact nofun
  · rwa [Option.mem_def.1 hmem] at h

/-! ## What is lost -/

theorem both_self {α : Type} {equal : α → α → Bool} {value : Option α}
    (h : ∀ x ∈ value, equal x x = true) : same.both equal value value = true := by
  cases value with
  | none => rfl
  | some x => exact h x rfl

/-- What may be missing stays the same if it is kept. -/
theorem both_filter {α : Type} {equal : α → α → Bool} {keep : α → Bool} {value : Option α}
    (h : ∀ x ∈ value, keep x = true → equal x x = true) :
    same.both equal value (value.filter keep) = true ↔ ∀ x ∈ value, keep x = true := by
  cases value with
  | none => simp [same.both]
  | some x =>
    cases hkeep : keep x with
    | false => simp [same.both, Option.filter, hkeep]
    | true => simp [same.both, Option.filter, hkeep, h x rfl hkeep]

theorem both_finite (bound : Option Double) :
    same.both Double.same bound (bound.filter Double.isFinite) = true ↔
      ∀ x ∈ bound, x.isFinite = true :=
  both_filter fun x _ hfinite => Double.same_self (by rintro rfl; cases hfinite)

/-- A schema is what is kept of it exactly where nothing in it is lost. -/
theorem same_kept_iff (hs : s.Legible) : s.same s.kept = true ↔ s.Lasting := by
  have henumeration : same.both Json.sameItems s.enumeration s.enumeration = true :=
    both_self fun items hitems => Json.sameItems_self fun item hitem =>
      (Json.settled_of_read? (hs item (mem_values_of_enumeration hitems hitem))).same
  have hdefault : same.both Json.same s.default (s.default.filter fun v => !isNullValue v) = true ↔
      s.default ≠ some .null := by
    rw [both_filter fun v hv _ => (Json.settled_of_read? (hs v (mem_values_of_default hv))).same]
    constructor
    · intro hkept hnull
      cases hkept .null hnull
    · rintro hne v hv
      cases v with
      | null => exact absurd hv hne
      | _ => rfl
  simp only [same, kept, decide_true, Bool.true_and, Bool.and_eq_true, both_finite, henumeration,
    hdefault, and_true]
  constructor
  · rintro ⟨⟨hminimum, hmaximum⟩, hdefault⟩
    exact ⟨hdefault, hminimum, hmaximum⟩
  · rintro ⟨hdefault, hminimum, hmaximum⟩
    exact ⟨⟨hminimum, hmaximum⟩, hdefault⟩

/-- So it is of a schema that may be missing. -/
theorem both_kept {schema : Option DataSchema} (hs : ∀ s ∈ schema, s.Legible) :
    same.both same schema (schema.map kept) = true ↔ ∀ s ∈ schema, s.Lasting := by
  cases schema with
  | none => simp [same.both]
  | some s => simpa [same.both] using same_kept_iff (hs s rfl)

end DataSchema

end WebOfThings
