import Mathlib
import WebOfThings.Json.Record
import WebOfThings.Proofs.Values

/-!
# Records read back

A record is written as an object whose members are the fields that say something. It is read from
that object in whatever order its members stand: as they were written, or sorted by name
(`Json.arranged`).

What a record says is its entries: the names of its fields, and what is written under them, if
anything (`Record.layout`). A record that was read shows these entries (`Record.Shows`), and then
each kind of field gives back what was written:

* `Record.exists_shows`: the object of the entries is read as a record that shows them;
* `Shows.withDefault_text`, `Shows.withDefault_flag`, `Shows.optional_bind` and the like: what
  reading a field gives.
-/

namespace WebOfThings

open NameMap (findEntry)

/-! ## Arranged members -/

namespace Members

variable {α β : Type}

/-- Members in their order, or sorted by name. -/
def arrange (sort : Bool) (members : List (String × α)) : List (String × α) :=
  if sort then ofList members else members

theorem perm_arrange (sort : Bool) {members : List (String × α)}
    (h : (members.map (·.1)).Nodup) : (arrange sort members).Perm members := by
  cases sort with
  | false => exact List.Perm.refl _
  | true => exact perm_ofList h

theorem mem_arrange {sort : Bool} {e : String × α} {members : List (String × α)}
    (h : e ∈ arrange sort members) : e ∈ members := by
  cases sort with
  | false => exact h
  | true => exact mem_ofList h

theorem arrange_map (sort : Bool) (f : α → β) (members : List (String × α)) :
    arrange sort (members.map fun e => (e.1, f e.2)) =
      (arrange sort members).map fun e => (e.1, f e.2) := by
  cases sort with
  | false => rfl
  | true => exact ofList_map f members

end Members

/-- Where no name comes twice, the order of the entries does not matter. -/
theorem NameMap.findEntry_of_perm {α : Type} {l l' : List (String × α)}
    (h : (l.map (·.1)).Nodup) (hperm : l.Perm l') (name : String) :
    findEntry name l = findEntry name l' := by
  have hdistinct : Distinct ⟨l⟩ := h
  have hdistinct' : Distinct ⟨l'⟩ := (hperm.map _).nodup_iff.1 h
  refine Option.ext fun value => ⟨fun hvalue => ?_, fun hvalue => ?_⟩
  · exact hdistinct'.get?_of_mem (hperm.mem_iff.1 (mem_of_get? (m := ⟨l⟩) hvalue))
  · exact hdistinct.get?_of_mem (hperm.mem_iff.2 (mem_of_get? (m := ⟨l'⟩) hvalue))

theorem NameMap.findEntry_map {α β : Type} (f : α → β) (name : String) (l : List (String × α)) :
    findEntry name (l.map fun e => (e.1, f e.2)) = (findEntry name l).map f := by
  induction l with
  | nil => rfl
  | cons e l ih =>
    simp only [List.map_cons, findEntry, ih]
    split <;> rfl

namespace NameMap

variable {α : Type}

theorem insertEntry_of_new {name : String} {value : α} {l : List (String × α)}
    (h : name ∉ l.map (·.1)) : insertEntry name value l = l ++ [(name, value)] := by
  induction l with
  | nil => rfl
  | cons e l ih =>
    rw [List.map_cons, List.mem_cons, not_or] at h
    rw [insertEntry, if_neg h.1, ih h.2]
    rfl

/-- Entries of different names make the map of these entries. -/
theorem ofList_of_nodup {entries : List (String × α)} (h : (entries.map (·.1)).Nodup) :
    ofList entries = ⟨entries⟩ := by
  induction entries using List.reverseRecOn with
  | nil => rfl
  | append_singleton entries e ih =>
    rw [List.map_append, List.nodup_append] at h
    have hnew : e.1 ∉ entries.map (·.1) := fun hmem =>
      h.2.2 _ hmem _ (List.mem_singleton_self _) rfl
    have hfold : ofList (entries ++ [e]) = (ofList entries).insert e.1 e.2 := by simp [ofList]
    rw [hfold, ih h.1, insert, insertEntry_of_new hnew]

/-- The entries in their order, or sorted by name. -/
def arrange (sort : Bool) (m : NameMap α) : NameMap α := ⟨Members.arrange sort m.entries⟩

end NameMap

/-- A list is read if each of its elements is. -/
theorem mapM_eq_some_iff {α β : Type} {f : α → Option β} {l : List α} {m : List β} :
    l.mapM f = some m ↔ List.Forall₂ (fun x y => f x = some y) l m := by
  induction l generalizing m with
  | nil => simp [eq_comm]
  | cons x l ih =>
    simp only [List.mapM_cons, Option.bind_eq_bind, Option.bind_eq_some_iff, Option.pure_def,
      Option.some.injEq, ih, List.forall₂_cons_left_iff]
    constructor
    · rintro ⟨y, hy, m, hm, rfl⟩
      exact ⟨y, m, hy, hm, rfl⟩
    · rintro ⟨y, m, hy, hm, rfl⟩
      exact ⟨y, hy, m, hm, rfl⟩

/-- What is read of every element is read of the list. -/
theorem mapM_eq_some_map {α β γ : Type} {f : α → Option β} {l : List γ} {g : γ → α} {k : γ → β}
    (h : ∀ x ∈ l, f (g x) = some (k x)) : (l.map g).mapM f = some (l.map k) := by
  rw [mapM_eq_some_iff, List.forall₂_map_left_iff, List.forall₂_map_right_iff, List.forall₂_same]
  exact h

namespace Json

variable {sort : Bool}

/-- A document as it is laid out, or the value that it stands for. -/
def arranged (sort : Bool) (j : Json) : Json := if sort then j.sorted else j

/-- The members of an object, arranged with all that is in them. -/
def arrangedMembers (sort : Bool) (members : List (String × Json)) : List (String × Json) :=
  Members.arrange sort (members.map fun e => (e.1, e.2.arranged sort))

theorem arranged_object (sort : Bool) (members : List (String × Json)) :
    (object members).arranged sort = object (arrangedMembers sort members) := by
  cases sort with
  | false =>
    simp only [arranged, arrangedMembers, Members.arrange, Bool.false_eq_true, if_false]
    rw [List.map_id']
  | true =>
    simp only [arranged, arrangedMembers, Members.arrange, if_true, sorted, sortedMembers_eq]

theorem exists_of_mem_arrangedMembers {members : List (String × Json)} {e : String × Json}
    (h : e ∈ arrangedMembers sort members) : ∃ v, (e.1, v) ∈ members ∧ e.2 = v.arranged sort := by
  obtain ⟨original, hmem, rfl⟩ := List.mem_map.1 (Members.mem_arrange h)
  exact ⟨original.2, hmem, rfl⟩

theorem arranged_array (sort : Bool) (items : List Json) :
    (array items).arranged sort = array (items.map (arranged sort)) := by
  cases sort with
  | false => exact congrArg array (List.map_id' items).symm
  | true => exact congrArg array (sortedItems_eq items)

theorem Settled.arranged {j : Json} (h : j.Settled) : j.arranged sort = j := by
  cases sort with
  | false => rfl
  | true => exact h.sorted

end Json

/-! ## Readers -/

namespace Reader

variable {depth : Nat} {sort : Bool}

theorem string_arranged (text : String) :
    string depth ((Json.string text).arranged sort).document = some text := by
  cases sort <;> exact Quoted.decode_encode text

/-- A list is read if its items are. -/
theorem list_arranged {α β : Type} {read : Reader β} {write : α → Json} {kept : α → β}
    {items : List α}
    (h : ∀ x ∈ items, read depth ((write x).arranged sort).document = some (kept x)) :
    list read (depth + 1) ((Json.array (items.map write)).arranged sort).document =
      some (items.map kept) := by
  rw [Json.arranged_array, List.map_map, Json.document, Json.documents_eq, List.map_map]
  exact mapM_eq_some_map h

theorem strings_arranged (texts : List String) :
    list string (depth + 1) ((Record.strings texts).arranged sort).document = some texts := by
  rw [Record.strings, list_arranged fun text _ => string_arranged text, List.map_id']

/-- Named values are read, in the order in which they are arranged, if each of them is read wherever
    it may be nested. -/
theorem named_arranged {α β : Type} {read : Reader β} {write : α → Json} {kept : α → β}
    {m : NameMap α} (hm : m.Distinct) (hle : (Record.named write m).nesting ≤ depth)
    (h : ∀ e ∈ m.entries, ∀ limit, (write e.2).nesting ≤ limit →
      read limit ((write e.2).arranged sort).document = some (kept e.2)) :
    named read depth ((Record.named write m).arranged sort).document =
      some ((m.map kept).arrange sort) := by
  obtain ⟨limit, rfl, hnested⟩ := Json.exists_of_nesting_object hle
  have h : ∀ e ∈ m.entries, read limit ((write e.2).arranged sort).document = some (kept e.2) :=
    fun e he => h e he limit (hnested _ (List.mem_map_of_mem he))
  have hperm := Members.perm_arrange sort hm
  have hmembers : Json.arrangedMembers sort (m.map write).entries =
      (Members.arrange sort m.entries).map fun e => (e.1, (write e.2).arranged sort) := by
    rw [Json.arrangedMembers, NameMap.map, List.map_map]
    exact Members.arrange_map sort (fun x => (write x).arranged sort) m.entries
  have hnodup :
      (((Members.arrange sort m.entries).map fun e => (e.1, kept e.2)).map (·.1)).Nodup := by
    rw [List.map_map]
    exact (hperm.map _).nodup_iff.2 hm
  rw [Record.named, Json.arranged_object, hmembers, Json.document, Json.memberDocuments_eq,
    List.map_map, named, mapM_eq_some_map (k := fun e => (e.1, kept e.2))]
  · rw [Option.bind_eq_bind, Option.bind_some, NameMap.ofList_of_nodup hnodup, NameMap.arrange,
      NameMap.map]
    exact congrArg (fun entries => some (NameMap.mk entries))
      (Members.arrange_map sort kept m.entries).symm
  · intro e he
    simp only [Function.comp_apply, Quoted.decode_encode, h e (hperm.mem_iff.1 he),
      Option.bind_eq_bind, Option.bind_some]

theorem bool_arranged (value : Bool) :
    bool depth ((Json.bool value).arranged sort).document = some value := by
  cases sort <;> rfl

end Reader

/-! ## Records -/

namespace Record

variable {entries : List (String × Option Json)} {name : String}

/-- The members that are written for the entries of a record. -/
def layout (entries : List (String × Option Json)) : List (String × Json) :=
  entries.flatMap fun e => fieldIfSome e.1 id e.2

theorem mem_layout {value : Json} :
    (name, value) ∈ layout entries ↔ (name, some value) ∈ entries := by
  rw [layout, List.mem_flatMap]
  constructor
  · rintro ⟨⟨other, _ | kept⟩, he, hvalue⟩
    · cases hvalue
    · cases List.mem_singleton.1 hvalue
      exact he
  · exact fun h => ⟨_, h, List.mem_singleton_self _⟩

theorem sublist_layout (entries : List (String × Option Json)) :
    ((layout entries).map (·.1)).Sublist (entries.map (·.1)) := by
  induction entries with
  | nil => exact List.Sublist.slnil
  | cons e entries ih =>
    obtain ⟨name, _ | value⟩ := e
    · exact ih.cons _
    · exact ih.cons_cons _

/-- What is found under a name is what is written under it. -/
theorem findEntry_layout (h : (entries.map (·.1)).Nodup) {value : Option Json}
    (hmem : (name, value) ∈ entries) : findEntry name (layout entries) = value := by
  have hentries : NameMap.Distinct ⟨entries⟩ := h
  have hlayout : NameMap.Distinct ⟨layout entries⟩ := h.sublist (sublist_layout entries)
  refine Option.ext fun v => ⟨fun hv => ?_, fun hv => ?_⟩
  · have hfound := mem_layout.1 (NameMap.mem_of_get? (m := ⟨layout entries⟩) hv)
    exact Option.some.inj ((hentries.get?_of_mem hmem).symm.trans (hentries.get?_of_mem hfound))
  · subst hv
    exact hlayout.get?_of_mem (mem_layout.2 hmem)

/-- The entries of a record are what is found under their names, as it is arranged, and may be
    nested so deep. -/
structure Shows (r : Record) (sort : Bool) (depth : Nat) (entries : List (String × Option Json)) :
    Prop where
  depth_eq : r.depth = depth
  find? : ∀ {name : String} {value : Option Json}, (name, value) ∈ entries →
    r.find? name = value.map fun v => (v.arranged sort).document

/-- The object of some members is read as those of them whose names are known. -/
theorem known_memberDocuments (names : List String) (members : List (String × Json)) :
    known names (Json.memberDocuments members) =
      some ((members.filter (·.1 ∈ names)).map fun e => (e.1, e.2.document)) := by
  induction members with
  | nil => rfl
  | cons e members ih =>
    simp only [Json.memberDocuments, known, Quoted.decode_encode, ih, Option.bind_eq_bind,
      Option.bind_some, List.filter_cons, decide_eq_true_eq]
    split <;> rfl

theorem findEntry_filter_known {names : List String} (h : name ∈ names)
    (members : List (String × Json)) :
    findEntry name (members.filter (·.1 ∈ names)) = findEntry name members := by
  induction members with
  | nil => rfl
  | cons e members ih =>
    rw [List.filter_cons]
    split
    · rw [findEntry, findEntry, ih]
    · next hunknown =>
      have hne : name ≠ e.1 := by
        rintro rfl
        exact hunknown (decide_eq_true h)
      rw [findEntry, if_neg hne, ih]

/-- The object of the entries of a record, however arranged, is read as a record that shows them. -/
theorem exists_shows (h : (entries.map (·.1)).Nodup) {names : List String}
    (hnames : ∀ e ∈ entries, e.1 ∈ names) (sort : Bool) (depth : Nat) :
    ∃ r, ofMembers? names depth
        (Json.memberDocuments (Json.arrangedMembers sort (layout entries))) = some r ∧
      r.Shows sort depth entries := by
  set members := (layout entries).map fun e => (e.1, e.2.arranged sort) with hmembers
  have hnodup : (members.map (·.1)).Nodup := by
    rw [hmembers, List.map_map]
    exact h.sublist (sublist_layout entries)
  have hperm := Members.perm_arrange sort hnodup
  have hnodup' : ((Members.arrange sort members).map (·.1)).Nodup :=
    (hperm.map _).nodup_iff.2 hnodup
  have hfields : (((Members.arrange sort members).filter (·.1 ∈ names)).map
      fun e => (e.1, e.2.document)).map (·.1) =
        ((Members.arrange sort members).filter (·.1 ∈ names)).map (·.1) := by
    rw [List.map_map]
    rfl
  rw [Json.arrangedMembers, ← hmembers, ofMembers?, known_memberDocuments, Option.bind_eq_bind,
    Option.bind_some, hfields,
    if_pos (hnodup'.sublist (List.filter_sublist.map _))]
  refine ⟨_, rfl, rfl, fun {name value} hmem => ?_⟩
  rw [Record.find?, NameMap.findEntry_map, findEntry_filter_known (hnames _ hmem),
    NameMap.findEntry_of_perm hnodup' hperm, hmembers, NameMap.findEntry_map,
    findEntry_layout h hmem, Option.map_map]
  rfl

/-- So it is of a record that may also be given as a list. -/
theorem fields?_arranged {names : List String} (hnames : entries.map (·.1) = names)
    (h : names.Nodup) (sort : Bool) (depth : Nat) :
    ∃ r,
      fields? names (depth + 1) ((Json.object (layout entries)).arranged sort).document = some r ∧
      r.Shows sort depth entries := by
  subst hnames
  rw [Json.arranged_object]
  exact exists_shows h (fun e he => List.mem_map_of_mem he) sort depth

/-- A text that is written unless it is empty. -/
def unlessEmpty (text : String) : Option Json := if text = "" then none else some (.string text)

/-- Texts that are written unless there are none. -/
def unlessNone (texts : List String) : Option Json :=
  if texts = [] then none else some (strings texts)

/-- A truth value that is written if it is true. -/
def ifTrue (value : Bool) : Option Json := if value then some (.bool true) else none

theorem layout_append (entries more : List (String × Option Json)) :
    layout (entries ++ more) = layout entries ++ layout more := List.flatMap_append

theorem unlessEmpty_eq_some {text : String} {value : Json} (h : unlessEmpty text = some value) :
    value = .string text := by
  rw [unlessEmpty] at h
  split at h
  · cases h
  · exact (Option.some.inj h).symm

theorem ifTrue_eq_some {flag : Bool} {value : Json} (h : ifTrue flag = some value) :
    value = .bool true := by
  cases flag with
  | false => cases h
  | true => exact (Option.some.inj h).symm

theorem layout_nil : layout [] = [] := rfl

theorem layout_cons (name : String) (value : Option Json) (entries : List (String × Option Json)) :
    layout ((name, value) :: entries) = fieldIfSome name id value ++ layout entries := rfl

theorem fieldIfSome_unlessEmpty (name text : String) :
    fieldIfSome name id (unlessEmpty text) = fieldUnlessEmpty name text := by
  rw [fieldUnlessEmpty, unlessEmpty]
  split <;> rfl

theorem fieldIfSome_unlessNone (name : String) (texts : List String) :
    fieldIfSome name id (unlessNone texts) =
      if texts = [] then [] else field name (strings texts) := by
  rw [unlessNone]
  split <;> rfl

theorem fieldIfSome_ifTrue (name : String) (value : Bool) :
    fieldIfSome name id (ifTrue value) = fieldIfTrue name value := by
  cases value <;> rfl

theorem fieldIfSome_map {α : Type} (name : String) (write : α → Json) (value : Option α) :
    fieldIfSome name id (value.map write) = fieldIfSome name write value := by
  cases value <;> rfl

namespace Shows

variable {α β : Type} {r : Record} {sort : Bool} {depth : Nat} {name : String}
  (hr : r.Shows sort depth entries)
include hr

/-- A field that is written is read. -/
theorem required {value : Json} (h : (name, some value) ∈ entries) {read : Reader α} {x : α}
    (hread : read depth (value.arranged sort).document = some x) :
    r.required name read = some x := by
  rw [Record.required, hr.find? h, hr.depth_eq]
  exact hread

theorem withDefault {value : Json} (h : (name, some value) ∈ entries) {read : Reader α} {x : α}
    (hread : read depth (value.arranged sort).document = some x) (default : α) :
    r.withDefault name default read = some x := by
  rw [Record.withDefault, hr.find? h, hr.depth_eq]
  exact hread

/-- A field that is written only if it differs from its default is read. -/
theorem withDefault_unlessEmpty {text : String} (h : (name, unlessEmpty text) ∈ entries) :
    r.withDefault name "" Reader.string = some text := by
  by_cases hempty : text = ""
  · rw [Record.withDefault, hr.find? h, unlessEmpty, if_pos hempty, hempty]
    rfl
  · rw [unlessEmpty, if_neg hempty] at h
    exact hr.withDefault h (Reader.string_arranged text) _

theorem withDefault_unlessNone {texts : List String} (h : (name, unlessNone texts) ∈ entries)
    (hdepth : 0 < depth) : r.withDefault name [] (Reader.list Reader.string) = some texts := by
  obtain ⟨depth, rfl⟩ := Nat.exists_eq_succ_of_ne_zero (Nat.ne_of_gt hdepth)
  by_cases hnone : texts = []
  · rw [Record.withDefault, hr.find? h, unlessNone, if_pos hnone, hnone]
    rfl
  · rw [unlessNone, if_neg hnone] at h
    exact hr.withDefault h (Reader.strings_arranged texts) _

theorem withDefault_strings {texts : List String} (h : (name, some (strings texts)) ∈ entries)
    (hdepth : 0 < depth) (default : List String) :
    r.withDefault name default (Reader.list Reader.string) = some texts := by
  obtain ⟨depth, rfl⟩ := Nat.exists_eq_succ_of_ne_zero (Nat.ne_of_gt hdepth)
  exact hr.withDefault h (Reader.strings_arranged texts) default

theorem withDefault_named {read : Reader β} {write : α → Json} {kept : α → β} {m : NameMap α}
    (h : (name, some (named write m)) ∈ entries) (hm : m.Distinct)
    (hle : (named write m).nesting ≤ depth)
    (hread : ∀ e ∈ m.entries, ∀ limit, (write e.2).nesting ≤ limit →
      read limit ((write e.2).arranged sort).document = some (kept e.2)) (default : NameMap β) :
    r.withDefault name default (Reader.named read) = some ((m.map kept).arrange sort) :=
  hr.withDefault h (Reader.named_arranged hm hle hread) default

theorem withDefault_ifTrue {value : Bool} (h : (name, ifTrue value) ∈ entries) :
    r.withDefault name false Reader.bool = some value := by
  cases value with
  | false =>
    rw [Record.withDefault, hr.find? h]
    rfl
  | true => exact hr.withDefault h (Reader.bool_arranged true) _

/-- An optional field is read as far as what is written for it is not null. -/
theorem optional_bind {value : Option β} {write : β → Json} (h : (name, value.map write) ∈ entries)
    {read : Reader α} {kept : β → Option α}
    (hread : ∀ x ∈ value, ((write x).arranged sort).document = .null ∧ kept x = none ∨
      ((write x).arranged sort).document ≠ .null ∧
        ∃ y, kept x = some y ∧ read depth ((write x).arranged sort).document = some y) :
    r.optional name read = some (value.bind kept) := by
  rw [Record.optional, hr.find? h, hr.depth_eq]
  cases value with
  | none => rfl
  | some x =>
    obtain ⟨hnull, hnone⟩ | ⟨hne, y, hsome, hy⟩ := hread x rfl
    · simp only [Option.map_some, hnull, Option.bind_some, hnone]
    · simp only [Option.map_some, Option.bind_some, hsome, hy]

/-- An optional field that is sometimes written as null is read where it is not. -/
theorem optional_filter {value : Option β} {write : β → Json}
    (h : (name, value.map write) ∈ entries) {read : Reader β} {keep : β → Bool}
    (hnull : ∀ x ∈ value, keep x = false → ((write x).arranged sort).document = .null)
    (hread : ∀ x ∈ value, keep x = true → ((write x).arranged sort).document ≠ .null ∧
      read depth ((write x).arranged sort).document = some x) :
    r.optional name read = some (value.filter keep) := by
  have hbind : r.optional name read =
      some (value.bind fun x => if keep x then some x else none) := by
    refine hr.optional_bind h fun x hx => ?_
    cases hkeep : keep x with
    | false => exact .inl ⟨hnull x hx hkeep, rfl⟩
    | true => exact .inr ⟨(hread x hx hkeep).1, x, rfl, (hread x hx hkeep).2⟩
  rw [hbind]
  cases value <;> rfl

/-- An optional field that is never written as null is read. -/
theorem optional {value : Option β} {write : β → Json} (h : (name, value.map write) ∈ entries)
    {read : Reader α} {kept : β → α}
    (hread : ∀ x ∈ value, ((write x).arranged sort).document ≠ .null ∧
      read depth ((write x).arranged sort).document = some (kept x)) :
    r.optional name read = some (value.map kept) := by
  have hbind : r.optional name read = some (value.bind fun x => some (kept x)) :=
    hr.optional_bind h fun x hx => .inr ⟨(hread x hx).1, kept x, rfl, (hread x hx).2⟩
  rw [hbind]
  cases value <;> rfl

theorem optional_string {value : Option String} (h : (name, value.map .string) ∈ entries) :
    r.optional name Reader.string = some value := by
  have hread : r.optional name Reader.string = some (value.map id) := hr.optional h fun text _ =>
    ⟨by cases sort <;> exact nofun, Reader.string_arranged text⟩
  rw [hread, Option.map_id]
  rfl

end Shows

end Record

end WebOfThings
