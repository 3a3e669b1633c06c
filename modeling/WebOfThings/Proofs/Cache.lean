import Mathlib
import WebOfThings.Proofs.Emission
import WebOfThings.Store.ThingStore

/-!
# What a cache file brings back

A store is orderly if its things are in the order of their identifiers, each under the identifier
that its description has (`ThingStore.Orderly`). What counts of it is which description a thing has
(`ThingStore.described?`). Descriptions that are added replace those of the same things, and of
those that are added the last one of a thing counts (`ThingStore.Orderly.described?_addAll`).

* `Disk.find?_of_write?`: what was written to a file is what is found there.
* `ThingStore.Orderly.rel_load_save`: so a store that is saved, and loaded again from its cache
  file, has equal descriptions of the same things, if what is written can be read back.
-/

namespace WebOfThings

namespace Disk

variable {d d' : Disk}

/-- What is put at a location is there, and everything else stays where it is. -/
theorem node?_put (d : Disk) (l : Location) (n : Node) {m : Location} (hm : m ≠ []) :
    (d.put l n).node? m = if m = l then some n else d.node? m := by
  simp only [node?, put, if_neg hm, List.find?_cons]
  by_cases hl : m = l
  · simp [hl]
  · simp only [decide_eq_false (Ne.symm hl), if_neg hl, List.find?_filter]
    congr 2
    ext e
    by_cases he : e.1 = m
    · simp [he, hl]
    · simp [he]

/-- Where names lead is not changed by putting something where no directory was: there was nothing
    to follow there. -/
theorem walk_put {l : Location} (hl : d.node? l ≠ some .directory) (n : Node) {names : List String}
    {m t : Location} (h : d.walk m names = some t) : (d.put l n).walk m names = some t := by
  induction names generalizing m with
  | nil => exact h
  | cons name names ih =>
    rw [walk] at h ⊢
    split at h
    · contradiction
    next hdirectory =>
    have hsame : (d.put l n).node? m = some .directory := by
      by_cases hroot : m = []
      · simp [node?, hroot]
      · have hne : m ≠ l := fun he => hl (he ▸ not_not.1 hdirectory)
        rw [node?_put d l n hroot, if_neg hne]
        exact not_not.1 hdirectory
    rw [if_neg (not_not.2 hsame)]
    split at h
    · next hup => rw [if_pos hup]; exact ih h
    · next hdown =>
      split at h
      · next hvalid => rw [if_neg hdown, if_pos hvalid]; exact ih h
      · contradiction

/-- A file is written by putting it where its path leads, if there is a directory around it and none
    in its place. -/
theorem write?_eq_ok_iff {p : Path} {content : Bytes} : d.write? p content = .ok d' ↔
    ∃ l, d.locate p = some l ∧ l ≠ [] ∧ d.node? l.dropLast = some .directory ∧
      d.node? l ≠ some .directory ∧ d' = d.put l (.file content) := by
  have hroot {l : Location} (hl : d.node? l ≠ some .directory) : l ≠ [] :=
    fun he => hl (by simp [node?, he])
  unfold write?
  cases d.locate p with
  | none => simp
  | some l =>
    dsimp only
    split
    · next hnodes =>
      constructor
      · rintro ⟨⟩
        exact ⟨l, rfl, hroot hnodes.2, hnodes.1, hnodes.2, rfl⟩
      · rintro ⟨_, ⟨⟩, -, -, -, rfl⟩
        rfl
    · next hnodes =>
      refine iff_of_false nofun ?_
      rintro ⟨_, ⟨⟩, -, hdirectory, hfree, -⟩
      exact hnodes ⟨hdirectory, hfree⟩

/-- A file that was written is there. -/
theorem find?_of_write? {p : Path} {content : Bytes} (h : d.write? p content = .ok d') :
    d'.find? p = some (.file content) := by
  obtain ⟨l, hl, hroot, -, hfree, rfl⟩ := write?_eq_ok_iff.1 h
  have hlocate : (d.put l (.file content)).locate p = some l := walk_put hfree _ hl
  rw [find?, hlocate, Option.bind_some, node?_put d l _ hroot, if_pos rfl]

end Disk

namespace Members

variable {α : Type} {name : String}

/-- A member that is added is found, and every other name keeps its value. -/
theorem get?_insert (name other : String) (value : α) (members : Members α) :
    get? other (insert name value members) =
      if other = name then some value else get? other members := by
  induction members with
  | nil => rfl
  | cons e members ih =>
    rw [insert]
    split
    · next he =>
      subst he
      by_cases ho : other = e.1 <;> simp [get?, ho]
    split
    · rfl
    · next hne _ =>
      by_cases ho : other = e.1
      · simp [get?, ho, Ne.symm hne]
      · simpa [get?, ho] using ih

end Members

/-! ## Lists of descriptions -/

namespace ThingDescription

variable {ds es : List ThingDescription} {d e : ThingDescription} {id : String}

/-- The last description of a thing in a list. -/
def last? (id : String) (ds : List ThingDescription) : Option ThingDescription :=
  ds.reverse.find? (·.id = id)

theorem last?_cons (d : ThingDescription) (ds : List ThingDescription) (id : String) :
    last? id (d :: ds) = (last? id ds).or (if d.id = id then some d else none) := by
  rw [last?, List.reverse_cons, List.find?_append]
  by_cases h : d.id = id <;> simp [last?, h]

theorem mem_of_last? (h : last? id ds = some d) : d ∈ ds ∧ d.id = id :=
  ⟨List.mem_reverse.1 (List.mem_of_find?_eq_some h), by simpa using List.find?_some h⟩

theorem last?_eq_none_iff : last? id ds = none ↔ ∀ d ∈ ds, d.id ≠ id := by
  simp [last?]

theorem isSome_last?_iff : (last? id ds).isSome = true ↔ ∃ d ∈ ds, d.id = id := by
  simp [last?]

/-- Where no thing has two descriptions, each is the last one of its thing. -/
theorem last?_of_mem (h : (ds.map (·.id)).Nodup) (hd : d ∈ ds) : last? d.id ds = some d := by
  cases hlast : last? d.id ds with
  | none => exact absurd rfl (last?_eq_none_iff.1 hlast d hd)
  | some e =>
    obtain ⟨he, hid⟩ := mem_of_last? hlast
    rw [List.inj_on_of_nodup_map h he hd hid]

/-- Equal descriptions are of the same thing. -/
theorem id_eq_of_same (h : d.same e = true) : d.id = e.id := by
  simp only [same, Bool.and_eq_true, decide_eq_true_eq] at h
  tauto

/-- In lists of equal descriptions, the last ones of a thing are equal. -/
theorem rel_last? (h : List.Forall₂ (fun d e => d.same e = true) ds es) (id : String) :
    Option.Rel (fun d e => d.same e = true) (last? id ds) (last? id es) := by
  induction h with
  | nil => exact .none
  | @cons d e ds es hsame _ ih =>
    rw [last?_cons, last?_cons, id_eq_of_same hsame]
    generalize last? id ds = l at ih ⊢
    generalize last? id es = l' at ih ⊢
    cases ih with
    | some hlast => exact .some hlast
    | none =>
      rw [Option.none_or, Option.none_or]
      split
      · exact .some hsame
      · exact .none

end ThingDescription

/-! ## Stores -/

namespace ThingStore

variable {catalogue : Catalogue} {s : ThingStore} {id : String}

/-- The description of a thing, as it is at the moment. -/
def described? (catalogue : Catalogue) (s : ThingStore) (id : String) : Option ThingDescription :=
  (s.get? id).bind catalogue.get?

/-- The things of a store are in the order of their identifiers, each under that of its
    description. -/
structure Orderly (catalogue : Catalogue) (s : ThingStore) : Prop where
  /-- They are in order. -/
  sorted : s.things.Sorted
  /-- Each has a description, with its identifier. -/
  described : ∀ e ∈ s.things, ∃ d, catalogue.get? e.2 = some d ∧ d.id = e.1

/-- A store without things is orderly. -/
theorem Orderly.of_empty (h : s.things = []) : s.Orderly catalogue :=
  ⟨h ▸ .nil, by simp [h]⟩

/-- The things are those that have a description. -/
theorem Orderly.mem_ids_iff (h : s.Orderly catalogue) :
    id ∈ s.ids ↔ (s.described? catalogue id).isSome = true := by
  constructor
  · intro hid
    obtain ⟨e, he, rfl⟩ := List.mem_map.1 hid
    obtain ⟨d, hd, -⟩ := h.described e he
    have hget := Members.get?_eq_some_of_mem h.sorted.nodup (show (e.1, e.2) ∈ s.things from he)
    simp [described?, get?, hget, hd]
  · intro hid
    obtain ⟨d, hd⟩ := Option.isSome_iff_exists.1 hid
    obtain ⟨i, hi, -⟩ := Option.bind_eq_some_iff.1 hd
    exact List.mem_map.2 ⟨(id, i), Members.mem_of_get? hi, rfl⟩

/-- The documents of a store are in the order of its things. -/
theorem Orderly.map_id_documents (h : s.Orderly catalogue) :
    (s.documents catalogue).map (·.id) = s.ids := by
  rw [documents, List.map_filterMap, ids, ← List.filterMap_eq_map]
  refine List.filterMap_congr fun e he => ?_
  obtain ⟨d, hd, hid⟩ := h.described e he
  simp [hd, hid]

/-- No thing has two of them. -/
theorem Orderly.nodup_documents (h : s.Orderly catalogue) :
    ((s.documents catalogue).map (·.id)).Nodup := by
  rw [h.map_id_documents]
  exact h.sorted.nodup

/-- The description of a thing is the one that is in the documents. -/
theorem Orderly.described?_eq (h : s.Orderly catalogue) (id : String) :
    s.described? catalogue id = ThingDescription.last? id (s.documents catalogue) := by
  cases hget : s.get? id with
  | none =>
    rw [described?, hget, Option.bind_none, eq_comm, ThingDescription.last?_eq_none_iff]
    intro d hd hid
    obtain ⟨e, he, hed⟩ := List.mem_filterMap.1 hd
    obtain ⟨d', hd', hid'⟩ := h.described e he
    obtain rfl := Option.some.inj (hed.symm.trans hd')
    have hsome := Members.get?_eq_some_of_mem h.sorted.nodup (show (e.1, e.2) ∈ s.things from he)
    simp [← hid', hid, show Members.get? id s.things = none from hget] at hsome
  | some i =>
    obtain ⟨d, hd, hid⟩ := h.described _ (Members.mem_of_get? hget)
    have hmem : d ∈ s.documents catalogue :=
      List.mem_filterMap.2 ⟨_, Members.mem_of_get? hget, hd⟩
    obtain rfl : d.id = id := hid
    rw [described?, hget, Option.bind_some, hd,
      ThingDescription.last?_of_mem h.nodup_documents hmem]

/-! ### Adding descriptions -/

/-- A store stays orderly if the description of a thing is put into it, -/
theorem Orderly.add (h : s.Orderly catalogue) (i : DescriptionRef) :
    (s.add catalogue i).Orderly catalogue := by
  unfold ThingStore.add
  split
  · next d hd =>
    refine ⟨h.sorted.insert d.id i, fun e he => ?_⟩
    rcases Members.mem_insert he with rfl | he
    · exact ⟨d, hd, rfl⟩
    · exact h.described e he
  · exact h

/-- if one is taken out, -/
theorem Orderly.remove (h : s.Orderly catalogue) (id : String) :
    (s.remove id).Orderly catalogue :=
  ⟨h.sorted.filter _, fun e he => h.described e (List.mem_filter.1 he).1⟩

/-- and if one is changed that remains one of the same thing. -/
theorem Orderly.update (h : s.Orderly catalogue) (i : DescriptionRef)
    {change : ThingDescription → ThingDescription} (hid : ∀ d, (change d).id = d.id) :
    s.Orderly (catalogue.update i change) := by
  refine ⟨h.sorted, fun e he => ?_⟩
  obtain ⟨d, hd, hde⟩ := h.described e he
  rw [Table.get?_update, hd]
  split
  · exact ⟨_, rfl, (hid d).trans hde⟩
  · exact ⟨d, rfl, hde⟩

theorem addAll_append (ds es : List ThingDescription) (catalogue : Catalogue) (s : ThingStore) :
    s.addAll (ds ++ es) catalogue = (s.addAll ds catalogue).2.addAll es (s.addAll ds catalogue).1 :=
  List.foldl_append

@[simp] theorem cacheFile_addAll (ds : List ThingDescription) (catalogue : Catalogue)
    (s : ThingStore) : (s.addAll ds catalogue).2.cacheFile = s.cacheFile := by
  induction ds generalizing catalogue s with
  | nil => rfl
  | cons d ds ih => exact ih _ _

/-- The store in which a new description is that of its thing. -/
def withNew (d : ThingDescription) (catalogue : Catalogue) (s : ThingStore) : ThingStore :=
  { s with things := Members.insert d.id catalogue.next s.things }

theorem addAll_cons (d : ThingDescription) (ds : List ThingDescription) (catalogue : Catalogue)
    (s : ThingStore) :
    s.addAll (d :: ds) catalogue = (s.withNew d catalogue).addAll ds (catalogue.add d) := rfl

theorem Orderly.withNew (h : s.Orderly catalogue) (d : ThingDescription) :
    (s.withNew d catalogue).Orderly (catalogue.add d) where
  sorted := h.sorted.insert d.id catalogue.next
  described e he := by
    rcases Members.mem_insert he with rfl | he
    · exact ⟨d, by simp [Table.get?_add], rfl⟩
    · obtain ⟨d', hd', hid⟩ := h.described e he
      exact ⟨d', Table.get?_add_of_get? hd' d, hid⟩

theorem Orderly.described?_withNew (h : s.Orderly catalogue) (d : ThingDescription) (id : String) :
    (s.withNew d catalogue).described? (catalogue.add d) id =
      if d.id = id then some d else s.described? catalogue id := by
  rw [described?, get?, ThingStore.withNew, Members.get?_insert]
  by_cases hid : d.id = id
  · simp [hid, Table.get?_add]
  · rw [if_neg (Ne.symm hid), if_neg hid, described?, get?]
    cases hget : Members.get? id s.things with
    | none => rfl
    | some i =>
      obtain ⟨d', hd', -⟩ := h.described _ (Members.mem_of_get? hget)
      rw [Option.bind_some, Option.bind_some, hd', Table.get?_add_of_get? hd']

section

variable (h : s.Orderly catalogue) (ds : List ThingDescription)
include h

/-- A store to which descriptions are added stays orderly. -/
theorem Orderly.addAll : (s.addAll ds catalogue).2.Orderly (s.addAll ds catalogue).1 := by
  induction ds generalizing catalogue s with
  | nil => exact h
  | cons d ds ih => exact ih (h.withNew d)

/-- The description of a thing is then the last one that was added, or the one that it had if there
    was none. -/
theorem Orderly.described?_addAll (id : String) :
    (s.addAll ds catalogue).2.described? (s.addAll ds catalogue).1 id =
      (ThingDescription.last? id ds).or (s.described? catalogue id) := by
  induction ds generalizing catalogue s with
  | nil => rfl
  | cons d ds ih =>
    rw [addAll_cons, ih (h.withNew d), h.described?_withNew, ThingDescription.last?_cons]
    cases ThingDescription.last? id ds with
    | some _ => rfl
    | none => by_cases hid : d.id = id <;> simp [hid]

end

/-! ### Saving and loading -/

variable {disk disk' : Disk} {path : Path}

theorem save_of_write? (hfile : s.cacheFile = some path)
    (hwrite : disk.write? path (encode (s.documents catalogue)) = .ok disk') :
    s.save disk catalogue = (.done, disk') := by
  rw [save, hfile]
  dsimp only
  rw [hwrite]

theorem load_of_find? {text : Bytes} {ds : List ThingDescription} (hfile : s.cacheFile = some path)
    (hfind : disk.find? path = some (.file text)) (hdecode : decode text = some ds) :
    s.load disk catalogue = (.done, s.addAll ds catalogue) := by
  have hcached : s.cached? disk = .ok (some ds) := by
    simp [cached?, hfile, Disk.read?, hfind, hdecode]
  rw [load, hcached]

@[simp] theorem cacheFile_load (disk : Disk) (catalogue : Catalogue) (s : ThingStore) :
    (s.load disk catalogue).2.2.cacheFile = s.cacheFile := by
  unfold load
  split
  · rfl
  · rfl
  · exact cacheFile_addAll _ _ _

/-- A store that is loaded stays orderly, whatever the file has. -/
theorem Orderly.load (h : s.Orderly catalogue) (disk : Disk) :
    (s.load disk catalogue).2.2.Orderly (s.load disk catalogue).2.1 := by
  unfold ThingStore.load
  split
  · exact h
  · exact h
  · exact h.addAll _

/-- The documents of a store can be written to a file, and what is written reads back as equal
    documents. -/
structure Cacheable (disk : Disk) (path : Path) (catalogue : Catalogue) (s : ThingStore) :
    Prop where
  /-- They can be written. -/
  writable : ∃ disk', disk.write? path (encode (s.documents catalogue)) = .ok disk'
  /-- They read back. -/
  readable : ∃ ds, decode (encode (s.documents catalogue)) = some ds ∧
    List.Forall₂ (fun d e => d.same e = true) (s.documents catalogue) ds

/-- A store is saved, and a store without things is loaded from the file. Then it has an equal
    description of each thing that the first one has, and no others. -/
theorem Orderly.rel_load_save (h : s.Orderly catalogue) (hfile : s.cacheFile = some path)
    (cacheable : s.Cacheable disk path catalogue) {fresh : ThingStore}
    (hfresh : fresh.cacheFile = some path) (hempty : fresh.things = []) :
    ∃ ds, fresh.load (s.save disk catalogue).2 catalogue = (.done, fresh.addAll ds catalogue) ∧
      ∀ id, Option.Rel (fun d e => d.same e = true) (s.described? catalogue id)
        ((fresh.addAll ds catalogue).2.described? (fresh.addAll ds catalogue).1 id) := by
  obtain ⟨disk', hwrite⟩ := cacheable.writable
  obtain ⟨ds, hdecode, hsame⟩ := cacheable.readable
  refine ⟨ds, ?_, fun id => ?_⟩
  · rw [save_of_write? hfile hwrite]
    exact load_of_find? hfresh (Disk.find?_of_write? hwrite) hdecode
  · have hnone : fresh.described? catalogue id = none := by
      rw [described?, get?, hempty]
      rfl
    rw [(Orderly.of_empty hempty).described?_addAll, hnone, Option.or_none, h.described?_eq]
    exact ThingDescription.rel_last? hsame id

end ThingStore

end WebOfThings
