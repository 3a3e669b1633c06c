import WebOfThings.Proofs.Recovery

/-!
# A store comes back as it was

A store and the descriptions that it refers to change step by step (`ThingStore.Step`): somebody
shares a description, or changes one that is shared, and the store has one put in or taken out, or
is loaded. None of this gives a thing another identifier, so the store stays orderly
(`Reached.orderly`), and an orderly store is known by what it describes (`Orderly.ids_eq`,
`Orderly.documents_eq`).

* `Reached.restored`: a store that is saved, and loaded where nothing was before, is the same store
  if each of its documents reads back as itself, and saving it again changes no byte of the file.
-/

namespace WebOfThings

namespace Disk

variable {d d' : Disk} {p : Path} {content : Bytes}

theorem put_put (d : Disk) (l : Location) (n : Node) : (d.put l n).put l n = d.put l n := by
  simp [put, List.filter_filter]

/-- What was written once may be written again, and changes nothing. -/
theorem write?_again (h : d.write? p content = .ok d') : d'.write? p content = .ok d' := by
  obtain ⟨l, hl, hroot, hdirectory, hfree, rfl⟩ := write?_eq_ok_iff.1 h
  have hfile : (d.put l (.file content)).node? l ≠ some .directory := by
    simp [node?_put d l _ hroot]
  have hparent : (d.put l (.file content)).node? l.dropLast = some .directory := by
    by_cases hparent : l.dropLast = []
    · rw [hparent, node?, if_pos rfl]
    · have hne : l.dropLast ≠ l := fun he => hfree (he ▸ hdirectory)
      rw [node?_put d l _ hparent, if_neg hne, hdirectory]
  exact write?_eq_ok_iff.2
    ⟨l, walk_put hfree _ hl, hroot, hparent, hfile, (put_put d l _).symm⟩

end Disk

/-! ## Changes of shared descriptions -/

namespace ThingDescription

/-- A change of a description by one who refers to it. -/
inductive Edit
  /-- A property is declared, or declared anew. -/
  | property (name : String) (p : Property)
  /-- An event is declared, or declared anew. -/
  | event (name : String) (e : Event)
  /-- An action is declared, or declared anew. -/
  | action (name : String) (a : Action)
  /-- What people read about the thing is changed. -/
  | retitle (title description : String)

/-- Makes a change. -/
def Edit.apply (now : Timestamp) : Edit → ThingDescription → ThingDescription
  | .property name p => setProperty now name p
  | .event name e => setEvent now name e
  | .action name a => setAction now name a
  | .retitle title description => setTitle now title description

/-- No change gives a thing another identifier. -/
@[simp] theorem Edit.id_apply (now : Timestamp) (e : Edit) (d : ThingDescription) :
    (e.apply now d).id = d.id := by
  cases e <;> rfl

/-- What is written for a description has the identifier of its thing. -/
theorem get?_id_toJson (d : ThingDescription) : d.toJson.get? "id" = some (.string d.id) := rfl

end ThingDescription

/-! ## Steps of a store -/

namespace ThingStore

variable {catalogue catalogue' : Catalogue} {s s' : ThingStore} {disk disk' : Disk} {path : Path}

/-- A step of a store and the shared descriptions. -/
inductive Step : Catalogue → ThingStore → Catalogue → ThingStore → Prop
  /-- A description is shared. -/
  | share {catalogue : Catalogue} {s : ThingStore} (d : ThingDescription) :
      Step catalogue s (catalogue.add d) s
  /-- A shared description is changed. -/
  | edit {catalogue : Catalogue} {s : ThingStore} (i : DescriptionRef) (now : Timestamp)
      (e : ThingDescription.Edit) : Step catalogue s (catalogue.update i (e.apply now)) s
  /-- A shared description is put in, or replaces the one of the same thing. -/
  | add {catalogue : Catalogue} {s : ThingStore} (i : DescriptionRef) :
      Step catalogue s catalogue (s.add catalogue i)
  /-- The description of a thing is taken out. -/
  | remove {catalogue : Catalogue} {s : ThingStore} (id : String) :
      Step catalogue s catalogue (s.remove id)
  /-- The cache file is loaded, whatever there is on the disk. -/
  | load {catalogue : Catalogue} {s : ThingStore} (disk : Disk) :
      Step catalogue s (s.load disk catalogue).2.1 (s.load disk catalogue).2.2

/-- A store comes to be with a catalogue: it begins without things, and goes on step by step. -/
inductive Reached : Catalogue → ThingStore → Prop
  | new (catalogue : Catalogue) (account : String) (cacheFile : Option Path) :
      Reached catalogue { account, cacheFile }
  | step {catalogue catalogue' : Catalogue} {s s' : ThingStore} :
      Reached catalogue s → Step catalogue s catalogue' s' → Reached catalogue' s'

/-- A step keeps a store orderly. -/
theorem Step.orderly (hstep : Step catalogue s catalogue' s') (h : s.Orderly catalogue) :
    s'.Orderly catalogue' := by
  cases hstep with
  | share d =>
    refine ⟨h.sorted, fun e he => ?_⟩
    obtain ⟨d', hd', hid⟩ := h.described e he
    exact ⟨d', Table.get?_add_of_get? hd' d, hid⟩
  | edit i now e => exact h.update i (e.id_apply now)
  | add i => exact h.add i
  | remove id => exact h.remove id
  | load disk => exact h.load disk

/-- So a store is orderly, whatever steps it came to be by. -/
theorem Reached.orderly (reached : Reached catalogue s) : s.Orderly catalogue := by
  induction reached with
  | new catalogue account cacheFile => exact .of_empty rfl
  | step _ hstep ih => exact hstep.orderly ih

/-! ## Stores that describe the same -/

/-- The identifiers of an orderly store are strictly increasing. -/
theorem Orderly.pairwise_ids (h : s.Orderly catalogue) : s.ids.Pairwise (· < ·) :=
  List.pairwise_map.2 h.sorted

/-- The documents of an orderly store are what it describes its things by. -/
theorem Orderly.documents_eq (h : s.Orderly catalogue) :
    s.documents catalogue = s.ids.filterMap (s.described? catalogue) := by
  rw [documents, ids, List.filterMap_map]
  refine List.filterMap_congr fun e he => ?_
  have hget : s.get? e.1 = some e.2 := Members.get?_eq_some_of_mem h.sorted.nodup he
  rw [Function.comp_apply, described?, hget, Option.bind_some]

section

variable (h : s.Orderly catalogue) (h' : s'.Orderly catalogue')
  (hsame : ∀ id, s'.described? catalogue' id = s.described? catalogue id)
include h h' hsame

theorem Orderly.ids_eq : s'.ids = s.ids :=
  h'.pairwise_ids.eq_of_mem_iff h.pairwise_ids fun id => by
    rw [h'.mem_ids_iff, h.mem_ids_iff, hsame]

theorem Orderly.documents_eq_of_same : s'.documents catalogue' = s.documents catalogue := by
  rw [h'.documents_eq, h.documents_eq, h.ids_eq h' hsame, funext hsame]

end

/-! ## Saving and loading -/

/-- A store with a cache file that is saved has written its documents there. -/
theorem write?_of_save (hfile : s.cacheFile = some path)
    (hsave : s.save disk catalogue = (.done, disk')) :
    disk.write? path (encode (s.documents catalogue)) = .ok disk' := by
  rw [save, hfile] at hsave
  dsimp only at hsave
  split at hsave
  · next hwrite =>
    obtain ⟨-, rfl⟩ := Prod.mk.inj hsave
    exact hwrite
  · cases (Prod.mk.inj hsave).1

/-- A store without things is loaded from the file that the documents of an orderly store were
    written to. It describes the same, if each of the documents reads back as itself. -/
theorem Orderly.load_encode (h : s.Orderly catalogue)
    (hrecovers : ∀ d ∈ s.documents catalogue, d.Recovers)
    (hfind : disk.find? path = some (.file (encode (s.documents catalogue))))
    (fresh : ThingStore) (hempty : fresh.things = []) (hfile : fresh.cacheFile = some path)
    (shared : Catalogue) :
    ∃ catalogue' s', fresh.load disk shared = (.done, catalogue', s') ∧
      s'.cacheFile = some path ∧ s'.Orderly catalogue' ∧
      ∀ id, s'.described? catalogue' id = s.described? catalogue id := by
  have hfresh : fresh.Orderly shared := .of_empty hempty
  have hsame (id : String) : (fresh.addAll (s.documents catalogue) shared).2.described?
      (fresh.addAll (s.documents catalogue) shared).1 id = s.described? catalogue id := by
    -- nothing was described before, so all that is described now was listed
    have hnone : fresh.described? shared id = none := by
      rw [described?, get?, hempty]
      rfl
    rw [hfresh.described?_addAll, hnone, Option.or_none, h.described?_eq]
  exact ⟨_, _, load_of_find? hfile hfind (decode_encode hrecovers),
    (cacheFile_addAll ..).trans hfile, hfresh.addAll _, hsame⟩

/-- A store came to be by any steps. Then every thing in it has a description of its own identifier,
    which is also the one that is written, and the identifiers are strictly increasing. Saving it,
    which changes nothing but the disk, writes its documents in that order. If each of them reads
    back as itself, a store without things that is loaded from the file, next to whatever is shared
    there, has the same identifiers and documents, and saving it leaves every byte as it is. -/
theorem Reached.restored (reached : Reached catalogue s) :
    (∀ e ∈ s.things, ∃ d, catalogue.get? e.2 = some d ∧ d.id = e.1 ∧
      d.toJson.get? "id" = some (.string e.1)) ∧
    (s.ids.Pairwise (· < ·) ∧ s.ids.length = s.size ∧
      (s.documents catalogue).map (·.id) = s.ids) ∧
    ∀ path disk disk', s.cacheFile = some path → s.save disk catalogue = (.done, disk') →
      disk'.find? path = some (.file (encode (s.documents catalogue))) ∧
      ((∀ d ∈ s.documents catalogue, d.Recovers) →
        ∀ fresh : ThingStore, fresh.things = [] → fresh.cacheFile = some path → ∀ shared,
          ∃ catalogue' s', fresh.load disk' shared = (.done, catalogue', s') ∧
            s'.ids = s.ids ∧ s'.documents catalogue' = s.documents catalogue ∧
            (∀ id, s'.described? catalogue' id = s.described? catalogue id) ∧
            s'.save disk' catalogue' = (.done, disk')) := by
  have horderly := reached.orderly
  refine ⟨fun e he => ?_, ⟨horderly.pairwise_ids, List.length_map _, horderly.map_id_documents⟩,
    fun path disk disk' hfile hsave => ?_⟩
  · obtain ⟨d, hd, hid⟩ := horderly.described e he
    exact ⟨d, hd, hid, hid ▸ d.get?_id_toJson⟩
  have hwrite := write?_of_save hfile hsave
  have hfind := Disk.find?_of_write? hwrite
  refine ⟨hfind, fun hrecovers fresh hempty hfresh shared => ?_⟩
  obtain ⟨catalogue', s', hload, hfile', horderly', hsame⟩ :=
    horderly.load_encode hrecovers hfind fresh hempty hfresh shared
  have hdocuments := horderly.documents_eq_of_same horderly' hsame
  refine ⟨catalogue', s', hload, horderly.ids_eq horderly' hsame, hdocuments, hsame,
    save_of_write? hfile' ?_⟩
  rw [hdocuments]
  exact Disk.write?_again hwrite

/-- What is shared: the lamp, which was given a title, and a gauge whose level is not negative. -/
def sharedPair : Catalogue :=
  ⟨[ThingDescription.lamp.setTitle "12:00" "Lamp" "", .gauge { minimum := some (.zero false) }]⟩

/-- A store of the two. -/
def pair : ThingStore :=
  { account := "", things := [("gauge", 1), ("lamp", 0)], cacheFile := some ".json" }

/-- The lamp is put in before the gauge, and is given its title at the end. -/
theorem reached_pair : Reached sharedPair pair := by
  have hlamp : Reached ⟨[.lamp]⟩ { account := "", cacheFile := some ".json" } :=
    .step (.new {} _ _) (.share .lamp)
  have hgauge : Reached ⟨[.lamp, .gauge { minimum := some (.zero false) }]⟩
      { account := "", things := [("lamp", 0)], cacheFile := some ".json" } :=
    .step (.step hlamp (.add 0)) (.share _)
  have hpair : Reached ⟨[.lamp, .gauge { minimum := some (.zero false) }]⟩ pair :=
    .step hgauge (.add 1)
  exact .step hpair (.edit 0 "12:00" (.retitle "Lamp" ""))

theorem recovers_pair : ∀ d ∈ pair.documents sharedPair, d.Recovers := by
  have hgauge : (ThingDescription.gauge { minimum := some (.zero false) }).Recovers := by
    rw [ThingDescription.recovers_iff (by decide) (by decide) (by decide)
      (ThingDescription.legible_gauge ThingDescription.legible_zero) (by decide),
      ThingDescription.forall_mem_schemas_gauge]
    refine ⟨⟨nofun, ?_, nofun⟩, ⟨nofun, nofun, nofun⟩, ⟨nofun, nofun, nofun⟩⟩
    rintro x ⟨⟩
    rfl
  have hlamp : (ThingDescription.lamp.setTitle "12:00" "Lamp" "").Recovers :=
    ThingDescription.recovers_of_plain (by decide) (by decide) (by decide) (List.forall_mem_cons.2
      ⟨rfl, List.forall_mem_singleton.2 rfl⟩) (by decide)
  exact List.forall_mem_cons.2 ⟨hgauge, List.forall_mem_singleton.2 hlamp⟩

/-- The store of the lamp and the gauge is saved to an empty disk, and another one is loaded from
    there. -/
theorem restored_pair : ∃ disk' catalogue' s', pair.save {} sharedPair = (.done, disk') ∧
    load disk' {} { account := "", cacheFile := some ".json" } = (.done, catalogue', s') ∧
    s'.ids = ["gauge", "lamp"] ∧
    (s'.described? catalogue' "lamp").map (·.title) = some "Lamp" ∧
    s'.save disk' catalogue' = (.done, disk') := by
  have hsave : pair.save {} sharedPair = (.done, _) := rfl
  obtain ⟨-, -, hrestored⟩ := reached_pair.restored
  obtain ⟨-, hloads⟩ := hrestored ".json" {} _ rfl hsave
  obtain ⟨catalogue', s', hload, hids, -, hsame, hagain⟩ :=
    hloads recovers_pair { account := "", cacheFile := some ".json" } rfl rfl {}
  refine ⟨_, catalogue', s', hsave, hload, hids, ?_, hagain⟩
  rw [hsame]
  rfl

end ThingStore

end WebOfThings
