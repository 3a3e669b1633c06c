import WebOfThings.Proofs.Effects

/-!
# Extensions of a site

Whatever runs on a site extends it: it adds to the journal and the timeline, takes nothing back, and
leaves the descriptions of the things what they are (`Site.Extends`). That is so of each of the
small changes that handlers are made of (`keeps_grows`, `grows_changed`), and so of all that they do
(`relates_grows_calls`).
-/

namespace WebOfThings

/-- What a site has more in its journal and its timeline. Descriptions stay what they are. -/
structure Site.Extends (s s' : Site) (entries : List Entry) (moments : List Moment) : Prop where
  /-- What was noted. -/
  journal : s'.journal = entries ++ s.journal
  /-- What was put on the timeline. -/
  timeline : s'.timeline = moments ++ s.timeline
  /-- The shared descriptions are the same. -/
  catalogue : s'.catalogue = s.catalogue
  /-- The consumed things have the same descriptions. -/
  descriptions : ∀ i, (s'.consumed.get? i).map (·.description) =
    (s.consumed.get? i).map (·.description)

namespace Site.Extends

variable {s s' s'' : Site} {entries entries' : List Entry} {moments moments' : List Moment}

theorem refl (s : Site) : s.Extends s [] [] := ⟨rfl, rfl, rfl, fun _ => rfl⟩

theorem trans (h : s.Extends s' entries moments) (h' : s'.Extends s'' entries' moments') :
    s.Extends s'' (entries' ++ entries) (moments' ++ moments) :=
  ⟨by rw [h'.journal, h.journal, List.append_assoc],
    by rw [h'.timeline, h.timeline, List.append_assoc], h'.catalogue.trans h.catalogue,
    fun i => (h'.descriptions i).trans (h.descriptions i)⟩

end Site.Extends

/-- A site has more in its journal and its timeline. -/
def Site.Grows (s s' : Site) : Prop := ∃ entries moments, s.Extends s' entries moments

theorem Site.composes_grows : Run.Composes Site.Grows where
  refl s := ⟨[], [], .refl s⟩
  trans := fun ⟨_, _, h⟩ ⟨_, _, h'⟩ => ⟨_, _, h.trans h'⟩

namespace Run

theorem descriptions_update {s : Site} (i : ConsumedRef)
    {change : ConsumedThing → ConsumedThing}
    (hd : ∀ c, (change c).description = c.description) (k : ConsumedRef) :
    ((s.consumed.update i change).get? k).map (·.description) =
      (s.consumed.get? k).map (·.description) :=
  Table.map_get?_update hd s.consumed i k

theorem keeps_grows : Keeps Site.Grows where
  toComposes := Site.composes_grows
  note _ e := ⟨[e], [], rfl, rfl, rfl, fun _ => rfl⟩
  mark _ m := ⟨[], [m], rfl, rfl, rfl, fun _ => rfl⟩
  publish _ _ := ⟨[], [], rfl, rfl, rfl, fun _ => rfl⟩
  exposed _ _ _ _ := ⟨[], [], rfl, rfl, rfl, fun _ => rfl⟩
  consumed _ i _ hc := ⟨[], [], rfl, rfl, rfl, descriptions_update i fun c => (hc c).description⟩

theorem grows_drop (role : Role) (id : String) (s : Site) : s.Grows (role.drop id s) := by
  refine ⟨[], [], ?_⟩
  unfold Role.drop
  cases role <;> split <;> exact ⟨rfl, rfl, rfl, fun _ => rfl⟩

theorem relates_grows_dismiss (i : ConsumedRef) : Relates Site.Grows (dismiss i) := by
  intro s u s' h
  change (Role.consumed.destroy i).run s = some (u, s') at h
  obtain ⟨id, hid⟩ := Role.exists_id?_of_run_destroy h
  rw [Role.eq_of_run_destroy hid h]
  exact Site.composes_grows.trans (grows_drop .consumed id s)
    (keeps_grows.consumed _ i (·.stop) fun _ => ⟨rfl, rfl, rfl⟩)

theorem grows_changed (o : Occasion) (a : Act) (s : Site) : s.Grows (a.changed o s) :=
  keeps_grows.changed (fun _ _ _ _ _ => ⟨[], [], rfl, rfl, rfl, fun _ => rfl⟩)
    (fun _ _ _ => ⟨[], [], rfl, rfl, rfl, fun _ => rfl⟩)
    (fun _ _ => ⟨[], [], rfl, rfl, rfl, fun _ => rfl⟩) fun _ id _ _ => grows_drop .consumed id s

/-- Calling a handler adds to the journal and to the timeline. -/
theorem relates_grows_calls (depth : Nat) (h : Handler) (o : Occasion) :
    Relates Site.Grows (calls depth h o) :=
  relates_calls keeps_grows grows_changed depth h o

end Run

end WebOfThings
