/-!
# Tables

A table holds entries that refer to one another by number: an entry gets the next number when it
is added, and keeps it. A table is seen through `get?`; `get?_update` and `get?_add` say what the
operations do to it.
-/

namespace WebOfThings

/-- Entries by number. -/
structure Table (α : Type) where
  /-- The entries, in the order of their numbers. -/
  entries : List α := []
  deriving Repr, Inhabited

namespace Table

variable {α : Type}

/-- The entry of a number. -/
def get? (t : Table α) (i : Nat) : Option α := t.entries[i]?

/-- The number that the next entry gets. -/
def next (t : Table α) : Nat := t.entries.length

/-- Adds an entry. -/
def add (t : Table α) (entry : α) : Table α := ⟨t.entries ++ [entry]⟩

/-- Changes the entry of a number, if there is one. -/
def update (t : Table α) (i : Nat) (change : α → α) : Table α := ⟨t.entries.modify i change⟩

/-- Only the entry of the number given is changed. -/
theorem get?_update (t : Table α) (i j : Nat) (change : α → α) :
    (t.update i change).get? j = if i = j then (t.get? j).map change else t.get? j := by
  simp only [get?, update, List.getElem?_modify]
  split <;> simp

/-- What a change leaves of every entry is the same after it. -/
theorem map_get?_update {β : Type} {change : α → α} {f : α → β} (h : ∀ entry, f (change entry) =
    f entry) (t : Table α) (i j : Nat) :
    ((t.update i change).get? j).map f = (t.get? j).map f := by
  rw [get?_update]
  split
  · rw [Option.map_map, show f ∘ change = f from funext h]
  · rfl

/-- Where the entry is known, a change may be given by its result. -/
theorem update_const {t : Table α} {i : Nat} {entry : α} (h : t.get? i = some entry)
    (change : α → α) : (t.update i fun _ => change entry) = t.update i change := by
  simp only [get?, update] at h ⊢
  congr 1
  refine List.ext_getElem? fun n => ?_
  simp only [List.getElem?_modify]
  split
  · subst n; simp [h]
  · rfl

/-- A change that leaves the entry leaves the table. -/
theorem update_eq_self {t : Table α} {i : Nat} {entry : α} (h : t.get? i = some entry)
    {change : α → α} (hc : change entry = entry) : t.update i change = t := by
  simp only [get?, update] at h ⊢
  congr 1
  refine List.ext_getElem? fun n => ?_
  rw [List.getElem?_modify]
  split
  · subst n; simp [h, hc]
  · simp

/-- Two changes of one entry, one after another. -/
theorem update_update (t : Table α) (i : Nat) (change change' : α → α) :
    (t.update i change).update i change' = t.update i fun entry => change' (change entry) := by
  simp only [update, List.modify_modify_eq]
  rfl

/-- A new entry gets the next number, and all others keep theirs. -/
theorem get?_add (t : Table α) (entry : α) (j : Nat) :
    (t.add entry).get? j = if j = t.next then some entry else t.get? j := by
  simp only [get?, add, next]
  grind

/-- There is no entry of the next number yet. -/
theorem get?_next (t : Table α) : t.get? t.next = none := by simp [get?, next]

/-- An entry that is there keeps its number when a new one comes. -/
theorem get?_add_of_get? {t : Table α} {j : Nat} {entry : α} (h : t.get? j = some entry)
    (new : α) : (t.add new).get? j = some entry := by
  have hne : j ≠ t.next := by
    rintro rfl
    simp [get?_next] at h
  rw [get?_add, if_neg hne, h]

end Table

end WebOfThings
