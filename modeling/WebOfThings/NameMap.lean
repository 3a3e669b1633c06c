/-!
# Maps from names

A map from names to values that remembers in which order its names came. Putting a value under a
name it holds replaces the value and keeps the place of the name; a new name comes last.

A map is seen through `get?` and `names`. `get?_insert`, `get?_erase` and `names_insert` say what
the operations do to them, and `Distinct` is the invariant that they keep: no name comes twice.
-/

namespace WebOfThings

/-- Values under names, in the order in which the names came. -/
structure NameMap (α : Type) where
  /-- The names and their values. -/
  entries : List (String × α) := []
  deriving Repr, Inhabited

namespace NameMap

variable {α β : Type}

/-- The map that holds nothing. -/
def empty : NameMap α := {}

/-- Puts a value into a list of entries. -/
def insertEntry (name : String) (value : α) : List (String × α) → List (String × α)
  | [] => [(name, value)]
  | (other, kept) :: rest =>
    if name = other then (name, value) :: rest
    else (other, kept) :: insertEntry name value rest

/-- Puts a value under a name. -/
def insert (name : String) (value : α) (m : NameMap α) : NameMap α :=
  ⟨insertEntry name value m.entries⟩

/-- The first value under a name in a list of entries. -/
def findEntry (name : String) : List (String × α) → Option α
  | [] => none
  | (other, value) :: rest => if name = other then some value else findEntry name rest

/-- The value under a name. -/
def get? (name : String) (m : NameMap α) : Option α := findEntry name m.entries

/-- Takes a name and its value out. -/
def erase (name : String) (m : NameMap α) : NameMap α :=
  ⟨m.entries.filter fun entry => entry.1 ≠ name⟩

/-- Whether there is a value under a name. -/
def contains (name : String) (m : NameMap α) : Bool := (m.get? name).isSome

/-- The names, in order. -/
def names (m : NameMap α) : List String := m.entries.map (·.1)

/-- How many names there are. -/
def size (m : NameMap α) : Nat := m.entries.length

/-- Changes every value. -/
def map (f : α → β) (m : NameMap α) : NameMap β :=
  ⟨m.entries.map fun (name, value) => (name, f value)⟩

/-- The map that the entries of a list make, put in one after another. -/
def ofList (entries : List (String × α)) : NameMap α :=
  entries.foldl (fun m (name, value) => m.insert name value) empty

/-- No name comes twice. -/
def Distinct (m : NameMap α) : Prop := m.names.Nodup

instance (m : NameMap α) : Decidable m.Distinct := inferInstanceAs (Decidable (List.Nodup _))

@[simp] theorem get?_empty (name : String) : (empty : NameMap α).get? name = none := rfl

@[simp] theorem names_empty : (empty : NameMap α).names = [] := rfl

theorem findEntry_insertEntry (name other : String) (value : α) (l : List (String × α)) :
    findEntry other (insertEntry name value l) =
      if other = name then some value else findEntry other l := by
  induction l with
  | nil => simp [insertEntry, findEntry]
  | cons e l ih => grind [insertEntry, findEntry]

/-- After a value is put under a name it is there, and every other name keeps its own. -/
theorem get?_insert (m : NameMap α) (name other : String) (value : α) :
    (m.insert name value).get? other = if other = name then some value else m.get? other :=
  findEntry_insertEntry name other value m.entries

/-- After values of different names are put in one after another, each is there, and every other
    name keeps its own. -/
theorem get?_foldl_insert {name : β → String} {value : β → α} {l : List β}
    (h : (l.map name).Nodup) (m : NameMap α) (other : String) :
    (l.foldl (fun m entry => m.insert (name entry) (value entry)) m).get? other =
      ((l.find? (name · = other)).map value).or (m.get? other) := by
  induction l generalizing m with
  | nil => rfl
  | cons entry l ih =>
    rw [List.map_cons, List.nodup_cons] at h
    rw [List.foldl_cons, ih h.2, get?_insert]
    by_cases hn : other = name entry
    · subst hn
      -- no later entry has the name, so none replaces the value of this one
      have hnone : l.find? (name · = name entry) = none := by
        rw [List.find?_eq_none]
        exact fun e he heq => h.1 (List.mem_map.2 ⟨e, he, by simpa using heq⟩)
      simp [hnone]
    · simp [hn, Ne.symm hn]

theorem findEntry_filter_ne (name other : String) (l : List (String × α)) :
    findEntry other (l.filter fun entry => entry.1 ≠ name) =
      if other = name then none else findEntry other l := by
  induction l with
  | nil => simp [findEntry]
  | cons e l ih => grind [findEntry]

/-- After a name is taken out it is gone, and every other name keeps its value. -/
theorem get?_erase (m : NameMap α) (name other : String) :
    (m.erase name).get? other = if other = name then none else m.get? other :=
  findEntry_filter_ne name other m.entries

/-- What is found under a name is an entry. -/
theorem mem_of_get? {m : NameMap α} {name : String} {value : α} (h : m.get? name = some value) :
    (name, value) ∈ m.entries := by
  obtain ⟨l⟩ := m
  simp only [get?] at h
  induction l with
  | nil => simp [findEntry] at h
  | cons e l ih => grind [findEntry]

/-- Where no name comes twice, an entry is what is found under its name. -/
theorem Distinct.get?_of_mem {m : NameMap α} (h : m.Distinct) {name : String} {value : α}
    (hm : (name, value) ∈ m.entries) : m.get? name = some value := by
  obtain ⟨l⟩ := m
  unfold Distinct names at h
  simp only [get?] at h hm ⊢
  induction l with
  | nil => simp at hm
  | cons e l ih =>
    obtain ⟨hnew, hnodup⟩ := List.nodup_cons.1 h
    rcases List.mem_cons.1 hm with rfl | hm
    · simp [findEntry]
    · have hne : name ≠ e.1 := fun he => hnew (List.mem_map.2 ⟨_, hm, he⟩)
      simp [findEntry, hne, ih hnodup hm]

theorem mem_insertEntry {name : String} {value : α} {e : String × α} {l : List (String × α)}
    (h : e ∈ insertEntry name value l) : e = (name, value) ∨ e ∈ l := by
  induction l with
  | nil => simpa [insertEntry] using h
  | cons e l ih => grind [insertEntry]

/-- After a value is put in, an entry is that value under its name, or was there before. -/
theorem mem_insert {m : NameMap α} {name : String} {value : α} {e : String × α}
    (h : e ∈ (m.insert name value).entries) : e = (name, value) ∨ e ∈ m.entries :=
  mem_insertEntry h

theorem map_fst_insertEntry (name : String) (value : α) (l : List (String × α)) :
    (insertEntry name value l).map (·.1) =
      if name ∈ l.map (·.1) then l.map (·.1) else l.map (·.1) ++ [name] := by
  induction l with
  | nil => simp [insertEntry]
  | cons e l ih =>
    obtain ⟨m, v⟩ := e
    simp only [insertEntry]
    split
    · subst name; simp
    · next hne =>
      simp only [List.map_cons, ih, List.mem_cons, hne, false_or]
      split <;> simp

/-- A name that is put in keeps its place, and a new one comes last. -/
theorem names_insert (m : NameMap α) (name : String) (value : α) :
    (m.insert name value).names =
      if name ∈ m.names then m.names else m.names ++ [name] :=
  map_fst_insertEntry name value m.entries

/-- Putting a value in keeps names distinct. -/
theorem Distinct.insert {m : NameMap α} (h : m.Distinct) (name : String) (value : α) :
    (m.insert name value).Distinct := by
  unfold Distinct at *
  rw [names_insert]
  split
  · exact h
  · next hn =>
    rw [List.nodup_append]
    refine ⟨h, by simp, ?_⟩
    intro a ha b hb
    simp only [List.mem_singleton] at hb
    subst hb
    exact fun hab => hn (hab ▸ ha)

/-- Taking a name out keeps names distinct. -/
theorem Distinct.erase {m : NameMap α} (h : m.Distinct) (name : String) :
    (m.erase name).Distinct := by
  unfold Distinct names NameMap.erase at *
  exact List.Nodup.sublist (List.Sublist.map _ List.filter_sublist) h

end NameMap

end WebOfThings
