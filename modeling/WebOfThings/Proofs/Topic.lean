import WebOfThings.Topic

/-!
# Topics taken apart

The topics and filters of a thing are laid out in four parts: the root, the identifier, the kind
and the name (`Topic.layout`). An identifier without a slash is one level, so:

* `split?_layout`: such a topic is taken apart into its identifier, its kind and its name, however
  many slashes the name holds, while an identifier with a slash leaves another name
  (`name_ne_of_split?_layout`);
* `matches_wildcard`: the filter of all names of a kind matches the topics of that kind and of that
  identifier, and of every identifier if it is `+`; the filter of `#` matches nothing.
-/

namespace WebOfThings.Topic

/-- A topic in four parts. -/
def layout (thing kind name : String) : String :=
  root ++ "/" ++ thing ++ "/" ++ kind ++ "/" ++ name

theorem event_eq_layout (thing name : String) : event thing name = layout thing eventKind name :=
  rfl

/-- A text that is one level of a topic. -/
def IsLevel (s : String) : Prop := '/' ∉ s.toList

instance (s : String) : Decidable (IsLevel s) := inferInstanceAs (Decidable (¬ _))

theorem isLevel_root : IsLevel root := by decide

theorem isLevel_eventKind : IsLevel eventKind := by decide

theorem isLevel_actionKind : IsLevel actionKind := by decide

/-! ## Levels -/

theorem toList_layout (thing kind name : String) :
    (layout thing kind name).toList =
      root.toList ++ '/' :: (thing.toList ++ '/' :: (kind.toList ++ '/' :: name.toList)) := by
  simp [layout, String.toList_append, show ("/" : String).toList = ['/'] from rfl]

/-- A first segment without a slash is the first level. -/
theorem levels_append {segment : List Char} (h : '/' ∉ segment) (rest : List Char) :
    levels (segment ++ '/' :: rest) = segment :: levels rest := by
  induction segment with
  | nil => simp [levels]
  | cons c segment ih =>
    have hc : c ≠ '/' := fun e => h (e ▸ List.mem_cons_self)
    simp [levels, hc, ih fun hs => h (List.mem_cons_of_mem _ hs)]

theorem levels_layout {thing kind : String} (ht : IsLevel thing) (hk : IsLevel kind)
    (name : String) :
    levels (layout thing kind name).toList =
      root.toList :: thing.toList :: kind.toList :: levels name.toList := by
  rw [toList_layout, levels_append isLevel_root, levels_append ht, levels_append hk]

theorem event_inj {thing name name' : String} (h : event thing name = event thing name') :
    name = name' := by
  have h := congrArg String.toList h
  simp only [event_eq_layout, toList_layout, List.append_cancel_left_eq, List.cons.injEq,
    true_and] at h
  exact String.ext h

/-- The filters of the events of different things are different. -/
theorem events_inj {thing thing' : String} (h : events thing = events thing') :
    thing = thing' := by
  have h := congrArg String.toList h
  simp only [events, event_eq_layout, toList_layout, List.append_cancel_left_eq, List.cons.injEq,
    true_and] at h
  exact String.ext ((List.append_inj_left' h rfl))

/-! ## Splitting -/

theorem cut?_append {before : List Char} (h : '/' ∉ before) (after : List Char) :
    cut? (before ++ '/' :: after) = some (before, after) := by
  induction before with
  | nil => simp [cut?]
  | cons c before ih =>
    have hc : c ≠ '/' := fun e => h (e ▸ List.mem_cons_self)
    simp [cut?, hc, ih fun hb => h (List.mem_cons_of_mem _ hb)]

/-- A topic of a thing is taken apart into what it was made of. -/
theorem split?_layout {thing kind : String} (ht : IsLevel thing) (hk : IsLevel kind)
    (name : String) : split? (layout thing kind name) = some ⟨thing, kind, name⟩ := by
  rw [split?, toList_layout, cut?_append isLevel_root]
  simp [cut?_append ht, cut?_append hk]

/-- However a text is cut, all that stands behind one of its slashes is left. -/
theorem length_le_of_cut? {before after x y : List Char}
    (h : cut? (before ++ '/' :: after) = some (x, y)) : after.length ≤ y.length := by
  induction before generalizing x with
  | nil =>
    obtain ⟨-, rfl⟩ := Prod.mk.inj (Option.some.inj h)
    exact Nat.le_refl _
  | cons c before ih =>
    simp only [List.cons_append, cut?] at h
    split at h
    · obtain ⟨-, rfl⟩ := Prod.mk.inj (Option.some.inj h)
      simp only [List.length_append, List.length_cons]
      omega
    · obtain ⟨⟨x', y'⟩, hcut, he⟩ := Option.map_eq_some_iff.1 h
      obtain ⟨-, rfl⟩ := Prod.mk.inj he
      exact ih hcut

/-- If the identifier is more than one level, a topic of the thing is taken apart elsewhere: what is
    taken for the name is longer than the name. -/
theorem name_ne_of_split?_layout {thing kind name : String} (ht : ¬ IsLevel thing)
    {parts : Parts} (h : split? (layout thing kind name) = some parts) : parts.name ≠ name := by
  obtain ⟨first, rest, hthing, hfirst⟩ :=
    List.eq_append_cons_of_mem (Decidable.not_not.1 ht : '/' ∈ thing.toList)
  rw [split?, toList_layout, cut?_append isLevel_root, hthing, List.append_assoc,
    List.cons_append] at h
  simp only [ne_eq, not_true_eq_false, if_false, Option.bind_eq_bind, Option.bind_some,
    cut?_append hfirst] at h
  obtain ⟨⟨kind', name'⟩, hcut, he⟩ := Option.bind_eq_some_iff.1 h
  obtain rfl := Option.some.inj he
  have hlength : (kind.toList ++ '/' :: name.toList).length ≤ name'.length :=
    length_le_of_cut? hcut
  rintro rfl
  simp only [List.length_append, List.length_cons, String.toList_ofList] at hlength
  omega

/-! ## Matching -/

/-- Beyond the levels before it, the last wildcard matches everything. -/
theorem levelsMatch_hash (topic : List (List Char)) : levelsMatch [['#']] topic = true := by
  cases topic <;> simp [levelsMatch]

theorem levelsMatch_cons {expected level : List Char} {filter topic : List (List Char)}
    (h : expected ≠ ['#']) :
    levelsMatch (expected :: filter) (level :: topic) =
      ((expected = ['+'] || expected = level) && levelsMatch filter topic) := by
  simp [levelsMatch, h]

/-- The filter of a kind matches the topics of that kind: those of its own identifier, and those of
    every identifier if it is the wildcard of one level. -/
theorem matches_wildcard {thing other kind kind' : String} (ht : IsLevel thing)
    (ho : IsLevel other) (hk : IsLevel kind) (hk' : IsLevel kind') (hkind : kind ≠ "+")
    (hkind' : kind ≠ "#") (name : String) :
    «matches» (layout thing kind "#") (layout other kind' name) = true ↔
      thing ≠ "#" ∧ (thing = "+" ∨ thing = other) ∧ kind = kind' := by
  have toList_eq (s : String) (l : List Char) : s.toList = l ↔ s = String.ofList l :=
    ⟨fun e => by rw [← e, String.ofList_toList], fun e => by rw [e, String.toList_ofList]⟩
  rw [«matches», levels_layout ht hk, levels_layout ho hk',
    show levels ("#" : String).toList = [['#']] from rfl, levelsMatch_cons (by decide)]
  by_cases hash : thing = "#"
  · -- a wildcard of many levels is the last level of a filter, and here more come after it
    subst hash
    simp [levelsMatch]
  · rw [levelsMatch_cons fun e => hash ((toList_eq _ _).1 e),
      levelsMatch_cons fun e => hkind' ((toList_eq _ _).1 e), levelsMatch_hash]
    simp [hash, hkind, toList_eq, show String.ofList ['+'] = "+" from rfl]

/-- The filter of all requests to a thing matches them. -/
theorem matches_actions {thing : String} (ht : IsLevel thing) (hash : thing ≠ "#")
    (name : String) : «matches» (actions thing) (action thing name) = true :=
  (matches_wildcard ht ht isLevel_actionKind isLevel_actionKind (by decide) (by decide) name).2
    ⟨hash, .inr rfl, rfl⟩

/-- The filter of all events of a thing matches them. -/
theorem matches_events {thing : String} (ht : IsLevel thing) (hash : thing ≠ "#")
    (name : String) : «matches» (events thing) (event thing name) = true :=
  (matches_wildcard ht ht isLevel_eventKind isLevel_eventKind (by decide) (by decide) name).2
    ⟨hash, .inr rfl, rfl⟩

/-- The filter of the events of a thing takes no requests. -/
theorem not_matches_events_action {thing other : String} (ht : IsLevel thing)
    (ho : IsLevel other) (name : String) :
    «matches» (events thing) (action other name) = false := by
  refine Bool.eq_false_iff.2 fun h => ?_
  have hkind : eventKind = actionKind :=
    ((matches_wildcard ht ho isLevel_eventKind isLevel_actionKind (by decide) (by decide)
      name).1 h).2.2
  exact absurd hkind (by decide)

theorem split?_action {thing : String} (ht : IsLevel thing) (name : String) :
    split? (action thing name) = some ⟨thing, actionKind, name⟩ :=
  split?_layout ht isLevel_actionKind name

theorem split?_event {thing : String} (ht : IsLevel thing) (name : String) :
    split? (event thing name) = some ⟨thing, eventKind, name⟩ :=
  split?_layout ht isLevel_eventKind name

end WebOfThings.Topic
