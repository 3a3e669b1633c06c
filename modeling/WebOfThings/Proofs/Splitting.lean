import WebOfThings.Proofs.Topic

/-!
# Which topics are taken apart

A text is cut at its first slash, so what stands before the cut has none and what stands behind it
may have more (`cut?_eq_some_iff`). A topic of a message is cut three times. So taking it apart and
laying it out are inverse to one another, where neither the identifier nor the kind has a slash:

* `split?_eq_some_iff_layout`: a topic is taken apart into parts exactly if it is laid out of them
  and the first two are levels;
* `split?_description`: the topic of a description has one part less, and is not taken apart.

`split?_eq_some_iff` says what follows for the topics of events, requests and descriptions.
-/

namespace WebOfThings.Topic

/-! ## Cutting -/

/-- A text is cut at its first slash. -/
theorem cut?_eq_some_iff {text before after : List Char} :
    cut? text = some (before, after) ↔ text = before ++ '/' :: after ∧ '/' ∉ before := by
  constructor
  · intro h
    induction text generalizing before with
    | nil => simp [cut?] at h
    | cons c text ih =>
      rw [cut?] at h
      split at h
      · next hslash =>
        obtain ⟨rfl, rfl⟩ := Prod.mk.inj (Option.some.inj h)
        exact ⟨by rw [hslash, List.nil_append], List.not_mem_nil⟩
      · next hslash =>
        obtain ⟨⟨front, rest⟩, hcut, he⟩ := Option.map_eq_some_iff.1 h
        obtain ⟨rfl, rfl⟩ := Prod.mk.inj he
        obtain ⟨rfl, hfront⟩ := ih hcut
        exact ⟨rfl, List.not_mem_cons_of_ne_of_not_mem (Ne.symm hslash) hfront⟩
  · rintro ⟨rfl, hbefore⟩
    exact cut?_append hbefore after

/-- A text without a slash is not cut. -/
theorem cut?_eq_none {text : List Char} (h : '/' ∉ text) : cut? text = none := by
  rw [Option.eq_none_iff_forall_ne_some]
  rintro ⟨before, after⟩ hcut
  obtain ⟨rfl, -⟩ := cut?_eq_some_iff.1 hcut
  exact h (List.mem_append_right before List.mem_cons_self)

/-! ## Taking apart -/

/-- A topic is taken apart exactly into those parts that it is laid out of, of which the identifier
    and the kind are one level each. -/
theorem split?_eq_some_iff_layout {topic thing kind name : String} :
    split? topic = some ⟨thing, kind, name⟩ ↔
      topic = layout thing kind name ∧ IsLevel thing ∧ IsLevel kind := by
  constructor
  · intro h
    -- the three cuts, and the check of the root between the first two
    obtain ⟨⟨first, rest⟩, hfirst, h⟩ := Option.bind_eq_some_iff.1 h
    dsimp only at h
    split at h
    · contradiction
    next hroot =>
    obtain ⟨⟨thing', rest'⟩, hthing, h⟩ := Option.bind_eq_some_iff.1 h
    obtain ⟨⟨kind', name'⟩, hkind, h⟩ := Option.bind_eq_some_iff.1 h
    obtain ⟨rfl, rfl, rfl⟩ := Parts.mk.inj (Option.some.inj h)
    obtain ⟨htopic, -⟩ := cut?_eq_some_iff.1 hfirst
    obtain ⟨rfl, hlevel⟩ := cut?_eq_some_iff.1 hthing
    obtain ⟨rfl, hlevel'⟩ := cut?_eq_some_iff.1 hkind
    refine ⟨String.ext ?_, ?_, ?_⟩
    · simp [htopic, toList_layout, Decidable.not_not.1 hroot]
    · rwa [IsLevel, String.toList_ofList]
    · rwa [IsLevel, String.toList_ofList]
  · rintro ⟨rfl, hthing, hkind⟩
    exact split?_layout hthing hkind name

/-- The topic of a description is not taken apart, since it ends with its kind. -/
theorem split?_description {thing : String} (h : IsLevel thing) :
    split? (description thing) = none := by
  have htopic : (description thing).toList =
      root.toList ++ '/' :: (thing.toList ++ '/' :: descriptionKind.toList) := by
    simp [description, String.toList_append, show ("/" : String).toList = ['/'] from rfl]
  rw [split?, htopic, cut?_append isLevel_root]
  simp [cut?_append h, cut?_eq_none (show '/' ∉ descriptionKind.toList by decide)]

/-- A topic is taken apart into an identifier, a kind and a name exactly if it is `things`, these
    three, and slashes between them, where the identifier and the kind have no slash; the name may
    have some, or be empty. So a topic of events or of requests gives back what it was made of
    exactly if the identifier has no slash, and then the topic of the description is none of a
    message. -/
theorem split?_eq_some_iff (topic thing kind name : String) :
    (split? topic = some ⟨thing, kind, name⟩ ↔
      topic = "things/" ++ thing ++ "/" ++ kind ++ "/" ++ name ∧
        '/' ∉ thing.toList ∧ '/' ∉ kind.toList) ∧
    (split? (event thing name) = some ⟨thing, "event", name⟩ ↔ '/' ∉ thing.toList) ∧
    (split? (action thing name) = some ⟨thing, "action", name⟩ ↔ '/' ∉ thing.toList) ∧
    ('/' ∉ thing.toList → split? (description thing) = none) := by
  have hroot : root ++ "/" = "things/" := rfl
  refine ⟨?_, ?_, ?_, split?_description⟩
  · rw [split?_eq_some_iff_layout, layout, hroot]
    rfl
  · rw [split?_eq_some_iff_layout, event_eq_layout]
    exact ⟨fun h => h.2.1, fun h => ⟨rfl, h, isLevel_eventKind⟩⟩
  · rw [split?_eq_some_iff_layout]
    exact ⟨fun h => h.2.1, fun h => ⟨rfl, h, isLevel_actionKind⟩⟩

/-- The topic of an event of the lamp is taken apart although the name has slashes and ends with
    one, and the topic of its description is not. An identifier with a slash is lost. -/
theorem split?_eq_some_iff_lamp : '/' ∉ ("lamp" : String).toList ∧
    split? "things/lamp/event/on/off/" = some ⟨"lamp", "event", "on/off/"⟩ ∧
    split? "things/lamp/td" = none ∧
    split? (action "home/lamp" "on") ≠ some ⟨"home/lamp", "action", "on"⟩ := by
  obtain ⟨-, hevent, -, hdescription⟩ := split?_eq_some_iff "" "lamp" "" "on/off/"
  obtain ⟨-, -, haction, -⟩ := split?_eq_some_iff "" "home/lamp" "" "on"
  have hlevel : '/' ∉ ("lamp" : String).toList := by decide
  exact ⟨hlevel, hevent.2 hlevel, hdescription hlevel, mt haction.1 (by decide)⟩

end WebOfThings.Topic
