import Mathlib
import WebOfThings.Proofs.Batch

/-!
# What the things of a link have after calls within calls

Messages are delivered within the call that publishes them, so an observer may write a property,
and the handler of the write may emit a new batch, while an earlier one is still under way. The
things of a link do not always have the latest value then: the exposed thing remembers a batch once
it was published, over what was emitted meanwhile, and the consumed thing keeps the value of a
batch when its turn comes, after what its observers of earlier values emitted.

`performAll_latest_iff` says exactly when both have the latest value: if the emissions of the run,
nested as they were, are settled. In particular they are if no emission comes within another.
Every call of a handler passes the link by, however deep handlers call one another, if what it did
spared it (`relates_silent_calls`).
-/

namespace WebOfThings

open Run

namespace Link

variable {L : Link} {p : String} {s s' : Site}

/-! ## Handlers that call one another -/

theorem composes_level : Composes (L.Passage p Level) where
  refl s := (composes_silent.refl s).mono Silent.level
  trans h h' := by
    refine h.trans h' fun hq hq' hm hm' => ?_
    obtain ⟨n, rfl, hn⟩ := hm
    obtain ⟨n', rfl, hn'⟩ := hm'
    exact ⟨n.append n', n.marks_append n', fun h => (hn (hq h)).append (hn' (hq' h))⟩

section

variable {call : Call} (hcall : ∀ h o, Relates (L.Passage p Silent) (call h o))
include hcall

theorem relates_level_emitProperty (hp : L.Apt p) (name : String) (value : Json) :
    Relates (L.Passage p Level) (emitProperty call L.exposed name value) := by
  refine relates_with_exposed composes_level _ fun t d => ?_
  split
  · exact relates_level_emitChanges hcall hp _ _
  · exact relates_pure composes_level _

/-- An act that emits property changes of the exposed thing. -/
theorem passage_perform_emits (hp : L.Apt p) {o : Occasion} {a : Act} (hemits : L.Emits a)
    {result : ActResult} (h : (perform call o a).run s = some (result, s')) :
    L.Passage p Level s s' := by
  cases a with
  | emitProperty i _ _ =>
    obtain rfl : i = L.exposed := hemits
    exact relates_map (relates_level_emitProperty hcall hp _ _) _ _ _ _ h
  | emitChanges i _ onlyChanges =>
    obtain rfl : i = L.exposed := hemits
    exact relates_map (relates_level_emitChanges hcall hp _ _) _ _ _ _ h
  | _ => exact hemits.elim

/-- An act that is carried out and noted passes the link by: if it emits, that is noted too. -/
theorem passage_acted (hp : L.Apt p) (label : String) {o : Occasion} {a : Act}
    {result : ActResult} (h : (perform call o a).run s = some (result, s')) :
    L.Passage p Silent s { s' with journal := .acted label o a result :: s'.journal } := by
  have hnote : s'.Extends { s' with journal := .acted label o a result :: s'.journal }
    [.acted label o a result] [] := ⟨rfl, rfl, rfl, fun _ => rfl⟩
  by_cases hspares : L.Spares s o a
  case neg =>
    -- the note says that the link was not spared
    obtain ⟨entries, moments, hs⟩ :=
      relates_perform keeps_grows (relates_grows_of_silent hcall) (grows_changed o a) _ _ _ h
    exact ⟨_, _, hs.trans hnote, fun _ hspared _ =>
      absurd (hspared _ (List.mem_append_left _ List.mem_cons_self) _ _ _ _ rfl) hspares⟩
  by_cases hemits : L.Emits a
  · -- the emissions may be any, since the note says that somebody emitted
    have hnoted : L.Passage p (fun quiet marks => marks = [] ∧ ¬ quiet) s'
        { s' with journal := .acted label o a result :: s'.journal } :=
      ⟨_, _, hnote, fun hb _ _ => ⟨⟨hb.note _, rfl, rfl⟩, rfl, fun hquiet =>
        hquiet _ List.mem_cons_self _ _ _ _ rfl hemits⟩⟩
    refine (passage_perform_emits hcall hp hemits h).trans hnoted fun _ hq' hm hn => ?_
    obtain ⟨n, rfl, -⟩ := hm
    obtain ⟨rfl, hquiet⟩ := hn
    exact ⟨n, rfl, fun h => absurd (hq' h) hquiet⟩
  · exact composes_silent.trans (passage_perform hcall hp hspares hemits h)
      (relates_silent_note _ _ _ _ (run_note _ _))

theorem relates_silent_performAll (hp : L.Apt p) (label : String) (o : Occasion)
    (acts : List Act) : Relates (L.Passage p Silent) (performAll call label o acts) :=
  relates_performAll composes_silent fun _ _ _ _ h => passage_acted hcall hp label h

end

/-- Calling a handler passes a link by, however deep handlers call one another. -/
theorem relates_silent_calls (hp : L.Apt p) (depth : Nat) (h : Handler) (o : Occasion) :
    Relates (L.Passage p Silent) (calls depth h o) :=
  relates_calls_of_acted composes_silent (fun _ e => relates_silent_note e _ _ _ (run_note _ _))
    (fun hcall label _ _ _ _ _ h => passage_acted hcall hp label h) depth h o

/-! ## The latest value -/

/-- The value of a property in the batch that was published last of those that contain it. -/
def published (L : Link) (p : String) (s : Site) : Option Json :=
  (L.marks p s.timeline).findSome? Mark.published?

/-- Both things have the value that was published last. -/
def Latest (L : Link) (p : String) (s : Site) : Prop :=
  L.emitted p s = L.published p s ∧ L.received p s = L.published p s

/-- What was done between two sites spared a link, and what it sent reads back. -/
structure Undisturbed (L : Link) (s s' : Site) : Prop where
  /-- What was noted leaves the link alone. -/
  spared : ∀ entries, s'.journal = entries ++ s.journal → ∀ e ∈ entries, L.SparedBy s e
  /-- What was sent reads back. -/
  readsBack : ∀ moments, s'.timeline = moments ++ s.timeline → ∀ m ∈ moments, L.ReadsBack m

/-- On a site where nothing was done yet, it is enough to look at all that was noted and sent. -/
theorem Undisturbed.of_nil (hjournal : s.journal = []) (htimeline : s.timeline = [])
    (hspared : ∀ e ∈ s'.journal, L.SparedBy s e) (hreads : ∀ m ∈ s'.timeline, L.ReadsBack m) :
    L.Undisturbed s s' where
  spared entries h := by
    rw [hjournal, List.append_nil] at h
    exact h ▸ hspared
  readsBack moments h := by
    rw [htimeline, List.append_nil] at h
    exact h ▸ hreads

theorem Passage.elim {shape : Shape} (h : L.Passage p shape s s') (hb : L.Bound s)
    (hu : L.Undisturbed s s') : ∃ entries moments, s.Extends s' entries moments ∧
      L.Moves p (L.marks p moments) s s' ∧
      shape (∀ e ∈ entries, L.Quiet e) (L.marks p moments) := by
  obtain ⟨entries, moments, hs, hm⟩ := h
  exact ⟨entries, moments, hs, hm hb (hu.spared _ hs.journal) (hu.readsBack _ hs.timeline)⟩

/-- After some emissions, the things have the latest value if and only if they are settled. -/
theorem Moves.latest_iff {n : Nest} {moments : List Moment}
    (h : L.Moves p (L.marks p moments) s s') (hn : n.marks = L.marks p moments)
    (ht : s'.timeline = moments ++ s.timeline) (hl : L.Latest p s) :
    L.Latest p s' ↔ n.Settled := by
  have hpublished : L.published p s' = n.published.or (L.published p s) := by
    rw [published, ht, marks_append, ← hn, List.findSome?_append, n.findSome?_published_marks]
    rfl
  have hemitted : L.emitted p s' = n.remembered.or (L.published p s) := by
    rw [h.emitted, ← hn, n.findSome?_remembered_marks, hl.1]
  have hreceived : L.received p s' = n.kept.or (L.published p s) := by
    rw [h.received, ← hn, n.findSome?_kept_marks, hl.2]
  rw [Latest, hpublished, hemitted, hreceived, n.settled_iff]
  cases n with
  | none => exact ⟨fun _ => ⟨rfl, rfl⟩, fun _ => ⟨rfl, rfl⟩⟩
  | emit earlier value before after =>
    -- the value of the outermost emission comes before all that was there at the beginning
    have hsome (o o' : Option Json) : (o.or (some value)).or o' = o.or (some value) := by
      cases o <;> rfl
    simp only [Nest.remembered, Nest.kept, Nest.published, hsome, Option.some_or]

/-- Whatever is done, with handlers that call one another, the emissions that come of it are nested
    somehow, and the things of the link have the latest value afterwards if and only if they are
    settled. They are if none came within another. -/
theorem performAll_latest_iff (hp : L.Apt p) {depth : Nat} {label : String} {o : Occasion}
    {acts : List Act} {outcome : Outcome}
    (h : (performAll (calls depth) label o acts).run s = some (outcome, s'))
    (hb : L.Bound s) (hu : L.Undisturbed s s') (hl : L.Latest p s) :
    L.Bound s' ∧
      (∃ n : Nest, L.marks p s'.timeline = n.marks ++ L.marks p s.timeline) ∧
      ∀ n : Nest, L.marks p s'.timeline = n.marks ++ L.marks p s.timeline →
        (L.Latest p s' ↔ n.Settled) ∧ (n.Flat → L.Latest p s') := by
  have hpassage := relates_silent_performAll (relates_silent_calls hp depth) hp label o acts _ _ _ h
  obtain ⟨entries, moments, hs, hmoves, n, hn, -⟩ := hpassage.elim hb hu
  have hmarks : L.marks p s'.timeline = L.marks p moments ++ L.marks p s.timeline := by
    rw [hs.timeline, marks_append]
  refine ⟨hmoves.bound, ⟨n, by rw [hmarks, hn]⟩, fun n' hn' => ?_⟩
  -- however the same marks are read as a nest, the last values are those that they show
  have hsame : n'.marks = L.marks p moments := by
    rw [hmarks] at hn'
    exact (List.append_cancel_right hn').symm
  have hiff := hmoves.latest_iff hsame hs.timeline hl
  exact ⟨hiff, fun hflat => hiff.2 hflat.settled⟩

/-! ## A power that is written while it is emitted -/

/-- The lamp whose power is written once its level is observed, and emitted once it is written. -/
def switching : Site :=
  lampSite ⟨[("", ⟨"apply", [.emitProperty 0 none none]⟩)]⟩
    ⟨[("level", ⟨"switch", [.write 0 (some "power") (some (.bool true))]⟩)]⟩

/-- The level and the power are emitted in one batch. -/
def dimming : Act :=
  .emitChanges 0 (some (.object [("level", .bool true), ("power", .bool false)])) false

/-- The message on which that is done. -/
def dusk : Occasion := .message ⟨"dusk", []⟩

/-- A value as it is sent and received. -/
def sent (value : Bool) : Snapshot := .ofNative (.bool value) (some {})

theorem readsBack_level_power : lamp.ReadsBack
    (.remembered 0 [⟨"level", .bool true, sent true⟩, ⟨"power", .bool false, sent false⟩]) := by
  intro changes h
  obtain ⟨-, rfl⟩ := Moment.remembered.inj h
  refine ⟨by cbv, ?_⟩
  exact List.forall_mem_cons.2 ⟨by cbv, List.forall_mem_singleton.2 (by cbv)⟩

theorem readsBack_power : lamp.ReadsBack (.remembered 0 [⟨"power", .bool true, sent true⟩]) := by
  intro changes h
  obtain ⟨-, rfl⟩ := Moment.remembered.inj h
  exact ⟨by cbv, List.forall_mem_singleton.2 (by cbv)⟩

/-- What comes of it. The level arrives first, its observer writes the power, and the handler of
    the write emits it: true is published after false. Then false arrives in its turn, and last
    the batch is remembered. -/
def switched : Site :=
  { switching with
    exposed := switching.exposed.update 0 fun t =>
      { t with values := ⟨[("power", sent false), ("level", sent true)]⟩ }
    consumed := switching.consumed.update 0 fun c =>
      { c with values := ⟨[("level", sent true), ("power", sent false)]⟩ }
    journal := [
      .acted "dim" dusk dimming (.outcome .done),
      .acted "switch" (.notice "level" (sent true)) (.write 0 (some "power") (some (.bool true)))
        (.outcome .done),
      .acted "apply" (.request "power" (sent true)) (.emitProperty 0 none none) (.outcome .done),
      .called "apply" (.request "power" (sent true)),
      .called "switch" (.notice "level" (sent true))]
    timeline := [
      .remembered 0 [⟨"level", .bool true, sent true⟩, ⟨"power", .bool false, sent false⟩],
      .kept 0 ⟨.property, "power", sent false⟩,
      .remembered 0 [⟨"power", .bool true, sent true⟩],
      .kept 0 ⟨.property, "power", sent true⟩,
      .published 0 ⟨Topic.batch "lamp", Bytes.ofString "\x7b\"power\":true\x7d"⟩,
      .published 0 ⟨Topic.action "lamp" "power", Bytes.ofString "true"⟩,
      .kept 0 ⟨.property, "level", sent true⟩,
      .published 0 ⟨Topic.batch "lamp",
        Bytes.ofString "\x7b\"level\":true,\"power\":false\x7d"⟩] }

theorem run_switching :
    (performAll (calls 2) "dim" dusk [dimming]).run switching = some (.done, switched) := by
  cbv

theorem undisturbed_switched : lamp.Undisturbed switching switched := by
  refine .of_nil rfl rfl (fun e he label o a result hacted => ?_) ?_
  · simp only [switched, List.mem_cons, List.not_mem_nil, or_false] at he
    rcases he with rfl | rfl | rfl | rfl | rfl <;> cases hacted <;> trivial
  · simp only [switched, List.forall_mem_cons]
    exact ⟨readsBack_level_power, readsBack_kept _ _, readsBack_power, readsBack_kept _ _,
      readsBack_published _ _, readsBack_published _ _, readsBack_kept _ _,
      readsBack_published _ _, List.forall_mem_nil _⟩

/-- Nothing was published yet, and neither thing has a value. -/
theorem latest_switching : lamp.Latest "power" switching := ⟨rfl, rfl⟩

/-- The power is true within the emission that makes it false, before false arrives. -/
theorem performAll_latest_iff_lamp : lamp.Bound switched ∧
    (lamp.Latest "power" switched ↔
      (Nest.emit .none (.bool false) (.emit .none (.bool true) .none .none) .none).Settled) := by
  obtain ⟨hbound, -, hiff⟩ := performAll_latest_iff (apt_lamp "power") run_switching
    (bound_lampSite _ _) undisturbed_switched latest_switching
  exact ⟨hbound, (hiff _ (by cbv)).1⟩

/-- True was published last, and both things have false. -/
theorem switched_not_latest :
    (performAll (calls 2) "dim" dusk [dimming]).run switching = some (.done, switched) ∧
      lamp.Apt "power" ∧ lamp.Bound switching ∧ lamp.Undisturbed switching switched ∧
      lamp.Latest "power" switching ∧
      lamp.published "power" switched = some (.bool true) ∧
      lamp.emitted "power" switched = some (.bool false) ∧
      lamp.received "power" switched = some (.bool false) ∧
      ¬ lamp.Latest "power" switched := by
  have hpublished : lamp.published "power" switched = some (.bool true) := by cbv
  refine ⟨run_switching, apt_lamp "power", bound_lampSite _ _, undisturbed_switched,
    latest_switching, hpublished, rfl, rfl, fun h => ?_⟩
  have hvalue : some (Json.bool false) = some (.bool true) := h.1.trans hpublished
  simp at hvalue

end Link

end WebOfThings
