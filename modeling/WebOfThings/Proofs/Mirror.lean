import WebOfThings.Proofs.Emission
import WebOfThings.Proofs.Nesting

/-!
# The values that a consumed thing has

An exposed thing remembers what it sent once it was published, and a consumed thing of the same
description keeps what arrives. They do so by different ways: the one from the values that it was
given, if they were declared and, when only changes are asked for, if they differ from what it
remembers; the other from the bytes of a message, by the topic it came on.

`received_eq_emitted` says that they have the same values all the same, after any number of calls
that send events and property changes, as long as nobody who is told of them makes the thing emit
in turn. What happens if somebody does is in `performAll_latest_iff`.
-/

namespace WebOfThings

open Run

/-- A call that makes an exposed thing send something. -/
inductive Sending
  /-- It sends an event. -/
  | event (name : String) (data : Json)
  /-- It sends property changes. -/
  | changes (emission : Emission)

/-- The call itself. -/
def Sending.run (call : Call) (i : ExposedRef) : Sending → Run Outcome
  | event name data => emitEvent call i name data
  | changes emission => emission.run call i

namespace Link

variable {L : Link} {p : String} {s s' : Site}

/-- A call that sends something passes a link level by level, whatever it sends. -/
theorem relates_level_sending {call : Call}
    (hcall : ∀ h o, Relates (L.Passage p Silent) (call h o)) (hp : L.Apt p) (sending : Sending) :
    Relates (L.Passage p Level) (sending.run call L.exposed) := by
  cases sending with
  | event name data =>
    intro s outcome s' h
    exact (relates_silent_emitEvent hcall hp L.exposed name data _ _ _ h).mono Silent.level
  | changes emission =>
    cases emission with
    | property name value => exact relates_level_emitProperty hcall hp name value
    | batch members onlyChanges => exact relates_level_emitChanges hcall hp members onlyChanges

/-- Calls that send something, one after another. -/
theorem relates_level_sendings {call : Call}
    (hcall : ∀ h o, Relates (L.Passage p Silent) (call h o)) (hp : L.Apt p)
    (sendings : List Sending) :
    Relates (L.Passage p Level)
      (sendings.forM fun sending => discard (sending.run call L.exposed)) :=
  relates_forM composes_level fun sending _ =>
    relates_discard (relates_level_sending hcall hp sending)

/-- Nobody who was told of something made the exposed thing emit property changes. -/
def Unanswered (L : Link) (s s' : Site) : Prop :=
  ∀ entries, s'.journal = entries ++ s.journal → ∀ e ∈ entries, L.Quiet e

/-- Emissions none of which comes within another bring the consumed thing what the exposed thing
    remembers. -/
theorem Moves.same_of_flat {n : Nest} {moments : List Moment}
    (h : L.Moves p (L.marks p moments) s s') (hn : n.marks = L.marks p moments) (hflat : n.Flat)
    (heq : L.received p s = L.emitted p s) : L.received p s' = L.emitted p s' := by
  obtain ⟨hremembered, hkept⟩ := n.settled_iff.1 hflat.settled
  have hsame : n.kept = n.remembered := hkept.trans hremembered.symm
  rw [h.received, h.emitted, ← hn, n.findSome?_kept_marks, n.findSome?_remembered_marks, hsame,
    heq]

/-- After any calls that send events and property changes, a property is read from the consumed
    thing if and only if it is read from the exposed thing, and with the same value, if that was
    so before. Nobody who is told of what is sent makes the thing emit property changes in turn. -/
theorem received_eq_emitted (hp : L.Apt p) {depth : Nat} {sendings : List Sending} {u : PUnit}
    (h : (sendings.forM fun sending =>
      discard (sending.run (calls depth) L.exposed)).run s = some (u, s'))
    (hb : L.Bound s) (hu : L.Undisturbed s s') (hquiet : L.Unanswered s s')
    (heq : L.received p s = L.emitted p s) :
    L.Bound s' ∧ L.received p s' = L.emitted p s' := by
  have hpassage := relates_level_sendings (relates_silent_calls hp depth) hp sendings _ _ _ h
  obtain ⟨entries, moments, hs, hmoves, n, hn, hflat⟩ := hpassage.elim hb hu
  exact ⟨hmoves.bound, hmoves.same_of_flat hn (hflat (hquiet _ hs.journal)) heq⟩

/-- The lamp once its level and its power were sent, and then its power again. -/
def sentTwice : Site :=
  { lampSite {} {} with
    exposed := (lampSite {} {}).exposed.update 0 fun t =>
      { t with values := ⟨[("level", sent true), ("power", sent true)]⟩ }
    consumed := (lampSite {} {}).consumed.update 0 fun c =>
      { c with values := ⟨[("level", sent true), ("power", sent true)]⟩ }
    timeline := [
      .remembered 0 [⟨"power", .bool true, sent true⟩],
      .kept 0 ⟨.property, "power", sent true⟩,
      .published 0 ⟨Topic.batch "lamp", Bytes.ofString "\x7b\"power\":true\x7d"⟩,
      .remembered 0 [⟨"level", .bool true, sent true⟩, ⟨"power", .bool false, sent false⟩],
      .kept 0 ⟨.property, "power", sent false⟩,
      .kept 0 ⟨.property, "level", sent true⟩,
      .published 0 ⟨Topic.batch "lamp",
        Bytes.ofString "\x7b\"level\":true,\"power\":false\x7d"⟩] }

theorem received_eq_emitted_lamp :
    (([.changes (.batch [("level", .bool true), ("power", .bool false)] false),
        .event "dusk" .null,
        .changes (.batch [("level", .bool true), ("power", .bool true)] true)] :
          List Sending).forM fun sending =>
      discard (sending.run (calls 0) lamp.exposed)).run (lampSite {} {}) =
        some (.unit, sentTwice) ∧
    lamp.Bound sentTwice ∧
    lamp.received "power" sentTwice = lamp.emitted "power" sentTwice := by
  have hrun : (([.changes (.batch [("level", .bool true), ("power", .bool false)] false),
        .event "dusk" .null,
        .changes (.batch [("level", .bool true), ("power", .bool true)] true)] :
          List Sending).forM fun sending =>
      discard (sending.run (calls 0) lamp.exposed)).run (lampSite {} {}) =
        some (.unit, sentTwice) := by
    cbv
  have hu : lamp.Undisturbed (lampSite {} {}) sentTwice := by
    refine .of_nil rfl rfl (List.forall_mem_nil _) ?_
    simp only [sentTwice, List.forall_mem_cons]
    exact ⟨readsBack_power, readsBack_kept _ _, readsBack_published _ _, readsBack_level_power,
      readsBack_kept _ _, readsBack_kept _ _, readsBack_published _ _, List.forall_mem_nil _⟩
  have hquiet : lamp.Unanswered (lampSite {} {}) sentTwice := by
    intro entries h
    obtain rfl : entries = [] := (List.append_eq_nil_iff.1 h.symm).1
    exact List.forall_mem_nil _
  exact ⟨hrun, received_eq_emitted (apt_lamp "power") hrun (bound_lampSite _ _) hu hquiet rfl⟩

end Link

end WebOfThings
