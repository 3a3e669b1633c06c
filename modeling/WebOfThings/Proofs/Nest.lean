import WebOfThings.Json.Basic

/-!
# Emissions within emissions

A batch is delivered before the call that publishes it returns, so whoever is told of a value may
emit another batch meanwhile. The emissions of one property are then nested (`Nest`): one is
published, its value arrives, and it is remembered, and others may come before its value arrives
and after.

`Nest.marks` is the order in which all of that happens. The emission that is *published* last is
the innermost one at the very end; the one that is *remembered* last is the last of the outermost
ones; and the value that *arrives* last is that of neither, in general. `Nest.settled_iff` says
when the three agree. They do if no emission comes within another (`Nest.Flat.settled`).
-/

namespace WebOfThings

/-- What happens to a value of a property. -/
inductive Mark
  /-- It is published. -/
  | published (value : Json)
  /-- It arrives, and is kept by the one that received it. -/
  | kept (value : Json)
  /-- It is remembered by the one that sent it. -/
  | remembered (value : Json)
  deriving Inhabited

namespace Mark

/-- The value that is published. -/
def published? : Mark → Option Json
  | published value => some value
  | _ => none

/-- The value that is kept. -/
def kept? : Mark → Option Json
  | kept value => some value
  | _ => none

/-- The value that is remembered. -/
def remembered? : Mark → Option Json
  | remembered value => some value
  | _ => none

end Mark

/-- Emissions one after another, each with those within it. -/
inductive Nest
  /-- There are none. -/
  | none
  /-- The last one sends a value; within it come others before the value arrives, and others
      after. -/
  | emit (earlier : Nest) (value : Json) (before after : Nest)

namespace Nest

/-- What happens to the values, the latest first. -/
def marks : Nest → List Mark
  | none => []
  | emit earlier value before after =>
    .remembered value :: (after.marks ++
      .kept value :: (before.marks ++ .published value :: earlier.marks))

/-- The value that is published last. -/
def published : Nest → Option Json
  | none => .none
  | emit _ value before after => (after.published.or before.published).or (some value)

/-- The value that arrives last. -/
def kept : Nest → Option Json
  | none => .none
  | emit _ value _ after => after.kept.or (some value)

/-- The value that is remembered last. -/
def remembered : Nest → Option Json
  | none => .none
  | emit _ value _ _ => some value

theorem findSome?_published_marks (n : Nest) :
    n.marks.findSome? Mark.published? = n.published := by
  induction n with
  | none => rfl
  | emit earlier value before after _ ihb iha =>
    simp [marks, published, List.findSome?_append, List.findSome?_cons, iha, ihb,
      Mark.published?]

theorem findSome?_kept_marks (n : Nest) : n.marks.findSome? Mark.kept? = n.kept := by
  induction n with
  | none => rfl
  | emit earlier value before after _ _ iha =>
    simp [marks, kept, List.findSome?_append, List.findSome?_cons, iha, Mark.kept?]

theorem findSome?_remembered_marks (n : Nest) :
    n.marks.findSome? Mark.remembered? = n.remembered := by
  cases n <;> rfl

/-! ## One after another -/

/-- The emissions of one nest and then those of another. -/
def append (n : Nest) : Nest → Nest
  | none => n
  | emit earlier value before after => emit (n.append earlier) value before after

theorem marks_append (n m : Nest) : (n.append m).marks = m.marks ++ n.marks := by
  induction m with
  | none => rfl
  | emit earlier value before after ihe => simp [append, marks, ihe]

/-- No emission comes within another. -/
def Flat : Nest → Prop
  | none => True
  | emit earlier _ before after => earlier.Flat ∧ before = none ∧ after = none

theorem Flat.append {n m : Nest} (hn : n.Flat) (hm : m.Flat) : (n.append m).Flat := by
  induction m with
  | none => exact hn
  | emit earlier value before after ihe => exact ⟨ihe hm.1, hm.2⟩

/-! ## The last values -/

/-- What is published within the last outermost emission, and what arrives after its own value, ends
    with its own value. -/
def Settled : Nest → Prop
  | none => True
  | emit _ value before after =>
    (∀ w, after.published.or before.published = some w → w = value) ∧
      ∀ w, after.kept = some w → w = value

/-- Emissions are settled if and only if the value published last is the one remembered last, and
    the one that arrived last. -/
theorem settled_iff (n : Nest) :
    n.Settled ↔ n.remembered = n.published ∧ n.kept = n.published := by
  cases n with
  | none => exact ⟨fun _ => ⟨rfl, rfl⟩, fun _ => trivial⟩
  | emit earlier value before after =>
    simp only [Settled, remembered, published, kept]
    cases hp : after.published.or before.published with
    | none => cases after.kept <;> simp
    | some w =>
      constructor
      · rintro ⟨hr, hk⟩
        obtain rfl := hr w rfl
        refine ⟨rfl, ?_⟩
        cases ha : after.kept with
        | none => rfl
        | some w' => simp [hk w' ha]
      · rintro ⟨hr, hk⟩
        obtain rfl : value = w := by simpa using hr
        refine ⟨by simp, fun w hw => ?_⟩
        simpa [hw] using hk

theorem Flat.settled {n : Nest} (h : n.Flat) : n.Settled := by
  cases n with
  | none => trivial
  | emit earlier value before after =>
    obtain ⟨-, rfl, rfl⟩ := h
    exact ⟨nofun, nofun⟩

end Nest

end WebOfThings
