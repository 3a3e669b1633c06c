import Mathlib
import WebOfThings.Proofs.Link

/-!
# Properties written one after another

A consumed thing writes properties by handing each write to where it sends its requests, one after
another. A write fails if the property is not declared, if the thing sends nowhere, or if what it
sends to refuses the write; the first of these reasons counts, and nothing is sent (`Fails`).
Otherwise the write is taken (`Takes`): a recorder notes it, or a bus publishes it in one message.
The message is handed to those who receive it before the next property is written (`Hands`), and
only they can change things, or make a later write fail.

* `write_eq_some_iff`: writing a property is one or the other;
* `writes_up_to_failure`: writing several hands over those before the first that fails, in their
  order and each once, and ends with its error. The rest is not sent.
-/

namespace WebOfThings

/-- A consumed thing of a description sends its requests somewhere. -/
def Site.Sends (s : Site) (i : ConsumedRef) (d : ThingDescription) (interaction : Interaction) :
    Prop :=
  ∃ c, s.consumed.get? i = some c ∧ s.catalogue.get? c.description = some d ∧
    c.interaction = interaction

theorem Site.Sends.unique {s : Site} {i : ConsumedRef} {d d' : ThingDescription}
    {interaction interaction' : Interaction} (h : s.Sends i d interaction)
    (h' : s.Sends i d' interaction') : d' = d ∧ interaction' = interaction := by
  obtain ⟨c, hc, hd, rfl⟩ := h
  obtain ⟨c', hc', hd', rfl⟩ := h'
  obtain rfl := Option.some.inj (hc.symm.trans hc')
  exact ⟨Option.some.inj (hd'.symm.trans hd), rfl⟩

namespace Run

variable {call : Call} {i : ConsumedRef} {name : String} {value : Json} {s s₀ s' : Site}
  {d : ThingDescription} {entries : List (String × Json)} {outcome : Outcome}

/-! ## One write -/

/-- The write of a property fails. -/
inductive Fails (i : ConsumedRef) (s : Site) (name : String) (value : Json) : Error → Prop
  /-- The property is not declared. -/
  | undeclared {d : ThingDescription} {interaction : Interaction} (thing : s.Sends i d interaction)
      (undeclared : d.properties.contains name = false) : Fails i s name value (d.noProperty name)
  /-- The thing sends nowhere. -/
  | nowhere {d : ThingDescription} (thing : s.Sends i d .nowhere)
      (declared : d.properties.contains name = true) :
      Fails i s name value (ConsumedThing.noInteraction d)
  /-- A recorder refuses it. -/
  | refused {d : ThingDescription} {refuses : Bool} {refused : List String}
      (thing : s.Sends i d (.recorder refuses refused))
      (declared : d.properties.contains name = true) (refusal : refuses = true ∨ name ∈ refused) :
      Fails i s name value offline
  /-- A bus does not publish it. -/
  | rejected {d : ThingDescription} {k : BusRef} {id : String} {b : Bus Receiver} {e : Error}
      (thing : s.Sends i d (.bus k id)) (declared : d.properties.contains name = true)
      (found : s.buses.get? k = some b)
      (failed : b.publish? ⟨Topic.action id name, value.compact⟩ = .error e) :
      Fails i s name value e

/-- The write of a property is taken: the site is as given, and others are left to receive it. -/
inductive Takes (call : Call) (i : ConsumedRef) (s : Site) (name : String) (value : Json) :
    Site → Run Unit → Prop
  /-- A recorder notes it. -/
  | noted {d : ThingDescription} {refused : List String}
      (thing : s.Sends i d (.recorder false refused))
      (declared : d.properties.contains name = true) (taken : name ∉ refused) :
      Takes call i s name value { s with journal := .written name value :: s.journal } (pure ())
  /-- A bus publishes it, in one message on the topic of requests under its name. -/
  | published {d : ThingDescription} {k : BusRef} {id : String} {b b' : Bus Receiver}
      {receivers : List Receiver} (thing : s.Sends i d (.bus k id))
      (declared : d.properties.contains name = true) (found : s.buses.get? k = some b)
      (sent : b.publish? ⟨Topic.action id name, value.compact⟩ = .ok (b', receivers)) :
      Takes call i s name value
        { s with
          buses := s.buses.update k fun _ => b'
          timeline := .published k ⟨Topic.action id name, value.compact⟩ :: s.timeline }
        (receivers.forM (accept call ⟨Topic.action id name, value.compact⟩))

/-- Taking a write changes no thing. -/
theorem Takes.consumed {others : Run Unit} (h : Takes call i s name value s₀ others) :
    s₀.consumed = s.consumed := by
  cases h <;> rfl

/-- The write of a property is handed over: it is taken, and others receive it. -/
def Hands (call : Call) (i : ConsumedRef) (name : String) (value : Json) (s s' : Site) : Prop :=
  ∃ s₀ others, Takes call i s name value s₀ others ∧ others.run s₀ = some (.unit, s')

/-- A write that fails ends with its error, and nothing has changed. -/
theorem Fails.run_write {e : Error} (h : Fails i s name value e) (call : Call) :
    (write call i name value).run s = some (.error e, s) := by
  cases h with
  | undeclared thing undeclared =>
    obtain ⟨c, hc, hd, -⟩ := thing
    rw [write, run_of_consumed hc hd, undeclared]
    rfl
  | nowhere thing declared =>
    obtain ⟨c, hc, hd, hi⟩ := thing
    rw [write, run_of_consumed hc hd, if_pos declared, hi]
    rfl
  | @refused d refuses refused thing declared refusal =>
    obtain ⟨c, hc, hd, hi⟩ := thing
    have hrefuses : (refuses || refused.contains name) = true := by simpa using refusal
    rw [write, run_of_consumed hc hd, if_pos declared, hi, sendRequest, hrefuses]
    rfl
  | rejected thing declared found failed =>
    obtain ⟨c, hc, hd, hi⟩ := thing
    rw [write, run_of_consumed hc hd, if_pos declared, hi]
    exact run_publish_eq_some.2 ⟨_, found, .inl ⟨_, failed, rfl, rfl⟩⟩

/-- A write that is taken ends well, once those who receive it are done. -/
theorem Takes.run_write {others : Run Unit} (h : Takes call i s name value s₀ others) :
    (write call i name value).run s = (others.run s₀).map fun (_, s') => (.done, s') := by
  cases h with
  | @noted d refused thing declared taken =>
    obtain ⟨c, hc, hd, hi⟩ := thing
    have htaken : (false || refused.contains name) = false := by simpa using taken
    rw [write, run_of_consumed hc hd, if_pos declared, hi, sendRequest, htaken]
    rfl
  | published thing declared found sent =>
    obtain ⟨c, hc, hd, hi⟩ := thing
    rw [write, run_of_consumed hc hd, if_pos declared, hi]
    exact run_publish_of_taken found sent

/-- A write is not both taken and failed. -/
theorem Fails.not_takes {e : Error} {others : Run Unit} (h : Fails i s name value e) :
    ¬ Takes call i s name value s₀ others := fun takes => by
  have hruns := takes.run_write.symm.trans (h.run_write call)
  obtain ⟨_, -, houtcome⟩ := Option.map_eq_some_iff.1 hruns
  cases houtcome

/-- A write fails or is taken, if there is the bus that the thing sends on. -/
theorem fails_or_takes {interaction : Interaction} (thing : s.Sends i d interaction)
    (bus : d.properties.contains name = true →
      ∀ k id, interaction = .bus k id → ∃ b, s.buses.get? k = some b) :
    (∃ e, Fails i s name value e) ∨ ∃ s₀ others, Takes call i s name value s₀ others := by
  cases declared : d.properties.contains name with
  | false => exact .inl ⟨_, .undeclared thing declared⟩
  | true =>
    cases interaction with
    | nowhere => exact .inl ⟨_, .nowhere thing declared⟩
    | recorder refuses refused =>
      by_cases refusal : refuses = true ∨ name ∈ refused
      · exact .inl ⟨_, .refused thing declared refusal⟩
      · obtain ⟨hrefuses, taken⟩ := not_or.1 refusal
        obtain rfl := Bool.eq_false_iff.2 hrefuses
        exact .inr ⟨_, _, .noted thing declared taken⟩
    | bus k id =>
      obtain ⟨b, found⟩ := bus declared k id rfl
      cases published : b.publish? ⟨Topic.action id name, value.compact⟩ with
      | error e => exact .inl ⟨e, .rejected thing declared found published⟩
      | ok sent => exact .inr ⟨_, _, .published thing declared found published⟩

/-- A write that ends is one of a thing. If the thing sends on a bus, there is the bus, or the write
    does not get as far as the bus, since the property is not declared. -/
theorem sends_of_run_write (h : (write call i name value).run s = some (outcome, s')) :
    ∃ d interaction, s.Sends i d interaction ∧ (d.properties.contains name = true →
      ∀ k id, interaction = .bus k id → ∃ b, s.buses.get? k = some b) := by
  rw [write, run_with_consumed] at h
  obtain ⟨c, d, hc, hd, h⟩ := h
  refine ⟨d, c.interaction, ⟨c, hc, hd, rfl⟩, fun declared k id hi => ?_⟩
  rw [if_pos declared, hi] at h
  obtain ⟨b, found, -⟩ := run_publish_eq_some.1 h
  exact ⟨b, found⟩

/-- The write of a property is handed over, or it fails, and then nothing has changed. -/
theorem write_eq_some_iff : (write call i name value).run s = some (outcome, s') ↔
    (outcome = .done ∧ Hands call i name value s s') ∨
      ∃ e, outcome = .error e ∧ Fails i s name value e ∧ s' = s := by
  constructor
  · intro h
    obtain ⟨d, interaction, thing, bus⟩ := sends_of_run_write h
    obtain ⟨e, fails⟩ | ⟨s₀, others, takes⟩ := fails_or_takes thing bus
    · obtain ⟨rfl, rfl⟩ := Prod.mk.inj (Option.some.inj (h.symm.trans (fails.run_write call)))
      exact .inr ⟨e, rfl, fails, rfl⟩
    · obtain ⟨⟨_, s₁⟩, received, he⟩ := Option.map_eq_some_iff.1 (takes.run_write.symm.trans h)
      obtain ⟨rfl, rfl⟩ := Prod.mk.inj he
      exact .inl ⟨rfl, s₀, others, takes, received⟩
  · rintro (⟨rfl, s₀, others, takes, received⟩ | ⟨e, rfl, fails, rfl⟩)
    · rw [takes.run_write, received]
      rfl
    · exact fails.run_write call

/-- Why a write fails depends on the description first, and then on where the thing sends. -/
theorem Fails.kind {interaction : Interaction} {e : Error} (h : Fails i s name value e)
    (thing : s.Sends i d interaction) :
    (d.properties.contains name = false → e.kind = .notFound) ∧
      (d.properties.contains name = true → interaction = .nowhere → e.kind = .missingHook) := by
  cases h with
  | undeclared thing' undeclared =>
    obtain ⟨rfl, -⟩ := thing.unique thing'
    exact ⟨fun _ => rfl, fun declared => absurd declared (by simp [undeclared])⟩
  | nowhere thing' declared =>
    obtain ⟨rfl, -⟩ := thing.unique thing'
    exact ⟨fun undeclared => absurd declared (by simp [undeclared]), fun _ _ => rfl⟩
  | refused thing' declared _ =>
    obtain ⟨rfl, rfl⟩ := thing.unique thing'
    exact ⟨fun undeclared => absurd declared (by simp [undeclared]), fun _ h => nomatch h⟩
  | rejected thing' declared _ _ =>
    obtain ⟨rfl, rfl⟩ := thing.unique thing'
    exact ⟨fun undeclared => absurd declared (by simp [undeclared]), fun _ h => nomatch h⟩

/-! ## Several writes -/

/-- The writes of properties are handed over one after another. -/
inductive HandsAll (call : Call) (i : ConsumedRef) : List (String × Json) → Site → Site → Prop
  /-- There are none. -/
  | nil {s : Site} : HandsAll call i [] s s
  /-- One is handed over, and then the others. -/
  | cons {s s₁ s' : Site} {name : String} {value : Json} {rest : List (String × Json)}
      (first : Hands call i name value s s₁) (others : HandsAll call i rest s₁ s') :
      HandsAll call i ((name, value) :: rest) s s'

/-- Nothing is left to write, or the next write fails. -/
inductive Stops (i : ConsumedRef) (s : Site) : List (String × Json) → Outcome → Prop
  /-- Nothing is left. -/
  | done : Stops i s [] .done
  /-- The next one fails. -/
  | failed {name : String} {value : Json} {rest : List (String × Json)} {e : Error}
      (fails : Fails i s name value e) : Stops i s ((name, value) :: rest) (.error e)

/-- Properties are written up to the first whose write fails, and that is how it ends. -/
theorem writeMany_eq_some_iff : (writeMany call i entries).run s = some (outcome, s') ↔
    ∃ sent rest, entries = sent ++ rest ∧ HandsAll call i sent s s' ∧
      Stops i s' rest outcome := by
  induction entries generalizing s with
  | nil =>
    constructor
    · intro h
      obtain ⟨rfl, rfl⟩ := Prod.mk.inj (Option.some.inj h)
      exact ⟨[], [], rfl, .nil, .done⟩
    · rintro ⟨sent, rest, hentries, hands, stops⟩
      obtain ⟨rfl, rfl⟩ := List.append_eq_nil_iff.1 hentries.symm
      cases hands
      cases stops
      rfl
  | cons entry entries ih =>
    obtain ⟨name, value⟩ := entry
    rw [writeMany, run_bind_eq_some]
    constructor
    · rintro ⟨first, s₁, hwrite, h⟩
      obtain ⟨rfl, hands⟩ | ⟨e, rfl, fails, rfl⟩ := write_eq_some_iff.1 hwrite
      · obtain ⟨sent, rest, rfl, handsAll, stops⟩ := ih.1 h
        exact ⟨(name, value) :: sent, rest, rfl, .cons hands handsAll, stops⟩
      · obtain ⟨rfl, rfl⟩ := Prod.mk.inj (Option.some.inj h)
        exact ⟨[], _, rfl, .nil, .failed fails⟩
    · rintro ⟨sent, rest, hentries, hands, stops⟩
      cases hands with
      | nil =>
        -- nothing was handed over, so the write that fails is the first one
        obtain rfl : _ = rest := hentries
        cases stops with
        | failed fails =>
          exact ⟨_, _, write_eq_some_iff.2 (.inr ⟨_, rfl, fails, rfl⟩), rfl⟩
      | cons first others =>
        obtain ⟨hentry, rfl⟩ := List.cons.inj hentries
        obtain ⟨rfl, rfl⟩ := Prod.mk.inj hentry
        exact ⟨_, _, write_eq_some_iff.2 (.inl ⟨rfl, first⟩),
          ih.2 ⟨_, rest, rfl, others, stops⟩⟩

/-- What nobody who receives a message changes about the consumed things, the writes do not change
    either. -/
theorem HandsAll.consumed {P : Table ConsumedThing → Prop}
    (others : ∀ name value s s₀ s₁ others, Takes call i s name value s₀ others →
      others.run s₀ = some (.unit, s₁) → P s₀.consumed → P s₁.consumed)
    (h : HandsAll call i entries s s') (hs : P s.consumed) : P s'.consumed := by
  induction h with
  | nil => exact hs
  | cons first _ ih =>
    obtain ⟨s₀, receive, takes, received⟩ := first
    exact ih (others _ _ _ _ _ _ takes received (takes.consumed ▸ hs))

/-! ## Writes to a recorder -/

/-- A recorder takes the write of a property that is declared, unless it refuses it. -/
def recorded (d : ThingDescription) (refuses : Bool) (refused : List String)
    (entry : String × Json) : Bool :=
  d.properties.contains entry.1 && !(refuses || refused.contains entry.1)

/-- How writes to a recorder end that takes none of those that are left. -/
def recordedOutcome (d : ThingDescription) : List (String × Json) → Outcome
  | [] => .done
  | (name, _) :: _ => .error (if d.properties.contains name then offline else d.noProperty name)

theorem write_of_recorded {refuses : Bool} {refused : List String}
    (thing : s.Sends i d (.recorder refuses refused))
    (h : recorded d refuses refused (name, value) = true) :
    (write call i name value).run s =
      some (.done, { s with journal := .written name value :: s.journal }) := by
  obtain ⟨declared, rfl, taken⟩ : d.properties.contains name = true ∧ refuses = false ∧
      name ∉ refused := by
    simpa [recorded] using h
  exact write_eq_some_iff.2 (.inl ⟨rfl, _, _, .noted thing declared taken, rfl⟩)

theorem write_of_not_recorded {refuses : Bool} {refused : List String}
    (thing : s.Sends i d (.recorder refuses refused))
    (h : recorded d refuses refused (name, value) = false) :
    (write call i name value).run s = some (recordedOutcome d [(name, value)], s) := by
  refine write_eq_some_iff.2 (.inr ⟨_, rfl, ?_, rfl⟩)
  cases declared : d.properties.contains name with
  | false => exact .undeclared thing declared
  | true =>
    refine .refused thing declared (Decidable.or_iff_not_imp_left.2 fun hrefuses => ?_)
    simpa [recorded, declared, hrefuses] using h

/-- A recorder notes the writes before the first that it does not take, in their order, and nothing
    else changes. -/
theorem writeMany_recorder {refuses : Bool} {refused : List String}
    (thing : s.Sends i d (.recorder refuses refused)) : (writeMany call i entries).run s =
      some (recordedOutcome d (entries.dropWhile (recorded d refuses refused)),
        { s with journal :=
            ((entries.takeWhile (recorded d refuses refused)).map
              fun (name, value) => .written name value).reverse ++ s.journal }) := by
  induction entries generalizing s with
  | nil => rfl
  | cons entry entries ih =>
    obtain ⟨name, value⟩ := entry
    rw [writeMany]
    cases h : recorded d refuses refused (name, value) with
    | true =>
      rw [run_bind_of_run (write_of_recorded thing h), List.takeWhile_cons_of_pos h,
        List.dropWhile_cons_of_pos h, List.map_cons, List.reverse_cons, List.append_assoc]
      exact ih thing
    | false =>
      rw [run_bind_of_run (write_of_not_recorded thing h),
        List.takeWhile_cons_of_neg (by simp [h]), List.dropWhile_cons_of_neg (by simp [h])]
      rfl

/-! ## What is handed over, and how it ends -/

/-- Writing properties hands over those before the first whose write fails, in their order and each
    once, and ends with its error, or well if there is none. A write that fails is not taken.
    A property that is not declared is not found, whatever the thing sends to; a thing that sends
    nowhere is missing what it needs; and any other write is refused where it is sent, or taken. The
    consumed things change only if those who receive the messages change them. -/
theorem writes_up_to_failure (call : Call) (i : ConsumedRef) (entries : List (String × Json))
    (s : Site) :
    (∀ outcome s', (writeMany call i entries).run s = some (outcome, s') ↔
      ∃ sent rest, entries = sent ++ rest ∧ HandsAll call i sent s s' ∧
        Stops i s' rest outcome) ∧
    (∀ now name value e s₀ others, Fails i now name value e →
      ¬ Takes call i now name value s₀ others) ∧
    (∀ now d interaction, now.Sends i d interaction → ∀ name value,
      (∀ e, Fails i now name value e →
        (d.properties.contains name = false → e.kind = .notFound) ∧
        (d.properties.contains name = true → interaction = .nowhere → e.kind = .missingHook)) ∧
      ((d.properties.contains name = true →
          ∀ k id, interaction = .bus k id → ∃ b, now.buses.get? k = some b) →
        (∃ e, Fails i now name value e) ∨
          ∃ s₀ others, Takes call i now name value s₀ others)) ∧
    (∀ P : Table ConsumedThing → Prop,
      (∀ name value now s₀ s₁ others, Takes call i now name value s₀ others →
        others.run s₀ = some (.unit, s₁) → P s₀.consumed → P s₁.consumed) →
      ∀ outcome s', (writeMany call i entries).run s = some (outcome, s') →
        P s.consumed → P s'.consumed) ∧
    ∀ d refuses refused, s.Sends i d (.recorder refuses refused) →
      (writeMany call i entries).run s =
        some (recordedOutcome d (entries.dropWhile (recorded d refuses refused)),
          { s with journal :=
              ((entries.takeWhile (recorded d refuses refused)).map
                fun (name, value) => .written name value).reverse ++ s.journal }) := by
  refine ⟨fun _ _ => writeMany_eq_some_iff, fun _ _ _ _ _ _ fails => fails.not_takes,
    fun _ _ _ thing _ _ => ⟨fun _ h => h.kind thing, fails_or_takes thing⟩, ?_,
    fun _ _ _ => writeMany_recorder⟩
  intro P others outcome s' h hs
  obtain ⟨_, _, -, hands, -⟩ := writeMany_eq_some_iff.1 h
  exact hands.consumed others hs

/-- A lamp whose handler of writes disconnects the bus. -/
def severing : Site := Link.lampSite ⟨[("", ⟨"sever", [.disconnect 0]⟩)]⟩ {}

/-- What comes of the write of its level. -/
def severed : Site :=
  { severing with
    buses := severing.buses.update 0 Bus.disconnect
    journal := [
      .acted "sever" (.request "level" (.ofNative .null (some {}))) (.disconnect 0)
        (.outcome .done),
      .called "sever" (.request "level" (.ofNative .null (some {})))]
    timeline := [.published 0 ⟨Topic.action "lamp" "level", Bytes.ofString "null"⟩] }

/-- The write of the level is handed over, and whoever receives it makes that of the power fail. -/
theorem writes_up_to_failure_lamp :
    HandsAll (calls 1) 0 [("level", .null)] severing severed ∧
      Fails 0 severed "power" .null (.notConnected (Topic.action "lamp" "power")) ∧
      (writeMany (calls 1) 0 [("level", .null), ("power", .null)]).run severing =
        some (.error (.notConnected (Topic.action "lamp" "power")), severed) := by
  have thing : severing.Sends 0 .lamp (.bus 0 "lamp") := ⟨_, rfl, rfl, rfl⟩
  have hands : HandsAll (calls 1) 0 [("level", .null)] severing severed :=
    .cons ⟨_, _, .published thing rfl rfl rfl, by cbv⟩ .nil
  have fails : Fails 0 severed "power" .null (.notConnected (Topic.action "lamp" "power")) :=
    .rejected (d := .lamp) (k := 0) ⟨_, rfl, rfl, rfl⟩ rfl rfl rfl
  exact ⟨hands, fails, ((writes_up_to_failure (calls 1) 0 _ severing).1 _ _).2
    ⟨[("level", .null)], [("power", .null)], rfl, hands, .failed fails⟩⟩

end Run

end WebOfThings
