import WebOfThings.Proofs.Resubscription

/-!
# Waiting longer and longer

After a failure the loop of a session waits before it tries again. How long says the policy, by the
number of failures that came before since the broker last accepted the session, or since the loop
began. The loop counts them, and stops counting at the largest number of 32 bits.

* `History.attempt_eq`: what a loop has counted is what it has seen, whatever else happened to the
  client in between.
* `Duration.timesInWords?_eq`: a machine has the seconds of a duration in a word of 64 bits and the
  rest in one of 32. A product with a factor of 32 bits is computed in such words without an
  overflow, and is missing only if its seconds do not fit.
* `ReconnectPolicy.delay_eq`: so a wait is the exact multiple of the first one, or the bound if that
  is shorter.
* `backs_off`: the waits of a loop are those of its policy, and these grow to the bound. They double
  up to it, unless the factor of 32 bits is too small for that.
-/

namespace WebOfThings

/-! ## Failures in a row -/

/-- Whether the connection failed. -/
def SessionEvent.isFailure : SessionEvent → Bool
  | failed _ => true
  | accepted | refused | message .. | ended | sent _ => false

/-- How many failures came since the session was last accepted, among events of which the latest
    comes first. -/
def SessionEvent.failures (events : List SessionEvent) : Nat :=
  (events.takeWhile (· ≠ .accepted)).countP isFailure

theorem SessionEvent.failures_failed (reason : String) (events : List SessionEvent) :
    failures (.failed reason :: events) = failures events + 1 := by
  simp [failures, List.countP_cons, isFailure]

namespace ClientStep

variable {α : Type}

/-- What the loop of a session sees. -/
def event? (i : Nat) : ClientStep α → Option SessionEvent
  | see j event => if j = i then some event else none
  | _ => none

theorem event?_see (i : Nat) (event : SessionEvent) :
    (see i event : ClientStep α).event? i = some event := if_pos rfl

/-- How many failures the loop of a session has seen since the session was last accepted, or since
    the loop began, among steps of which the latest comes first. -/
def failures (i : Nat) (steps : List (ClientStep α)) : Nat :=
  SessionEvent.failures (steps.filterMap (event? i))

theorem failures_cons {i : Nat} {step : ClientStep α} {event : SessionEvent}
    (h : step.event? i = some event) (steps : List (ClientStep α)) :
    failures i (step :: steps) = SessionEvent.failures (event :: steps.filterMap (event? i)) := by
  rw [failures, List.filterMap_cons_some h]

theorem failures_cons_of_none {i : Nat} {step : ClientStep α} (h : step.event? i = none)
    (steps : List (ClientStep α)) : failures i (step :: steps) = failures i steps := by
  rw [failures, List.filterMap_cons_none h, failures]

end ClientStep

/-- One more event, and a loop that has counted the failures so far still has. -/
theorem Session.attempt_react {s : Session} {events : List SessionEvent}
    (h : s.attempt = min (SessionEvent.failures events) attemptLimit) (event : SessionEvent) :
    (s.react event).attempt = min (SessionEvent.failures (event :: events)) attemptLimit := by
  cases event with
  | accepted => simp [react, SessionEvent.failures]
  | failed reason =>
    simp only [react, h, SessionEvent.failures_failed]
    omega
  | refused | message | ended | sent =>
    simpa [react, SessionEvent.failures, SessionEvent.isFailure] using h

namespace BusClient

variable {α : Type} {config : BusConfig} {steps : List (ClientStep α)} {c c' : BusClient α}
  {i : Nat} {s : Session}

/-- How many failures the loop of a session has counted: none if it did not begin. -/
def attempt (c : BusClient α) (i : Nat) : Nat := ((c.sessions.get? i).map (·.attempt)).getD 0

theorem attempt_of_get? (hs : c.sessions.get? i = some s) : c.attempt i = s.attempt := by
  simp [attempt, hs]

/-- A session changes, but not what its loop counted. -/
theorem attempt_update (c : BusClient α) (j : Nat) {change : Session → Session}
    (h : ∀ s, (change s).attempt = s.attempt) (i : Nat) :
    { c with sessions := c.sessions.update j change }.attempt i = c.attempt i :=
  congrArg (·.getD 0) (Table.map_get?_update h c.sessions j i)

theorem attempt_of_request? {r : BrokerRequest} (h : c.request? r = some c') (i : Nat) :
    c'.attempt i = c.attempt i := by
  obtain rfl | ⟨j, _, -, -, -, rfl⟩ := cases_of_request? h
  · rfl
  · exact attempt_update c j (fun _ => by rfl) i

/-- A request is handed to the session, or refused. -/
theorem attempt_ask (c : BusClient α) (r : BrokerRequest) (i : Nat) :
    ((c.request? r).getD c).attempt i = c.attempt i := by
  cases hr : c.request? r with
  | none => rfl
  | some => exact attempt_of_request? hr i

theorem attempt_cancel (c : BusClient α) (i : Nat) : c.cancel.attempt i = c.attempt i := by
  simp only [cancel]
  split
  · rfl
  · next j _ => exact attempt_update c j (fun _ => by rfl) i

theorem attempt_disconnect (c : BusClient α) (i : Nat) : c.disconnect.attempt i = c.attempt i := by
  have htold : (if c.isConnected then (c.request? .disconnect).getD c else c).attempt i =
      c.attempt i := by
    split
    · exact attempt_ask c .disconnect i
    · rfl
  rw [← htold]
  exact attempt_cancel _ i

/-- A loop begins with nothing counted. -/
theorem attempt_start (c : BusClient α) (broker : Broker) (credentials : Credentials) (i : Nat) :
    (c.start broker credentials).2.attempt i = c.attempt i := by
  rw [← attempt_disconnect c i]
  simp only [start]
  split
  · rfl
  · rw [cancel_of_none (installed_disconnect c)]
    simp only [attempt, Table.get?_add]
    split
    · next hi => simp [hi, Table.get?_next]
    · rfl

/-- Only what its loop sees makes a difference to what a session counts. -/
theorem attempt_react_of_ne (c : BusClient α) {j : Nat} (hj : j ≠ i) (event : SessionEvent) :
    (c.react j event).attempt i = c.attempt i := by
  have hother (c : BusClient α) (change : Session → Session) :
      { c with sessions := c.sessions.update j change }.attempt i = c.attempt i := by
    simp [attempt, Table.get?_update, hj]
  have hnote := hother c (·.react event)
  cases event with
  | accepted =>
    simp only [react]
    split
    · exact (hother { c with sessions := c.sessions.update j (·.react .accepted) } _).trans hnote
    · exact hnote
  | ended | failed => simp only [react]; split <;> exact hnote
  | refused | message | sent => exact hnote

theorem attempt_react (hs : c.sessions.get? i = some s) (event : SessionEvent) :
    (c.react i event).attempt i = (s.react event).attempt := by
  have hnote : { c with sessions := c.sessions.update i (·.react event) }.attempt i =
      (s.react event).attempt := by
    simp [attempt, Table.get?_update, hs]
  cases event with
  | accepted =>
    simp only [react]
    split
    · refine (attempt_update _ i (fun s => ?_) i).trans hnote
      rw [Session.subscribeAll_eq]
    · exact hnote
  | ended | failed => simp only [react]; split <;> exact hnote
  | refused | message | sent => exact hnote

/-- Whatever happens to a client, each of its loops has counted the failures that it has seen since
    its session was last accepted, as far as it counts. -/
theorem History.attempt_eq (h : History config steps c) (i : Nat) :
    c.attempt i = min (ClientStep.failures i steps) Session.attemptLimit := by
  induction h with
  | new => rfl
  | @step steps c step _ hbegun ih =>
    cases step with
    | see j event =>
      by_cases hj : j = i
      · subst hj
        obtain ⟨s, hs⟩ : ∃ s, c.sessions.get? j = some s :=
          ⟨_, List.getElem?_eq_getElem (hbegun j event rfl)⟩
        rw [attempt_of_get? hs] at ih
        rw [ClientStep.failures_cons (ClientStep.event?_see ..), BusClient.step, attempt_react hs]
        exact Session.attempt_react ih event
      · have hother : (.see j event : ClientStep α).event? i = none := if_neg hj
        rw [ClientStep.failures_cons_of_none hother, ← ih]
        exact attempt_react_of_ne c hj event
    | start broker credentials =>
      rw [ClientStep.failures_cons_of_none rfl, ← ih]
      exact attempt_start c broker credentials i
    | conclude broker =>
      rw [ClientStep.failures_cons_of_none rfl, ← ih]
      simp only [BusClient.step, conclude]
      split
      · rfl
      · exact attempt_disconnect c i
    | disconnect =>
      rw [ClientStep.failures_cons_of_none rfl, ← ih]
      exact attempt_disconnect c i
    | publish m =>
      rw [ClientStep.failures_cons_of_none rfl, ← ih, step_publish]
      split
      · exact attempt_ask c _ i
      · rfl
    | subscribe filter receiver =>
      rw [ClientStep.failures_cons_of_none rfl, ← ih, step_subscribe]
      dsimp only
      split
      · exact attempt_ask _ _ i
      · rfl
    | unsubscribe filter =>
      rw [ClientStep.failures_cons_of_none rfl, ← ih, step_unsubscribe]
      dsimp only
      split
      · exact attempt_ask _ _ i
      · rfl

end BusClient

/-! ## Durations in the words of a machine -/

/-- A number, if it fits a word of so many bits. -/
def word? (bits n : Nat) : Option Nat := if n < Nat.pow 2 bits then some n else none

theorem word?_eq_some {bits n : Nat} (h : n < Nat.pow 2 bits) : word? bits n = some n := if_pos h

namespace Duration

variable {d : Duration} {factor : Nat}

/-- The seconds of a duration fit a word. All durations that a machine has do. -/
def Fits (d : Duration) : Prop := d.seconds < secondsLimit

instance : DecidablePred Fits := fun d => inferInstanceAs (Decidable (d.seconds < secondsLimit))

theorem perSecond_pos : 0 < perSecond := by decide

theorem subsecond_lt (d : Duration) : d.subsecond < perSecond := Nat.mod_lt _ perSecond_pos

theorem fits_iff : d.Fits ↔ d.nanoseconds < secondsLimit * perSecond :=
  Nat.div_lt_iff_lt_mul perSecond_pos

/-- A duration, so many times. -/
def times (d : Duration) (factor : Nat) : Duration := ⟨d.nanoseconds * factor⟩

/-- A duration of seconds and the nanoseconds beyond them, which have to be less than a second. -/
def ofWords? (seconds rest : Nat) : Option Duration :=
  if rest < perSecond then some (ofParts seconds rest) else none

/-- A duration times a factor, in words: the nanoseconds beyond the seconds are multiplied first,
    and their seconds carried over. There is no result if a step overflows, and the result is that
    there is no product if the seconds do: these two steps are checked. -/
def timesInWords? (d : Duration) (factor : Nat) : Option (Option Duration) := do
  let total ← word? 64 (d.subsecond * factor)
  let rest ← word? 32 (total % perSecond)
  let seconds? :=
    (word? 64 (d.seconds * factor)).bind fun whole => word? 64 (whole + total / perSecond)
  match seconds? with
  | none => some none
  | some seconds => (ofWords? seconds rest).map some

/-- The product of the nanoseconds alone, and what is carried over to the seconds. -/
theorem nanoseconds_times (d : Duration) (factor : Nat) :
    (d.times factor).nanoseconds =
      d.subsecond * factor + perSecond * (d.seconds * factor) := by
  calc d.nanoseconds * factor
      = (perSecond * d.seconds + d.subsecond) * factor := by
        rw [seconds, subsecond, Nat.div_add_mod]
    _ = d.subsecond * factor + perSecond * (d.seconds * factor) := by
      rw [Nat.add_mul, Nat.mul_assoc, Nat.add_comm]

theorem seconds_times (d : Duration) (factor : Nat) :
    (d.times factor).seconds = d.seconds * factor + d.subsecond * factor / perSecond := by
  rw [seconds, nanoseconds_times, Nat.add_mul_div_left _ _ perSecond_pos, Nat.add_comm]

theorem subsecond_times (d : Duration) (factor : Nat) :
    (d.times factor).subsecond = d.subsecond * factor % perSecond := by
  rw [subsecond, nanoseconds_times, Nat.add_mul_mod_self_left]

/-- A duration is put together from its parts. -/
theorem ofWords?_parts (d : Duration) : ofWords? d.seconds d.subsecond = some d := by
  rw [ofWords?, if_pos d.subsecond_lt]
  simp [ofParts, seconds, subsecond, Nat.div_add_mod']

/-- The seconds of a product are computed in words if they fit one. -/
theorem seconds_timesInWords? (d : Duration) (factor : Nat) :
    ((word? 64 (d.seconds * factor)).bind fun whole =>
      word? 64 (whole + d.subsecond * factor / perSecond)) =
        if (d.times factor).Fits then some (d.times factor).seconds else none := by
  simp only [Fits, seconds_times, secondsLimit, word?]
  -- the seconds are at least the product of the seconds alone
  split
  · rfl
  · next hwhole =>
    rw [if_neg fun hall => hwhole (Nat.lt_of_le_of_lt (Nat.le_add_right _ _) hall),
      Option.bind_none]

/-- A product with a factor of 32 bits is computed without an overflow, and is there if and only if
    it fits. -/
theorem timesInWords?_eq (hfactor : factor < Nat.pow 2 32) (d : Duration) :
    d.timesInWords? factor =
      some (if (d.times factor).Fits then some (d.times factor) else none) := by
  have htotal : d.subsecond * factor < Nat.pow 2 64 :=
    calc d.subsecond * factor
        ≤ perSecond * factor := Nat.mul_le_mul_right _ (Nat.le_of_lt d.subsecond_lt)
      _ < perSecond * Nat.pow 2 32 := Nat.mul_lt_mul_of_pos_left hfactor perSecond_pos
      _ ≤ Nat.pow 2 64 := by decide
  have hrest : d.subsecond * factor % perSecond < Nat.pow 2 32 :=
    Nat.lt_trans (Nat.mod_lt _ perSecond_pos) (by decide)
  simp only [timesInWords?, word?_eq_some htotal, word?_eq_some hrest, Option.bind_eq_bind,
    Option.bind_some, seconds_timesInWords?]
  by_cases hfits : (d.times factor).Fits
  · simp only [hfits, if_true]
    rw [← subsecond_times, ofWords?_parts, Option.map_some]
  · simp only [hfits, if_false]

end Duration

/-! ## What a policy says -/

namespace ReconnectPolicy

variable {p : ReconnectPolicy} {a b n : Nat}

theorem factor_lt (n : Nat) : factor n < Nat.pow 2 32 := by
  rw [factor]
  split
  · next hn => exact Nat.pow_lt_pow_right (by decide) hn
  · decide

theorem factor_of_lt (h : n < 32) : factor n = Nat.pow 2 n := if_pos h

theorem factor_of_le (h : 32 ≤ n) : factor n = Nat.pow 2 32 - 1 := if_neg (Nat.not_lt.2 h)

/-- A factor is as large as a later one at most. -/
theorem factor_le_factor (h : a ≤ b) : factor a ≤ factor b := by
  by_cases hb : b < 32
  · rw [factor_of_lt hb, factor_of_lt (Nat.lt_of_le_of_lt h hb)]
    exact Nat.pow_le_pow_right (by decide) h
  · rw [factor_of_le (Nat.not_lt.1 hb)]
    exact Nat.le_sub_one_of_lt (factor_lt a)

/-- How long to wait, computed in words. There is no result if a step overflows. -/
def delayInWords? (p : ReconnectPolicy) (attempt : Nat) : Option Duration := do
  let factor ← word? 32 (factor attempt)
  let product ← p.initial.timesInWords? factor
  return product.elim p.max fun product => ⟨min product.nanoseconds p.max.nanoseconds⟩

/-- The wait is the multiple of the first one if that is a duration, and not longer than the
    bound. -/
theorem delay_eq_ite (p : ReconnectPolicy) (n : Nat) :
    p.delay n = if (p.initial.times (factor n)).Fits then
      ⟨min (p.initial.times (factor n)).nanoseconds p.max.nanoseconds⟩ else p.max := by
  simp only [delay, Duration.fits_iff, Duration.times]

/-- Nothing overflows. -/
theorem delayInWords?_eq (p : ReconnectPolicy) (n : Nat) :
    p.delayInWords? n = some (p.delay n) := by
  simp only [delayInWords?, word?_eq_some (factor_lt n), Duration.timesInWords?_eq (factor_lt n),
    Option.bind_eq_bind, Option.bind_some, delay_eq_ite, Option.pure_def]
  split <;> rfl

/-- A multiple that is no duration is longer than the bound, which is one. -/
theorem delay_eq (hmax : p.max.Fits) (n : Nat) :
    p.delay n = ⟨min (p.initial.nanoseconds * factor n) p.max.nanoseconds⟩ := by
  rw [delay_eq_ite]
  split
  · rfl
  · next hfits =>
    rw [Duration.fits_iff, Nat.not_lt] at hfits
    have hlonger : p.max.nanoseconds ≤ p.initial.nanoseconds * factor n :=
      Nat.le_trans (Nat.le_of_lt (Duration.fits_iff.1 hmax)) hfits
    rw [Nat.min_eq_right hlonger]

/-- No wait is longer than the bound. -/
theorem delay_le_max (hmax : p.max.Fits) (n : Nat) :
    (p.delay n).nanoseconds ≤ p.max.nanoseconds := by
  rw [delay_eq hmax]
  exact Nat.min_le_right ..

/-- After more failures the loop waits longer, or as long. -/
theorem delay_le_delay (hmax : p.max.Fits) (h : a ≤ b) :
    (p.delay a).nanoseconds ≤ (p.delay b).nanoseconds := by
  have hproduct : p.initial.nanoseconds * factor a ≤ p.initial.nanoseconds * factor b :=
    Nat.mul_le_mul_left _ (factor_le_factor h)
  rw [delay_eq hmax, delay_eq hmax]
  dsimp only
  omega

/-- The wait is the first one doubled each time, or the bound, if and only if the factor fits 32
    bits, or the largest factor reaches the bound, or there is nothing to multiply. -/
theorem delay_eq_doubled_iff (hmax : p.max.Fits) :
    p.delay n = ⟨min (p.initial.nanoseconds * Nat.pow 2 n) p.max.nanoseconds⟩ ↔
      n < 32 ∨ p.max.nanoseconds ≤ p.initial.nanoseconds * (Nat.pow 2 32 - 1) ∨
        p.initial.nanoseconds = 0 := by
  rw [delay_eq hmax, Duration.mk.injEq]
  by_cases hn : n < 32
  · simp [factor_of_lt hn, hn]
  · -- the factor is too small by now, which shows below the bound
    rw [factor_of_le (Nat.not_lt.1 hn)]
    have hfactor : Nat.pow 2 32 - 1 < Nat.pow 2 n :=
      Nat.sub_one_lt_of_le (by decide) (Nat.pow_le_pow_right (by decide) (Nat.not_lt.1 hn))
    have hle : p.initial.nanoseconds * (Nat.pow 2 32 - 1) ≤
        p.initial.nanoseconds * Nat.pow 2 n := Nat.mul_le_mul_left _ (Nat.le_of_lt hfactor)
    by_cases hzero : p.initial.nanoseconds = 0
    · simp [hzero]
    · have hlt : p.initial.nanoseconds * (Nat.pow 2 32 - 1) <
          p.initial.nanoseconds * Nat.pow 2 n :=
        Nat.mul_lt_mul_of_pos_left hfactor (Nat.pos_of_ne_zero hzero)
      omega

end ReconnectPolicy

namespace BusClient

/-- Whatever the policy is, as long as its bound is a duration of a machine: after the `k`th failure
    since its session was last accepted, or since it began, a loop waits for what the policy says of
    `k - 1`, and it waits after nothing else. What the policy says never becomes shorter with more
    failures, and is never longer than the bound; it is computed without an overflow; and it is the
    first wait doubled each time, or the bound if that is shorter, exactly where the factor fits 32
    bits, or the largest factor reaches the bound, or there is nothing to multiply. -/
theorem backs_off {α : Type} (p : ReconnectPolicy) (hmax : p.max.Fits) :
    (∀ (config : BusConfig) (steps : List (ClientStep α)) (c : BusClient α),
      config.reconnect = p → History config steps c → ∀ i s, c.sessions.get? i = some s →
        s.attempt ≤ Session.attemptLimit ∧
        ∀ event, s.wait? c.config.reconnect event =
          if event.isFailure then
            some (p.delay (min (ClientStep.failures i (.see i event :: steps) - 1)
              Session.attemptLimit))
          else none) ∧
    (∀ a b, a ≤ b → (p.delay a).nanoseconds ≤ (p.delay b).nanoseconds ∧
      (p.delay b).nanoseconds ≤ p.max.nanoseconds) ∧
    (∀ n, p.delayInWords? n = some (p.delay n)) ∧
    ∀ n, p.delay n = ⟨min (p.initial.nanoseconds * Nat.pow 2 n) p.max.nanoseconds⟩ ↔
      n < 32 ∨ p.max.nanoseconds ≤ p.initial.nanoseconds * (Nat.pow 2 32 - 1) ∨
        p.initial.nanoseconds = 0 := by
  refine ⟨fun config steps c hp h i s hs => ?_,
    fun a b hab => ⟨p.delay_le_delay hmax hab, p.delay_le_max hmax b⟩, p.delayInWords?_eq,
    fun n => p.delay_eq_doubled_iff hmax⟩
  have hcounted : s.attempt = min (ClientStep.failures i steps) Session.attemptLimit :=
    attempt_of_get? hs ▸ h.attempt_eq i
  refine ⟨hcounted ▸ Nat.min_le_right .., fun event => ?_⟩
  cases event with
  | failed reason =>
    have hone : ClientStep.failures i (.see i (.failed reason) :: steps) =
        ClientStep.failures i steps + 1 := by
      rw [ClientStep.failures_cons (ClientStep.event?_see ..), SessionEvent.failures_failed,
        ClientStep.failures]
    rw [hone, Nat.add_sub_cancel, ← hcounted, h.stocked.settings, hp]
    rfl
  | accepted | refused | message | ended | sent => rfl

/-- The lamp's client waits for a tenth of a second at first, and for a second at most. Its session
    failed once before it was accepted and twice since: after the third failure its loop waits for
    four tenths, and it would wait for a second after the forty-first. -/
theorem backs_off_lamp :
    ∃ (p : ReconnectPolicy) (c : BusClient Unit) (s : Session),
      p = ⟨.ofMilliseconds 100, .ofSeconds 1⟩ ∧ p.max.Fits ∧
      History { clientId := "lamp", reconnect := p }
        [.see 0 (.failed "lost"), .see 0 (.failed "lost"), .see 0 .accepted,
          .see 0 (.failed "late"), .start ⟨"localhost", 1883⟩ .anonymous] c ∧
      c.sessions.get? 0 = some s ∧
      s.wait? c.config.reconnect (.failed "lost") = some (.ofMilliseconds 400) ∧
      p.delayInWords? 40 = some (.ofSeconds 1) ∧
      (p.delay 2).nanoseconds ≤ (p.delay 40).nanoseconds := by
  have hmax : (Duration.ofSeconds 1).Fits := by decide
  have h : History { clientId := "lamp", reconnect := ⟨.ofMilliseconds 100, .ofSeconds 1⟩ }
      [.see 0 (.failed "late"), .start ⟨"localhost", 1883⟩ .anonymous] (_ : BusClient Unit) :=
    .step (.step .new nofun) (by rintro _ _ ⟨⟩; decide)
  have h : History { clientId := "lamp", reconnect := ⟨.ofMilliseconds 100, .ofSeconds 1⟩ }
      [.see 0 (.failed "lost"), .see 0 (.failed "lost"), .see 0 .accepted,
        .see 0 (.failed "late"), .start ⟨"localhost", 1883⟩ .anonymous] (_ : BusClient Unit) :=
    .step (.step (.step h (by rintro _ _ ⟨⟩; decide)) (by rintro _ _ ⟨⟩; decide))
      (by rintro _ _ ⟨⟩; decide)
  obtain ⟨hwaits, hgrows, hwords, hexact⟩ :=
    backs_off (α := Unit) ⟨.ofMilliseconds 100, .ofSeconds 1⟩ hmax
  have hwait := (hwaits _ _ _ rfl h 0 _ rfl).2 (.failed "lost")
  have hbound := (hexact 40).2 (.inr (.inl (by decide)))
  exact ⟨_, _, _, rfl, hmax, h, rfl, hwait.trans (by decide),
    (hwords 40).trans (congrArg some (hbound.trans (by decide +kernel))),
    (hgrows 2 40 (by decide)).1⟩

end BusClient

end WebOfThings
