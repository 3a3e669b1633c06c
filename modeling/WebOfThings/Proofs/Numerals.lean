import Mathlib
import WebOfThings.Json.Literal

/-!
# Numerals

How numbers are written and found again, digit for digit.

* `Literal.scan_text`: a well formed literal is found where its text stands, whatever follows that
  cannot be a part of it;
* `Number.wellFormed_literal`: every number that digits can spell is written by such a literal. For
  a double this rests on the grid of its first digit: the double is at least one step of it
  (`Ratio.le_decimalExponent`), so the digits found on it do not begin with a zero.
-/

namespace WebOfThings

/-! ## Digits -/

/-- What follows a number is none of what a number is made of. -/
def Literal.Ends (rest : Bytes) : Prop :=
  ∀ b ∈ rest.head?, Literal.digit? b = none ∧
    b ≠ '.'.toUInt8 ∧ b ≠ 'e'.toUInt8 ∧ b ≠ 'E'.toUInt8

theorem Literal.digit?_byte : ∀ d : Digit, Literal.digit? (Literal.byte d) = some d := by decide

theorem Literal.scanDigits_append (digits : List Digit) {rest : Bytes}
    (h : ∀ b ∈ rest.head?, Literal.digit? b = none) :
    Literal.scanDigits (digits.map Literal.byte ++ rest) = (digits, rest) := by
  induction digits with
  | nil =>
    cases rest with
    | nil => rfl
    | cons b rest => simp [Literal.scanDigits, h b rfl]
  | cons d digits ih => simp [Literal.scanDigits, Literal.digit?_byte, ih]

theorem decimalDigits_go (collected : List Digit) (n : Nat) :
    decimalDigits.go collected n = decimalDigits n ++ collected := by
  induction n using Nat.strongRecOn generalizing collected with
  | ind n ih =>
    rw [decimalDigits, decimalDigits.go.eq_def collected, decimalDigits.go.eq_def []]
    split
    · rfl
    · next h =>
      rw [ih (n / 10) (by omega), ih (n / 10) (by omega) [_], List.append_assoc]
      rfl

theorem decimalDigits_of_lt {n : Nat} (h : n < 10) : decimalDigits n = [Fin.ofNat 10 n] := by
  rw [decimalDigits, decimalDigits.go, if_pos h]

theorem decimalDigits_of_le {n : Nat} (h : 10 ≤ n) :
    decimalDigits n = decimalDigits (n / 10) ++ [Fin.ofNat 10 n] := by
  rw [decimalDigits, decimalDigits.go, if_neg (by omega), decimalDigits_go]

/-- Digits that do not begin with a zero. -/
inductive Leads : List Digit → Prop
  | cons {d : Digit} (hne : d ≠ 0) (rest : List Digit) : Leads (d :: rest)

theorem Leads.head_ne_zero {d : Digit} {rest : List Digit} (h : Leads (d :: rest)) : d ≠ 0 := by
  obtain ⟨hne, -⟩ := h
  exact hne

theorem Leads.ne_nil {digits : List Digit} (h : Leads digits) : digits ≠ [] := by
  obtain ⟨-, rest⟩ := h
  exact List.cons_ne_nil _ rest

theorem Leads.append {digits : List Digit} (h : Leads digits) (more : List Digit) :
    Leads (digits ++ more) := by
  obtain ⟨hne, rest⟩ := h
  exact .cons hne (rest ++ more)

/-- The digits of a positive number do not begin with a zero. -/
theorem leads_decimalDigits {n : Nat} (h : 0 < n) : Leads (decimalDigits n) := by
  induction n using Nat.strongRecOn with
  | ind n ih =>
    by_cases hlt : n < 10
    · rw [decimalDigits_of_lt hlt]
      refine .cons (fun hzero => ?_) []
      have := congrArg Fin.val hzero
      simp only [Fin.ofNat, Fin.val_zero] at this
      omega
    · rw [decimalDigits_of_le (by omega)]
      exact (ih (n / 10) (by omega) (by omega)).append _

theorem length_decimalDigits_pos (n : Nat) : 0 < (decimalDigits n).length := by
  by_cases hlt : n < 10
  · simp [decimalDigits_of_lt hlt]
  · simp [decimalDigits_of_le (Nat.le_of_not_lt hlt)]

/-- A number has the digits that its size asks for. -/
theorem decimalDigits_bounds {n : Nat} (h : 0 < n) :
    10 ^ ((decimalDigits n).length - 1) ≤ n ∧ n < 10 ^ (decimalDigits n).length := by
  induction n using Nat.strongRecOn with
  | ind n ih =>
    by_cases hlt : n < 10
    · simp only [decimalDigits_of_lt hlt, List.length_singleton]
      omega
    · obtain ⟨hlow, hhigh⟩ := ih (n / 10) (by omega) (by omega)
      have hpos := length_decimalDigits_pos (n / 10)
      rw [decimalDigits_of_le (by omega), List.length_append, List.length_singleton,
        Nat.add_sub_cancel, Nat.pow_succ]
      have hstep : 10 ^ (decimalDigits (n / 10)).length =
          10 * 10 ^ ((decimalDigits (n / 10)).length - 1) := by
        rw [← Nat.pow_succ', Nat.succ_eq_add_one, Nat.sub_add_cancel hpos]
      omega

/-- Digits that do not begin with a zero still do when the zeros at their end are cut off. -/
theorem Leads.stripZeros {digits : List Digit} (h : Leads digits) : Leads (stripZeros digits) := by
  obtain ⟨hne, rest⟩ := h
  rw [WebOfThings.stripZeros, List.reverse_cons, List.dropWhile_append]
  split
  · next hempty => simpa [hne] using .cons hne []
  · simpa using .cons hne _

theorem Leads.take {digits : List Digit} (h : Leads digits) (n : Nat) :
    Leads (digits.take (n + 1)) := by
  obtain ⟨hne, rest⟩ := h
  exact .cons hne (rest.take n)

/-! ## Literals -/

/-- A literal that can be read: there are digits before the point, they do not begin with a needless
    zero, and a power of ten has digits. -/
structure Literal.WellFormed (l : Literal) : Prop where
  whole : l.whole = [0] ∨ Leads l.whole
  exponent : ∀ power ∈ l.exponent, power.2 ≠ []

namespace Literal

variable {l : Literal} {rest : Bytes}

theorem WellFormed.whole_ne_nil (h : l.WellFormed) : l.whole ≠ [] := by
  obtain hzero | hleads := h.whole
  · simp [hzero]
  · exact hleads.ne_nil

/-- The text of the power of ten. -/
def exponentText (l : Literal) : Bytes :=
  match l.exponent with
  | none => []
  | some (negative, digits) =>
    'e'.toUInt8 :: (if negative then '-'.toUInt8 else '+'.toUInt8) :: digits.map byte

/-- The text of what stands after the whole digits. -/
def tail (l : Literal) : Bytes :=
  (if l.fraction = [] then [] else '.'.toUInt8 :: l.fraction.map byte) ++ l.exponentText

theorem text_eq (l : Literal) :
    l.text = (if l.negative then ['-'.toUInt8] else []) ++ (l.whole.map byte ++ l.tail) := by
  have htext : l.text = (if l.negative then ['-'.toUInt8] else []) ++ l.whole.map byte ++
      (if l.fraction = [] then [] else '.'.toUInt8 :: l.fraction.map byte) ++ l.exponentText := rfl
  rw [htext, tail, List.append_assoc, List.append_assoc]

theorem scanExponent_append (h : l.WellFormed) (hrest : Ends rest) :
    scanExponent (l.exponentText ++ rest) = some (l.exponent, rest) := by
  rw [exponentText]
  match he : l.exponent with
  | none =>
    cases rest with
    | nil => rfl
    | cons b rest =>
      obtain ⟨-, -, hlower, hupper⟩ := hrest b rfl
      simp [scanExponent, hlower, hupper]
  | some (negative, digits) =>
    have hdigits := scanDigits_append digits fun b hb => (hrest b hb).1
    have hsign : scanSign ((if negative then '-'.toUInt8 else '+'.toUInt8) ::
        (digits.map byte ++ rest)) = (negative, digits.map byte ++ rest) := by
      cases negative <;> rfl
    obtain ⟨d, digits, rfl⟩ := List.exists_cons_of_ne_nil (h.exponent _ he)
    simp only [List.cons_append, scanExponent, decide_true, Bool.true_or, if_true, hsign, hdigits]

/-- What follows the fraction begins with no digit and no point. -/
theorem head_exponentText (hrest : Ends rest) :
    ∀ b ∈ (l.exponentText ++ rest).head?, digit? b = none ∧ b ≠ '.'.toUInt8 := by
  intro b hb
  rw [exponentText] at hb
  split at hb
  · exact ⟨(hrest b hb).1, (hrest b hb).2.1⟩
  · cases hb
    decide

/-- What follows the whole digits begins with no digit. -/
theorem head_tail (hrest : Ends rest) : ∀ b ∈ (l.tail ++ rest).head?, digit? b = none := by
  intro b hb
  rw [tail] at hb
  split at hb
  · exact (head_exponentText hrest b hb).1
  · cases hb
    decide

theorem scanFraction_append (hrest : Ends rest) :
    scanFraction (l.tail ++ rest) = some (l.fraction, l.exponentText ++ rest) := by
  have hhead := head_exponentText (l := l) hrest
  rw [tail]
  split
  · next hnone =>
    rw [hnone, List.nil_append]
    match htext : l.exponentText ++ rest with
    | [] => rfl
    | b :: text =>
      rw [htext] at hhead
      rw [scanFraction, if_neg (hhead b rfl).2]
  · next hsome =>
    rw [List.cons_append, List.cons_append, scanFraction, if_pos rfl, List.append_assoc,
      scanDigits_append _ fun b hb => (hhead b hb).1]
    obtain ⟨d, digits, hd⟩ := List.exists_cons_of_ne_nil hsome
    rw [hd]

/-- A well formed literal is found where its text stands, if what follows is no part of it. -/
theorem scan_text (h : l.WellFormed) (hrest : Ends rest) :
    scan (l.text ++ rest) = some (l, rest) := by
  have hminus : scanMinus (l.text ++ rest) =
      (l.negative, l.whole.map byte ++ (l.tail ++ rest)) := by
    rw [text_eq, List.append_assoc, List.append_assoc]
    cases l.negative with
    | true => rfl
    | false =>
      have hbyte : ∀ d : Digit, byte d ≠ '-'.toUInt8 := by decide
      obtain ⟨d, digits, hd⟩ := List.exists_cons_of_ne_nil h.whole_ne_nil
      rw [hd]
      exact if_neg (hbyte d)
  rw [scan, hminus]
  simp only [scanDigits_append l.whole (head_tail hrest)]
  split
  · next hwhole =>
    obtain ⟨hempty, -⟩ := Prod.mk.inj hwhole
    exact absurd hempty h.whole_ne_nil
  · next hwhole =>
    obtain ⟨hzero, -⟩ := Prod.mk.inj hwhole
    obtain hone | hleads := h.whole
    · cases hzero.symm.trans hone
    · rw [hzero] at hleads
      exact absurd rfl hleads.head_ne_zero
  · next hwhole =>
    obtain ⟨rfl, rfl⟩ := Prod.mk.inj hwhole
    simp only [scanFraction_append hrest, scanExponent_append h hrest, Option.bind_eq_bind,
      Option.bind_some]

end Literal

/-! ## Numbers -/

namespace Ratio

theorem scale10_of_nonneg {power : Int} (h : 0 ≤ power) :
    scale10 1 power = ⟨10 ^ power.toNat, 1⟩ := by
  rw [scale10, if_pos h, Nat.one_mul]
  rfl

theorem scale10_of_neg {power : Int} (h : power < 0) :
    scale10 1 power = ⟨1, 10 ^ (-power).toNat⟩ :=
  if_neg (Int.not_le.2 h)

/-- A positive ratio is at least one step of the grid of its first digit, and of every finer one. -/
theorem le_decimalExponent {x : Ratio} (hnum : 0 < x.num) (hden : 0 < x.den) {power : Int}
    (h : power ≤ x.decimalExponent) :
    x.den * (scale10 1 power).num ≤ x.num * (scale10 1 power).den := by
  have hten {m n : Nat} (hmn : m ≤ n) : 10 ^ m ≤ 10 ^ n := Nat.pow_le_pow_right (by decide) hmn
  rw [decimalExponent] at h
  split at h
  · next hle =>
    obtain ⟨hlow, -⟩ := decimalDigits_bounds (Nat.div_pos hle hden)
    by_cases hpower : 0 ≤ power
    · have hgrid : 10 ^ power.toNat ≤ x.num / x.den := Nat.le_trans (hten (by omega)) hlow
      rw [scale10_of_nonneg hpower, Nat.mul_one, Nat.mul_comm]
      exact (Nat.le_div_iff_mul_le hden).1 hgrid
    · rw [scale10_of_neg (Int.not_le.1 hpower), Nat.mul_one]
      exact Nat.le_trans hle (Nat.le_mul_of_pos_right _ (Nat.pow_pos (by decide)))
  · next hlt =>
    have hinverse := Nat.div_pos (Nat.le_of_lt (Nat.lt_of_not_le hlt)) hnum
    obtain ⟨-, hhigh⟩ := decimalDigits_bounds hinverse
    have hlength := length_decimalDigits_pos (x.den / x.num)
    -- a ratio below one needs a grid finer than one, as fine as its inverse is long
    suffices power < 0 ∧ x.den ≤ x.num * 10 ^ (-power).toNat by
      rw [scale10_of_neg this.1, Nat.mul_one]
      exact this.2
    dsimp only at h
    split at h
    · next heq =>
      refine ⟨Int.not_le.1 fun hpower => hlt ?_, ?_⟩
      · have hone : (decimalDigits (x.den / x.num)).length - 1 = 0 := by omega
        rw [heq, hone]
        exact Nat.le_of_eq (Nat.mul_one _)
      · calc x.den = x.num * 10 ^ ((decimalDigits (x.den / x.num)).length - 1) := heq
          _ ≤ x.num * 10 ^ (-power).toNat := Nat.mul_le_mul_left _ (hten (by omega))
    · refine ⟨by omega, ?_⟩
      have hdiv : x.den / x.num < 10 ^ (-power).toNat := Nat.lt_of_lt_of_le hhigh (hten (by omega))
      rw [Nat.mul_comm]
      exact Nat.le_of_lt ((Nat.div_lt_iff_lt_mul hnum).1 hdiv)

end Ratio

namespace RoundingInterval

variable {i : RoundingInterval}

/-- No neighbour on such a grid is zero. -/
theorem pos_of_pick (hnum : 0 < i.value.num) (hden : 0 < i.value.den) {power : Int}
    (h : power ≤ i.value.decimalExponent) {n : Nat} (hpick : i.pick power = some n) : 0 < n := by
  have hgrid : 0 < (Ratio.scale10 1 power).num := by
    rw [Ratio.scale10]
    split
    · exact Nat.mul_pos Nat.one_pos (Nat.pow_pos (by decide))
    · exact Nat.one_pos
  have hdown := Nat.div_pos (Ratio.le_decimalExponent hnum hden h) (Nat.mul_pos hden hgrid)
  simp only [pick] at hpick
  split at hpick
  · cases hpick
  · cases hpick
    exact hdown
  · cases hpick
    exact Nat.succ_pos _
  · split at hpick
    · cases hpick
      exact hdown
    split at hpick
    · cases hpick
      exact Nat.succ_pos _
    · cases hpick
      exact Nat.add_pos_left hdown _

/-- The search finds a positive number, or nothing at all. -/
theorem pos_or_eq_of_search (hnum : 0 < i.value.num) (hden : 0 < i.value.den) (more : Nat)
    {length : Nat} (hlength : 0 < length) :
    0 < (i.search i.value.decimalExponent length more).1 ∨
      i.search i.value.decimalExponent length more = (0, 0) := by
  induction more generalizing length with
  | zero => exact .inr rfl
  | succ more ih =>
    simp only [search]
    split
    · next hpick => exact .inl (pos_of_pick hnum hden (by omega) hpick)
    · exact ih (Nat.succ_pos _)

end RoundingInterval

/-- Digits of a decimal number that a literal can be made of. -/
inductive Decimal.Spells : Decimal → Prop
  | leading {d : Decimal} (h : Leads d.digits) : Spells d
  | zero : Spells ⟨[0], 0⟩
  | nothing : Spells ⟨[], 0⟩

theorem Double.unit_pos : 0 < unit := by
  unfold unit
  generalize 1074 = power
  exact Nat.two_pow_pos power

/-- The fewest digits of a double do not begin with a zero, unless it is zero. -/
theorem Double.spells_shortest (mantissa power : Nat) : (shortest mantissa power).Spells := by
  rw [shortest]
  split
  · exact .zero
  · next hne =>
    have hnum : 0 < (RoundingInterval.ofDouble mantissa power).value.num :=
      Nat.mul_pos (Nat.mul_pos (by decide) (Nat.pos_of_ne_zero hne)) (Nat.pow_pos (by decide))
    have hden : 0 < (RoundingInterval.ofDouble mantissa power).value.den :=
      Nat.mul_pos (by decide) unit_pos
    obtain hpos | hnothing := RoundingInterval.pos_or_eq_of_search hnum hden 17 Nat.one_pos
    · exact .leading (leads_decimalDigits hpos).stripZeros
    · simp only [hnothing, decimalDigits_of_lt (show 0 < 10 by decide)]
      exact .nothing

namespace Number

theorem wellFormed_literalOfDecimal (negative : Bool) {d : Decimal} (h : d.Spells) :
    (literalOfDecimal negative d).WellFormed := by
  rw [literalOfDecimal]
  split
  · split
    · refine ⟨?_, fun _ hpower => nomatch hpower⟩
      cases h with
      | leading h => exact .inr ((h.take _).append _)
      | zero => exact .inl rfl
      | nothing => exact .inl rfl
    · exact ⟨.inl rfl, fun _ hpower => nomatch hpower⟩
  · next hpositional =>
    cases h with
    | leading h =>
      refine ⟨.inr (h.take 0), ?_⟩
      intro power hpower
      cases hpower
      exact List.ne_nil_of_length_pos (length_decimalDigits_pos _)
    | zero => exact absurd rfl hpositional
    | nothing => exact absurd rfl hpositional

/-- Every number is written by a literal that can be read. -/
theorem wellFormed_literal {n : Number} {l : Literal} (h : n.literal = some l) : l.WellFormed := by
  match n with
  | integer i =>
    cases h
    refine ⟨?_, fun _ hpower => nomatch hpower⟩
    by_cases hzero : i.natAbs = 0
    · rw [hzero]
      exact .inl (decimalDigits_of_lt (by decide))
    · exact .inr (leads_decimalDigits (Nat.pos_of_ne_zero hzero))
  | double (.finite negative mantissa power) =>
    cases h
    exact wellFormed_literalOfDecimal negative (Double.spells_shortest mantissa power)

end Number

end WebOfThings
