import WebOfThings.Json.Quoted

/-!
# Quotation

Every text survives being put between quotes. A byte is written as it is, as a letter or as a number
(`escape_cases`); in each case what is written for it is found as one piece and stands for that byte
(`scan_escape`, `unescape_escape`). So, byte for byte:

* `scan_encode`: what is found up to the closing quote is what was written;
* `decode_encode`: it is understood as the text.
-/

namespace WebOfThings.Quoted

/-- The escape of a control character by its number. -/
def numberEscape (b : UInt8) : Bytes :=
  [backslash, letterU, 0x30, 0x30, Bytes.hexDigit (b.toNat / 16), Bytes.hexDigit (b.toNat % 16)]

/-- How a byte is written: as it is, by a letter, or by its number. -/
theorem escape_cases (b : UInt8) :
    (escape b = [b] ∧ b ≠ quote ∧ b ≠ backslash ∧ ¬ b < 0x20) ∨
    (∃ e, escape b = [backslash, e] ∧ e ≠ letterU ∧ letterEscape? e = some b) ∨
    (escape b = numberEscape b ∧ b < 0x20) := by
  simp only [escape]
  split
  · next h =>
    have heither : b = quote ∨ b = backslash := by simpa using h
    rcases heither with rfl | rfl
    · exact .inr (.inl ⟨quote, rfl, by decide, by decide⟩)
    · exact .inr (.inl ⟨backslash, rfl, by decide, by decide⟩)
  next hplain =>
  split
  · next h => exact .inr (.inl ⟨0x62, rfl, by decide, by rw [h]; decide⟩)
  split
  · next h => exact .inr (.inl ⟨0x74, rfl, by decide, by rw [h]; decide⟩)
  split
  · next h => exact .inr (.inl ⟨0x6E, rfl, by decide, by rw [h]; decide⟩)
  split
  · next h => exact .inr (.inl ⟨0x66, rfl, by decide, by rw [h]; decide⟩)
  split
  · next h => exact .inr (.inl ⟨0x72, rfl, by decide, by rw [h]; decide⟩)
  split
  · next h => exact .inr (.inr ⟨rfl, h⟩)
  · next h =>
    rw [Bool.or_eq_true, decide_eq_true_eq, decide_eq_true_eq, not_or] at hplain
    exact .inl ⟨rfl, hplain.1, hplain.2, h⟩

/-- The number of a control character is read back. -/
theorem hexUnit?_control {b : UInt8} (h : b < 0x20) :
    hexUnit? 0x30 0x30 (Bytes.hexDigit (b.toNat / 16)) (Bytes.hexDigit (b.toNat % 16)) =
      some b.toNat := by
  have hlt : b.toNat < 32 := UInt8.lt_iff_toNat_lt.1 h
  have hzero : Bytes.hexValue? 0x30 = some 0 := by decide
  simp only [hexUnit?, hzero, Bytes.hexValue?_hexDigit (b.toNat / 16) (by omega),
    Bytes.hexValue?_hexDigit (b.toNat % 16) (by omega), Option.bind_eq_bind, Option.bind_some,
    Option.some.injEq]
  omega

/-- A control character is its own encoding. -/
theorem utf8_control {b : UInt8} (h : b < 0x20) : utf8 b.toNat = [b] := by
  have hlt : b.toNat < 32 := UInt8.lt_iff_toNat_lt.1 h
  have hall : ∀ n < 32, utf8 n = [UInt8.ofNat n] := by decide
  rw [hall b.toNat hlt, UInt8.ofNat_toNat]

/-- What is written for a byte is found as one piece. -/
theorem scan_escape (b : UInt8) (rest : Bytes) :
    scan (escape b ++ rest) = before (escape b) (scan rest) := by
  have hquote : backslash ≠ quote := by decide
  obtain ⟨h, hne, hne', hprintable⟩ | ⟨e, h, hne, hletter⟩ | ⟨h, hcontrol⟩ := escape_cases b
  · rw [h, List.singleton_append, scan.eq_def]
    simp only [if_neg hne, if_neg hne', if_neg hprintable]
  · rw [h, List.cons_append, List.singleton_append, scan.eq_def]
    simp only [if_neg hquote, if_true, if_neg hne, hletter, Option.isSome_some]
  · rw [h, numberEscape, List.cons_append, scan.eq_def]
    simp only [List.cons_append, List.nil_append, if_neg hquote, if_true,
      hexUnit?_control hcontrol, Option.isSome_some]

/-- What is written for a byte stands for the byte. -/
theorem unescape_escape (b : UInt8) (rest : Bytes) :
    unescape (escape b ++ rest) = (unescape rest).map (b :: ·) := by
  obtain ⟨h, -, hne, -⟩ | ⟨e, h, hne, hletter⟩ | ⟨h, hcontrol⟩ := escape_cases b
  · rw [h, List.singleton_append, unescape.eq_def]
    simp only [if_neg hne]
  · rw [h, List.cons_append, List.singleton_append, unescape.eq_def]
    simp only [if_true, if_neg hne, hletter, Option.bind_eq_bind, Option.bind_some]
  · have hlt : b.toNat < 32 := UInt8.lt_iff_toNat_lt.1 hcontrol
    have hlow : isLowHalf b.toNat = false := by
      simp only [isLowHalf, Bool.and_eq_false_iff, decide_eq_false_iff_not]
      omega
    have hhigh : isHighHalf b.toNat = false := by
      simp only [isHighHalf, Bool.and_eq_false_iff, decide_eq_false_iff_not]
      omega
    rw [h, numberEscape, List.cons_append, unescape.eq_def]
    simp only [List.cons_append, List.nil_append, if_true, hexUnit?_control hcontrol, hlow, hhigh,
      utf8_control hcontrol, Bool.false_eq_true, if_false, Option.bind_eq_bind, Option.bind_some]

/-- What stands before the closing quote is found as it was written. -/
theorem scan_encode (s : String) (rest : Bytes) :
    scan (encode s ++ quote :: rest) = some (encode s, rest) := by
  simp only [encode]
  induction Bytes.ofString s with
  | nil => rw [List.flatMap_nil, List.nil_append, scan.eq_def]; rfl
  | cons b bytes ih => rw [List.flatMap_cons, List.append_assoc, scan_escape, ih]; rfl

/-- A text is understood as itself. -/
theorem decode_encode (s : String) : decode (encode s) = some s := by
  have hbytes : unescape (encode s) = some (Bytes.ofString s) := by
    simp only [encode]
    induction Bytes.ofString s with
    | nil => rfl
    | cons b bytes ih => rw [List.flatMap_cons, unescape_escape, ih]; rfl
  rw [decode, hbytes, Option.bind_some, Bytes.toString?_ofString]

end WebOfThings.Quoted
