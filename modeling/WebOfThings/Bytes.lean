/-!
# Bytes and text

Everything that travels (payloads, documents, certificates) is a sequence of bytes; a name or a
value is text. A text has exactly one sequence of bytes, its UTF-8 encoding (`Bytes.ofString`).
A sequence of bytes is at most one text (`Bytes.toString?`), and always has a readable form
(`Bytes.toStringLossy`), in which each piece that is no UTF-8 becomes one replacement character.

* `toString?_ofString`: a text is read back from its bytes.
* `hexValue?_hexDigit`: a hexadecimal digit has the value that it was made of.
-/

namespace WebOfThings

/-- A sequence of bytes. -/
abbrev Bytes := List UInt8

namespace Bytes

/-- The UTF-8 encoding of a text. -/
def ofString (s : String) : Bytes := s.toByteArray.data.toList

/-- The text whose UTF-8 encoding is given, if there is one. -/
def toString? (b : Bytes) : Option String := String.fromUTF8? ⟨b.toArray⟩

/-- A text is read back from its bytes. -/
@[simp] theorem toString?_ofString (s : String) : toString? (ofString s) = some s := by
  have h : (⟨(ofString s).toArray⟩ : ByteArray) = s.toByteArray := by simp [ofString]
  simp only [toString?, h, String.fromUTF8?, s.isValidUTF8, dif_pos]
  rfl

/-- Whether a byte continues a character begun before it. -/
def isContinuation (b : UInt8) : Bool := 0x80 ≤ b && b ≤ 0xBF

/-- The bytes that may come second in a character whose first byte is `lead`, and how many
    continuation bytes follow that one; `none` if no longer character begins with `lead`. -/
def secondRange (lead : UInt8) : Option (UInt8 × UInt8 × Nat) :=
  if 0xC2 ≤ lead && lead ≤ 0xDF then some (0x80, 0xBF, 0)
  else if lead = 0xE0 then some (0xA0, 0xBF, 1)
  else if lead = 0xED then some (0x80, 0x9F, 1)
  else if 0xE1 ≤ lead && lead ≤ 0xEF then some (0x80, 0xBF, 1)
  else if lead = 0xF0 then some (0x90, 0xBF, 2)
  else if lead = 0xF4 then some (0x80, 0x8F, 2)
  else if 0xF1 ≤ lead && lead ≤ 0xF3 then some (0x80, 0xBF, 2)
  else none

/-- How many of the bytes after `lead` belong to the character it begins, and whether that
    character is complete. -/
def extent (lead : UInt8) (rest : Bytes) : Nat × Bool :=
  match secondRange lead, rest with
  | some (low, high, more), second :: rest =>
    if low ≤ second && second ≤ high then
      let tail := (rest.take more).takeWhile isContinuation
      (1 + tail.length, tail.length = more)
    else (0, false)
  | _, _ => (0, false)

/-- The code point spelled by a first byte and its continuation bytes. -/
def codePoint (lead : UInt8) (tail : Bytes) : Nat :=
  let first := match tail.length with
    | 1 => lead.toNat % 32
    | 2 => lead.toNat % 16
    | _ => lead.toNat % 8
  tail.foldl (fun point b => point * 64 + b.toNat % 64) first

/-- The characters of a sequence of bytes; a piece that is no UTF-8 is read as one U+FFFD.
    A piece is the longest part that could have begun a character. -/
def charsLossy : Bytes → List Char
  | [] => []
  | b :: rest =>
    if b < 0x80 then Char.ofNat b.toNat :: charsLossy rest
    else
      let (length, complete) := extent b rest
      let c := if complete then Char.ofNat (codePoint b (rest.take length)) else '\uFFFD'
      c :: charsLossy (rest.drop length)
termination_by b => b.length

/-- The readable form of any sequence of bytes. -/
def toStringLossy (b : Bytes) : String := String.ofList (charsLossy b)

/-! ## Hexadecimal digits -/

/-- The value of a hexadecimal digit. -/
def hexValue? (b : UInt8) : Option Nat :=
  if 0x30 ≤ b && b ≤ 0x39 then some (b.toNat - 0x30)
  else if 0x41 ≤ b && b ≤ 0x46 then some (b.toNat - 0x41 + 10)
  else if 0x61 ≤ b && b ≤ 0x66 then some (b.toNat - 0x61 + 10)
  else none

/-- The lower case hexadecimal digit of a number below sixteen. -/
def hexDigit (n : Nat) : UInt8 := UInt8.ofNat (if n < 10 then 0x30 + n else 0x61 + (n - 10))

/-- The bytes that pairs of hexadecimal digits spell. -/
def ofHex? : Bytes → Option Bytes
  | [] => some []
  | high :: low :: rest => do
    let high ← hexValue? high
    let low ← hexValue? low
    let bytes ← ofHex? rest
    some (UInt8.ofNat (high * 16 + low) :: bytes)
  | _ => none

/-- The pairs of hexadecimal digits that spell bytes. -/
def toHex (b : Bytes) : Bytes :=
  b.flatMap fun n => [hexDigit (n.toNat / 16), hexDigit (n.toNat % 16)]

/-- A digit has the value that it was made of. -/
theorem hexValue?_hexDigit : ∀ n < 16, hexValue? (hexDigit n) = some n := by decide

end Bytes

end WebOfThings
