import WebOfThings.Bytes

/-!
# Texts in quotes

A text is written between quotes, byte for byte, except that a quote, a backslash and the control
characters are written as escapes (`Quoted.encode`). What stands between two quotes is found
without being understood (`Quoted.scan`), and understood afterwards (`Quoted.decode`): the first
only asks for well formed escapes, so a member nobody asks for may hold bytes that are no text.
-/

namespace WebOfThings.Quoted

/-- The quote. -/
abbrev quote : UInt8 := 0x22

/-- The backslash, which begins an escape. -/
abbrev backslash : UInt8 := 0x5C

/-- The letter that begins an escape by number. -/
abbrev letterU : UInt8 := 0x75

/-- The 16-bit number spelled by four hexadecimal digits. -/
def hexUnit? (a b c d : UInt8) : Option Nat := do
  let a ← Bytes.hexValue? a
  let b ← Bytes.hexValue? b
  let c ← Bytes.hexValue? c
  let d ← Bytes.hexValue? d
  some (((a * 16 + b) * 16 + c) * 16 + d)

/-- The byte that an escape of one letter stands for. -/
def letterEscape? (b : UInt8) : Option UInt8 :=
  if b = quote || b = backslash || b = 0x2F then some b
  else if b = 0x62 then some 0x08
  else if b = 0x66 then some 0x0C
  else if b = 0x6E then some 0x0A
  else if b = 0x72 then some 0x0D
  else if b = 0x74 then some 0x09
  else none

/-- Puts bytes before what was found first. -/
def before (bytes : Bytes) (found : Option (Bytes × Bytes)) : Option (Bytes × Bytes) :=
  found.map fun (body, rest) => (bytes ++ body, rest)

/-- Takes the body of a text, up to its closing quote, off the front: the bytes of the body as
    they stand, and what follows the quote. -/
def scan : Bytes → Option (Bytes × Bytes)
  | [] => none
  | b :: rest =>
    if b = quote then some ([], rest)
    else if b = backslash then
      match rest with
      | [] => none
      | e :: rest =>
        if e = letterU then
          match rest with
          | h₁ :: h₂ :: h₃ :: h₄ :: rest =>
            if (hexUnit? h₁ h₂ h₃ h₄).isSome then before [b, e, h₁, h₂, h₃, h₄] (scan rest)
            else none
          | _ => none
        else if (letterEscape? e).isSome then before [b, e] (scan rest)
        else none
    else if b < 0x20 then none
    else before [b] (scan rest)

/-- The UTF-8 encoding of a code point. -/
def utf8 (point : Nat) : Bytes := String.utf8EncodeChar (Char.ofNat point)

/-- The first half of a code point above `0xFFFF`. -/
def isHighHalf (unit : Nat) : Bool := 0xD800 ≤ unit && unit ≤ 0xDBFF

/-- The second half of a code point above `0xFFFF`. -/
def isLowHalf (unit : Nat) : Bool := 0xDC00 ≤ unit && unit ≤ 0xDFFF

/-- The bytes that the body of a text stands for. The halves of a code point only count
    together, the first one first. -/
def unescape : Bytes → Option Bytes
  | [] => some []
  | b :: rest =>
    if b = backslash then
      match rest with
      | [] => none
      | e :: rest =>
        if e = letterU then
          match rest with
          | h₁ :: h₂ :: h₃ :: h₄ :: rest => do
            let unit ← hexUnit? h₁ h₂ h₃ h₄
            if isLowHalf unit then none
            else if isHighHalf unit then
              match rest with
              | s :: u :: l₁ :: l₂ :: l₃ :: l₄ :: rest => do
                let low ← hexUnit? l₁ l₂ l₃ l₄
                if s = backslash && u = letterU && isLowHalf low then
                  (unescape rest).map
                    (utf8 (0x10000 + (unit - 0xD800) * 0x400 + (low - 0xDC00)) ++ ·)
                else none
              | _ => none
            else (unescape rest).map (utf8 unit ++ ·)
          | _ => none
        else do
          let c ← letterEscape? e
          (unescape rest).map (c :: ·)
    else (unescape rest).map (b :: ·)

/-- The text whose body is given, if it is one. -/
def decode (body : Bytes) : Option String := (unescape body).bind Bytes.toString?

/-- How a byte of a text is written. -/
def escape (b : UInt8) : Bytes :=
  if b = quote || b = backslash then [backslash, b]
  else if b = 0x08 then [backslash, 0x62]
  else if b = 0x09 then [backslash, 0x74]
  else if b = 0x0A then [backslash, 0x6E]
  else if b = 0x0C then [backslash, 0x66]
  else if b = 0x0D then [backslash, 0x72]
  else if b < 0x20 then
    [backslash, letterU, 0x30, 0x30, Bytes.hexDigit (b.toNat / 16), Bytes.hexDigit (b.toNat % 16)]
  else [b]

/-- The body of a text as it is written. -/
def encode (s : String) : Bytes := (Bytes.ofString s).flatMap escape

/-- A text between quotes. -/
def text (s : String) : Bytes := quote :: (encode s ++ [quote])

end WebOfThings.Quoted
