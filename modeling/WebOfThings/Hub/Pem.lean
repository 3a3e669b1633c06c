import WebOfThings.Bytes

/-!
# The textual encoding of certificates and keys

A text may hold sections: lines between `-----BEGIN label-----` and `-----END label-----` that
spell bytes in base 64. `Pem.sections?` reads them in order. What stands outside of a section is
passed over, and so is a section whose label is not known (`Pem.Kind.ofLabel?`); a section that
does not end, or that spells nothing, makes the whole text unreadable.
-/

namespace WebOfThings.Pem

/-- What a section may hold. -/
inductive Kind
  | certificate
  | publicKey
  /-- A private key, in one of three encodings. -/
  | privateKey
  | revocationList
  | signingRequest
  | helloConfig
  deriving DecidableEq, Repr, Inhabited

/-- The kind of a section with a label. -/
def Kind.ofLabel? (label : Bytes) : Option Kind :=
  let labels : List (String × Kind) :=
    [("CERTIFICATE", certificate), ("PUBLIC KEY", publicKey), ("RSA PRIVATE KEY", privateKey),
     ("PRIVATE KEY", privateKey), ("EC PRIVATE KEY", privateKey), ("X509 CRL", revocationList),
     ("CERTIFICATE REQUEST", signingRequest), ("ECHCONFIG", helloConfig)]
  (labels.find? fun entry => Bytes.ofString entry.1 = label).map (·.2)

/-- A section of a text. -/
structure Section where
  /-- What it holds. -/
  kind : Kind
  /-- The bytes it spells. -/
  content : Bytes
  deriving DecidableEq, Repr, Inhabited

/-- The value of a digit in base 64. -/
def digit? (b : UInt8) : Option Nat :=
  if 'A'.toUInt8 ≤ b && b ≤ 'Z'.toUInt8 then some (b.toNat - 'A'.toNat)
  else if 'a'.toUInt8 ≤ b && b ≤ 'z'.toUInt8 then some (b.toNat - 'a'.toNat + 26)
  else if '0'.toUInt8 ≤ b && b ≤ '9'.toUInt8 then some (b.toNat - '0'.toNat + 52)
  else if b = '+'.toUInt8 then some 62
  else if b = '/'.toUInt8 then some 63
  else none

/-- Whether a byte may stand between digits. -/
def isBlank (b : UInt8) : Bool := (0x09 ≤ b && b ≤ 0x0D) || b = 0x20

/-- The byte that fills the last four digits up. -/
def padding : UInt8 := '='.toUInt8

/-- The three bytes of four digits. -/
def threeBytes (a b c d : Nat) : Bytes :=
  let n := ((a * 64 + b) * 64 + c) * 64 + d
  [UInt8.ofNat (n / Nat.pow 2 16), UInt8.ofNat (n / Nat.pow 2 8), UInt8.ofNat n]

/-- The bytes of digits without blanks. The last four digits may be filled up. -/
def quads? : Bytes → Option Bytes
  | [] => some []
  | a :: b :: c :: d :: rest => do
    let a ← digit? a
    let b ← digit? b
    if c = padding && d = padding && rest.isEmpty then some ((threeBytes a b 0 0).take 1)
    else
      let c ← digit? c
      if d = padding && rest.isEmpty then some ((threeBytes a b c 0).take 2)
      else
        let d ← digit? d
        (quads? rest).map (threeBytes a b c d ++ ·)
  | _ => none

/-- The bytes spelled in base 64. -/
def base64? (text : Bytes) : Option Bytes := quads? (text.filter (!isBlank ·))

/-- The lines of a text. Either half of a line break ends a line, and belongs to it. -/
def lines : Bytes → List Bytes
  | [] => []
  | b :: rest =>
    if b = 0x0A || b = 0x0D then [b] :: lines rest
    else
      match lines rest with
      | [] => [[b]]
      | line :: more => (b :: line) :: more

/-- The front of a line that begins a section. -/
def opening : Bytes := Bytes.ofString "-----BEGIN "

/-- The label of the section that a line begins: what stands before exactly five dashes. -/
def label? (line : Bytes) : Option Bytes :=
  let reversed := line.reverse
  let isDash := (· = '-'.toUInt8)
  let isFill := fun b : UInt8 => b = 0x0A || b = 0x0D || b = 0x20 || b = '-'.toUInt8
  let tail := reversed.takeWhile isFill
  if (tail.filter isDash).length = 5 then
    let kept := (reversed.drop tail.length).reverse
    let blanks := tail.reverse.takeWhile (!isDash ·)
    some ((kept ++ blanks).drop opening.length)
  else none

/-- The line that ends the section of a label. -/
def closing (label : Bytes) : Bytes :=
  Bytes.ofString "-----END " ++ label ++ Bytes.ofString "-----"

/-- The sections on lines. Within a section, its label and the lines of it so far are given. -/
def scan : Option (Bytes × Bytes) → List Bytes → Option (List Section)
  | none, [] => some []
  | some _, [] => none
  | current, line :: rest =>
    if opening.isPrefixOf line then
      match label? line with
      | some label => scan (some (label, (current.map (·.2)).getD [])) rest
      | none => none
    else
      match current with
      | none => scan none rest
      | some (label, body) =>
        if (closing label).isPrefixOf line then
          match Kind.ofLabel? label with
          | none => scan none rest
          | some kind => do
            let content ← base64? body
            let sections ← scan none rest
            some (⟨kind, content⟩ :: sections)
        else scan (some (label, body ++ line)) rest

/-- The sections of a text. -/
def sections? (text : Bytes) : Option (List Section) := scan none (lines text)

/-- The certificates of a text. -/
def certificates? (text : Bytes) : Option (List Bytes) :=
  (sections? text).map fun sections =>
    (sections.filter (·.kind = .certificate)).map (·.content)

/-- The certificates of a text and its private key, the last one if there are several. A text that
    holds anything else has none. -/
def identity? (text : Bytes) : Option (List Bytes × Bytes) := do
  let sections ← sections? text
  if sections.all fun s => s.kind = .certificate || s.kind = .privateKey then
    let certificates := (sections.filter (·.kind = .certificate)).map (·.content)
    let key ← (sections.filter (·.kind = .privateKey)).getLast?
    if certificates.isEmpty then none else some (certificates, key.content)
  else none

end WebOfThings.Pem
