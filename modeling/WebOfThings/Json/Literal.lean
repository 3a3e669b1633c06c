import WebOfThings.Bytes
import WebOfThings.Json.Basic
import WebOfThings.Numeric.Shortest

/-!
# Number literals

How a number is spelled: a minus sign, whole digits without a needless zero, digits after a
point, a power of ten (`Literal`). `Literal.scan` takes a literal off the front of a text and
`Literal.text` writes one.

`Literal.number` is the number a literal stands for. Whole digits alone are an integer if they
fit; everything else is a double, read in two steps that round once each: the digits that fit in
64 bits make a whole number, which is converted to a double and then multiplied, or divided, by a
power of ten. A literal too large has no number; one too small is zero.

`Number.literal` is how a number is written: the fewest digits that stand for it, positional for
powers of ten in `Number.positional` and with at least one digit after the point, and otherwise
with a signed power of ten.
-/

namespace WebOfThings

/-- A decimal digit. -/
abbrev Digit := Fin 10

/-- The digit zero. -/
def Digit.zero : Digit := ⟨0, by decide⟩

/-- The spelling of a number. -/
structure Literal where
  /-- Whether it begins with a minus sign. -/
  negative : Bool := false
  /-- The digits before the point. -/
  whole : List Digit
  /-- The digits after the point; none if there is no point. -/
  fraction : List Digit := []
  /-- The power of ten, if one is spelled: whether it is negative, and its digits. -/
  exponent : Option (Bool × List Digit) := none
  deriving DecidableEq, Repr

namespace Literal

/-- The byte of a digit. -/
def byte (d : Digit) : UInt8 := '0'.toUInt8 + UInt8.ofNat d.val

/-- The digit of a byte. -/
def digit? (b : UInt8) : Option Digit :=
  if '0'.toUInt8 ≤ b && b ≤ '9'.toUInt8 then
    some ⟨(b.toNat - '0'.toNat) % 10, Nat.mod_lt _ (by decide)⟩
  else none

/-- Takes the digits off the front of a text. -/
def scanDigits : Bytes → List Digit × Bytes
  | [] => ([], [])
  | b :: rest =>
    match digit? b with
    | none => ([], b :: rest)
    | some d =>
      let (digits, rest) := scanDigits rest
      (d :: digits, rest)

/-- Takes the sign off the front of a power of ten: whether it is negative, and the rest. -/
def scanSign : Bytes → Bool × Bytes
  | [] => (false, [])
  | b :: rest =>
    if b = '-'.toUInt8 then (true, rest)
    else if b = '+'.toUInt8 then (false, rest)
    else (false, b :: rest)

/-- Takes a point and its digits off the front of a text; no point is no digits. -/
def scanFraction : Bytes → Option (List Digit × Bytes)
  | [] => some ([], [])
  | b :: rest =>
    if b = '.'.toUInt8 then
      match scanDigits rest with
      | ([], _) => none
      | digits => some digits
    else some ([], b :: rest)

/-- Takes a power of ten off the front of a text, if one stands there. -/
def scanExponent : Bytes → Option (Option (Bool × List Digit) × Bytes)
  | [] => some (none, [])
  | b :: rest =>
    if b = 'e'.toUInt8 || b = 'E'.toUInt8 then
      let (negative, rest) := scanSign rest
      match scanDigits rest with
      | ([], _) => none
      | (digits, rest) => some (some (negative, digits), rest)
    else some (none, b :: rest)

/-- Takes a minus sign off the front of a text, if one stands there. -/
def scanMinus : Bytes → Bool × Bytes
  | [] => (false, [])
  | b :: rest => if b = '-'.toUInt8 then (true, rest) else (false, b :: rest)

/-- Takes a literal off the front of a text. -/
def scan (text : Bytes) : Option (Literal × Bytes) :=
  let (negative, text) := scanMinus text
  match scanDigits text with
  | ([], _) => none
  | (0 :: _ :: _, _) => none
  | (whole, text) => do
    let (fraction, text) ← scanFraction text
    let (exponent, text) ← scanExponent text
    some (⟨negative, whole, fraction, exponent⟩, text)

/-- The text of a literal. The sign of a power of ten is always written. -/
def text (l : Literal) : Bytes :=
  (if l.negative then ['-'.toUInt8] else []) ++ l.whole.map byte ++
  (if l.fraction = [] then [] else '.'.toUInt8 :: l.fraction.map byte) ++
  match l.exponent with
  | none => []
  | some (negative, digits) =>
    'e'.toUInt8 :: (if negative then '-'.toUInt8 else '+'.toUInt8) :: digits.map byte

/-- Adds digits to a number as long as it fits in 64 bits: the number, and how many digits did
    not go in. -/
def absorb (n : Nat) : List Digit → Nat × Nat
  | [] => (n, 0)
  | d :: rest =>
    if n * 10 + d.val < Nat.pow 2 64 then absorb (n * 10 + d.val) rest
    else (n, rest.length + 1)

/-- Divides by a power of ten, in steps of at most `10 ^ 308`. -/
def scaleDown (x : Double) (power : Nat) : Double :=
  if power ≤ 308 then x.div (Double.ofInt (Nat.pow 10 power))
  else if x.isZero then x
  else scaleDown (x.div (Double.ofInt (Nat.pow 10 308))) (power - 308)
termination_by power

/-- A whole number of at most 64 bits times a power of ten, if a double can hold it. -/
def scale (n : Nat) (power : Int) : Option Double :=
  let x := Double.ofInt n
  if power < 0 then some (scaleDown x (-power).toNat)
  else if power ≤ 308 then
    let product := x.mul (Double.ofInt (Nat.pow 10 power.toNat))
    if product.isFinite then some product else none
  else if n = 0 then some x
  else none

/-- The power of ten that is spelled. -/
def power (l : Literal) : Int :=
  match l.exponent with
  | none => 0
  | some (true, digits) => -(ofDecimalDigits digits : Int)
  | some (false, digits) => ofDecimalDigits digits

/-- The number a literal stands for. -/
def number (l : Literal) : Option Number :=
  let (n, dropped) := absorb 0 l.whole
  if l.fraction = [] ∧ l.exponent = none ∧ dropped = 0 ∧
      (l.negative → 0 < n ∧ n ≤ Nat.pow 2 63) then
    some (.integer (if l.negative then -(n : Int) else n))
  else
    let (n, left) := absorb n l.fraction
    let taken := l.fraction.length - left
    (scale n (dropped - taken + l.power)).map fun x =>
      .double (if l.negative then x.neg else x)

end Literal

namespace Number

/-- The powers of ten whose numbers are written positionally. -/
def positional (exponent : Int) : Bool := -5 ≤ exponent && exponent ≤ 15

/-- The literal of a decimal number. -/
def literalOfDecimal (negative : Bool) (d : Decimal) : Literal :=
  if positional d.exponent then
    if 0 ≤ d.exponent then
      let point := d.exponent.toNat + 1
      let whole := d.digits.take point
      let fraction := d.digits.drop point
      { negative
        whole := whole ++ List.replicate (point - whole.length) Digit.zero
        fraction := if fraction = [] then [Digit.zero] else fraction }
    else
      { negative
        whole := [Digit.zero]
        fraction := List.replicate ((-d.exponent).toNat - 1) Digit.zero ++ d.digits }
  else
    { negative
      whole := d.digits.take 1
      fraction := d.digits.drop 1
      exponent := some (decide (d.exponent < 0), decimalDigits d.exponent.natAbs) }

/-- How a number is written, if digits can spell it. -/
def literal : Number → Option Literal
  | integer i => some { negative := decide (i < 0), whole := decimalDigits i.natAbs }
  | double (.finite negative mantissa power) =>
    some (literalOfDecimal negative (Double.shortest mantissa power))
  | double _ => none

end Number

end WebOfThings
