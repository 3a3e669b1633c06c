import WebOfThings.Numeric.Double

/-!
# The fewest digits of a double

The real numbers that round to one finite double form an interval around it, with its ends
exactly when the mantissa is even. `Double.shortest` is the decimal number of the fewest digits
in that interval and, of those, the one nearest to the double; of two as near, the one with the
even last digit. It is found by asking, for one digit, two digits and so on, whether one of the
two neighbours of the double on that decimal grid lies in the interval: seventeen always suffice.
-/

namespace WebOfThings

/-- The decimal digits of a number. -/
def decimalDigits (n : Nat) : List (Fin 10) := go [] n
where
  /-- The digits of the number, before those collected so far. -/
  go (collected : List (Fin 10)) (n : Nat) : List (Fin 10) :=
    if n < 10 then Fin.ofNat 10 n :: collected
    else go (Fin.ofNat 10 n :: collected) (n / 10)

/-- The number spelled by decimal digits. -/
def ofDecimalDigits (digits : List (Fin 10)) : Nat :=
  digits.foldl (fun n d => n * 10 + d.val) 0

/-- A positive decimal number in scientific form: `d.ddd * 10 ^ exponent`. -/
structure Decimal where
  /-- The digits; the point stands after the first one. -/
  digits : List (Fin 10)
  /-- The power of ten of the first digit. -/
  exponent : Int
  deriving DecidableEq, Repr

/-- A positive ratio of whole numbers. -/
structure Ratio where
  /-- Above the line. -/
  num : Nat
  /-- Below the line. -/
  den : Nat

namespace Ratio

/-- Whether one ratio is less than another. -/
def lt (x y : Ratio) : Bool := x.num * y.den < y.num * x.den

/-- A whole number times a power of ten. -/
def scale10 (n : Nat) (power : Int) : Ratio :=
  if 0 ≤ power then ⟨n * Nat.pow 10 power.toNat, 1⟩ else ⟨n, Nat.pow 10 (-power).toNat⟩

/-- The power of ten of the first digit of a positive ratio. -/
def decimalExponent (x : Ratio) : Int :=
  if x.den ≤ x.num then ((decimalDigits (x.num / x.den)).length : Int) - 1
  else
    let inverse := x.den / x.num
    let length := (decimalDigits inverse).length
    if x.den = x.num * Nat.pow 10 (length - 1) then -((length : Int) - 1) else -(length : Int)

end Ratio

/-- The reals that round to one double. -/
structure RoundingInterval where
  /-- The double itself. -/
  value : Ratio
  /-- The lower end. -/
  low : Ratio
  /-- The upper end. -/
  high : Ratio
  /-- Whether the ends belong to it. -/
  closed : Bool

namespace RoundingInterval

/-- The interval of the double `mantissa * 2 ^ power / 2 ^ 1074`: it reaches half way to each
    neighbour, and the neighbour below is half as far away under a power of two. -/
def ofDouble (mantissa power : Nat) : RoundingInterval :=
  let den := 4 * Double.unit
  let below := if mantissa = Nat.pow 2 52 && 0 < power then 1 else 2
  { value := ⟨4 * mantissa * Nat.pow 2 power, den⟩
    low := ⟨(4 * mantissa - below) * Nat.pow 2 power, den⟩
    high := ⟨(4 * mantissa + 2) * Nat.pow 2 power, den⟩
    closed := mantissa % 2 = 0 }

/-- Whether a number rounds to the double. -/
def contains (i : RoundingInterval) (x : Ratio) : Bool :=
  if i.closed then !x.lt i.low && !i.high.lt x else i.low.lt x && x.lt i.high

/-- The neighbour of the double, on the grid of the multiples of `10 ^ power`, that rounds to it:
    the nearer one if both do, and the even one of two as near. -/
def pick (i : RoundingInterval) (power : Int) : Option Nat :=
  let grid := Ratio.scale10 1 power
  let down := i.value.num * grid.den / (i.value.den * grid.num)
  let up := down + 1
  match i.contains (Ratio.scale10 down power), i.contains (Ratio.scale10 up power) with
  | false, false => none
  | true, false => some down
  | false, true => some up
  | true, true =>
    let middle := Ratio.scale10 (2 * down + 1) power
    let twice : Ratio := ⟨2 * i.value.num, i.value.den⟩
    if twice.lt middle then some down
    else if middle.lt twice then some up
    else some (down + down % 2)

/-- The digits and the power of ten of the last digit of the first grid that holds a neighbour
    which rounds to the double, trying `length` digits and then up to `more` further ones. -/
def search (i : RoundingInterval) (exponent : Int) : Nat → Nat → Nat × Int
  | _, 0 => (0, 0)
  | length, more + 1 =>
    let power := exponent - length + 1
    match i.pick power with
    | some n => (n, power)
    | none => search i exponent (length + 1) more

end RoundingInterval

/-- The zeros at the end of a number's digits, cut off and counted. -/
def stripZeros (digits : List (Fin 10)) : List (Fin 10) :=
  (digits.reverse.dropWhile (· = 0)).reverse

/-- The decimal number of the fewest digits that reads back as the double
    `mantissa * 2 ^ power / 2 ^ 1074`, and the nearest to it of those. -/
def Double.shortest (mantissa power : Nat) : Decimal :=
  if mantissa = 0 then ⟨[0], 0⟩
  else
    let interval := RoundingInterval.ofDouble mantissa power
    let (n, last) := interval.search interval.value.decimalExponent 1 17
    let digits := decimalDigits n
    ⟨stripZeros digits, last + digits.length - 1⟩

end WebOfThings
