/-!
# Double precision numbers

A finite double is a sign, a mantissa below `2 ^ 53` and a power up to `2045`, and stands for
`± mantissa * 2 ^ power / 2 ^ 1074`: all doubles are whole multiples of the least positive one.
A number that is no double is rounded to the nearest one, and a tie to the even mantissa
(`Double.ofRatio`); products and quotients are the exact result, rounded once.

Doubles compare as numbers (`Double.same`), so the two zeros agree and what is no number agrees
with nothing; as data they are told apart by `DecidableEq`.
-/

namespace WebOfThings

/-- A number of double precision. -/
inductive Double
  /-- `± mantissa * 2 ^ power / 2 ^ 1074`. -/
  | finite (negative : Bool) (mantissa power : Nat)
  /-- What is left of a number too large to be held. -/
  | infinite (negative : Bool)
  /-- No number at all. -/
  | nan
  deriving DecidableEq, Repr, Inhabited

namespace Double

/-- The least positive double is `1 / unit`. -/
def unit : Nat := Nat.pow 2 1074

/-- The zero of a sign. -/
def zero (negative : Bool) : Double := finite negative 0 0

/-- The whole number nearest to `num / den`; of two as near, the even one. -/
def roundHalfEven (num den : Nat) : Nat :=
  let q := num / den
  let r := num % den
  if 2 * r < den then q
  else if den < 2 * r then q + 1
  else q + q % 2

/-- The double of a rounded mantissa; one that rounding made too large is halved. -/
def ofRounded (negative : Bool) (mantissa power : Nat) : Double :=
  let (mantissa, power) :=
    if mantissa = Nat.pow 2 53 then (Nat.pow 2 52, power + 1) else (mantissa, power)
  if power ≤ 2045 then finite negative mantissa power else infinite negative

/-- The double nearest to `± num / den`. -/
def ofRatio (negative : Bool) (num den : Nat) : Double :=
  let whole := num * unit / den
  let power := if whole < Nat.pow 2 53 then 0 else whole.log2 - 52
  ofRounded negative (roundHalfEven (num * unit) (den * Nat.pow 2 power)) power

/-- The double nearest to a whole number. -/
def ofInt (i : Int) : Double := ofRatio (decide (i < 0)) i.natAbs 1

/-- The magnitude of a finite double, counted in least positive doubles. -/
def scaled : Double → Nat
  | finite _ mantissa power => mantissa * Nat.pow 2 power
  | _ => 0

/-- Whether the number carries a minus sign. -/
def isNegative : Double → Bool
  | finite negative _ _ | infinite negative => negative
  | nan => false

/-- Whether the number is one that digits can spell. -/
def isFinite : Double → Bool
  | finite .. => true
  | _ => false

/-- Whether the number is one of the two zeros. -/
def isZero : Double → Bool
  | finite _ mantissa _ => mantissa = 0
  | _ => false

/-- The opposite number. -/
def neg : Double → Double
  | finite negative mantissa power => finite (!negative) mantissa power
  | infinite negative => infinite (!negative)
  | nan => nan

/-- The product of two finite doubles, rounded. -/
def mul (x y : Double) : Double :=
  ofRatio (x.isNegative != y.isNegative) (x.scaled * y.scaled) (unit * unit)

/-- The quotient of two finite doubles, the second not zero, rounded. -/
def div (x y : Double) : Double :=
  ofRatio (x.isNegative != y.isNegative) x.scaled y.scaled

/-- Whether two doubles are the same number. -/
def same (x y : Double) : Bool :=
  match x, y with
  | nan, _ | _, nan => false
  | x, y => x = y || (x.isZero && y.isZero)

end Double

end WebOfThings
