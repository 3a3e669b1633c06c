/-!
# Durations

A duration is a number of nanoseconds. It is shown in the largest of the units second,
millisecond, microsecond and nanosecond in which it is at least one, with its exact decimal
fraction.
-/

namespace WebOfThings

/-- A span of time. -/
structure Duration where
  /-- Its length in nanoseconds. -/
  nanoseconds : Nat
  deriving DecidableEq, Repr, Inhabited

namespace Duration

/-- The nanoseconds of a second. -/
def perSecond : Nat := Nat.pow 10 9

/-- Seconds and nanoseconds together. -/
def ofParts (seconds nanoseconds : Nat) : Duration := ⟨seconds * perSecond + nanoseconds⟩

/-- Whole seconds. -/
def ofSeconds (seconds : Nat) : Duration := ofParts seconds 0

/-- Whole milliseconds. -/
def ofMilliseconds (milliseconds : Nat) : Duration := ⟨milliseconds * Nat.pow 10 6⟩

/-- The whole seconds of a duration. -/
def seconds (d : Duration) : Nat := d.nanoseconds / perSecond

/-- The nanoseconds of a duration beyond its whole seconds. -/
def subsecond (d : Duration) : Nat := d.nanoseconds % perSecond

/-- The number of seconds that no duration reaches. -/
def secondsLimit : Nat := Nat.pow 2 64

/-- The decimal digits of `n`, at least `width` of them. -/
def padded (width n : Nat) : List Char :=
  let digits := (toString n).toList
  List.replicate (width - digits.length) '0' ++ digits

/-- The text of `n / 10 ^ places`, without zeros at its end. -/
def decimal (n places : Nat) : String :=
  let fraction := (padded places (n % Nat.pow 10 places)).reverse.dropWhile (· = '0') |>.reverse
  let whole := toString (n / Nat.pow 10 places)
  if fraction.isEmpty then whole else whole ++ "." ++ String.ofList fraction

/-- How a duration is shown. -/
def inspect (d : Duration) : String :=
  let n := d.nanoseconds
  if Nat.pow 10 9 ≤ n then decimal n 9 ++ "s"
  else if Nat.pow 10 6 ≤ n then decimal n 6 ++ "ms"
  else if Nat.pow 10 3 ≤ n then decimal n 3 ++ "µs"
  else decimal n 0 ++ "ns"

end Duration

end WebOfThings
