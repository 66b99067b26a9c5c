/-!
This file holds spans of time.
-/

namespace MeshAccess.Discovery

/-- A span of time. There are fewer nanoseconds than in a second. -/
structure Duration where
  seconds : Nat
  nanoseconds : Nat
  deriving DecidableEq, Repr, Inhabited

namespace Duration

def ofSeconds (seconds : Nat) : Duration := ⟨seconds, 0⟩

/-- The span in whole milliseconds. -/
def milliseconds (duration : Duration) : Nat :=
  1000 * duration.seconds + duration.nanoseconds / 1000000

/-- The digits of a fraction with the given number of places, without zeros at the end. -/
def fractionDigits : Nat → Nat → List Char
  | 0, _ => []
  | places + 1, fraction =>
      if fraction = 0 then []
      else
        Nat.digitChar (fraction / Nat.pow 10 places) ::
          fractionDigits places (fraction % Nat.pow 10 places)

/-- A number with a fraction of the given number of places. -/
def decimal (whole places fraction : Nat) : String :=
  let digits := fractionDigits places fraction
  if digits.isEmpty then toString whole else toString whole ++ "." ++ String.ofList digits

/-- The text of a span, in the largest unit that it reaches. -/
def describe (duration : Duration) : String :=
  let fraction := duration.nanoseconds
  if 0 < duration.seconds then decimal duration.seconds 9 fraction ++ "s"
  else if 1000000 ≤ fraction then decimal (fraction / 1000000) 6 (fraction % 1000000) ++ "ms"
  else if 1000 ≤ fraction then decimal (fraction / 1000) 3 (fraction % 1000) ++ "µs"
  else decimal fraction 0 0 ++ "ns"

end Duration

end MeshAccess.Discovery
