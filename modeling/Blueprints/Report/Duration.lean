import Blueprints.Text.Basic

/-!
# Durations

A duration is written in the largest of four units that it reaches, with two decimal places.  A half
goes to the even neighbour; the unit is chosen before rounding.
-/

namespace Blueprints.Duration

/-- The nearest whole number to a quotient; a half goes to the even neighbour. -/
def roundedQuotient (n unit : Nat) : Nat :=
  let whole := n / unit
  let rest := 2 * (n % unit)
  if unit < rest || (rest == unit && whole % 2 == 1) then whole + 1 else whole

/-- The unit in nanoseconds and its symbol. -/
def unitOf (nanoseconds : Nat) : Nat × Text :=
  if 1000000000 ≤ nanoseconds then (1000000000, .ofString "s")
  else if 1000000 ≤ nanoseconds then (1000000, .ofString "ms")
  else if 1000 ≤ nanoseconds then (1000, .ofString "µs")
  else (1, .ofString "ns")

def ofHundredths (n : Nat) : Text :=
  .ofNat (n / 100) ++ ['.', Nat.digitChar (n / 10 % 10), Nat.digitChar (n % 10)]

/-- The digits after the point of a quotient, as many as `places`, without zeros at the end. -/
def fractionDigits (rest unit : Nat) : (places : Nat) → Text
  | 0 => []
  | places + 1 =>
    if rest = 0 then []
    else Nat.digitChar (rest * 10 / unit) :: fractionDigits (rest * 10 % unit) unit places

/-- A duration as text, without rounding. -/
def printExactly (nanoseconds : Nat) : Text :=
  let (unit, symbol) := unitOf nanoseconds
  let digits := fractionDigits (nanoseconds % unit) unit 9
  .ofNat (nanoseconds / unit) ++ (if digits.isEmpty then [] else ['.'] ++ digits) ++ symbol

def print (nanoseconds : Nat) : Text :=
  let (unit, symbol) := unitOf nanoseconds
  ofHundredths (roundedQuotient (nanoseconds * 100) unit) ++ symbol

end Blueprints.Duration
