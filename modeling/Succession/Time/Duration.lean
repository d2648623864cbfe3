import Succession.Text.Numeral

/-!
# Durations

A duration is a number of nanoseconds. It is shown in its largest unit with a nonzero whole part,
with the fraction behind it and no trailing zeros: `10s`, `1.5s`, `250ms`, `1.001µs`, `0ns`.

* `Duration.render`;
* `Duration.timerMillis`  the whole milliseconds after which a timer of that length has run out.
-/

namespace Succession

structure Duration where
  nanos : Nat
deriving DecidableEq, Repr

namespace Duration

def nanosPerMilli : Nat := 1000000
def nanosPerSecond : Nat := 1000000000

def ofSeconds (n : Nat) : Duration := ⟨n * nanosPerSecond⟩
def ofMillis (n : Nat) : Duration := ⟨n * nanosPerMilli⟩

/-- the whole milliseconds of a duration, of which the last may be begun only -/
def ceilMillis (d : Duration) : Nat := (d.nanos + (nanosPerMilli - 1)) / nanosPerMilli

/-- so many seconds ahead a clock cannot count -/
def clockSeconds : Nat := 9223372036854775807

/-- thirty years -/
def farFuture : Duration := ofSeconds (30 * 365 * 24 * 60 * 60)

/-- timers count whole milliseconds: a fraction counts as a whole one, and what is further ahead
than a clock can count is in the far future -/
def timerMillis (d : Duration) : Nat :=
  if d.nanos < clockSeconds * nanosPerSecond then d.ceilMillis else farFuture.ceilMillis

/-- the digits of a fraction with `places` decimal places, trailing zeros left out -/
def fraction (places part : Nat) : List Char :=
  let digits := Numeral.render part
  let padded := List.replicate (places - digits.length) '0' ++ digits
  (padded.reverse.dropWhile (· = '0')).reverse

/-- `nanos` in units of `10 ^ places` nanoseconds -/
def inUnit (nanos places : Nat) (unit : String) : String :=
  let part := fraction places (nanos % Nat.pow 10 places)
  let whole := Numeral.render (nanos / Nat.pow 10 places)
  String.ofList (whole ++ (if part = [] then [] else '.' :: part)) ++ unit

def render (d : Duration) : String :=
  if nanosPerSecond ≤ d.nanos then inUnit d.nanos 9 "s"
  else if nanosPerMilli ≤ d.nanos then inUnit d.nanos 6 "ms"
  else if 1000 ≤ d.nanos then inUnit d.nanos 3 "µs"
  else inUnit d.nanos 0 "ns"

end Duration
end Succession
