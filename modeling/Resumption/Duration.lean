/-
Duration — a span of time in whole nanoseconds, and its text.

The text uses the largest of the units `s`, `ms`, `µs`, `ns` that leaves a
whole part of at least one, and writes the fraction exactly, without trailing
zeros: `1.5s`, `5.05ms`, `1.001µs`, `0ns`.
-/

namespace Resumption

/-- Whole seconds and the nanoseconds beyond them. -/
structure Duration where
  seconds : Nat
  nanos : Nat
  nanos_lt : nanos < 1000000000
deriving DecidableEq

namespace Duration

/-- A span given in seconds and any number of nanoseconds. -/
def ofParts (seconds nanos : Nat) : Duration where
  seconds := seconds + nanos / 1000000000
  nanos := nanos % 1000000000
  nanos_lt := Nat.mod_lt _ (by decide)

/-- A span given in milliseconds. -/
def ofMillis (ms : Nat) : Duration :=
  ofParts (ms / 1000) (ms % 1000 * 1000000)

/-- The first whole millisecond that is not before the end of the span. -/
def wholeMillis (d : Duration) : Nat :=
  d.seconds * 1000 + (d.nanos + 999999) / 1000000

/-- The decimals of `part / 10 ^ width`, without trailing zeros. -/
def decimals (width part : Nat) : String :=
  let digits := (Nat.toDigits 10 (Nat.pow 10 width + part)).drop 1
  String.ofList (digits.reverse.dropWhile (· == '0')).reverse

/-- A whole number of units with the exact fraction `part / 10 ^ width` behind it. -/
def inUnit (whole width part : Nat) (unit : String) : String :=
  let fraction := decimals width part
  toString whole ++ (if fraction.isEmpty then "" else "." ++ fraction) ++ unit

/-- The text of a span. -/
def describe (d : Duration) : String :=
  if 0 < d.seconds then inUnit d.seconds 9 d.nanos "s"
  else if 1000000 ≤ d.nanos then inUnit (d.nanos / 1000000) 6 (d.nanos % 1000000) "ms"
  else if 1000 ≤ d.nanos then inUnit (d.nanos / 1000) 3 (d.nanos % 1000) "µs"
  else inUnit d.nanos 0 0 "ns"

end Duration

end Resumption
