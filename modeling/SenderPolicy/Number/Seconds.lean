import SenderPolicy.Number.Binary64
import SenderPolicy.Text.Numeral

/-! Spans of time in seconds as messages show them, with three decimal places, and readings of a clock. A
clock shows a whole number or the binary value nearest to a decimal. -/

namespace SenderPolicy

open Number

/-- A span of time; the sign is kept apart, so a span that rounds to zero keeps it. -/
structure Seconds where
  negative : Bool
  size : Rat
deriving DecidableEq, Repr

namespace Seconds

/-- The span that a decimal number of seconds stands for. -/
def ofDecimal (d : Text.Decimal) : Seconds :=
  ⟨d.negative, nearestBinary64 (scaled d.digits d.exponent)⟩

/-- The span rounded to one decimal place and then to the nearest binary value. -/
def rounded (t : Seconds) : Seconds :=
  { t with size := nearestBinary64 (roundPlaces 1 t.size) }

/-- The span with three decimal places. -/
def text (t : Seconds) : String :=
  let thousandths := (roundHalfEven (t.size * 1000)).toNat
  let places := toString (1000 + thousandths % 1000)
  (if t.negative then "-" else "") ++ toString (thousandths / 1000) ++ "."
    ++ String.ofList (places.toList.drop 1)

end Seconds

/-- A reading of a clock, in seconds. -/
inductive Instant where
  | whole (n : Int)
  | binary (value : Rat)
deriving DecidableEq, Repr

namespace Instant

def ofDecimal (d : Text.Decimal) : Instant :=
  let size := nearestBinary64 (scaled d.digits d.exponent)
  binary (if d.negative then -size else size)

/-- The exact value of a reading. -/
def value : Instant → Rat
  | whole n => n
  | binary q => q

/-- The value as it enters a computation with binary values. -/
def binaryValue : Instant → Rat
  | whole n => nearestBinary64 n
  | binary q => q

/-- The reading without its fraction. -/
def wholeSeconds (t : Instant) : Int :=
  if t.value < 0 then -(-t.value).floor else t.value.floor

/-- The reading some time later. -/
def after : Instant → Instant → Instant
  | whole n, whole m => whole (n + m)
  | s, t => binary (nearestBinary64 (s.binaryValue + t.binaryValue))

/-- The time between an earlier reading and this one. -/
def since : Instant → Instant → Instant
  | whole n, whole m => whole (n - m)
  | s, t => binary (nearestBinary64 (s.binaryValue - t.binaryValue))

end Instant

end SenderPolicy
