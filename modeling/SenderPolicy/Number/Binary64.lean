/-! Rounding of exact rationals: to the nearest whole number, to a number of decimal places, and to the
nearest value with a significand of 53 bits. A half always goes to the even neighbour. -/

namespace SenderPolicy.Number

/-- The nearest whole number; a half goes to the even neighbour. -/
def roundHalfEven (q : Rat) : Int :=
  let below := q.floor
  let excess := q - below
  if excess < 1 / 2 then below
  else if 1 / 2 < excess then below + 1
  else if below % 2 = 0 then below else below + 1

/-- A rational rounded to a number of decimal places. -/
def roundPlaces (places : Nat) (q : Rat) : Rat :=
  (roundHalfEven (q * 10 ^ places) : Rat) / 10 ^ places

/-- The largest whole exponent of two that is not above a positive rational. -/
def binaryExponent (q : Rat) : Int :=
  let estimate : Int := (Nat.log2 q.num.natAbs : Int) - Nat.log2 q.den
  if (2 : Rat) ^ estimate ≤ q then estimate else estimate - 1

/-- The nearest binary floating-point value of double precision; values beyond the range keep their
precision instead of becoming infinite. -/
def nearestBinary64 (q : Rat) : Rat :=
  if q = 0 then 0
  else
    let size := if q < 0 then -q else q
    let unit : Rat := (2 : Rat) ^ (max (binaryExponent size - 52) (-1074))
    (roundHalfEven (q / unit) : Rat) * unit

/-- The value of `digits · 10 ^ exponent`. -/
def scaled (digits : Nat) (exponent : Int) : Rat :=
  (digits : Rat) * (10 : Rat) ^ exponent

end SenderPolicy.Number
