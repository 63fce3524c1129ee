/-!
# Rounding to binary precision

Arithmetic with 53 significant bits is described by exact rationals: an operation
is carried out exactly and its result is rounded to the nearest rational with 53
significant bits, a tie going to the even neighbour. Exponents are not bounded,
except in `roundDouble`, where small numbers have fewer bits.
-/

namespace BlockQuery.Number

/-- The nearest integer, a tie going to the even neighbour. -/
def roundHalfEven (x : Rat) : Int :=
  let below := x.floor
  let excess := x - below
  if 2 * excess < 1 then
    below
  else if 1 < 2 * excess then
    below + 1
  else if below % 2 = 0 then
    below
  else
    below + 1

/-- The exponent of the leading bit: `2 ^ leadingExponent x ≤ |x| < 2 ^ (leadingExponent x + 1)`
for `x ≠ 0`. The quotient of two numbers with leading bits `a` and `b` has its own at `a - b` or
one place lower. -/
def leadingExponent (x : Rat) : Int :=
  let estimate : Int := (x.num.natAbs.log2 : Int) - (x.den.log2 : Int)
  if (x.num.natAbs : Rat) < (x.den : Rat) * 2 ^ estimate then estimate - 1 else estimate

/-- The spacing of the numbers with 53 significant bits around `x`. -/
def spacing (x : Rat) : Rat :=
  2 ^ (leadingExponent x - 52)

/-- The nearest rational with 53 significant bits. -/
def round53 (x : Rat) : Rat :=
  if x = 0 then 0 else roundHalfEven (x / spacing x) * spacing x

/-- The exponent of the smallest number that is not zero. -/
def leastExponent : Int := -1074

/-- The spacing of the numbers around `x` that have 53 significant bits and are multiples of the
smallest number. -/
def doubleSpacing (x : Rat) : Rat :=
  2 ^ max (leadingExponent x - 52) leastExponent

/-- The nearest rational with 53 significant bits that is a multiple of the smallest number. -/
def roundDouble (x : Rat) : Rat :=
  if x = 0 then 0 else roundHalfEven (x / doubleSpacing x) * doubleSpacing x

end BlockQuery.Number
