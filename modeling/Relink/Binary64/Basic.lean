/-! Binary floating-point numbers as exact values. `ofFraction` and `ofDecimal` round to nearest, a half to
the even neighbour, and all of it is natural-number arithmetic. -/

namespace Relink

/-- A binary floating-point number of 64 bits. A finite one is `significand * 2 ^ exponent`, its significand
below `2 ^ 53` and, unless the exponent is the least one, not below `2 ^ 52`. -/
inductive Binary64 where
  | nan
  | infinite (negative : Bool)
  | finite (negative : Bool) (significand : Nat) (exponent : Int)
  deriving DecidableEq

namespace Binary64

def leastExponent : Int := -1074

def greatestExponent : Int := 971

/-- The least significand of a number whose exponent is not the least. -/
def leastNormal : Nat := Nat.pow 2 52

/-- A quotient rounded to the nearest natural number, a half to the even neighbour. -/
def roundQuotient (numerator denominator : Nat) : Nat :=
  let below := numerator / denominator
  let rest := 2 * (numerator % denominator)
  if rest < denominator then below
  else if denominator < rest then below + 1
  else if below % 2 = 0 then below else below + 1

/-- The numerator and denominator of a fraction divided by a power of two. -/
def scaledDown (numerator denominator : Nat) (exponent : Int) : Nat × Nat :=
  if 0 ≤ exponent then (numerator, denominator * Nat.pow 2 exponent.toNat)
  else (numerator * Nat.pow 2 (-exponent).toNat, denominator)

/-- The number nearest to a positive fraction; past the greatest one it is infinite. -/
def ofFraction (negative : Bool) (numerator denominator : Nat) : Binary64 :=
  let estimate : Int := (numerator.log2 : Int) - denominator.log2 - 52
  let (n, d) := scaledDown numerator denominator estimate
  let exponent := max leastExponent (if n / d < leastNormal then estimate - 1 else estimate)
  let (n, d) := scaledDown numerator denominator exponent
  let significand := roundQuotient n d
  let (significand, exponent) :=
    if significand = 2 * leastNormal then (leastNormal, exponent + 1) else (significand, exponent)
  if greatestExponent < exponent then .infinite negative
  else .finite negative significand exponent

/-- The number nearest to `digits * 10 ^ exponent`. The order of magnitude settles what is far out of
range. -/
def ofDecimal (negative : Bool) (digits : Nat) (exponent : Int) : Binary64 :=
  if digits = 0 then .finite negative 0 leastExponent
  else
    let magnitude : Int := (Nat.toDigits 10 digits).length + exponent
    if 400 < magnitude then .infinite negative
    else if magnitude < -400 then .finite negative 0 leastExponent
    else if 0 ≤ exponent then ofFraction negative (digits * Nat.pow 10 exponent.toNat) 1
    else ofFraction negative digits (Nat.pow 10 (-exponent).toNat)

/-- Whether two numbers count as the same value: zeros do, whatever their signs, and so do two that are
no number. -/
def same : Binary64 → Binary64 → Bool
  | finite s m e, finite s' m' e' => (m == 0 && m' == 0) || (s == s' && m == m' && e == e')
  | a, b => a == b

def isFinite : Binary64 → Bool
  | finite .. => true
  | _ => false

end Binary64

end Relink
