import Relink.Binary64.Basic

/-! The decimal of fewest digits that rounds to a given number. A grid of decimals has a point in the
neighbourhood of the number only if one of the two points next to the number is such a point, so only those
two are tried. -/

namespace Relink.Binary64

/-- A positive decimal `digits * 10 ^ exponent`. -/
structure Decimal where
  digits : Nat
  exponent : Int
  deriving DecidableEq

/-- A positive fraction. -/
structure Fraction where
  numerator : Nat
  denominator : Nat

namespace Fraction

/-- The fraction `n * 2 ^ twos * 10 ^ tens`. -/
def ofPowers (n : Nat) (twos tens : Int) : Fraction where
  numerator := n * Nat.pow 2 twos.toNat * Nat.pow 10 tens.toNat
  denominator := Nat.pow 2 (-twos).toNat * Nat.pow 10 (-tens).toNat

def le (a b : Fraction) : Bool :=
  a.numerator * b.denominator ≤ b.numerator * a.denominator

def lt (a b : Fraction) : Bool :=
  !b.le a

def distance (a b : Fraction) : Fraction where
  numerator :=
    (a.numerator * b.denominator - b.numerator * a.denominator) +
      (b.numerator * a.denominator - a.numerator * b.denominator)
  denominator := a.denominator * b.denominator

/-- The exponent of the first decimal digit. -/
def magnitude (a : Fraction) : Int :=
  if a.denominator ≤ a.numerator then
    (Nat.toDigits 10 (a.numerator / a.denominator)).length - 1
  else -((Nat.toDigits 10 ((a.denominator - 1) / a.numerator)).length : Int)

end Fraction

/-- The reals that round to a number: the ends count if the significand is even. -/
structure Neighbourhood where
  low : Fraction
  value : Fraction
  high : Fraction
  closed : Bool

namespace Neighbourhood

/-- The neighbourhood of `significand * 2 ^ exponent`; below a power of two it is only half as wide. -/
def ofFinite (significand : Nat) (exponent : Int) : Neighbourhood where
  low :=
    if significand = leastNormal ∧ leastExponent < exponent then
      .ofPowers (4 * significand - 1) (exponent - 2) 0
    else .ofPowers (2 * significand - 1) (exponent - 1) 0
  value := .ofPowers significand exponent 0
  high := .ofPowers (2 * significand + 1) (exponent - 1) 0
  closed := significand % 2 = 0

/-- Whether a fraction lies in a neighbourhood. -/
def has (n : Neighbourhood) (a : Fraction) : Bool :=
  if n.closed then n.low.le a && a.le n.high else n.low.lt a && a.lt n.high

/-- The decimal of a neighbourhood on the grid of the given exponent, if there is one: of the two next to
the value the nearer, and the even one if both are as near. -/
def onGrid? (n : Neighbourhood) (exponent : Int) : Option Decimal :=
  let unit := Fraction.ofPowers 1 0 exponent
  let below := (n.value.numerator * unit.denominator) / (n.value.denominator * unit.numerator)
  let point (digits : Nat) := Fraction.ofPowers digits 0 exponent
  let candidates := [below, below + 1].filter fun digits => digits != 0 && n.has (point digits)
  match candidates with
  | [a, b] =>
    let toA := (point a).distance n.value
    let toB := (point b).distance n.value
    if toA.lt toB then some ⟨a, exponent⟩
    else if toB.lt toA then some ⟨b, exponent⟩
    else if a % 2 = 0 then some ⟨a, exponent⟩ else some ⟨b, exponent⟩
  | [a] => some ⟨a, exponent⟩
  | _ => none

end Neighbourhood

/-- Takes zeros off the end of the digits. -/
def Decimal.stripped : Nat → Decimal → Decimal
  | 0, d => d
  | fuel + 1, d =>
    if d.digits % 10 = 0 ∧ d.digits ≠ 0 then stripped fuel ⟨d.digits / 10, d.exponent + 1⟩ else d

/-- The decimal of fewest digits that rounds to a positive finite number, and of those the nearest to it.
Seventeen digits always suffice. -/
def shortest (significand : Nat) (exponent : Int) : Decimal :=
  let around := Neighbourhood.ofFinite significand exponent
  let first := around.value.magnitude
  let found := (List.range 17).findSome? fun (count : Nat) => around.onGrid? (first - (count : Int))
  Decimal.stripped 20 (found.getD ⟨significand, exponent⟩)

end Relink.Binary64
