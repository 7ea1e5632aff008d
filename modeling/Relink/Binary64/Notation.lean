import Relink.Binary64.Shortest

/-! Written forms of a number to a given count of places: with a fixed point, with a power of ten, with whichever
of the two is shorter, and in hexadecimal digits with a power of two. The nearest decimal is taken, a half to the
even neighbour. -/

namespace Relink.Binary64

/-- A fraction in units of a power of ten, rounded. -/
def Fraction.inUnits (a : Fraction) (exponent : Int) : Nat :=
  let unit := Fraction.ofPowers 1 0 exponent
  roundQuotient (a.numerator * unit.denominator) (a.denominator * unit.numerator)

/-- Puts a point before so many last digits; one that nothing follows may be left out. -/
def pointed (places : Nat) (keepsPoint : Bool) (digits : List Char) : List Char :=
  let digits := List.replicate (places + 1 - digits.length) '0' ++ digits
  let whole := digits.take (digits.length - places)
  if places = 0 then (if keepsPoint then whole ++ ['.'] else whole)
  else whole ++ '.' :: digits.drop (digits.length - places)

/-- A number to so many places after the point. -/
def fixedNotation (significand : Nat) (exponent : Int) (places : Nat) (keepsPoint : Bool) : List Char :=
  let value := Fraction.ofPowers significand exponent 0
  pointed places keepsPoint (Nat.toDigits 10 (value.inUnits (-(places : Int))))

/-- The first digits of a positive number, one more than the places, and the power of ten of the first. -/
def leadingDigits (significand : Nat) (exponent : Int) (places : Nat) : List Char × Int :=
  let value := Fraction.ofPowers significand exponent 0
  let power := value.magnitude
  let digits := Nat.toDigits 10 (value.inUnits (power - places))
  if places + 1 < digits.length then (digits.take (places + 1), power + 1) else (digits, power)

/-- A power with its sign and at least so many digits. -/
def powerText (mark : Char) (least : Nat) (power : Int) : List Char :=
  let digits := Nat.toDigits 10 power.natAbs
  mark :: (if power < 0 then '-' else '+') :: List.replicate (least - digits.length) '0' ++ digits

/-- A number with one digit before the point, so many after it, and a power of ten. -/
def scientificNotation (significand : Nat) (exponent : Int) (places : Nat) (keepsPoint : Bool) : List Char :=
  let (digits, power) :=
    if significand = 0 then (List.replicate (places + 1) '0', 0) else leadingDigits significand exponent places
  pointed places keepsPoint digits ++ powerText 'e' 2 power

/-- A text without the zeros after its last digit that is none, and without a point at its end. -/
def withoutFinalZeros (cs : List Char) : List Char :=
  if '.' ∈ cs then
    let kept := cs.reverse.dropWhile (· == '0')
    (if kept.head? = some '.' then kept.drop 1 else kept).reverse
  else cs

/-- A number of so many digits: with a fixed point unless its power of ten is below minus four or not below the
count of digits. Final zeros stay only where the point is kept. -/
def generalNotation (significand : Nat) (exponent : Int) (digits : Nat) (keepsPoint : Bool) : List Char :=
  let count := max digits 1
  let power := if significand = 0 then 0 else (leadingDigits significand exponent (count - 1)).2
  let shorten (cs : List Char) : List Char := if keepsPoint then cs else withoutFinalZeros cs
  if -4 ≤ power && power < count then
    shorten (fixedNotation significand exponent ((count : Int) - 1 - power).toNat keepsPoint)
  else
    let text := scientificNotation significand exponent (count - 1) keepsPoint
    shorten (text.takeWhile (· ≠ 'e')) ++ text.dropWhile (· ≠ 'e')

/-- A number in hexadecimal digits with a power of two: one digit before the point and so many places after it,
or as many as it takes. -/
def hexadecimalNotation (significand : Nat) (exponent : Int) (places : Option Nat) (keepsPoint : Bool) :
    List Char :=
  let isNormal := leastNormal ≤ significand
  let power : Int := if significand = 0 then 0 else if isNormal then exponent + 52 else leastExponent + 52
  let all := 13
  let kept := min (places.getD all) all
  let rounded := roundQuotient significand (Nat.pow 16 (all - kept))
  let digits := Nat.toDigits 16 rounded
  let digits := List.replicate (kept + 1 - digits.length) '0' ++ digits
  let whole := digits.take (digits.length - kept)
  let fraction := digits.drop (digits.length - kept)
  let fraction :=
    match places with
    | some count => fraction ++ List.replicate (count - kept) '0'
    | none => (fraction.reverse.dropWhile (· == '0')).reverse
  let point := if fraction.isEmpty && !keepsPoint then [] else ['.']
  '0' :: 'x' :: whole ++ point ++ fraction ++ powerText 'p' 1 power

end Relink.Binary64
