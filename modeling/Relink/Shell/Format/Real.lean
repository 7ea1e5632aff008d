import Relink.Binary64.Notation
import Relink.Shell.Chars
import Relink.Text.Radix

namespace Relink.Shell.Format

/-- A number read from the beginning of a text: the number, whether it is out of range, and what follows. -/
structure Real where
  value : Binary64
  outOfRange : Bool
  rest : Chars

namespace Real

/-- Digits of a radix before and after a point: the number that they write together, how many stand after the
point, and what follows. Nothing is read where there is no digit. -/
def digits? (radix : Nat) (cs : Chars) : Option (Nat × Nat × Chars) :=
  let isDigit (c : Char) : Bool := (Text.digit? radix c).isSome
  let whole := cs.takeWhile isDigit
  let after := cs.drop whole.length
  let fraction :=
    match after with
    | '.' :: places => places.takeWhile isDigit
    | _ => []
  let rest := if after.head? = some '.' then after.drop (fraction.length + 1) else after
  (Text.number? radix (whole ++ fraction)).map fun n => (n, fraction.length, rest)

/-- A power after its mark, if there is one, and what follows. -/
def power (isMark : Char → Bool) (cs : Chars) : Int × Chars :=
  match cs with
  | c :: rest =>
    let (negative, digits) :=
      match rest with
      | '-' :: digits => (true, digits)
      | '+' :: digits => (false, digits)
      | digits => (false, digits)
    match if isMark c then Chars.toNat? (digits.takeWhile Char.isDigit) else none with
    | some n => (if negative then -(n : Int) else n, digits.dropWhile Char.isDigit)
    | none => (0, cs)
  | [] => (0, [])

/-- Whether a number is too great, or so small that digits are lost. -/
def isOutOfRange (n : Nat) (twos tens : Int) : Binary64 → Bool
  | .infinite _ => true
  | .finite _ significand exponent =>
    if significand < Binary64.leastNormal && n ≠ 0 then
      if significand = 0 then true
      else
        let exact := Binary64.Fraction.ofPowers n twos tens
        let stored := Binary64.Fraction.ofPowers significand exponent 0
        !(exact.le stored && stored.le exact)
    else false
  | .nan => false

/-- How far powers are looked at; what lies beyond is out of range. -/
def farthest : Int := 20000

def decimal? (negative : Bool) (cs : Chars) : Option Real := do
  let (n, places, rest) ← digits? 10 cs
  let (exponent, rest) := power (fun c => c == 'e' || c == 'E') rest
  let exponent := exponent - places
  let value := Binary64.ofDecimal negative n exponent
  let far := exponent < -farthest || farthest < exponent
  return ⟨value, if far then n ≠ 0 else isOutOfRange n 0 exponent value, rest⟩

def hexadecimal? (negative : Bool) (cs : Chars) : Option Real := do
  let (n, places, rest) ← digits? 16 cs
  let (exponent, rest) := power (fun c => c == 'p' || c == 'P') rest
  let exponent := max (-farthest) (min farthest (exponent - 4 * places))
  let value :=
    if n = 0 then Binary64.finite negative 0 Binary64.leastExponent
    else if 0 ≤ exponent then Binary64.ofFraction negative (n * Nat.pow 2 exponent.toNat) 1
    else Binary64.ofFraction negative n (Nat.pow 2 (-exponent).toNat)
  return ⟨value, isOutOfRange n exponent 0 value, rest⟩

/-- Reads what is no number, or greater than any. -/
def named? (negative : Bool) (cs : Chars) : Option Real :=
  let begins (word : String) : Bool := word.toList.isPrefixOf (cs.map Char.toLower)
  if begins "infinity" then some ⟨.infinite negative, false, cs.drop 8⟩
  else if begins "inf" then some ⟨.infinite negative, false, cs.drop 3⟩
  else if begins "nan" then some ⟨.nan, false, cs.drop 3⟩
  else none

/-- Reads a number from the beginning of a text, and whether a minus stands before it. -/
def read? (text : Chars) : Option (Bool × Real) :=
  let cs := text.dropWhile Char.isWhitespace
  let (negative, cs) :=
    match cs with
    | '-' :: rest => (true, rest)
    | '+' :: rest => (false, rest)
    | cs => (false, cs)
  let hexadecimal : Option Real :=
    match cs with
    | '0' :: x :: rest => if x == 'x' || x == 'X' then hexadecimal? negative rest else none
    | _ => none
  ((hexadecimal <|> decimal? negative cs) <|> named? negative cs).map fun real => (negative, real)

end Real

end Relink.Shell.Format
