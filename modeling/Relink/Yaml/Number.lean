import Relink.Binary64.Text
import Relink.Text.Radix

namespace Relink.Yaml

inductive Number where
  | integer (value : Int)
  | float (value : Binary64)
  deriving DecidableEq

namespace Number

/-- Whether two numbers count as the same value; an integer is never the same as a float. -/
def same : Number → Number → Bool
  | integer a, integer b => a == b
  | float a, float b => a.same b
  | _, _ => false

def toText : Number → String
  | integer value => toString value
  | float value => value.toDocumentText

/-- A text without a sign at its beginning. -/
def unsigned : List Char → List Char
  | '+' :: rest => rest
  | '-' :: rest => rest
  | cs => cs

/-- Whether a text is a run of digits that a leading zero keeps from being a number. -/
def isPaddedDigits (cs : List Char) : Bool :=
  match unsigned cs with
  | '0' :: d :: rest => d.isDigit && rest.all Char.isDigit
  | _ => false

def withoutPlus : List Char → List Char
  | '+' :: rest => rest
  | cs => cs

/-- The magnitude that digits write, with the radix that a letter after a zero names, or else ten. -/
def magnitude? : List Char → Option Nat
  | '0' :: 'x' :: digits => Text.number? 16 digits
  | '0' :: 'o' :: digits => Text.number? 8 digits
  | '0' :: 'b' :: digits => Text.number? 2 digits
  | digits => Text.number? 10 digits

/-- The integer that a text writes, whatever its size. -/
def integer? (cs : List Char) : Option Int :=
  if isPaddedDigits cs then none
  else
    match cs with
    | '-' :: rest => (magnitude? rest).map fun n => -(n : Int)
    | cs => (magnitude? (withoutPlus cs)).map fun n => (n : Int)

/-- The power of ten after a number, with its sign; nothing stands for zero. -/
def power? : List Char → Option Int
  | [] => some 0
  | c :: rest =>
    if c = 'e' ∨ c = 'E' then
      match rest with
      | '-' :: digits => (Text.number? 10 digits).map fun n => -(n : Int)
      | digits => (Text.number? 10 (withoutPlus digits)).map fun n => (n : Int)
    else none

/-- The number that a decimal with an optional point and power of ten writes. There must be a digit before
or after the point. -/
def decimal? (negative : Bool) (cs : List Char) : Option Binary64 := do
  let whole := cs.takeWhile Char.isDigit
  let (places, rest) :=
    match cs.dropWhile Char.isDigit with
    | '.' :: rest => (rest.takeWhile Char.isDigit, rest.dropWhile Char.isDigit)
    | rest => ([], rest)
  let digits ← Text.number? 10 (whole ++ places)
  let power ← power? rest
  return .ofDecimal negative digits (power - places.length)

def finite? (cs : List Char) : Option Binary64 :=
  let value :=
    match cs with
    | '-' :: rest => decimal? true rest
    | cs => decimal? false cs
  value.filter (·.isFinite)

/-- The float that a text writes: a word for infinity or for no number, or a decimal. -/
def float? (cs : List Char) : Option Binary64 :=
  match String.ofList cs with
  | ".inf" | ".Inf" | ".INF" | "+.inf" | "+.Inf" | "+.INF" => some (.infinite false)
  | "-.inf" | "-.Inf" | "-.INF" => some (.infinite true)
  | ".nan" | ".NaN" | ".NAN" => some .nan
  | _ =>
    match cs with
    | '+' :: c :: rest => if c = '+' ∨ c = '-' then none else finite? (c :: rest)
    | cs => finite? cs

end Number

end Relink.Yaml
