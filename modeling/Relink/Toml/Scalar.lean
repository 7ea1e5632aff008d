import Relink.Binary64.Basic
import Relink.Text.Radix

namespace Relink.Toml

/-- The digits of a number without the underscores between them, each of which has a digit on both
sides. -/
def joined? (digit : Char → Bool) : List Char → Option (List Char)
  | [] => some []
  | '_' :: _ => none
  | c :: '_' :: d :: rest =>
    if digit c && digit d then (joined? digit (d :: rest)).map (c :: ·) else none
  | c :: rest => if digit c then (joined? digit rest).map (c :: ·) else none

/-- The number that a run of digits of a radix writes, with underscores between them. -/
def digits? (radix : Nat) (cs : List Char) : Option Nat :=
  (joined? (fun c => (Text.digit? radix c).isSome) cs).bind (Text.number? radix)

/-- The digits of a decimal number, which do not begin with a zero unless that is all. -/
def decimalDigits? (cs : List Char) : Option (List Char) :=
  match joined? Char.isDigit cs with
  | none => none
  | some [] => none
  | some ['0'] => some ['0']
  | some ('0' :: _) => none
  | some digits => some digits

/-- Whether a text has a sign at its beginning that is a minus, and the text after the sign. -/
def sign : List Char → Bool × List Char
  | '-' :: rest => (true, rest)
  | '+' :: rest => (false, rest)
  | cs => (false, cs)

/-- The integer that a text writes: decimal with a sign, or in a radix that a letter after a zero names. -/
def integer? (cs : List Char) : Option Int :=
  match cs with
  | '0' :: 'x' :: digits => (digits? 16 digits).map Int.ofNat
  | '0' :: 'o' :: digits => (digits? 8 digits).map Int.ofNat
  | '0' :: 'b' :: digits => (digits? 2 digits).map Int.ofNat
  | cs =>
    let (negative, rest) := sign cs
    ((decimalDigits? rest).bind (Text.number? 10)).map fun n => if negative then -(n : Int) else n

/-- The power of ten after a number, with its sign. -/
def power? (cs : List Char) : Option Int :=
  let (negative, rest) := sign cs
  ((joined? Char.isDigit rest).bind (Text.number? 10)).map fun n => if negative then -(n : Int) else n

/-- The float that a text writes: infinity, no number, or a decimal with places or a power of ten or both. -/
def float? (cs : List Char) : Option Binary64 := do
  let (negative, rest) := sign cs
  if rest = "inf".toList then return .infinite negative
  if rest = "nan".toList then return .nan
  let isPower (c : Char) : Bool := c == 'e' || c == 'E'
  let beforePower := rest.takeWhile (!isPower ·)
  let whole ← decimalDigits? (beforePower.takeWhile (· ≠ '.'))
  let places ←
    match beforePower.dropWhile (· ≠ '.') with
    | [] => some []
    | _ :: places => (joined? Char.isDigit places).filter (!·.isEmpty)
  let power ←
    match rest.dropWhile (!isPower ·) with
    | [] => some 0
    | _ :: power => power? power
  if places.isEmpty && beforePower.length = rest.length then none
  let digits ← Text.number? 10 (whole ++ places)
  return .ofDecimal negative digits (power - places.length)

/-- A number of exactly so many digits, with what follows it. -/
def fixedNumber? (count : Nat) (cs : List Char) : Option (Nat × List Char) :=
  let digits := cs.take count
  if digits.length = count ∧ digits.all Char.isDigit then
    (Text.number? 10 digits).map fun n => (n, cs.drop count)
  else none

def daysIn (year month : Nat) : Nat :=
  if month = 2 then
    if year % 4 = 0 ∧ (year % 100 ≠ 0 ∨ year % 400 = 0) then 29 else 28
  else if month = 4 ∨ month = 6 ∨ month = 9 ∨ month = 11 then 30
  else 31

/-- What follows a date of the calendar. -/
def afterDate? (cs : List Char) : Option (List Char) := do
  let (year, rest) ← fixedNumber? 4 cs
  let (month, rest) ← fixedNumber? 2 (← after? '-' rest)
  let (day, rest) ← fixedNumber? 2 (← after? '-' rest)
  if 1 ≤ month ∧ month ≤ 12 ∧ 1 ≤ day ∧ day ≤ daysIn year month then some rest else none
where
  /-- What follows a character. -/
  after? (c : Char) : List Char → Option (List Char)
    | d :: rest => if d = c then some rest else none
    | [] => none

/-- What follows the fraction of a second, which may lack. -/
def afterFraction? (cs : List Char) : Option (List Char) :=
  match cs with
  | '.' :: rest =>
    if rest.head?.any Char.isDigit then some (rest.dropWhile Char.isDigit) else none
  | cs => some cs

/-- What follows a time of day, whose seconds may lack. -/
def afterTime? (cs : List Char) : Option (List Char) := do
  let (hour, rest) ← fixedNumber? 2 cs
  let (minute, rest) ← fixedNumber? 2 (← afterDate?.after? ':' rest)
  if 23 < hour || 59 < minute then none
  match rest with
  | ':' :: rest =>
    let (second, rest) ← fixedNumber? 2 rest
    if 60 < second then none
    afterFraction? rest
  | rest => return rest

/-- Whether a text is an offset from universal time, or nothing. -/
def isOffset (cs : List Char) : Bool :=
  match cs with
  | [] => true
  | ['Z'] | ['z'] => true
  | c :: rest =>
    (c == '+' || c == '-') &&
      match fixedNumber? 2 rest with
      | some (hour, ':' :: rest) =>
        match fixedNumber? 2 rest with
        | some (minute, []) => hour ≤ 23 && minute ≤ 59
        | _ => false
      | _ => false

/-- Whether a text is a moment: a date, a time of day, or both with an offset. -/
def isMoment (cs : List Char) : Bool :=
  match afterDate? cs with
  | some [] => true
  | some (c :: rest) => (c == 'T' || c == 't' || c == ' ') && (afterTime? rest).any isOffset
  | none => (afterTime? cs).any (·.isEmpty)

end Relink.Toml
