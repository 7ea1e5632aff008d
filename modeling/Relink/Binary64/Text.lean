import Relink.Binary64.Shortest

/-! The two written forms of a number: in documents, where very large and very small ones have a power of ten,
and in messages, where every one is written out. -/

namespace Relink.Binary64

def zeros (count : Nat) : List Char :=
  List.replicate count '0'

/-- A decimal written out to the last place, without a point if there are no places after it. -/
def Decimal.positional (d : Decimal) : List Char :=
  let digits := Nat.toDigits 10 d.digits
  if 0 ≤ d.exponent then digits ++ zeros d.exponent.toNat
  else
    let places := (-d.exponent).toNat
    if places < digits.length then
      digits.take (digits.length - places) ++ '.' :: digits.drop (digits.length - places)
    else '0' :: '.' :: zeros (places - digits.length) ++ digits

/-- A decimal with one digit before the point and a power of ten. -/
def Decimal.scientific (d : Decimal) : List Char :=
  let digits := Nat.toDigits 10 d.digits
  let power := (toString (d.exponent + digits.length - 1)).toList
  match digits with
  | first :: second :: rest => first :: '.' :: second :: rest ++ 'e' :: power
  | _ => digits ++ 'e' :: power

/-- A text with a point and a zero after it, unless it has a point. -/
def withPoint (cs : List Char) : List Char :=
  if '.' ∈ cs then cs else cs ++ ['.', '0']

def signed (negative : Bool) (cs : List Char) : String :=
  String.ofList (if negative then '-' :: cs else cs)

/-- The text of a number in a document: written out for magnitudes from `10 ^ -5` up to `10 ^ 16`, and with
a power of ten outside of them. -/
def toDocumentText : Binary64 → String
  | nan => ".nan"
  | infinite negative => signed negative ['.', 'i', 'n', 'f']
  | finite negative significand exponent =>
    if significand = 0 then signed negative ['0', '.', '0']
    else
      let d := shortest significand exponent
      let point := d.exponent + (Nat.toDigits 10 d.digits).length
      signed negative (if -5 < point ∧ point ≤ 16 then withPoint d.positional else d.scientific)

/-- The text of a number in a message: always written out. -/
def toMessageText : Binary64 → String
  | nan => "NaN"
  | infinite negative => signed negative ['i', 'n', 'f']
  | finite negative significand exponent =>
    if significand = 0 then signed negative ['0', '.', '0']
    else signed negative (withPoint (shortest significand exponent).positional)

end Relink.Binary64
