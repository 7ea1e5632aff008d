import Relink.Text.Utf8

namespace Relink.Shell

/-- A text as the shell handles it: one character for each octet. -/
abbrev Chars := List Char

namespace Chars

def ofOctets (octets : Text.Octets) : Chars :=
  octets.map fun octet => Char.ofNat octet.toNat

def toOctets (cs : Chars) : Text.Octets :=
  cs.map fun c => UInt8.ofNat c.toNat

def ofString (text : String) : Chars :=
  ofOctets (Text.Utf8.encode text)

def toString (cs : Chars) : String :=
  Text.Utf8.decode (toOctets cs)

def ofNat (n : Nat) : Chars :=
  Nat.toDigits 10 n

def ofInt : Int → Chars
  | .ofNat n => ofNat n
  | .negSucc n => '-' :: ofNat (n + 1)

/-- The number that a non-empty run of decimal digits writes. -/
def toNat? (cs : Chars) : Option Nat :=
  if cs.isEmpty || !cs.all Char.isDigit then none
  else some (cs.foldl (fun n c => n * 10 + (c.toNat - '0'.toNat)) 0)

/-- The lines of a text; an end of line at the very end begins no further one. -/
def lines (cs : Chars) : List Chars :=
  match cs.splitOn '\n' with
  | [] => []
  | parts => if parts.getLast? = some [] then parts.dropLast else parts

def isNameStart (c : Char) : Bool :=
  c.isAlpha || c == '_'

def isNameChar (c : Char) : Bool :=
  isNameStart c || c.isDigit

def isName : Chars → Bool
  | [] => false
  | c :: rest => isNameStart c && rest.all isNameChar

end Chars

end Relink.Shell
