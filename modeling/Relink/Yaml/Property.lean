import Relink.Text.Radix
import Relink.Text.Utf8
import Relink.Yaml.Scalar.Block
import Relink.Yaml.Token

namespace Relink.Yaml

/-- A token that was read, with the place after it and the characters left. -/
structure Piece where
  token : Token
  position : Position
  rest : List Char

def endsAnchor : List Char → Bool
  | [] => true
  | c :: _ =>
    isSpace c || c == '?' || c == ':' || c == ',' || c == ']' || c == '\x7d' || c == '%' || c == '@' ||
      c == '\x60'

/-- Reads the name after the indicator of an anchor or an alias. -/
def anchorName? (make : String → Token) (position : Position) (cs : List Char) : Option Piece :=
  let name := cs.takeWhile isNameChar
  let rest := cs.dropWhile isNameChar
  if name.isEmpty || !endsAnchor rest then none
  else some ⟨make (String.ofList name), position.forward name.length, rest⟩

def isTagChar (c : Char) : Bool :=
  isNameChar c || ";/?:@&=+$.%!~*'()".toList.contains c

/-- A character of a tag between angle brackets, or of the expansion of a handle. -/
def isUriChar (c : Char) : Bool :=
  isTagChar c || c == ',' || c == '[' || c == ']'

/-- How many octets follow the first one of a character, judged by its highest bits. -/
def followers? (octet : Nat) : Option Nat :=
  if octet < 0x80 then some 0
  else if octet < 0xC0 then none
  else if octet < 0xE0 then some 1
  else if octet < 0xF0 then some 2
  else if octet < 0xF8 then some 3
  else none

/-- The octets of a tag after one that owes some, each percent sign with two digits standing for one. -/
def escapedOctets? (owed : Nat) : List Char → Option Text.Octets
  | [] => if owed = 0 then some [] else none
  | '%' :: a :: b :: rest =>
    match Text.digit? 16 a, Text.digit? 16 b with
    | some high, some low =>
      let octet := high * 16 + low
      match owed with
      | 0 => (followers? octet).bind fun owed => (escapedOctets? owed rest).map (UInt8.ofNat octet :: ·)
      | owed + 1 =>
        if 0x80 ≤ octet ∧ octet < 0xC0 then (escapedOctets? owed rest).map (UInt8.ofNat octet :: ·) else none
    | _, _ => none
  | c :: rest =>
    if c = '%' ∨ owed ≠ 0 then none else (escapedOctets? 0 rest).map (UInt8.ofNat c.toNat :: ·)

/-- The octets that a tag's written form stands for, which end before the first that is zero. -/
def tagOctets? (cs : List Char) : Option Text.Octets :=
  (escapedOctets? 0 cs).map fun octets => octets.takeWhile (· ≠ 0)

/-- The handle at the beginning of a tag: an exclamation mark, or a name between two. -/
def tagHandle? : List Char → Option (List Char × List Char)
  | '!' :: rest =>
    let name := rest.takeWhile isNameChar
    match rest.dropWhile isNameChar with
    | '!' :: after => some ('!' :: name ++ ['!'], after)
    | after => some ('!' :: name, after)
  | _ => none

/-- Whether a handle is closed by a second exclamation mark. -/
def isClosedHandle (handle : List Char) : Bool :=
  2 ≤ handle.length && handle.getLast? == some '!'

def endsTag (inFlow : Bool) (rest : List Char) : Bool :=
  atWordEnd rest || (inFlow && rest.head? == some ',')

/-- A lone exclamation mark, as octets. -/
def loneMark : Text.Octets := Text.Utf8.encode "!"

/-- Reads a tag from its exclamation mark. Between angle brackets it stands whole; a lone mark has no
handle but is its own suffix. -/
def tag? (inFlow : Bool) (position : Position) (cs : List Char) : Option Piece := do
  let (handle, written, rest) ←
    match cs with
    | '!' :: '<' :: body =>
      match body.dropWhile isUriChar with
      | '>' :: rest =>
        let uri := body.takeWhile isUriChar
        if uri.isEmpty then none else some ([], uri, rest)
      | _ => none
    | _ => do
      let (handle, after) ← tagHandle? cs
      let more := after.takeWhile isTagChar
      let rest := after.dropWhile isTagChar
      if isClosedHandle handle then
        if more.isEmpty then none else some (handle, more, rest)
      else
        some (['!'], handle.drop 1 ++ more, rest)
  if !endsTag inFlow rest then none
  let suffix ← tagOctets? written
  let token : Token :=
    if handle == ['!'] && suffix.isEmpty then .tag "" loneMark else .tag (String.ofList handle) suffix
  return ⟨token, position.forward (cs.length - rest.length), rest⟩

/-- A number of a version, of nine digits at most, with what follows it. -/
def versionNumber? (cs : List Char) : Option (Nat × List Char) :=
  let digits := cs.takeWhile Char.isDigit
  if 9 < digits.length then none
  else (Text.number? 10 digits).map fun n => (n, cs.dropWhile Char.isDigit)

/-- The version that a version directive names, with what follows it. -/
def version? (cs : List Char) : Option (Token × List Char) :=
  match versionNumber? (cs.dropWhile isGap) with
  | some (major, '.' :: rest) =>
    (versionNumber? rest).map fun (minor, rest) => (.versionDirective major minor, rest)
  | _ => none

/-- The handle and the expansion that a tag directive ties, with what follows them. -/
def tagExpansion? (cs : List Char) : Option (Token × List Char) := do
  let (handle, rest) ← tagHandle? (cs.dropWhile isGap)
  if !(isClosedHandle handle || handle == ['!']) then none
  if !rest.head?.any isGap then none
  let body := rest.dropWhile isGap
  let expansion := body.takeWhile isUriChar
  let rest := body.dropWhile isUriChar
  if expansion.isEmpty || !atWordEnd rest then none
  return (.tagDirective (String.ofList handle) (← tagOctets? expansion), rest)

/-- Reads a directive from its percent sign to the end of its line. -/
def directive? (position : Position) (cs : List Char) : Option Piece := do
  let body := cs.drop 1
  let name := body.takeWhile isNameChar
  let after := body.dropWhile isNameChar
  if !atWordEnd after then none
  let (token, rest) ←
    if name == "YAML".toList then version? after
    else if name == "TAG".toList then tagExpansion? after
    else none
  let (position, rest) ← Scalar.lineEnd? false (position.forward (cs.length - rest.length)) rest
  return ⟨token, position, rest⟩

end Relink.Yaml
