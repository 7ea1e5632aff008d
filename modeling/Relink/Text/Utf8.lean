/-! Octets as text. Decoding is a fold over the octets, and each start of a character that is broken off
becomes one replacement character. -/

namespace Relink.Text

/-- A run of octets, as a file or a program's output holds it. -/
abbrev Octets := List UInt8

namespace Utf8

/-- A character whose leading octets have been read: how many octets are owed, the range of the next
one, and the value gathered so far. -/
structure Pending where
  owed : Nat
  low : Nat
  high : Nat
  value : Nat

/-- What a leading octet above ASCII announces. The ranges keep out overlong forms, surrogates and
values past the last code point. -/
def announced (lead : Nat) : Option Pending :=
  if 0xC2 ≤ lead ∧ lead ≤ 0xDF then some ⟨1, 0x80, 0xBF, lead - 0xC0⟩
  else if lead = 0xE0 then some ⟨2, 0xA0, 0xBF, 0⟩
  else if lead = 0xED then some ⟨2, 0x80, 0x9F, 0xD⟩
  else if 0xE1 ≤ lead ∧ lead ≤ 0xEF then some ⟨2, 0x80, 0xBF, lead - 0xE0⟩
  else if lead = 0xF0 then some ⟨3, 0x90, 0xBF, 0⟩
  else if 0xF1 ≤ lead ∧ lead ≤ 0xF3 then some ⟨3, 0x80, 0xBF, lead - 0xF0⟩
  else if lead = 0xF4 then some ⟨3, 0x80, 0x8F, 4⟩
  else none

/-- The character that stands for octets that form none. -/
def replacement : Char := '\uFFFD'

/-- Decoding under way: the character that is pending, and the characters read, the latest first. -/
structure Progress where
  pending : Option Pending
  found : List Char

namespace Progress

/-- Takes in an octet that begins a character. -/
def start (found : List Char) (octet : Nat) : Progress :=
  if octet < 0x80 then ⟨none, Char.ofNat octet :: found⟩
  else
    match announced octet with
    | some pending => ⟨some pending, found⟩
    | none => ⟨none, replacement :: found⟩

/-- Takes in an octet. Each longest start of a character that is broken off becomes one replacement
character. -/
def take (progress : Progress) (octet : UInt8) : Progress :=
  let n := octet.toNat
  match progress.pending with
  | none => start progress.found n
  | some pending =>
    if pending.low ≤ n ∧ n ≤ pending.high then
      let value := pending.value * 64 + (n - 0x80)
      if pending.owed ≤ 1 then ⟨none, Char.ofNat value :: progress.found⟩
      else ⟨some ⟨pending.owed - 1, 0x80, 0xBF, value⟩, progress.found⟩
    else start (replacement :: progress.found) n

/-- The characters read when no more octets follow. -/
def finish (progress : Progress) : List Char :=
  (if progress.pending.isSome then replacement :: progress.found else progress.found).reverse

end Progress

/-- The characters that octets spell, with replacement characters where they spell none. -/
def characters (octets : Octets) : List Char :=
  (octets.foldl Progress.take ⟨none, []⟩).finish

/-- The text that octets spell, with replacement characters where they spell none. -/
def decode (octets : Octets) : String :=
  String.ofList (characters octets)

def decode? (octets : Octets) : Option String :=
  String.fromUTF8? ⟨octets.toArray⟩

def encode (s : String) : Octets :=
  s.toUTF8.data.toList

end Utf8

end Relink.Text
