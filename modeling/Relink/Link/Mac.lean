import Relink.Link.Invalid
import Relink.Text.Blank
import Relink.Text.Radix

/-! Link-layer addresses: reading and writing them, and their order, in which shorter ones come first. -/

namespace Relink.Link

/-- A link-layer address: how many octets it has, and the fixed field that holds them first. -/
structure Mac where
  length : Nat
  field : Vector UInt8 32
  deriving DecidableEq

namespace Mac

/-- The octets that count. -/
def octets (m : Mac) : List UInt8 :=
  m.field.toList.take m.length

/-- The address with the given octets; there are one to thirty-two. The rest of the field is zero. -/
def ofOctets? (octets : List UInt8) : Option Mac :=
  if octets.length = 0 ∨ 32 < octets.length then none
  else some ⟨octets.length, Vector.ofFn fun i => octets.getD i 0⟩

/-- The octets as two-digit groups with colons between them. -/
def toText (m : Mac) : String :=
  String.ofList ([':'].intercalate (m.octets.map Text.hexPair))

/-- The octet that one group writes: one or two hexadecimal digits, the first of two may be a plus sign
instead. -/
def group? : List Char → Option UInt8
  | [c] => (Text.digit? 16 c).map UInt8.ofNat
  | ['+', c] => (Text.digit? 16 c).map UInt8.ofNat
  | [c, d] => (Text.number? 16 [c, d]).map UInt8.ofNat
  | _ => none

/-- The separator of a written address: a colon if there is one in it. -/
def separator (cs : List Char) : Char :=
  if ':' ∈ cs then ':' else '-'

/-- Reads groups between single separators; a lone group is no address. -/
def ofGroups? (cs : List Char) : Option Mac := do
  let octets ← (cs.splitOn (separator cs)).mapM group?
  if octets.length < 2 then none
  ofOctets? octets

/-- Reads an address between blanks. -/
def parse (text : String) : Except Invalid Mac :=
  match ofGroups? (Text.trimmed text.toList) with
  | some m => .ok m
  | none => .error (.macAddress text)

/-- Compares lengths first, then the fields octet by octet. -/
def order (a b : Mac) : Ordering :=
  (compare a.length b.length).then (compareOfLessAndEq a.field.toList b.field.toList)

end Mac

end Relink.Link
