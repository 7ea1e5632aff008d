import Relink.Toml.Value
import Relink.Word

/-! Settings documents, read line by line. Every line takes a character at least, so the text bounds the
recursion. -/

namespace Relink.Toml

/-- How deep arrays and inline tables may be nested. -/
def greatestDepth : Nat := 80

/-- A character of a value without quotes. -/
def isWordChar (c : Char) : Bool :=
  c.isAlphanum || c == '-' || c == '_' || c == '+' || c == '.' || c == ':'

/-- Reads the word of a value without quotes. A blank after a date joins a time of day to it. -/
def word (cs : List Char) : List Char × List Char :=
  let first := cs.takeWhile isWordChar
  match cs.dropWhile isWordChar with
  | ' ' :: c :: rest =>
    if afterDate? first = some [] ∧ c.isDigit then
      (first ++ ' ' :: (c :: rest).takeWhile isWordChar, (c :: rest).dropWhile isWordChar)
    else (first, ' ' :: c :: rest)
  | rest => (first, rest)

/-- The value that a word writes. A number must have a place: an integer in 128 bits, a decimal among the
finite floats. -/
def ofWord? (cs : List Char) : Option Value :=
  if cs = "true".toList then some (.bool true)
  else if cs = "false".toList then some (.bool false)
  else if isMoment cs then some .moment
  else
    match integer? cs with
    | some n => if Word.fits 128 n then some (.integer n) else none
    | none =>
      match float? cs with
      | some value =>
        if value.isFinite || cs.getLast? == some 'f' || cs.getLast? == some 'n' then some (.float value)
        else none
      | none => none

mutual

/-- Reads a value inside of which `depth` further collections may nest. -/
def value? : Nat → Nat → List Char → Option (Value × List Char)
  | 0, _, _ => none
  | fuel + 1, depth, cs =>
    match cs with
    | '[' :: rest =>
      match depth with
      | 0 => none
      | depth + 1 => (array? fuel depth [] rest).map fun (items, rest) => (.array items, rest)
    | '\x7b' :: rest =>
      match depth with
      | 0 => none
      | depth + 1 =>
        (inlineTable? fuel depth .explicit [] rest).map fun (entries, rest) =>
          (.table .inline entries, rest)
    | '"' :: _ => (Quoted.read? cs).map fun (text, rest) => (.text text, rest)
    | '\'' :: _ => (Quoted.read? cs).map fun (text, rest) => (.text text, rest)
    | cs =>
      let (name, rest) := word cs
      (ofWord? name).map fun value => (value, rest)

/-- Reads the items of an array to its end, after those in `before`. -/
def array? : Nat → Nat → List Value → List Char → Option (List Value × List Char)
  | 0, _, _, _ => none
  | fuel + 1, depth, before, cs =>
    match skipLines cs with
    | ']' :: rest => some (before.reverse, rest)
    | cs => do
      let (item, rest) ← value? fuel depth cs
      match skipLines rest with
      | ',' :: rest => array? fuel depth (item :: before) rest
      | ']' :: rest => some ((item :: before).reverse, rest)
      | _ => none

/-- Reads the entries of an inline table to its end, after those in `before`. Lines may end anywhere but
within a key. -/
def inlineTable? : Nat → Nat → Origin → Entries → List Char → Option (Entries × List Char)
  | 0, _, _, _, _ => none
  | fuel + 1, depth, origin, before, cs =>
    match skipLines cs with
    | '\x7d' :: rest => some (before, rest)
    | cs => do
      let (parts, rest) ← key? cs
      match skipLines rest with
      | '=' :: rest =>
        let (value, rest) ← value? fuel depth (skipLines rest)
        let (origin, entries) ←
          Entries.assign? parts.dropLast (parts.getLastD "") value origin before
        match skipLines rest with
        | ',' :: rest => inlineTable? fuel depth origin entries rest
        | '\x7d' :: rest => some (entries, rest)
        | _ => none
      | _ => none

end

/-- Reads the key between brackets, which must close, and the rest of the line. -/
def header? (close : List Char) (cs : List Char) : Option (List String × List Char) := do
  let (parts, rest) ← key? cs
  if close.isPrefixOf rest then
    return (parts, ← lineEnd? (rest.drop close.length))
  else none

/-- Reads the lines of a document, each of which takes a character at least. Keys go into the table that
`path` leads to. -/
def lines? : Nat → List String → Entries → List Char → Option Entries
  | 0, _, _, _ => none
  | fuel + 1, path, entries, cs =>
    match skipLines cs with
    | [] => some entries
    | '[' :: '[' :: rest => do
      let (parts, rest) ← header? [']', ']'] rest
      let entries ← Entries.openNext? parts.dropLast (parts.getLastD "") entries
      lines? fuel parts entries rest
    | '[' :: rest => do
      let (parts, rest) ← header? [']'] rest
      let entries ← Entries.openTable? parts.dropLast (parts.getLastD "") entries
      lines? fuel parts entries rest
    | cs => do
      let (parts, rest) ← key? cs
      match rest with
      | '=' :: rest =>
        let (value, rest) ← value? (cs.length + 1) greatestDepth (skipGap rest)
        let rest ← lineEnd? rest
        let assign := Entries.assign? parts.dropLast (parts.getLastD "") value
        let (_, entries) ← Entries.change? .byHeader assign .explicit path entries
        lines? fuel path entries rest
      | _ => none

/-- The entries of the document that a text writes. A byte order mark before it does not count. -/
def parse? (text : String) : Option Entries :=
  match text.toList with
  | '\uFEFF' :: cs => lines? (cs.length + 1) [] [] cs
  | cs => lines? (cs.length + 1) [] [] cs

end Relink.Toml
