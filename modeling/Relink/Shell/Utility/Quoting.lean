import Relink.Shell.Chars

namespace Relink.Shell.Utility

/-- Whether a character has a shape of its own. -/
def isPrintable (c : Char) : Bool :=
  ' ' ≤ c && c ≤ '~'

/-- The letters that stand for characters after a backslash. -/
def escapeLetters : List (Char × Char) := [
  ('\x07', 'a'), ('\x08', 'b'), ('\t', 't'), ('\n', 'n'), ('\x0b', 'v'), ('\x0c', 'f'), ('\x0d', 'r')]

/-- What stands for a character without a shape: a letter or three octal digits, after a backslash. -/
def escapeOf (c : Char) : Chars :=
  match escapeLetters.lookup c with
  | some letter => ['\\', letter]
  | none =>
    let digits := Nat.toDigits 8 c.toNat
    '\\' :: List.replicate (3 - digits.length) '0' ++ digits

/-- The text between the quotes around a name. Characters without a shape stand in quotes of their own, and a quote
between two parts; `escaping` tells whether such quotes are open. -/
def insideQuotes : Bool → Chars → Chars
  | _, [] => []
  | escaping, c :: rest =>
    if !isPrintable c then
      (if escaping then [] else ['\'', '$', '\'']) ++ escapeOf c ++ insideQuotes true rest
    else if c == '\'' then ['\'', '\\', '\'', '\''] ++ insideQuotes false rest
    else (if escaping then ['\'', '\''] else []) ++ c :: insideQuotes false rest

/-- Whether a character means the same between double quotes. -/
def isPlainBetweenDoubleQuotes (c : Char) : Bool :=
  c.isAlphanum || "%+,-./:]_@' ".toList.contains c

/-- A name between quotes. A quote in it asks for double quotes, if those take no meaning from the rest. -/
def quoted (name : Chars) : String :=
  let isFirst (c : Char) : Bool := isPlainBetweenDoubleQuotes c || c == '#' || c == '~'
  if name.contains '\'' && name.head?.all isFirst && (name.drop 1).all isPlainBetweenDoubleQuotes then
    String.ofList ('"' :: name ++ ['"'])
  else String.ofList ('\'' :: insideQuotes false name ++ ['\''])

/-- Whether a name cannot stand without quotes. -/
def needsQuotes (name : Chars) : Bool :=
  name.isEmpty || name == ['\x7b'] || name == ['\x7d'] || name.head? = some '#' || name.head? = some '~' ||
    name.any fun c => !isPrintable c || "?\\' !\"$&()*;<=>[^\x60|:".toList.contains c

/-- A name without quotes, if it can stand so. -/
def shown (name : Chars) : String :=
  if needsQuotes name then quoted name else String.ofList name

/-- A text between quotes, in which a backslash takes the meaning from a quote. -/
def cited (text : Chars) : String :=
  let inside := text.flatMap fun c =>
    if c == '\'' || c == '\\' then ['\\', c] else if isPrintable c then [c] else escapeOf c
  String.ofList ('\'' :: inside ++ ['\''])

end Relink.Shell.Utility
