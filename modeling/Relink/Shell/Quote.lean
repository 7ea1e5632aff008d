/-! Quoting a text as one word of a command. Every character that means something between double quotes is
escaped. -/

namespace Relink.Shell

/-- Whether a character keeps a meaning of its own between double quotes, or would lose it after a
backslash: these get a backslash. -/
def needsEscape (c : Char) : Bool :=
  c == '$' || c == '\x60' || c == '"' || c == '\\' || c == '\n'

/-- A text with a backslash before each character that needs one. -/
def escape (cs : List Char) : List Char :=
  cs.flatMap fun c => if needsEscape c then ['\\', c] else [c]

/-- A text as one double-quoted word of a shell command. -/
def quote (text : String) : String :=
  String.ofList ('"' :: escape text.toList ++ ['"'])

end Relink.Shell
