import Relink.Text.Glyphless
import Relink.Text.Radix

namespace Relink.Text

/-- A character of a quoted literal: the usual letters after a backslash, a number in braces for what has
no glyph, and itself otherwise. -/
def literalChar (c : Char) : String :=
  match c with
  | '\x00' => "\\0"
  | '\t' => "\\t"
  | '\n' => "\\n"
  | '\r' => "\\r"
  | '"' => "\\\""
  | '\\' => "\\\\"
  | c => if isGlyphless c then "\\u\x7b" ++ hexText c.toNat ++ "\x7d" else c.toString

def literal (text : String) : String :=
  "\"" ++ String.join (text.toList.map literalChar) ++ "\""

end Relink.Text
