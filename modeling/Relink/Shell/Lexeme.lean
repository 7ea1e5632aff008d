import Relink.Shell.Command

namespace Relink.Shell

/-- Where a piece of a word stands, which decides what the characters mean: in a word of its own, between
double quotes, in the braces of a parameter, in an arithmetic expression or in a line of a text given in the
script. Double quotes may be in braces, and braces may be in such a text as well. -/
inductive Setting where
  | word
  | quoted (inBraces : Bool)
  | braces (quoted : Bool) (ofDocument : Bool)
  | arithmetic (depth : Nat)
  | document
  deriving DecidableEq

/-- Whether what is expanded there is quoted. -/
def Setting.isQuoted : Setting → Bool
  | .word | .braces false _ => false
  | _ => true

/-- Whether the place is in a text given in the script. -/
def Setting.isOfDocument : Setting → Bool
  | .document | .braces _ true => true
  | _ => false

def Setting.isInBraces : Setting → Bool
  | .quoted inBraces => inBraces
  | .braces .. => true
  | _ => false

/-- What the next characters of a word are. -/
inductive Lexeme where
  | stop (rest : Chars)
  | openEnd
  | openQuote
  | chars (cs : Chars) (quoted : Bool) (rest : Chars)
  | skip (rest : Chars)
  | doubleQuote (rest : Chars)
  | dollar (rest : Chars)
  | backquote (rest : Chars)
  | deeper (c : Char) (depth : Nat) (rest : Chars)

namespace Lexeme

def endsWord (c : Char) : Bool :=
  c == ' ' || c == '\t' || c == '\n' || c == ';' || c == '&' || c == '|' || c == '(' || c == ')' ||
    c == '<' || c == '>'

/-- The characters that begin a piece of a word that is more than themselves. -/
def beginsPiece (c : Char) : Bool :=
  c == '\\' || c == '"' || c == '\'' || c == '$' || c == '\x60'

/-- The characters that a backslash takes the meaning from, between double quotes. -/
def escapable (c : Char) : Bool :=
  c == '$' || c == '\x60' || c == '"' || c == '\\'

/-- The longest run of characters without a meaning of their own; the first one counts as such. -/
def run (quoted : Bool) (special : Char → Bool) (c : Char) (rest : Chars) : Lexeme :=
  chars (c :: rest.takeWhile (!special ·)) quoted (rest.dropWhile (!special ·))

def singleQuoted (rest : Chars) : Lexeme :=
  match rest.dropWhile (· ≠ '\'') with
  | [] => openQuote
  | _ :: after => chars (rest.takeWhile (· ≠ '\'')) true after

/-- Reads what follows a backslash that quotes any character. -/
def escaped : Chars → Lexeme
  | [] => chars ['\\'] true []
  | '\n' :: rest => skip rest
  | c :: rest => chars [c] true rest

/-- Reads what follows a backslash that quotes certain characters. -/
def escapedAmong (admitted : Char → Bool) : Chars → Lexeme
  | '\n' :: rest => skip rest
  | c :: rest => if admitted c then chars [c] true rest else chars ['\\'] true (c :: rest)
  | [] => chars ['\\'] true []

def next : Setting → Chars → Lexeme
  | .word, [] => stop []
  | .document, [] => stop []
  | .quoted _, [] => openQuote
  | .braces quoted ofDocument, [] => if quoted && !ofDocument then openQuote else openEnd
  | .arithmetic _, [] => openEnd
  | _, '$' :: rest => dollar rest
  | _, '\x60' :: rest => backquote rest
  | .word, c :: rest =>
    if endsWord c then stop (c :: rest)
    else if c == '\\' then escaped rest
    else if c == '\'' then singleQuoted rest
    else if c == '"' then doubleQuote rest
    else run false (fun c => endsWord c || beginsPiece c) c rest
  | .quoted inBraces, c :: rest =>
    if c == '"' then stop rest
    else if c == '\\' then escapedAmong (fun c => escapable c || (inBraces && c == '\x7d')) rest
    else run true escapable c rest
  | .braces quoted _, c :: rest =>
    if c == '\x7d' then stop rest
    else if c == '"' then doubleQuote rest
    else if c == '\\' then
      if quoted then escapedAmong (fun c => escapable c || c == '\x7d') rest else escaped rest
    else if c == '\'' && !quoted then singleQuoted rest
    else run quoted (fun c => beginsPiece c || c == '\x7d') c rest
  | .arithmetic depth, c :: rest =>
    if c == '(' then deeper c (depth + 1) rest
    else if c == ')' then
      match depth, rest with
      | depth + 1, rest => deeper c depth rest
      | 0, ')' :: rest => stop rest
      | 0, rest => chars [c] true rest
    else if c == '\\' then escapedAmong escapable rest
    else run true (fun c => (escapable c && c != '"') || c == '(' || c == ')') c rest
  | .document, c :: rest =>
    if c == '\n' then stop (c :: rest)
    else if c == '\\' then escapedAmong (fun c => escapable c && c != '"') rest
    else run true (fun c => c == '\n' || (escapable c && c != '"')) c rest

end Lexeme

end Relink.Shell
