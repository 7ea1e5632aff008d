import Relink.Shell.Command

namespace Relink.Shell

/-- What a script is made of: operators, redirections and words. -/
inductive Token where
  | finish
  | newline
  | semicolon
  | doubleSemicolon
  | ampersand
  | doubleAmpersand
  | bar
  | doubleBar
  | leftParen
  | rightParen
  | redirect (descriptor : Nat) (mode : Redirect.Mode) (strip : Bool)
  | word (word : Word)

namespace Token

/-- The words that have a meaning of their own where a command may begin. -/
def keywords : List String :=
  ["!", "case", "do", "done", "elif", "else", "esac", "fi", "for", "if", "in", "then", "until", "while",
    "\x7b", "\x7d"]

/-- The keywords that cannot begin a command but end the commands before them. -/
def closers : List String :=
  ["do", "done", "elif", "else", "esac", "fi", "then", "\x7d"]

/-- The keyword that a token is, where keywords count. -/
def keyword? : Token → Option String
  | word w => (w.bare?.map String.ofList).filter (keywords.contains ·)
  | _ => none

def endsList (token : Token) : Bool :=
  match token with
  | finish | doubleSemicolon | rightParen => true
  | word _ => token.keyword?.any closers.contains
  | _ => false

/-- A text between double quotes. -/
def displayed (text : String) : String :=
  "\"" ++ text ++ "\""

def display (token : Token) : String :=
  match token with
  | finish => "end of file"
  | newline => "newline"
  | semicolon => displayed ";"
  | doubleSemicolon => displayed ";;"
  | ampersand => displayed "&"
  | doubleAmpersand => displayed "&&"
  | bar => displayed "|"
  | doubleBar => displayed "||"
  | leftParen => displayed "("
  | rightParen => displayed ")"
  | redirect .. => "redirection"
  | word _ => (token.keyword?.map displayed).getD "word"

/-- What follows joined lines, and how many there are. -/
def unfold : Chars → Nat × Chars
  | '\\' :: '\n' :: rest =>
    let (lines, after) := unfold rest
    (lines + 1, after)
  | rest => (0, rest)

/-- The token of an operator that may go on, by what goes on after joined lines. -/
def extended (rest : Chars) (short : Token) (long : List (Char × Token)) : Token × Nat × Chars :=
  let (lines, after) := unfold rest
  match after with
  | c :: after =>
    match long.lookup c with
    | some token => (token, lines, after)
    | none => (short, 0, rest)
  | [] => (short, 0, rest)

/-- Reads what follows the sign of an input redirection. -/
def readInput (descriptor : Nat) (rest : Chars) : Token × Nat × Chars :=
  let text (strip : Bool) : Token := redirect descriptor .text strip
  let signs := [
    ('<', text false), ('&', redirect descriptor .duplicate false), ('>', redirect descriptor .readWrite false)]
  match extended rest (redirect descriptor .read false) signs with
  | (.redirect descriptor .text _, lines, after) =>
    let (token, more, after) := extended after (.redirect descriptor .text false) [('-', text true)]
    (token, lines + more, after)
  | other => other

/-- Reads what follows the sign of an output redirection. -/
def readOutput (descriptor : Nat) (rest : Chars) : Token × Nat × Chars :=
  extended rest (redirect descriptor .write false) [
    ('>', redirect descriptor .append false), ('&', redirect descriptor .duplicate false),
    ('|', redirect descriptor .replace false)]

/-- Reads an operator or a redirection, if a text begins with one, and counts the joined lines in it. A single digit
before the sign of a redirection names its descriptor. -/
def operator? : Chars → Option (Token × Nat × Chars)
  | [] => some (finish, 0, [])
  | '\n' :: rest => some (newline, 0, rest)
  | ';' :: rest => some (extended rest semicolon [(';', doubleSemicolon)])
  | '&' :: rest => some (extended rest ampersand [('&', doubleAmpersand)])
  | '|' :: rest => some (extended rest bar [('|', doubleBar)])
  | '(' :: rest => some (leftParen, 0, rest)
  | ')' :: rest => some (rightParen, 0, rest)
  | '<' :: rest => some (readInput 0 rest)
  | '>' :: rest => some (readOutput 1 rest)
  | c :: rest =>
    if c.isDigit then
      let (lines, after) := unfold rest
      let descriptor := c.toNat - '0'.toNat
      let found :=
        match after with
        | '<' :: rest => some (readInput descriptor rest)
        | '>' :: rest => some (readOutput descriptor rest)
        | _ => none
      found.map fun (token, more, rest) => (token, lines + more, rest)
    else none

end Token

/-- Why a script cannot be read. -/
inductive Fault.Problem where
  | unexpected (found : Token) (expected : Option String)
  | openQuote
  | openBrace
  | openArithmetic
  | openBackquote
  | loopVariable
  | functionName
  | tooDeep

/-- Why a script cannot be read, and in which line. -/
structure Fault where
  line : Nat
  problem : Fault.Problem

def Fault.Problem.message : Fault.Problem → String
  | unexpected found none => found.display ++ " unexpected"
  | unexpected found (some expected) => found.display ++ " unexpected (expecting " ++ expected ++ ")"
  | openQuote => "Unterminated quoted string"
  | openBrace => "Missing '\x7d'"
  | openArithmetic => "Missing '))'"
  | openBackquote => "EOF in backquote substitution"
  | loopVariable => "Bad for loop variable"
  | functionName => "Bad function name"
  | tooDeep => "Nested too deep"

end Relink.Shell
