import Relink.Shell.Chars

/-! The commands that a script is made of. Words keep their quotes and expansions apart, since those decide
what becomes of a word. -/

namespace Relink.Shell

/-- What becomes of the value of a parameter. The choices that hang on whether it is set may count an empty
value as none. -/
inductive Use where
  | value
  | size
  | fallback (evenEmpty : Bool)
  | assign (evenEmpty : Bool)
  | demand (evenEmpty : Bool)
  | replace (evenEmpty : Bool)
  | cutStart (longest : Bool)
  | cutEnd (longest : Bool)
  | malformed
  deriving DecidableEq

inductive Redirect.Mode where
  | read
  | write
  | replace
  | append
  | readWrite
  | duplicate
  | text
  deriving DecidableEq

mutual

/-- A piece of a word. A quoted one is neither split into fields nor matched with file names; an empty pair
of quotes makes a field of nothing. -/
inductive Piece where
  | chars (cs : List Char) (quoted : Bool)
  | quotes
  | parameter (name : String) (use : Use) (word : List Piece) (quoted : Bool)
  | arithmetic (expression : List Piece) (quoted : Bool)
  | output (command : Command) (quoted : Bool)

inductive Redirect where
  | mk (descriptor : Nat) (mode : Redirect.Mode) (word : List Piece)

/-- A command. A simple one knows the line that it begins in. -/
inductive Command where
  | nothing
  | simple (line : Nat) (assignments : List (String × List Piece)) (words : List (List Piece))
      (redirects : List Redirect)
  | redirected (line : Nat) (body : Command) (redirects : List Redirect)
  | subshell (line : Nat) (body : Command) (redirects : List Redirect)
  | sequence (first second : Command)
  | both (first second : Command)
  | either (first second : Command)
  | negation (body : Command)
  | pipeline (stages : List Command)
  | background (body : Command)
  | choice (condition success failure : Command)
  | loop (untilSuccess : Bool) (condition body : Command)
  | each (line : Nat) (name : String) (words : List (List Piece)) (body : Command)
  | selection (line : Nat) (word : List Piece) (branches : List (List (List Piece) × Command))
  | definition (name : String) (body : Command)

end

/-- A word: the pieces that it is made of. -/
abbrev Word := List Piece

namespace Word

/-- The text of a word, if nothing in it is quoted or expanded. -/
def bare? : Word → Option Chars
  | [] => some []
  | .chars cs false :: rest => (bare? rest).map (cs ++ ·)
  | _ => none

/-- Puts a piece before others; characters of one kind are joined. -/
def cons (piece : Piece) (word : Word) : Word :=
  match piece, word with
  | .chars cs quoted, .chars more q :: rest =>
    if quoted = q then .chars (cs ++ more) q :: rest else piece :: word
  | _, _ => piece :: word

def ofReversed (pieces : List Piece) : Word :=
  pieces.foldl (fun word piece => cons piece word) []

/-- The word that stands for all arguments, each a field of its own. -/
def allArguments : Word :=
  [.parameter "@" .value [] true]

end Word

end Relink.Shell
