namespace Relink.Glob

/-- A part of a pattern, which stands for one character or for several. -/
inductive Token where
  | char (c : Char)
  | anyChar
  | anySequence
  | anyDirectories
  | within (ranges : List (Char × Char))
  | except (ranges : List (Char × Char))
  deriving DecidableEq

/-- A pattern, part by part. -/
abbrev Pattern := List Token

/-- Why a text is no pattern. -/
inductive Fault.Kind where
  | tooManyStars
  | starsInName
  | range
  deriving DecidableEq

/-- A fault with the number of characters before it. -/
structure Fault where
  position : Nat
  kind : Fault.Kind
  deriving DecidableEq

namespace Fault

def Kind.message : Kind → String
  | tooManyStars => "wildcards are either regular \x60*\x60 or recursive \x60**\x60"
  | starsInName => "recursive wildcards must form a single path component"
  | range => "invalid range pattern"

def message (fault : Fault) : String :=
  "Pattern syntax error near position " ++ toString fault.position ++ ": " ++ fault.kind.message

end Fault

namespace Pattern

/-- The ranges that the text between brackets writes. A single character is a range too. -/
def ranges : List Char → List (Char × Char)
  | a :: '-' :: b :: rest => (a, b) :: ranges rest
  | a :: rest => (a, a) :: ranges rest
  | [] => []

/-- Splits a text at the first closing bracket after its first character. -/
def untilBracket? (cs : List Char) : Option (List Char × List Char) :=
  match cs with
  | [] => none
  | first :: rest =>
    match rest.dropWhile (· ≠ ']') with
    | [] => none
    | _ :: after => some (first :: rest.takeWhile (· ≠ ']'), after)

/-- Reads what an opening bracket begins: a choice of characters, or with an exclamation mark all but
those. -/
def bracket? (cs : List Char) : Option (Token × List Char) :=
  match cs with
  | '!' :: rest => (untilBracket? rest).map fun (body, after) => (.except (ranges body), after)
  | cs => (untilBracket? cs).map fun (body, after) => (.within (ranges body), after)

/-- Adds a token to those read so far, the latest first. Of wildcards for directories in a row one is
enough, except right at the beginning. -/
def push (token : Token) (tokens : List Token) : List Token :=
  if token = .anyDirectories ∧ 1 < tokens.length ∧ tokens.head? = some .anyDirectories then tokens
  else token :: tokens

/-- Reads on in a pattern, after the tokens in `before`, the latest first, at a character with a number of
others and one of them directly before it. -/
def parseFrom : Nat → List Token → Nat → Option Char → List Char → Except Fault Pattern
  | 0, before, _, _, _ => .ok before.reverse
  | _ + 1, before, _, _, [] => .ok before.reverse
  | fuel + 1, before, position, last, c :: rest =>
    if c = '?' then parseFrom fuel (.anyChar :: before) (position + 1) (some c) rest
    else if c = '*' then
      let stars := 1 + (rest.takeWhile (· = '*')).length
      let after := rest.dropWhile (· = '*')
      if stars = 1 then parseFrom fuel (.anySequence :: before) (position + 1) (some c) rest
      else if 2 < stars then .error ⟨position + 2, .tooManyStars⟩
      else if !(last.all (· == '/')) then .error ⟨position - 1, .starsInName⟩
      else
        match after with
        | [] => .ok (push .anyDirectories before).reverse
        | '/' :: after => parseFrom fuel (push .anyDirectories before) (position + 3) (some '/') after
        | _ => .error ⟨position + 2, .starsInName⟩
    else if c = '[' then
      match bracket? rest with
      | some (token, after) =>
        parseFrom fuel (token :: before) (position + 1 + (rest.length - after.length)) (some ']') after
      | none => .error ⟨position, .range⟩
    else parseFrom fuel (.char c :: before) (position + 1) (some c) rest

def parse (text : String) : Except Fault Pattern :=
  let cs := text.toList
  parseFrom (cs.length + 1) [] 0 none cs

def inRanges (ranges : List (Char × Char)) (c : Char) : Bool :=
  ranges.any fun (low, high) => low ≤ c && c ≤ high

/-- Whether a pattern stands for a name, a wildcard for any number of its characters. The wildcard for
directories stands for nothing within a name. -/
def matchesFrom : Pattern → List Char → Bool
  | [], cs => cs.isEmpty
  | token :: pattern, cs =>
    match token with
    | .anySequence => matchesTail pattern cs
    | .anyDirectories => matchesFrom pattern cs
    | .char d =>
      match cs with
      | c :: rest => c == d && matchesFrom pattern rest
      | [] => false
    | .anyChar =>
      match cs with
      | _ :: rest => matchesFrom pattern rest
      | [] => false
    | .within ranges =>
      match cs with
      | c :: rest => inRanges ranges c && matchesFrom pattern rest
      | [] => false
    | .except ranges =>
      match cs with
      | c :: rest => !inRanges ranges c && matchesFrom pattern rest
      | [] => false
where
  /-- Whether a pattern stands for some end of a name. -/
  matchesTail (pattern : Pattern) : List Char → Bool
    | [] => matchesFrom pattern []
    | c :: rest => matchesFrom pattern (c :: rest) || matchesTail pattern rest

def covers (pattern : Pattern) (name : String) : Bool :=
  matchesFrom pattern name.toList

/-- The name that a pattern without wildcards stands for. -/
def literal? : Pattern → Option (List Char)
  | [] => some []
  | .char c :: rest => (literal? rest).map (c :: ·)
  | _ => none

/-- Whether a pattern is the wildcard for directories. -/
def isRecursive (pattern : Pattern) : Bool :=
  pattern.contains .anyDirectories

/-- A text as a pattern that stands for it alone. -/
def escape (text : String) : String :=
  String.ofList (text.toList.flatMap fun c =>
    if c == '?' || c == '*' || c == '[' || c == ']' then ['[', c, ']'] else [c])

end Pattern

end Relink.Glob
