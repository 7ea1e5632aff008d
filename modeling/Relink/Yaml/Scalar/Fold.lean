import Relink.Yaml.Source

namespace Relink.Yaml.Scalar

/-- The blanks and line ends read since the last visible character of a scalar, latest first: blanks of the
same line, or line ends after a first one. The first is absent where a backslash took it away. -/
inductive Gap where
  | blanks (read : List Char)
  | breaks (first : Option Char) (further : List Char)

namespace Gap

def empty : Gap := .blanks []

def isEmpty : Gap → Bool
  | blanks [] => true
  | _ => false

/-- Whether a line ended. -/
def hasBreak : Gap → Bool
  | blanks _ => false
  | breaks .. => true

/-- Reads one more blank or line end. Once a line has ended, blanks do not count. -/
def read (gap : Gap) (c : Char) : Gap :=
  match gap with
  | blanks cs => if isBreak c then breaks (some c) [] else blanks (c :: cs)
  | breaks first further => if isBreak c then breaks first (c :: further) else gap

/-- Appends what a gap stands for to a text that is kept latest character first: a single line feed
becomes a space, and of several the first goes. -/
def flush (gap : Gap) (text : List Char) : List Char :=
  match gap with
  | blanks cs => cs ++ text
  | breaks (some '\n') [] => ' ' :: text
  | breaks (some '\n') further => further ++ text
  | breaks (some c) further => further ++ c :: text
  | breaks none further => further ++ text

end Gap

/-- A scalar that was read, with the place after it, the characters left, and whether a line ended on the
way there. -/
structure Reading where
  text : String
  position : Position
  rest : List Char
  lineEnded : Bool

/-- A text that was kept latest character first. -/
def textOf (reversed : List Char) : String :=
  String.ofList reversed.reverse

end Relink.Yaml.Scalar
