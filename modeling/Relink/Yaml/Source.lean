namespace Relink.Yaml

/-- A character that a document may hold as it is. -/
def isAllowed (c : Char) : Bool :=
  let n := c.toNat
  n == 0x09 || n == 0x0A || n == 0x0D || (0x20 ≤ n && n ≤ 0x7E) || n == 0x85 ||
    (0xA0 ≤ n && n ≤ 0xD7FF) || (0xE000 ≤ n && n ≤ 0xFFFD) || 0x10000 ≤ n

/-- Writes every line end that counts as a line feed as one. -/
def unifyLineEnds : List Char → List Char
  | [] => []
  | '\r' :: '\n' :: rest => '\n' :: unifyLineEnds rest
  | c :: rest => (if c = '\r' ∨ c = '\x85' then '\n' else c) :: unifyLineEnds rest

/-- The characters of a document text with unified line ends, if all of them are allowed. -/
def source? (text : List Char) : Option (List Char) :=
  if text.all isAllowed then some (unifyLineEnds text) else none

/-- A line end: a line feed, or one of the two separators that are kept as they are. -/
def isBreak (c : Char) : Bool :=
  c == '\n' || c == '\u2028' || c == '\u2029'

/-- A blank within a line. -/
def isGap (c : Char) : Bool :=
  c == ' ' || c == '\t'

def isSpace (c : Char) : Bool :=
  isGap c || isBreak c

def atWordEnd : List Char → Bool
  | [] => true
  | c :: _ => isSpace c

/-- A character of names of anchors and of tag handles. -/
def isNameChar (c : Char) : Bool :=
  c.isAlphanum || c == '-' || c == '_'

/-- A place in a text. -/
structure Position where
  line : Nat
  column : Nat
  deriving DecidableEq

namespace Position

/-- The place some characters further in the same line. -/
def forward (p : Position) (count : Nat) : Position :=
  { p with column := p.column + count }

def nextLine (p : Position) : Position :=
  ⟨p.line + 1, 0⟩

end Position

/-- Whether a line begins with a mark between documents: three equal characters before a word end. -/
def isDocumentMark (mark : Char) (position : Position) : List Char → Bool
  | a :: b :: c :: rest =>
    position.column == 0 && a == mark && b == mark && c == mark && atWordEnd rest
  | _ => false

/-- Whether a line begins with either mark between documents. -/
def atDocumentMark (position : Position) (rest : List Char) : Bool :=
  isDocumentMark '-' position rest || isDocumentMark '.' position rest

end Relink.Yaml
