import Relink.Yaml.Property
import Relink.Yaml.Scalar.Plain
import Relink.Yaml.Scalar.Quoted

/-! The tokens of a document. A key is known as such only by the colon after it, so a token before the key is
put in when the colon is met. -/

namespace Relink.Yaml

/-- Something that will have been a key if a colon follows: where it begins, the text from there on, how many
tokens come before it, and whether nothing but a key may stand there. -/
structure KeyCandidate where
  start : Position
  ahead : List Char
  tokenCount : Nat
  required : Bool

namespace KeyCandidate

/-- The greatest number of octets between the beginning of a key and its colon. -/
def greatestLength : Nat := 1024

/-- Whether a colon at a place can still follow: in the same line, and not too far away. Since no character
takes less than an octet, the octets need be counted only if the characters are few enough. -/
def isAlive (candidate : KeyCandidate) (position : Position) : Bool :=
  let count := position.column - candidate.start.column
  candidate.start.line == position.line && count ≤ greatestLength &&
    (candidate.ahead.take count).foldl (fun size c => size + c.utf8Size) 0 ≤ greatestLength

end KeyCandidate

/-- A lexer under way: what is left of the text; the indentation of the innermost block collection, -1
outside of all, and those around it; the key candidate of the innermost flow collection, or of the block
around all, and those further out; whether a key may begin here; and the tokens, latest first. -/
structure Lexer where
  rest : List Char
  position : Position
  indent : Int
  outerIndents : List Int
  candidate : Option KeyCandidate
  outerCandidates : List (Option KeyCandidate)
  keyAllowed : Bool
  tokens : List Token

namespace Lexer

def ofSource (cs : List Char) : Lexer :=
  ⟨cs, ⟨0, 0⟩, -1, [], none, [], true, []⟩

def inFlow (lexer : Lexer) : Bool :=
  !lexer.outerCandidates.isEmpty

def push (lexer : Lexer) (token : Token) : Lexer :=
  { lexer with tokens := token :: lexer.tokens }

/-- The lexer some characters further in its line. -/
def skip (lexer : Lexer) (count : Nat) : Lexer :=
  { lexer with rest := lexer.rest.drop count, position := lexer.position.forward count }

/-- Skips blanks, comments and line ends before a token. A tab is skipped only where no key may begin, and a
line end outside of flow collections lets one begin. A byte order mark at the beginning of a line goes. -/
def skipSpace (inFlow keyAllowed inComment : Bool) (position : Position) :
    List Char → Bool × Position × List Char
  | [] => (keyAllowed, position, [])
  | c :: rest =>
    if isBreak c then skipSpace inFlow (keyAllowed || !inFlow) false position.nextLine rest
    else if inComment || c == ' ' || (c == '\t' && (inFlow || !keyAllowed)) ||
        (c == '\uFEFF' && position.column == 0) then
      skipSpace inFlow keyAllowed inComment (position.forward 1) rest
    else if c == '#' then skipSpace inFlow keyAllowed true (position.forward 1) rest
    else (keyAllowed, position, c :: rest)

def toNextToken (lexer : Lexer) : Lexer :=
  let (keyAllowed, position, rest) :=
    skipSpace lexer.inFlow lexer.keyAllowed false lexer.position lexer.rest
  { lexer with keyAllowed := keyAllowed, position := position, rest := rest }

/-- Closes the block collections that are indented by more than a column. -/
def closeBlocks (column indent : Int) : List Int → List Token → Int × List Int × List Token
  | [], tokens => (indent, [], tokens)
  | outer :: further, tokens =>
    if column < indent then closeBlocks column outer further (.blockEnd :: tokens)
    else (indent, outer :: further, tokens)

/-- Closes the block collections that end at a column; within flow collections none does. -/
def unroll (lexer : Lexer) (column : Int) : Lexer :=
  if lexer.inFlow then lexer
  else
    let (indent, outer, tokens) := closeBlocks column lexer.indent lexer.outerIndents lexer.tokens
    { lexer with indent := indent, outerIndents := outer, tokens := tokens }

/-- Inserts tokens, earliest first, after the first `count` ones of a list that has the latest first. -/
def insertAfter (count : Nat) (inserted tokens : List Token) : List Token :=
  let later := tokens.length - count
  tokens.take later ++ inserted.reverse ++ tokens.drop later

/-- Opens a block collection at a column that lies further in than the innermost one's. -/
def roll (lexer : Lexer) (column : Nat) (start : Token) : Lexer :=
  if !lexer.inFlow && lexer.indent < column then
    { lexer with
      indent := column
      outerIndents := lexer.indent :: lexer.outerIndents
      tokens := start :: lexer.tokens }
  else lexer

/-- Gives up the key candidate, unless nothing but a key may stand in its place. -/
def dropCandidate? (lexer : Lexer) : Option Lexer :=
  if lexer.candidate.any (·.required) then none else some { lexer with candidate := none }

/-- Notes that a key may begin here. -/
def noteCandidate? (lexer : Lexer) : Option Lexer :=
  if lexer.keyAllowed then
    let required := !lexer.inFlow && lexer.indent == lexer.position.column
    lexer.dropCandidate?.map fun lexer =>
      { lexer with candidate := some ⟨lexer.position, lexer.rest, lexer.tokens.length, required⟩ }
  else some lexer

def accept (lexer : Lexer) (piece : Piece) : Lexer :=
  { lexer with
    rest := piece.rest
    position := piece.position
    tokens := piece.token :: lexer.tokens }

def acceptScalar (lexer : Lexer) (plain : Bool) (reading : Scalar.Reading) : Lexer :=
  lexer.accept ⟨.scalar reading.text plain, reading.position, reading.rest⟩

/-- A directive, which closes all blocks. -/
def directive? (lexer : Lexer) : Option Lexer := do
  let lexer ← (lexer.unroll (-1)).dropCandidate?
  let piece ← Yaml.directive? lexer.position lexer.rest
  return { lexer with keyAllowed := false }.accept piece

/-- A mark between documents, which closes all blocks. -/
def documentMark? (lexer : Lexer) (token : Token) : Option Lexer := do
  let lexer ← (lexer.unroll (-1)).dropCandidate?
  return ({ lexer with keyAllowed := false }.skip 3).push token

def openFlow? (lexer : Lexer) (token : Token) : Option Lexer := do
  let lexer ← lexer.noteCandidate?
  return ({ lexer with
    candidate := none
    outerCandidates := lexer.candidate :: lexer.outerCandidates
    keyAllowed := true }.skip 1).push token

def closeFlow? (lexer : Lexer) (token : Token) : Option Lexer := do
  let lexer ← lexer.dropCandidate?
  let lexer : Lexer :=
    match lexer.outerCandidates with
    | candidate :: outer => { lexer with candidate := candidate, outerCandidates := outer }
    | [] => lexer
  return ({ lexer with keyAllowed := false }.skip 1).push token

/-- The comma between entries of a flow collection. -/
def comma? (lexer : Lexer) : Option Lexer := do
  let lexer ← lexer.dropCandidate?
  return ({ lexer with keyAllowed := true }.skip 1).push .flowEntry

/-- Opens a block collection for an indicator, which must stand where a key may begin. -/
def rollHere? (lexer : Lexer) (start : Token) : Option Lexer :=
  if lexer.inFlow then some lexer
  else if lexer.keyAllowed then some (lexer.roll lexer.position.column start)
  else none

/-- The dash before an entry of a block sequence. -/
def dash? (lexer : Lexer) : Option Lexer := do
  let lexer ← (← lexer.rollHere? .blockSequenceStart).dropCandidate?
  return ({ lexer with keyAllowed := true }.skip 1).push .blockEntry

/-- The question mark before a key. -/
def key? (lexer : Lexer) : Option Lexer := do
  let lexer ← (← lexer.rollHere? .blockMappingStart).dropCandidate?
  return ({ lexer with keyAllowed := !lexer.inFlow }.skip 1).push .key

/-- Turns the key candidate into a key, which may begin a block mapping. -/
def settleCandidate (lexer : Lexer) (candidate : KeyCandidate) : Lexer :=
  let begins := !lexer.inFlow && lexer.indent < candidate.start.column
  let inserted := if begins then [.blockMappingStart, .key] else [.key]
  let lexer : Lexer :=
    if begins then
      { lexer with
        indent := candidate.start.column
        outerIndents := lexer.indent :: lexer.outerIndents }
    else lexer
  { lexer with
    tokens := insertAfter candidate.tokenCount inserted lexer.tokens
    candidate := none
    keyAllowed := false }

/-- The colon before a value. -/
def value? (lexer : Lexer) : Option Lexer := do
  let lexer ←
    match lexer.candidate with
    | some candidate =>
      if candidate.isAlive lexer.position then some (lexer.settleCandidate candidate)
      else if candidate.required then none
      else (lexer.rollHere? .blockMappingStart).map fun lexer =>
        { lexer with candidate := none, keyAllowed := !lexer.inFlow }
    | none => (lexer.rollHere? .blockMappingStart).map fun lexer =>
        { lexer with keyAllowed := !lexer.inFlow }
  return (lexer.skip 1).push .value

def anchor? (lexer : Lexer) (make : String → Token) : Option Lexer := do
  let lexer ← lexer.noteCandidate?
  let piece ← anchorName? make (lexer.position.forward 1) (lexer.rest.drop 1)
  return { lexer with keyAllowed := false }.accept piece

def tag? (lexer : Lexer) : Option Lexer := do
  let lexer ← lexer.noteCandidate?
  let piece ← Yaml.tag? lexer.inFlow lexer.position lexer.rest
  return { lexer with keyAllowed := false }.accept piece

/-- A block scalar, after which a key may begin. -/
def blockScalar? (lexer : Lexer) (literal : Bool) : Option Lexer := do
  let lexer ← lexer.dropCandidate?
  let reading ←
    Scalar.block? literal lexer.indent (lexer.position.forward 1) (lexer.rest.drop 1)
  return { lexer with keyAllowed := true }.acceptScalar false reading

def quotedScalar? (lexer : Lexer) (quote : Char) : Option Lexer := do
  let lexer ← lexer.noteCandidate?
  let reading ← Scalar.quoted? quote (lexer.position.forward 1) (lexer.rest.drop 1)
  return { lexer with keyAllowed := false }.acceptScalar false reading

/-- A plain scalar; if a line ended after it, a key may begin. -/
def plainScalar? (lexer : Lexer) : Option Lexer := do
  let lexer ← lexer.noteCandidate?
  let reading ← Scalar.plain? lexer.inFlow (lexer.indent + 1) lexer.position lexer.rest
  return { lexer with keyAllowed := reading.lineEnded }.acceptScalar true reading

/-- Whether a plain scalar may begin with a character: it must not be an indicator, except for three of
them before a visible character. -/
def beginsPlain (inFlow : Bool) (c : Char) (rest : List Char) : Bool :=
  !("-?:,[]\x7b\x7d#&*!|>'\"%@\x60".toList.contains c) || (c == '-' && !rest.head?.any isGap) ||
    (!inFlow && (c == '?' || c == ':') && !atWordEnd rest)

/-- Reads the token that begins with a character, which is no blank. -/
def fetch? (lexer : Lexer) (c : Char) (rest : List Char) : Option Lexer :=
  if c == '%' && lexer.position.column == 0 then lexer.directive?
  else if isDocumentMark '-' lexer.position lexer.rest then lexer.documentMark? .documentStart
  else if isDocumentMark '.' lexer.position lexer.rest then lexer.documentMark? .documentEnd
  else if c == '[' then lexer.openFlow? .flowSequenceStart
  else if c == '\x7b' then lexer.openFlow? .flowMappingStart
  else if c == ']' then lexer.closeFlow? .flowSequenceEnd
  else if c == '\x7d' then lexer.closeFlow? .flowMappingEnd
  else if c == ',' then lexer.comma?
  else if c == '-' && atWordEnd rest then lexer.dash?
  else if c == '?' && (lexer.inFlow || atWordEnd rest) then lexer.key?
  else if c == ':' && (lexer.inFlow || atWordEnd rest) then lexer.value?
  else if c == '*' then lexer.anchor? .alias
  else if c == '&' then lexer.anchor? .anchor
  else if c == '!' then lexer.tag?
  else if c == '|' && !lexer.inFlow then lexer.blockScalar? true
  else if c == '>' && !lexer.inFlow then lexer.blockScalar? false
  else if c == '\'' || c == '"' then lexer.quotedScalar? c
  else if !isGap c && beginsPlain lexer.inFlow c rest then lexer.plainScalar?
  else none

/-- The tokens at the end of the text, which closes all blocks. -/
def finish? (lexer : Lexer) : Option (List Token) :=
  (lexer.unroll (-1)).dropCandidate?.map fun lexer => (Token.streamEnd :: lexer.tokens).reverse

/-- Reads tokens to the end of the text. Each takes a character at least, so that one unit of fuel for
each character and one for the end suffice. -/
def run? : Nat → Lexer → Option (List Token)
  | 0, _ => none
  | fuel + 1, lexer =>
    let lexer := lexer.toNextToken
    let lexer := lexer.unroll lexer.position.column
    match lexer.rest with
    | [] => lexer.finish?
    | c :: rest => (lexer.fetch? c rest).bind (run? fuel)

end Lexer

def tokens? (text : String) : Option (List Token) :=
  (source? text.toList).bind fun cs => Lexer.run? (cs.length + 1) (.ofSource cs)

end Relink.Yaml
