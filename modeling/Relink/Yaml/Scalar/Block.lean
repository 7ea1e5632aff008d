import Relink.Yaml.Scalar.Fold

namespace Relink.Yaml.Scalar

/-- What becomes of the line ends at the end of a block scalar: all go, one stays, or all stay. -/
inductive Chomping where
  | strip
  | clip
  | keep
  deriving DecidableEq

/-- The head of a block scalar: whether its line ends are kept, what becomes of the last ones, and by how
much its lines are indented, if that is said. -/
structure BlockHeader where
  literal : Bool
  chomping : Chomping
  increment : Option Nat

def chomping? : Char → Option Chomping
  | '+' => some .keep
  | '-' => some .strip
  | _ => none

def increment? (c : Char) : Option Nat :=
  if '1' ≤ c ∧ c ≤ '9' then some (c.toNat - '0'.toNat) else none

/-- Reads the sign and the digit after the indicator, in either order; each may lack. A zero is no digit of
a header, which shows when the rest of the line is read. -/
def header (literal : Bool) (cs : List Char) : BlockHeader × List Char :=
  match cs with
  | [] => (⟨literal, .clip, none⟩, [])
  | c :: rest =>
    match chomping? c, increment? c with
    | some chomping, _ =>
      match rest with
      | d :: rest' =>
        match increment? d with
        | some increment => (⟨literal, chomping, some increment⟩, rest')
        | none => (⟨literal, chomping, none⟩, rest)
      | [] => (⟨literal, chomping, none⟩, [])
    | none, some increment =>
      match rest with
      | d :: rest' =>
        match chomping? d with
        | some chomping => (⟨literal, chomping, some increment⟩, rest')
        | none => (⟨literal, .clip, some increment⟩, rest)
      | [] => (⟨literal, .clip, some increment⟩, [])
    | none, none => (⟨literal, .clip, none⟩, cs)

/-- Reads blanks and a comment to the end of the line, with which the line is left. -/
def lineEnd? (inComment : Bool) (position : Position) : List Char → Option (Position × List Char)
  | [] => some (position, [])
  | c :: rest =>
    if isBreak c then some (position.nextLine, rest)
    else if inComment then lineEnd? true (position.forward 1) rest
    else if isGap c then lineEnd? false (position.forward 1) rest
    else if c = '#' then lineEnd? true (position.forward 1) rest
    else none

/-- A block scalar under way: its indentation, if it is known, and otherwise the widest seen; the text,
latest character first; the end of the last line and the line ends after it; whether the last line began
with a blank, and whether a line is being read. -/
structure BlockState where
  indent : Option Nat
  widest : Nat
  text : List Char
  lineBreak : Option Char
  further : List Char
  blankLed : Bool
  inLine : Bool

namespace BlockState

/-- The text after what the chomping leaves of the last line ends. -/
def chomped (state : BlockState) (chomping : Chomping) : List Char :=
  match chomping with
  | .strip => state.text
  | .clip => state.lineBreak.toList ++ state.text
  | .keep => state.further ++ state.lineBreak.toList ++ state.text

/-- The state at the first character of a line. A line feed between two lines that begin with visible
characters folds: to a space if no empty line follows, else to nothing. -/
def beginLine (state : BlockState) (literal : Bool) (c : Char) : BlockState :=
  let folds := !literal && state.lineBreak == some '\n' && !state.blankLed && !isGap c
  let joined :=
    if folds then (if state.further.isEmpty then ' ' :: state.text else state.text)
    else state.lineBreak.toList ++ state.text
  { state with
    text := c :: (state.further ++ joined)
    lineBreak := none
    further := []
    blankLed := isGap c
    inLine := true }

end BlockState

/-- Reads on in a block scalar inside a node that is indented by `outer`. -/
def blockFrom (header : BlockHeader) (outer : Int) (state : BlockState) (position : Position) :
    List Char → Option Reading
  | [] => some ⟨textOf (state.chomped header.chomping), position, [], false⟩
  | c :: rest =>
    if state.inLine then
      if isBreak c then
        blockFrom header outer { state with lineBreak := some c, inLine := false } position.nextLine rest
      else blockFrom header outer { state with text := c :: state.text } (position.forward 1) rest
    else
      let beforeText := state.indent.all fun indent => decide (position.column < indent)
      if beforeText && c == ' ' then
        let widest := max state.widest (position.column + 1)
        blockFrom header outer { state with widest := widest } (position.forward 1) rest
      else if beforeText && c == '\t' then none
      else if isBreak c then
        blockFrom header outer { state with further := c :: state.further } position.nextLine rest
      else
        let indent := state.indent.getD (max state.widest (max (outer + 1).toNat 1))
        if position.column = indent then
          blockFrom header outer ({ state with indent := some indent }.beginLine header.literal c)
            (position.forward 1) rest
        else some ⟨textOf (state.chomped header.chomping), position, c :: rest, false⟩

/-- Reads a block scalar from after its indicator. -/
def block? (literal : Bool) (outer : Int) (position : Position) (cs : List Char) : Option Reading :=
  let (head, rest) := header literal cs
  match lineEnd? false (position.forward (cs.length - rest.length)) rest with
  | none => none
  | some (position, rest) =>
    let indent := head.increment.map fun increment => outer.toNat + increment
    blockFrom head outer ⟨indent, 0, [], none, [], false, false⟩ position rest

end Relink.Yaml.Scalar
