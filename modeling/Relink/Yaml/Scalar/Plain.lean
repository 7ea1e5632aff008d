import Relink.Yaml.Scalar.Fold

namespace Relink.Yaml.Scalar

def isFlowIndicator (c : Char) : Bool :=
  c == ',' || c == '[' || c == ']' || c == '\x7b' || c == '\x7d'

/-- Whether a plain scalar ends before a visible character, by the blanks before it. -/
def endsAfterGap (inFlow : Bool) (indent : Int) (gap : Gap) (position : Position)
    (cs : List Char) : Bool :=
  !gap.isEmpty &&
    ((!inFlow && (position.column : Int) < indent) || atDocumentMark position cs || cs.head? == some '#')

/-- Whether a plain scalar ends before a visible character, by that character and the next. -/
def endsBefore (inFlow : Bool) (c : Char) (rest : List Char) : Bool :=
  (c == ':' && atWordEnd rest) || (inFlow && isFlowIndicator c)

/-- Whether a colon stands before a flow indicator, where it can neither end a plain scalar nor
belong to it. -/
def isStrayColon (inFlow : Bool) (c : Char) (rest : List Char) : Bool :=
  inFlow && c == ':' && rest.head?.any fun d => isFlowIndicator d || d == '?'

/-- Reads on in a plain scalar whose continuation lines are indented by `indent` at least. -/
def plainFrom (inFlow : Bool) (indent : Int) (text : List Char) (gap : Gap) (position : Position) :
    List Char → Option Reading
  | [] => some ⟨textOf text, position, [], gap.hasBreak⟩
  | c :: rest =>
    if isBreak c then plainFrom inFlow indent text (gap.read c) position.nextLine rest
    else if isGap c then
      if gap.hasBreak && (position.column : Int) < indent && c == '\t' then none
      else plainFrom inFlow indent text (gap.read c) (position.forward 1) rest
    else if endsAfterGap inFlow indent gap position (c :: rest) then
      some ⟨textOf text, position, c :: rest, gap.hasBreak⟩
    else if isStrayColon inFlow c rest then none
    else if endsBefore inFlow c rest then some ⟨textOf text, position, c :: rest, gap.hasBreak⟩
    else plainFrom inFlow indent (c :: gap.flush text) .empty (position.forward 1) rest

def plain? (inFlow : Bool) (indent : Int) (position : Position) (cs : List Char) : Option Reading :=
  plainFrom inFlow indent [] .empty position cs

end Relink.Yaml.Scalar
