import Relink.Word
import Relink.Yaml.Event
import Relink.Yaml.Tree

namespace Relink.Yaml.Tree

def isNullWord (text : String) : Bool :=
  text == "~" || text == "null" || text == "Null" || text == "NULL"

/-- The words for the two truth values. -/
def bool? (text : String) : Option Bool :=
  if text == "true" || text == "True" || text == "TRUE" then some true
  else if text == "false" || text == "False" || text == "FALSE" then some false
  else none

/-- The integer that a text writes as a tree, if it writes one. An integer that has no place in 64 bits but in
128 is refused; a larger one counts as none. -/
def integer? (text : String) : Option (Option Tree) :=
  match Number.integer? text.toList with
  | some n =>
    if Word.fits 64 n then some (some (.number (.integer n)))
    else if Word.fits 128 n then none
    else some none
  | none => some none

/-- The tree that a plain scalar without a tag writes, unless its integer is refused. -/
def ofPlain? (content : String) : Option Tree :=
  if content.isEmpty || isNullWord content then some .null
  else
    match bool? content with
    | some value => some (.bool value)
    | none =>
      match integer? content with
      | none => none
      | some (some tree) => some tree
      | some none =>
        if Number.isPaddedDigits content.toList then some (.text content)
        else
          match Number.float? content.toList with
          | some value => some (.number (.float value))
          | none => some (.text content)

def commonTag (name : String) : Text.Octets :=
  Text.Utf8.encode ("tag:yaml.org,2002:" ++ name)

/-- Whether a tag begins as one of the document's own does. -/
def isOwn (tag : Text.Octets) : Bool :=
  loneMark.isPrefixOf tag

/-- The tree that a scalar writes that no tag of the document's own names: four tags demand a type, any other leaves
the text as it is. A tag that begins as an own one but is no text does not count if the scalar is plain. -/
def ofScalar? (tag : Option Text.Octets) (content : String) (plain : Bool) : Option Tree :=
  match tag with
  | none => if plain then ofPlain? content else some (.text content)
  | some tag =>
    if tag = commonTag "bool" then (bool? content).map .bool
    else if tag = commonTag "int" then (integer? content).bind id
    else if tag = commonTag "float" then
      (Number.float? content.toList).map fun value => .number (.float value)
    else if tag = commonTag "null" then if isNullWord content then some .null else none
    else if isOwn tag && plain then ofPlain? content
    else some (.text content)

/-- The name of a tag of the document's own, which an exclamation mark precedes, or two. A mark that nothing
follows is a name itself. -/
def ownTag? (tag : Option Text.Octets) : Option String :=
  match (tag.bind Text.Utf8.decode?).map String.toList with
  | some ['!'] | some ['!', '!'] => some "!"
  | some ('!' :: '!' :: name) | some ('!' :: name) => some (String.ofList name)
  | _ => none

end Relink.Yaml.Tree
