import Relink.Shell.Chars

namespace Relink.Shell

/-- A character of a field, and whether it stands for itself only. -/
abbrev Marked := List (Char × Bool)

/-- What expanded words are made of: characters that are quoted or not, quotes, which make a field even of
nothing, and boundaries between arguments. -/
inductive Mark where
  | char (c : Char) (quoted : Bool)
  | quotes
  | boundary
  deriving DecidableEq

/-- Where a part of an expanded word is split: nowhere, at separators, or between arguments only. -/
inductive Splitting where
  | never
  | separators
  | arguments
  deriving DecidableEq

/-- A part of an expanded word. -/
structure Segment where
  splitting : Splitting
  marks : List Mark

namespace Segment

def ofValue (quoted : Bool) (value : Chars) : Segment :=
  ⟨if quoted then .never else .separators, value.map fun c => .char c quoted⟩

/-- The part that arguments make, each a field of its own. -/
def ofArguments (quoted : Bool) (values : List Chars) : Segment where
  splitting := if quoted then if values.isEmpty then .never else .arguments else .separators
  marks := ((values.map fun value => value.map fun c => Mark.char c quoted).intersperse [.boundary]).flatten

/-- The characters of parts, each with whether it stands for itself only. -/
def marked (segments : List Segment) : Marked :=
  segments.flatMap fun segment => segment.marks.filterMap fun
    | .char c quoted => some (c, quoted)
    | .quotes => none
    | .boundary => some (' ', true)

def text (segments : List Segment) : Chars :=
  (marked segments).map Prod.fst

end Segment

/-- Fields being made: the finished ones, latest first; the marks since the last one, latest first; whether
blanks after it are being passed; how many more there may be, if that is limited; and how many marks stay if
no more follow. The last ones tell whether the part before and this one are split between arguments only. -/
structure Fields where
  finished : List (List Mark) := []
  current : List Mark := []
  passing : Bool := false
  limit : Option Nat := none
  kept : Option Nat := none
  before : Bool := false
  now : Bool := false

namespace Fields

/-- The blanks among separators. -/
def isBlank (c : Char) : Bool :=
  c == ' ' || c == '\t' || c == '\n'

/-- Takes in a mark of the last field that may be made; blanks at the end will not stay. -/
def takeLast (fields : Fields) (separates blank : Bool) (mark : Mark) : Fields :=
  let added := { fields with current := mark :: fields.current }
  if blank then { added with kept := some (fields.kept.getD fields.current.length) }
  else
    let kept := if separates && fields.passing then fields.kept else none
    { added with kept := kept, passing := false }

def take (separators : Chars) (fields : Fields) (mark : Mark) : Fields :=
  let (separates, blank) :=
    match mark with
    | .boundary => (true, true)
    | .char c _ => (!fields.now && separators.contains c, !fields.now && separators.contains c && isBlank c)
    | .quotes => (false, false)
  if fields.limit = some 0 then fields.takeLast separates blank mark
  else
    let start : Fields := if fields.passing then { fields with current := [] } else fields
    if fields.passing && separates then
      if blank then start else { start with passing := false }
    else if separates then
      let passing := if fields.before || fields.now then false else blank
      if start.current.isEmpty && passing then { start with passing := false }
      else
        match fields.limit with
        | some 1 =>
          { start with
            limit := some 0
            kept := some start.current.length
            passing := passing
            current := mark :: start.current }
        | limit =>
          { start with
            finished := start.current.reverse :: start.finished
            current := []
            limit := limit.map (· - 1)
            passing := blank && !fields.now }
    else { start with current := mark :: start.current, passing := false }

def takeSegment (separators : Chars) (fields : Fields) (segment : Segment) : Fields :=
  match segment.splitting with
  | .never => { fields with current := segment.marks.reverse ++ fields.current }
  | splitting =>
    let entered := { fields with before := fields.now, now := splitting == .arguments, passing := false }
    segment.marks.foldl (take separators) entered

def characters (marks : List Mark) : Marked :=
  marks.filterMap fun
    | .char c quoted => some (c, quoted)
    | _ => none

/-- Ends the last field. It is none if nothing is in it, unless parts between arguments have come last. -/
def finish (fields : Fields) : List Marked :=
  let last :=
    if fields.now then some fields.current
    else
      let left :=
        match fields.kept with
        | some size => fields.current.drop (fields.current.length - size)
        | none => fields.current
      if left.isEmpty then none else some left
  ((last.map List.reverse).toList ++ fields.finished).reverse.map characters

/-- The fields that the parts of a word make, at most as many as the limit says. -/
def ofSegments (separators : Chars) (limit : Option Nat) (segments : List Segment) : List Marked :=
  (segments.foldl (takeSegment separators) { limit := limit }).finish

end Fields

end Relink.Shell
