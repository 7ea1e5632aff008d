import Relink.Glob.Pattern
import Relink.Shell.Activity
import Relink.Shell.Arithmetic
import Relink.Shell.Fields

/-! What words become: values in the place of expansions, fields where a value is split, and patterns where
characters are not quoted. -/

namespace Relink.Shell

namespace Expansion

/-- The classes of characters that a pattern may name. -/
def classes : List (String × List (Char × Char)) := [
  ("[:digit:]", [('0', '9')]),
  ("[:lower:]", [('a', 'z')]),
  ("[:upper:]", [('A', 'Z')]),
  ("[:alpha:]", [('A', 'Z'), ('a', 'z')]),
  ("[:alnum:]", [('0', '9'), ('A', 'Z'), ('a', 'z')]),
  ("[:xdigit:]", [('0', '9'), ('A', 'F'), ('a', 'f')]),
  ("[:blank:]", [(' ', ' '), ('\t', '\t')]),
  ("[:space:]", [(' ', ' '), ('\t', '\x0d')]),
  ("[:punct:]", [('!', '/'), (':', '@'), ('[', '\x60'), ('\x7b', '~')]),
  ("[:cntrl:]", [('\x00', '\x1f'), ('\x7f', '\x7f')]),
  ("[:graph:]", [('!', '~')]),
  ("[:print:]", [(' ', '~')])]

/-- Reads the choice of characters after an opening bracket up to the closing one, which does not close at
the very beginning. -/
def choice? : Nat → Bool → Marked → Option (List (Char × Char) × Marked)
  | 0, _, _ => none
  | _ + 1, _, [] => none
  | fuel + 1, first, (c, quoted) :: rest =>
    if c == ']' && !quoted && !first then some ([], rest)
    else
      let text := (c, quoted) :: rest
      match classes.find? fun entry => (entry.1.toList.map fun c => (c, false)).isPrefixOf text with
      | some (name, ranges) =>
        (choice? fuel false (rest.drop (name.length - 1))).map fun (more, after) => (ranges ++ more, after)
      | none =>
        match rest with
        | ('-', false) :: (d, q) :: after =>
          if d == ']' && !q then (choice? fuel false rest).map fun (more, after) => ((c, c) :: more, after)
          else (choice? fuel false after).map fun (more, after) => ((c, d) :: more, after)
        | _ => (choice? fuel false rest).map fun (more, after) => ((c, c) :: more, after)

/-- The characters of a field where a backslash that is not quoted makes the next character stand for itself. At
the end it stands for itself. -/
def unescaped : Marked → Marked
  | ('\\', false) :: (c, _) :: rest => (c, true) :: unescaped rest
  | (c, quoted) :: rest => (c, quoted) :: unescaped rest
  | [] => []

def pattern : Nat → Marked → Glob.Pattern
  | 0, _ => []
  | _ + 1, [] => []
  | fuel + 1, (c, quoted) :: rest =>
    if quoted then .char c :: pattern fuel rest
    else if c == '*' then .anySequence :: pattern fuel rest
    else if c == '?' then .anyChar :: pattern fuel rest
    else if c == '[' then
      let (negated, body) :=
        match rest with
        | ('!', false) :: body => (true, body)
        | body => (false, body)
      match choice? (body.length + 1) true body with
      | some (ranges, after) =>
        (if negated then .except ranges else .within ranges) :: pattern fuel after
      | none => .char c :: pattern fuel rest
    else .char c :: pattern fuel rest

def patternOf (field : Marked) : Glob.Pattern :=
  pattern (field.length + 1) (unescaped field)

/-- Whether a field has characters that may stand for others. -/
def isPattern (field : Marked) : Bool :=
  field.any fun (c, quoted) => !quoted && (c == '*' || c == '?' || c == '[')

def plain (field : Marked) : Chars :=
  field.map Prod.fst

def separators (session : Session) : Chars :=
  (session.valueOf? "IFS").getD [' ', '\t', '\n']

/-- What stands between arguments that stay apart in one text. No other text has it. -/
def boundary : Char := '\x00'

/-- The part of a text before a boundary. A pattern is compared with such a part only. -/
def beforeBoundary (text : Chars) : Chars :=
  text.takeWhile (· ≠ boundary)

/-- The shortest or longest start of a text that a pattern stands for, cut off. The shortest one is looked for
before the first boundary. -/
def cutStart (longest : Bool) (pattern : Glob.Pattern) (value : Chars) : Chars :=
  let sizes :=
    if longest then (List.range (value.length + 1)).reverse else List.range ((beforeBoundary value).length + 1)
  match sizes.find? fun n => pattern.matchesFrom (beforeBoundary (value.take n)) with
  | some n => value.drop n
  | none => value

/-- The shortest or longest end of a text that a pattern stands for, cut off. The longest one begins before the
first boundary. -/
def cutEnd (longest : Bool) (pattern : Glob.Pattern) (value : Chars) : Chars :=
  let sizes :=
    if longest then List.range ((beforeBoundary value).length + 1) else (List.range (value.length + 1)).reverse
  match sizes.find? fun n => pattern.matchesFrom (beforeBoundary (value.drop n)) with
  | some n => value.take n
  | none => value

def withoutFinalNewlines (value : Chars) : Chars :=
  (value.reverse.dropWhile (· == '\n')).reverse

/-- What becomes of a word: whether fields are made of it, and whether tildes count after colons as well. -/
structure Purpose where
  splits : Bool
  colons : Bool

/-- Where a word gives a text. -/
def whole : Purpose := ⟨false, false⟩

def arithmetic (text : Chars) : Activity Chars := do
  let session ← get
  match Arithmetic.evaluate (fun name => (session.valueOf? name).getD []) text with
  | .ok (value, assigned) =>
    assigned.forM fun (name, value) => Activity.assign name (Chars.ofInt value)
    return Chars.ofInt value
  | .error problem => Activity.fail (problem.message text)

def failUnset {α : Type} (name : String) (reason : Chars) : Activity α :=
  Activity.fail (Chars.ofString name ++ ": ".toList ++ reason)

/-- Whether a parameter stands for the arguments together. -/
def isArguments (name : String) : Bool :=
  name = "@" || name = "*"

/-- The arguments as one text. Where fields are made, they may stay apart. -/
def joined (session : Session) (purpose : Purpose) (name : String) (quoted : Bool) : Chars :=
  let first := (separators session).take 1
  let staysApart := purpose.splits && if quoted then name == "@" else (session.valueOf? "IFS").isSome
  (if staysApart then [boundary] else first).intercalate session.arguments

/-- The text of a parameter, which must be set if that is demanded. -/
def demanded (purpose : Purpose) (name : String) (quoted : Bool) : Activity Chars := do
  let session ← get
  if isArguments name then return joined session purpose name quoted
  match session.parameter? name with
  | some value => return value
  | none => if session.has .nounset then failUnset name "parameter not set".toList else return []

/-- The part of a word that a text makes in which arguments may stay apart. -/
def segment (quoted : Bool) (text : Chars) : Segment :=
  if text.contains boundary then Segment.ofArguments quoted (text.splitOn boundary)
  else Segment.ofValue quoted text

/-- The part of a word that a parameter makes. -/
def value (purpose : Purpose) (name : String) (quoted : Bool) : Activity Segment := do
  let session ← get
  if isArguments name && purpose.splits && (!quoted || name = "@") then
    return Segment.ofArguments quoted session.arguments
  else return Segment.ofValue quoted (← demanded purpose name quoted)

/-- The value of a parameter if it is set. The arguments always are. -/
def present? (purpose : Purpose) (name : String) (quoted : Bool) : Activity (Option Chars) := do
  let session ← get
  return if isArguments name then some (joined session purpose name quoted) else session.parameter? name

/-- Whether a parameter counts as set. -/
def counts (evenEmpty : Bool) (value : Option Chars) : Bool :=
  value.any fun cs => !(evenEmpty && cs.isEmpty)

def users : List (String × String) := [
  ("root", "/root"), ("daemon", "/usr/sbin"), ("bin", "/bin"), ("sys", "/dev"), ("sync", "/bin"),
  ("nobody", "/nonexistent")]

/-- The directory that a tilde and a name stand for. -/
def home? (session : Session) (name : Chars) : Option Chars :=
  if name.isEmpty then session.valueOf? "HOME"
  else (users.lookup (String.ofList name)).map String.toList

/-- Splits an unquoted text where directories stand in the place of tildes: at its beginning if that counts, and
after colons if those count. A name must be ended by a slash, a colon that counts or the end of the word. Each
part tells whether it is quoted. -/
def withHomes (session : Session) (colons isLast : Bool) : Nat → Bool → Chars → List (Chars × Bool)
  | 0, _, cs => [(cs, false)]
  | fuel + 1, counts, cs =>
    match counts, cs with
    | true, '~' :: rest =>
      let name := rest.takeWhile fun c => c ≠ '/' && !(colons && c == ':')
      let after := rest.drop name.length
      match if after.isEmpty && !isLast then none else home? session name with
      | some home => (home, true) :: withHomes session colons isLast fuel false after
      | none => (['~'], false) :: withHomes session colons isLast fuel false rest
    | _, cs =>
      if !colons then [(cs, false)]
      else
        let before := cs.takeWhile (· ≠ ':')
        match cs.drop before.length with
        | [] => [(before, false)]
        | _ :: rest => (before ++ [':'], false) :: withHomes session colons isLast fuel true rest

/-- The parts that an unquoted text makes. Inside of the braces of a parameter its characters separate
fields. -/
def literal (session : Session) (purpose : Purpose) (inner isLast start : Bool) (cs : Chars) : List Segment :=
  (withHomes session purpose.colons isLast (2 * cs.length + 2) start cs).map fun (part, quoted) =>
    ⟨if inner && !quoted then .separators else .never, part.map fun c => .char c quoted⟩

mutual

/-- Replaces a piece by the parts that it makes, given how a command's output is taken. -/
def piece (capture : Command → Activity Chars) (purpose : Purpose) : Piece → Activity (List Segment)
  | .chars cs quoted => return [⟨.never, cs.map fun c => .char c quoted⟩]
  | .quotes => return [⟨.never, [.quotes]⟩]
  | .output command quoted => do
    let text ← capture command
    return [Segment.ofValue quoted (withoutFinalNewlines text)]
  | .arithmetic expression quoted => do
    let text := Segment.text (← pieces capture whole false false expression)
    return [Segment.ofValue quoted (← arithmetic text)]
  | .parameter name use word quoted => do
    match use with
    | .malformed => Activity.fail "Bad substitution".toList
    | .value => return (← value purpose name quoted) :: (← pieces capture purpose true true word)
    | .size => return [Segment.ofValue quoted (Chars.ofNat (← demanded whole name quoted).length)]
    | .fallback evenEmpty =>
      if counts evenEmpty (← present? purpose name quoted) then return [← value purpose name quoted]
      else pieces capture purpose true true word
    | .replace evenEmpty =>
      if counts evenEmpty (← present? purpose name quoted) then pieces capture purpose true true word
      else return []
    | .assign evenEmpty =>
      if counts evenEmpty (← present? purpose name quoted) then return [← value purpose name quoted]
      else
        let text := Segment.text (← pieces capture whole false true word)
        if !Chars.isName name.toList then failUnset name "bad variable name".toList
        Activity.assign name text
        return [← value purpose name quoted]
    | .demand evenEmpty =>
      if counts evenEmpty (← present? purpose name quoted) then return [← value purpose name quoted]
      else if word.isEmpty then
        failUnset name (if evenEmpty then "parameter not set or null" else "parameter not set").toList
      else failUnset name (Segment.text (← pieces capture whole false true word))
    | .cutStart longest =>
      let text ← demanded purpose name quoted
      let pattern := patternOf (Segment.marked (← pieces capture whole false true word))
      return [segment quoted (cutStart longest pattern text)]
    | .cutEnd longest =>
      let text ← demanded purpose name quoted
      let pattern := patternOf (Segment.marked (← pieces capture whole false true word))
      return [segment quoted (cutEnd longest pattern text)]

/-- Replaces the pieces of a word by the parts that they make. The word may be that of a parameter in braces,
and a tilde may count at its beginning. -/
def pieces (capture : Command → Activity Chars) (purpose : Purpose) (inner : Bool) :
    Bool → List Piece → Activity (List Segment)
  | _, [] => return []
  | start, .chars cs false :: rest => do
    let segments := literal (← get) purpose inner rest.isEmpty start cs
    return segments ++ (← pieces capture purpose inner (purpose.colons && cs.getLast? = some ':') rest)
  | _, first :: rest => do
    let segments ← piece capture purpose first
    return segments ++ (← pieces capture purpose inner false rest)

end

/-- The paths that a pattern stands for, step by step, after a beginning that is fixed. -/
def pathsFrom (files : Files.Tree) (here : Files.Place) : List Marked → Chars → List Chars
  | [], _ => []
  | step :: rest, base =>
    if !isPattern step then
      let path := base ++ plain step
      if rest.isEmpty then
        let shown := if (plain step).isEmpty then path ++ ['.'] else path
        if files.exists_ here (Chars.toString shown) then [path] else []
      else pathsFrom files here rest (path ++ ['/'])
    else
      let pattern := patternOf step
      let directory := if base.isEmpty then "." else Chars.toString base
      let hidden := if step.head? = some ('.', false) then ["..", "."] else []
      let names := (hidden ++ (files.list here directory).toOption.getD []).map Chars.ofString
      let names := names.filter fun name =>
        pattern.matchesFrom name && (name.head? ≠ some '.' || step.head?.any (·.1 == '.'))
      names.flatMap fun name =>
        let path := base ++ name
        if rest.isEmpty then [path]
        else if files.isDirectoryAt here (Chars.toString path) then pathsFrom files here rest (path ++ ['/'])
        else []

def steps (field : Marked) : List Marked :=
  field.splitOnP fun (c, _) => c == '/'

/-- The texts that a field stands for: the paths that it matches, or else itself. -/
def paths (session : Session) (field : Marked) : List Chars :=
  if session.has .noglob || !isPattern (unescaped field) then [plain field]
  else
    match pathsFrom session.files session.here (steps (unescaped field)) [] with
    | [] => [plain field]
    | found => found.mergeSort fun a b => String.ofList a ≤ String.ofList b

def fieldsOfWord (capture : Command → Activity Chars) (word : Word) : Activity (List Chars) := do
  let segments ← pieces capture ⟨true, false⟩ false true word
  let session ← get
  return (Fields.ofSegments (separators session) none segments).flatMap (paths session)

def fields (capture : Command → Activity Chars) (words : List Word) : Activity (List Chars) := do
  return (← words.mapM (fieldsOfWord capture)).flatten

def text (capture : Command → Activity Chars) (word : Word) : Activity Chars := do
  return Segment.text (← pieces capture whole false true word)

/-- The text that a variable is given. Tildes count after colons as well. -/
def assigned (capture : Command → Activity Chars) (word : Word) : Activity Chars := do
  return Segment.text (← pieces capture ⟨false, true⟩ false true word)

/-- The text of a word in which all is quoted. -/
def document (capture : Command → Activity Chars) (word : Word) : Activity Chars := do
  return Segment.text (← pieces capture whole false false word)

def patternOfWord (capture : Command → Activity Chars) (word : Word) : Activity Glob.Pattern := do
  return patternOf (Segment.marked (← pieces capture whole false true word))

end Expansion

end Relink.Shell
