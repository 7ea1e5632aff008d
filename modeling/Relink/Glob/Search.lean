import Relink.Files.Path
import Relink.Files.Tree
import Relink.Glob.Pattern

namespace Relink.Glob

/-- A path to be looked at: whether it leads to a directory, and the patterns of the names that its own and
those below it must match; none are left for a path that is already known to match. -/
structure Visit where
  path : String
  isDirectory : Bool
  patterns : List Pattern

/-- Where a search begins, and what it must find. -/
structure Query where
  scope : String
  patterns : List Pattern
  onlyDirectories : Bool

namespace Query

/-- The texts between the slashes of a pattern; a slash at the end does not begin another one. -/
def pieces (cs : List Char) : List String :=
  let all := (cs.splitOn '/').map String.ofList
  if all.getLast? = some "" then all.dropLast else all

/-- Reads a pattern of paths. Each of its steps must be a pattern too. -/
def parse (text : String) : Except Fault Query := do
  let _ ← Pattern.parse text
  let cs := text.toList
  let absolute := cs.head? = some '/'
  let steps := pieces (if absolute then cs.drop 1 else cs)
  let patterns ← steps.mapM Pattern.parse
  return {
    scope := if absolute then "/" else "."
    patterns := if cs.isEmpty || cs == ['/'] then [[]] else patterns
    onlyDirectories := cs.getLast? = some '/' }

end Query

variable (files : Files.Tree) (here : Files.Place)

def staysHere (path : String) : Bool :=
  !path.isEmpty && !Files.Path.isAbsolute path && (Files.Path.steps path).all (· == ".")

def below (path entry : String) : String :=
  if staysHere path then entry else Files.Path.join path entry

/-- The visits that follow from a path whose entries must match patterns, the first to be made first. A step
without wildcards is followed at once. The directory itself and the one around it are entries only for a
pattern that begins with a dot. -/
def follow : List Pattern → String → Bool → List Visit
  | [], _, _ => []
  | pattern :: more, path, isDirectory =>
    let enter (next : String) : List Visit :=
      let nextIsDirectory := files.isDirectoryAt here next
      if more.isEmpty then [⟨next, nextIsDirectory, []⟩] else follow more next nextIsDirectory
    match pattern.literal? with
    | some cs =>
      let name := String.ofList cs
      let next := below path name
      let isThere :=
        if name == "." || name == ".." then isDirectory else files.exists_ here next
      if isThere then enter next else []
    | none =>
      if isDirectory then
        let special (name : String) : List Visit :=
          if pattern.head? = some (.char '.') ∧ pattern.covers name then enter (Files.Path.join path name)
          else []
        let names := (files.list here path).toOption.getD []
        special ".." ++ special "." ++ names.map fun name =>
          let next := below path name
          ⟨next, files.isDirectoryAt here next, pattern :: more⟩
      else []

/-- Matches the name of a visited path with a pattern: the path if it matches and nothing more is asked, and
else the visits that follow. -/
def meet (onlyDirectories : Bool) (visit : Visit) (pattern : Pattern) (more : List Pattern) :
    List String × List Visit :=
  if (Files.Path.fileName? visit.path).any pattern.covers then
    if more.isEmpty then
      (if !onlyDirectories || visit.isDirectory then [visit.path] else [], [])
    else ([], follow files here more visit.path visit.isDirectory)
  else ([], [])

/-- Makes one visit: the paths found by it and the visits that follow. The wildcard for directories stands for
the directory visited and for all below it. -/
def make (onlyDirectories : Bool) (visit : Visit) : List String × List Visit :=
  match visit.patterns with
  | [] => (if !onlyDirectories || visit.isDirectory then [visit.path] else [], [])
  | pattern :: more =>
    if pattern.isRecursive then
      let later := more.dropWhile Pattern.isRecursive
      let inside :=
        if visit.isDirectory then follow files here (pattern :: later) visit.path true else []
      match later with
      | [] => (if visit.isDirectory then [visit.path] else [], inside)
      | next :: further =>
        let (found, following) := meet files here onlyDirectories visit next further
        (found, following ++ inside)
    else meet files here onlyDirectories visit pattern more

/-- Makes visits one after the other and gathers the paths that match, in the order found. -/
def search (onlyDirectories : Bool) : Nat → List Visit → List String
  | 0, _ => []
  | _ + 1, [] => []
  | fuel + 1, visit :: todo =>
    let (found, following) := make files here onlyDirectories visit
    found ++ search onlyDirectories fuel (following ++ todo)

/-- The paths in a tree of files that match a pattern. The fuel exceeds the number of paths that lead through
as many links as may be followed. -/
def paths (text : String) : Except Fault (List String) := do
  let query ← Query.parse text
  let fuel := Nat.pow (files.entries.length + 3) (Files.Tree.greatestLinkCount + 4)
  let isDirectory := files.isDirectoryAt here query.scope
  return search files here query.onlyDirectories fuel (follow files here query.patterns query.scope isDirectory)

end Relink.Glob
