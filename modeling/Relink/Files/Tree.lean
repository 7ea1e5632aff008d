import Relink.SystemError
import Relink.Text.Utf8

/-! Trees of files with links, and how paths are followed in them. `resolve` is the one walk that all else
goes through. -/

namespace Relink.Files

/-- What a name in a directory leads to. A program is one that the machine knows by name. -/
inductive Entry where
  | file (content : Text.Octets) (executable : Bool)
  | directory
  | link (target : String)
  | sink
  | program (name : String)
  deriving DecidableEq

namespace Entry

def isDirectory : Entry → Bool
  | directory => true
  | _ => false

def isExecutable : Entry → Bool
  | file _ executable => executable
  | program _ => true
  | _ => false

end Entry

/-- A place in a tree: the names from the root on. -/
abbrev Place := List String

/-- A tree of files: its entries by their places. The root is a directory. -/
structure Tree where
  entries : List (Place × Entry)
  deriving DecidableEq

namespace Tree

/-- The tree that has only its root. -/
def empty : Tree := ⟨[]⟩

def at? (tree : Tree) (place : Place) : Option Entry :=
  if place.isEmpty then some .directory else tree.entries.lookup place

/-- Puts an entry at a place, instead of the one there. -/
def put (tree : Tree) (place : Place) (entry : Entry) : Tree :=
  if tree.entries.any (·.1 == place) then
    ⟨tree.entries.map fun old => if old.1 == place then (place, entry) else old⟩
  else ⟨tree.entries ++ [(place, entry)]⟩

/-- Takes away what is at a place and below it. -/
def remove (tree : Tree) (place : Place) : Tree :=
  ⟨tree.entries.filter fun old => !place.isPrefixOf old.1⟩

def names (tree : Tree) (place : Place) : List String :=
  (tree.entries.filterMap fun old =>
    if old.1.dropLast == place then old.1.getLast? else none).mergeSort (· ≤ ·)

/-- Moves what is at a place and below it to another place, of which nothing stays. -/
def move (tree : Tree) (source target : Place) : Tree :=
  let kept := (tree.remove target).entries
  ⟨kept.map fun old =>
    if source.isPrefixOf old.1 then (target ++ old.1.drop source.length, old.2) else old⟩

def notDirectory : SystemError := .numbered 20

/-- Number of the error that a directory stands where none may. -/
def isDirectory : SystemError := .numbered 21

def nameTooLong : SystemError := .numbered 36

def tooManyLinks : SystemError := .numbered 40

def greatestLinkCount : Nat := 40

def greatestNameSize : Nat := 255

/-- How many octets a path must stay below. -/
def pathSizeLimit : Nat := 4096

/-- Where a path leads: an entry at a place, or a free place in a directory. -/
inductive Target where
  | found (place : Place) (entry : Entry)
  | free (place : Place)

/-- The steps of a path between its slashes. One that ends in a slash ends in a step that stays in place. -/
def stepsOf (path : String) : List String :=
  match (path.toList.splitOn '/').map String.ofList with
  | [] => []
  | pieces =>
    let steps := pieces.filter (!·.isEmpty)
    if pieces.getLast? = some "" then steps ++ ["."] else steps

/-- Follows steps from a directory. Of a link at the end only what it leads to is meant, unless
`followLast` is false. -/
def walk (tree : Tree) (followLast : Bool) (links : Nat) (here : Place) :
    List String → Except SystemError Target
  | [] => .ok (.found here .directory)
  | step :: rest =>
    if step = "." then walk tree followLast links here rest
    else if step = ".." then walk tree followLast links here.dropLast rest
    else if greatestNameSize < step.utf8ByteSize then .error nameTooLong
    else
      let place := here ++ [step]
      match tree.at? place with
      | none => if rest.isEmpty then .ok (.free place) else .error .notFound
      | some .directory => walk tree followLast links place rest
      | some (.link target) =>
        if rest.isEmpty && !followLast then .ok (.found place (.link target))
        else
          match links with
          | 0 => .error tooManyLinks
          | links + 1 =>
            let start := if target.toList.head? = some '/' then [] else here
            walk tree followLast links start (stepsOf target ++ rest)
      | some entry => if rest.isEmpty then .ok (.found place entry) else .error notDirectory
  termination_by steps => (links, steps.length)

/-- Where a path leads from a directory. -/
def resolve (tree : Tree) (followLast : Bool) (here : Place) (path : String) :
    Except SystemError Target :=
  if '\x00' ∈ path.toList then .error (.described "file name contained an unexpected NUL byte")
  else if path.isEmpty then .error .notFound
  else if pathSizeLimit ≤ path.utf8ByteSize then .error nameTooLong
  else
    let start := if path.toList.head? = some '/' then [] else here
    tree.walk followLast greatestLinkCount start (stepsOf path)

/-- The entry that a path leads to, with its place. -/
def find (tree : Tree) (here : Place) (path : String) : Except SystemError (Place × Entry) :=
  match tree.resolve true here path with
  | .ok (.found place entry) => .ok (place, entry)
  | .ok (.free _) => .error .notFound
  | .error cause => .error cause

/-- Whether a path leads to an entry, which may be a link to nothing. -/
def exists_ (tree : Tree) (here : Place) (path : String) : Bool :=
  match tree.resolve false here path with
  | .ok (.found ..) => true
  | _ => false

def isDirectoryAt (tree : Tree) (here : Place) (path : String) : Bool :=
  match tree.find here path with
  | .ok (_, .directory) => true
  | _ => false

/-- The content of the file that a path leads to. A known program has none to show. -/
def read (tree : Tree) (here : Place) (path : String) : Except SystemError Text.Octets :=
  match tree.find here path with
  | .ok (_, .file content _) => .ok content
  | .ok (_, .directory) => .error isDirectory
  | .ok _ => .ok []
  | .error cause => .error cause

def readText (tree : Tree) (here : Place) (path : String) : Except SystemError String :=
  match tree.read here path with
  | .ok content =>
    match Text.Utf8.decode? content with
    | some text => .ok text
    | none => .error (.described "stream did not contain valid UTF-8")
  | .error cause => .error cause

/-- The names in the directory that a path leads to, in order. -/
def list (tree : Tree) (here : Place) (path : String) : Except SystemError (List String) :=
  match tree.find here path with
  | .ok (place, .directory) => .ok (tree.names place)
  | .ok _ => .error notDirectory
  | .error cause => .error cause

/-- Makes a directory where a path leads, if nothing is there. -/
def makeDirectory (tree : Tree) (here : Place) (path : String) : Tree :=
  match tree.resolve true here path with
  | .ok (.free place) => tree.put place .directory
  | _ => tree

/-- Makes the directories on the way of some steps that lack, from one after `before` on. -/
def makeWay (tree : Tree) (here : Place) (before : String) : List String → Tree
  | [] => tree
  | step :: rest =>
    let path := if before.isEmpty then step else before ++ "/" ++ step
    makeWay (tree.makeDirectory here path) here path rest

/-- Puts an entry where a path leads, with the directories on the way. A directory that is there stays, and
a link takes the place of what is there. -/
def plant (tree : Tree) (here : Place) (path : String) (entry : Entry) : Tree :=
  let tree := tree.makeWay here "" ((stepsOf path).filter (· ≠ ".")).dropLast
  let isLink :=
    match entry with
    | .link _ => true
    | _ => false
  match tree.resolve (!isLink) here path with
  | .ok (.free place) => tree.put place entry
  | .ok (.found place old) =>
    if old.isDirectory && entry.isDirectory then tree else tree.put place entry
  | .error _ => tree

end Tree

end Relink.Files
